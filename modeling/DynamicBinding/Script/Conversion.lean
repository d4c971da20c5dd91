import DynamicBinding.Binary64.Literal
import DynamicBinding.Binary64.Notation
import DynamicBinding.Script.Sequence
import DynamicBinding.Text.Blank
/-!
# Conversions

Implicit conversions only widen: a bool to an int, an int or a bool to a float.  Conversions
that cut, read or rebuild need the explicit flag.
-/

namespace DynamicBinding

namespace Script

/-- The ways to convert one value. -/
inductive Conversion where
  | unchanged
  /-- The truth of the value. -/
  | truth
  /-- The whole number of an int or a bool. -/
  | integer
  /-- The whole number toward zero from a float. -/
  | truncate
  /-- The whole number that a text denotes. -/
  | parseInt
  | widen
  /-- The float that a text denotes. -/
  | parseFloat
  | toList
  | toTuple
deriving DecidableEq, Inhabited

/-- The conversion to a target from a kind, if there is one. -/
def Conversion.select? (target : Target) (kind : Kind) (explicit : Bool) : Option Conversion :=
  let ifExplicit (c : Conversion) : Option Conversion := if explicit then some c else none
  match target, kind with
  | .bool, .object => ifExplicit .truth
  | .bool, _ => some .truth
  | .int, .int | .int, .bool => some .integer
  | .int, .float => ifExplicit .truncate
  | .int, .str => ifExplicit .parseInt
  | .float, .float | .float, .int | .float, .bool => some .widen
  | .float, .str => ifExplicit .parseFloat
  | .str, .str | .list, .list | .tuple, .tuple => some .unchanged
  | .list, .tuple | .list, .str => ifExplicit .toList
  | .tuple, .list | .tuple, .str => ifExplicit .toTuple
  | _, _ => none

/-- The whole number that a literal denotes: an optional sign and at least one digit, in the
range of words. -/
def parseWord? (cs : List Char) : Option Int64 :=
  let (negative, digits) := Binary64.splitSign cs
  if digits.isEmpty || !digits.all Char.isDigit then none
  else
    let n : Int := Binary64.digitsValue digits
    word? (if negative then -n else n)

/-- The whole number of an int or a bool as a value. -/
def integerOf (v : Value) : Except RuntimeError Value :=
  match v.asInt? with
  | some i => .ok (.int i)
  | none => .error (.mismatch "int" v)

/-- The whole number toward zero from a float. -/
def integerOfFloat (x : Binary64) : Except RuntimeError Value :=
  if !x.isFinite then .error (.invalidValue ("cannot convert " ++ x.plainText ++ " to int"))
  else
    match word? x.truncate with
    | some i => .ok (.int i)
    | none => .error (.invalidValue (x.plainText ++ " is out of int range"))

/-- Runs a conversion. -/
def Conversion.run (c : Conversion) (v : Value) : Effect Value := do
  match c with
  | .unchanged => pure v
  | .truth => pure (.bool ((← get).isTruthy v))
  | .integer => lift (integerOf v)
  | .truncate =>
    match v with
    | .float x => lift (integerOfFloat x)
    | v => lift (integerOf v)
  | .parseInt =>
    match v with
    | .str text =>
      match parseWord? (Text.trim text.chars.toList) with
      | some i => pure (.int i)
      | none => Effect.fail (.invalidValue ("invalid literal for int: '" ++ text.chars ++ "'"))
    | v => Effect.fail (.mismatch "str" v)
  | .widen =>
    match v.asFloat? with
    | some x => pure (.float x)
    | none => Effect.fail (.mismatch "float" v)
  | .parseFloat =>
    match v with
    | .str text =>
      match Binary64.parse? (Text.trim text.chars.toList) with
      | some x => pure (.float x)
      | none => Effect.fail (.invalidValue ("invalid literal for float: '" ++ text.chars ++ "'"))
    | v => Effect.fail (.mismatch "str" v)
  | .toList => do Effect.list (← itemsOf v)
  | .toTuple => do Effect.tuple (← itemsOf v)

end Script

/-- Fits a value to a shape.  A bool widens to an int, an int or a bool to a float; any other
value must have the kind of the shape. -/
def Shape.coerce (shape : Shape) (v : Value) : Except RuntimeError Value :=
  match shape, v with
  | .any, v => .ok v
  | .void, _ => .ok .nothing
  | .kind .int, .bool b => .ok (.int (if b then 1 else 0))
  | .kind .float, .int i => .ok (.float (.ofInt i.toInt))
  | .kind .float, .bool b => .ok (.float (.ofInt (if b then 1 else 0)))
  | .kind k, v => if v.kind = k then .ok v else .error (.mismatch k.name v)

end DynamicBinding
