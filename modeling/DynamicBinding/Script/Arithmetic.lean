import DynamicBinding.Binary64.Arithmetic
import DynamicBinding.Error
/-!
# Arithmetic, bits and order

The operators of the script language on numbers and the order of texts.  Whole numbers are words of
sixty-four bits.  An operator computes on words, and checks where a word could not hold what it
computes; the check is an overflow of the operator.

* `word?` is the check.  `times?`, `quotient?` and `power?` are what is computed under a check of its
  own.
* `floorQuotient?` and `floorRemainder` correct the quotient and the remainder of division toward
  zero, each by a test of signs.
* `wideShift` shifts in twice the number of bits, so that the check comes after the shift.
-/

namespace DynamicBinding.Script

/-! ## Words -/

/-- The word that holds a whole number, if it is in range. -/
def word? (n : Int) : Option Int64 :=
  if Int64.minValue.toInt ≤ n ∧ n ≤ Int64.maxValue.toInt then some (Int64.ofInt n) else none

/-- The product of two words. -/
def times? (a b : Int64) : Option Int64 := word? (a.toInt * b.toInt)

/-- The factor, with the base taken into it if the exponent is odd. -/
def timesIfOdd? (factor base : Int64) (exponent : Nat) : Option Int64 :=
  if exponent % 2 = 1 then times? factor base else some factor

/-- A factor times a power of a base, with an exponent of at least one.  Each round takes the last
bit of the exponent into the factor and squares the base.  The last round does without the square,
which could be too large though the power is not. -/
def timesPower? (factor base : Int64) (exponent : Nat) : Option Int64 :=
  if exponent ≤ 1 then times? factor base
  else do
    timesPower? (← timesIfOdd? factor base exponent) (← times? base base) (exponent / 2)

/-- A power of a word. -/
def power? (base : Int64) (exponent : Nat) : Option Int64 :=
  if exponent = 0 then some 1 else timesPower? 1 base exponent

/-- The quotient toward zero of two words. -/
def quotient? (a b : Int64) : Option Int64 :=
  if b = 0 ∨ (a = Int64.minValue ∧ b = -1) then none else some (a / b)

/-- Whether the quotient toward zero lies above the exact one. -/
def roundsUp (a b : Int64) : Bool :=
  a % b != 0 && decide (a < 0) != decide (b < 0)

/-- The quotient toward the floor of two words. -/
def floorQuotient? (a b : Int64) : Option Int64 :=
  (quotient? a b).map fun q => if roundsUp a b then q - 1 else q

/-- Whether a remainder and its divisor differ in sign. -/
def differsInSign (r b : Int64) : Bool :=
  r != 0 && decide (r < 0) != decide (b < 0)

/-- The remainder that has the sign of the divisor. -/
def floorRemainder (a b : Int64) : Int64 :=
  let r := a % b
  if differsInSign r b then r + b else r

/-- A word shifted to the left by less than its width, in twice as many bits. -/
def wideShift (a b : Int64) : BitVec 128 :=
  a.toBitVec.signExtend 128 <<< b.toInt.toNat

/-! ## Results -/

/-- A word as a result, or the overflow of the operator where there is none. -/
def checked (operator : Operator) : Option Int64 → Except RuntimeError Value
  | some i => .ok (.int i)
  | none => .error (.overflow operator)

/-- The exact result of an operator, or its overflow. -/
def exactly (operator : Operator) (n : Int) : Except RuntimeError Value :=
  checked operator (word? n)

/-- The complaint about operands that an operator does not take. -/
def wrongOperands (operator : Operator) (a b : Value) : RuntimeError :=
  .typeMismatch ("operands supported by '" ++ operator.symbol ++ "'")
    (a.typeName ++ ", " ++ b.typeName)

/-- The complaint about an operator that is no arithmetic one. -/
def notArithmetic (operator : Operator) : RuntimeError :=
  .invalidValue ("'" ++ operator.symbol ++ "' is not an arithmetic operator")

/-! ## Whole numbers -/

/-- The power with an exponent that is not negative.  Exponents have half the bits of a word: larger
ones overflow, whatever the base. -/
def intPower (a b : Int64) : Except RuntimeError Value :=
  if 0x100000000 ≤ b then .error (.overflow .power) else checked .power (power? a b.toInt.toNat)

/-- The arithmetic operators on whole numbers. -/
def intArithmetic (operator : Operator) (a b : Int64) : Except RuntimeError Value :=
  match operator with
  | .add => exactly operator (a.toInt + b.toInt)
  | .subtract => exactly operator (a.toInt - b.toInt)
  | .multiply => exactly operator (a.toInt * b.toInt)
  | .divide | .floorDivide =>
    if b = 0 then .error .divisionByZero else checked operator (floorQuotient? a b)
  | .trueDivide =>
    if b = 0 then .error .divisionByZero
    else .ok (.float (Binary64.div (.ofInt a.toInt) (.ofInt b.toInt)))
  | .modulo => if b = 0 then .error .divisionByZero else .ok (.int (floorRemainder a b))
  | .power =>
    if b < 0 then
      if a = 0 then .error .divisionByZero
      else .ok (.float (Binary64.pow (.ofInt a.toInt) (.ofInt b.toInt)))
    else intPower a b
  | _ => .error (notArithmetic operator)

/-! ## Floats -/

/-- The arithmetic operators on floats.  A zero divisor is an error, and so is a negative power
of zero. -/
def floatArithmetic (operator : Operator) (a b : Binary64) : Except RuntimeError Binary64 :=
  match operator with
  | .add => .ok (Binary64.add a b)
  | .subtract => .ok (Binary64.sub a b)
  | .multiply => .ok (Binary64.mul a b)
  | .divide | .trueDivide => if b.isZero then .error .divisionByZero else .ok (Binary64.div a b)
  | .floorDivide =>
    if b.isZero then .error .divisionByZero else .ok (Binary64.floor (Binary64.div a b))
  | .modulo => if b.isZero then .error .divisionByZero else .ok (Binary64.floorRemainder a b)
  | .power =>
    if a.isZero && b.isBelowZero then .error .divisionByZero else .ok (Binary64.pow a b)
  | _ => .error (notArithmetic operator)

/-- Whether one of two values is a float. -/
def eitherFloat : Value → Value → Bool
  | .float _, _ | _, .float _ => true
  | _, _ => false

/-- The arithmetic operators on values: in floats if one operand is a float, else in whole
numbers. -/
def arithmetic (operator : Operator) (a b : Value) : Except RuntimeError Value :=
  if eitherFloat a b then
    match a.asFloat?, b.asFloat? with
    | some x, some y => (floatArithmetic operator x y).map .float
    | _, _ => .error (wrongOperands operator a b)
  else
    match a.asInt?, b.asInt? with
    | some i, some j => intArithmetic operator i j
    | _, _ => .error (wrongOperands operator a b)

/-! ## Bits -/

/-- The logical reading of a bit operator on truth values. -/
def logical? (operator : Operator) (a b : Bool) : Option Bool :=
  match operator with
  | .bitwiseAnd => some (a && b)
  | .bitwiseOr => some (a || b)
  | .bitwiseXor => some (a != b)
  | _ => none

/-- The bit operators on words. -/
def wordBits (operator : Operator) (a b : Int64) : Option (Except RuntimeError Value) :=
  match operator with
  | .bitwiseAnd => some (.ok (.int (a &&& b)))
  | .bitwiseOr => some (.ok (.int (a ||| b)))
  | .bitwiseXor => some (.ok (.int (a ^^^ b)))
  | .leftShift =>
    some <|
      if b < 0 then .error (.invalidValue "negative shift count")
      else if a = 0 then .ok (.int 0)
      else if 64 ≤ b then .error (.overflow operator)
      else exactly operator (wideShift a b).toInt
  | .rightShift =>
    some <|
      if b < 0 then .error (.invalidValue "negative shift count")
      else .ok (.int (a >>> min b 63))
  | _ => none

/-- The bit operators on values.  Two truth values give a truth value, except for shifts. -/
def bitwise (operator : Operator) (a b : Value) : Except RuntimeError Value :=
  let onWords : Except RuntimeError Value :=
    match a.asInt?, b.asInt? with
    | some i, some j => (wordBits operator i j).getD (.error (wrongOperands operator a b))
    | _, _ => .error (wrongOperands operator a b)
  match a, b with
  | .bool p, .bool q =>
    match logical? operator p q with
    | some r => .ok (.bool r)
    | none => onWords
  | _, _ => onWords

/-! ## Order -/

/-- Whether an order relation holds between values that compare as given. -/
def holds? (operator : Operator) (order : Ordering) : Option Bool :=
  match operator with
  | .lessThan => some (order == .lt)
  | .lessThanOrEqual => some (order != .gt)
  | .greaterThan => some (order == .gt)
  | .greaterThanOrEqual => some (order != .lt)
  | _ => none

/-- The order of two values that have one, with nothing inside if a NaN is among them. -/
def order? (a b : Value) : Option (Option Ordering) :=
  match a, b with
  | .str s, .str t => some (some (compare s.chars t.chars))
  | _, _ =>
    if eitherFloat a b then
      match a.asFloat?, b.asFloat? with
      | some x, some y => some (x.compare? y)
      | _, _ => none
    else
      match a.asInt?, b.asInt? with
      | some i, some j => some (some (compare i.toInt j.toInt))
      | _, _ => none

/-- The order relations.  None holds of a NaN. -/
def compareValues (operator : Operator) (a b : Value) : Except RuntimeError Value :=
  match order? a b with
  | none => .error (wrongOperands operator a b)
  | some none => .ok (.bool false)
  | some (some order) =>
    match holds? operator order with
    | some r => .ok (.bool r)
    | none => .error (wrongOperands operator a b)

/-! ## One operand -/

/-- The value itself as a number. -/
def positive : Value → Except RuntimeError Value
  | .float x => .ok (.float x)
  | v =>
    match v.asInt? with
    | some i => .ok (.int i)
    | none => .error (.mismatch "number" v)

/-- The negative. -/
def negative : Value → Except RuntimeError Value
  | .float x => .ok (.float x.negate)
  | v =>
    match v.asInt? with
    | some i => exactly .negate (-i.toInt)
    | none => .error (.mismatch "number" v)

/-- The complement of the bits. -/
def invert (v : Value) : Except RuntimeError Value :=
  match v.asInt? with
  | some i => .ok (.int (~~~i))
  | none => .error (.mismatch "int" v)

end DynamicBinding.Script
