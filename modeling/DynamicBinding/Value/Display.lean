import DynamicBinding.Binary64.Notation
import DynamicBinding.Store
import DynamicBinding.Text.Quoted
/-!
# Text of values

The text by which programs see a value, in which texts inside sequences stand between single
quotes, and the text for a developer, which names the kind of each part.  Neither has an end for
a list that holds itself; the number of descents into sequences is bounded by the number of
cells, and no text is given beyond that.
-/

namespace DynamicBinding.Store

/-- The text of a value as an item of a sequence, given the text of the value itself. -/
def quoteIfStr (v : Value) (text : String) : String :=
  match v with
  | .str _ => "'" ++ text ++ "'"
  | _ => text

/-- The program's text of a value within a number of descents. -/
def displayWithin (s : Store) : Nat → Value → Option String
  | _, .nothing => some "None"
  | _, .bool b => some (if b then "True" else "False")
  | _, .int i => some (toString i.toInt)
  | _, .float x => some x.text
  | _, .str text => some text.chars
  | _, .function f => some ("<function " ++ f.name ++ ">")
  | _, .object o => some ("<" ++ o.typeName ++ " object>")
  | 0, .tuple _ => none
  | 0, .list _ => none
  | fuel + 1, .tuple id => do
    let parts ← (s.items id).mapM fun v => (s.displayWithin fuel v).map (quoteIfStr v)
    some ("(" ++ String.intercalate ", " parts ++ (if parts.length = 1 then ",)" else ")"))
  | fuel + 1, .list id => do
    let parts ← (s.items id).mapM fun v => (s.displayWithin fuel v).map (quoteIfStr v)
    some ("[" ++ String.intercalate ", " parts ++ "]")

/-- The program's text of a value; none if it has no end. -/
def display (s : Store) (v : Value) : Option String :=
  s.displayWithin s.cells.size v

/-- The text of a value as it stands inside a sequence. -/
def repr (s : Store) (v : Value) : Option String :=
  (s.display v).map (quoteIfStr v)

/-- The developer's text of an object. -/
def debugObject (s : Store) : Object → String
  | .classObject c => "ClassObject \x7b name: " ++ Text.quoted c.name ++ " \x7d"
  | .classInstance id c =>
    "Instance \x7b class: " ++ Text.quoted c.name ++ ", fields: " ++
      toString (s.fields id).size ++ " \x7d"
  | .record r => r.typeName
  | .inert _ typeName => typeName

/-- The developer's text of a value within a number of descents. -/
def debugWithin (s : Store) : Nat → Value → Option String
  | _, .nothing => some "None"
  | _, .bool b => some ("Bool(" ++ (if b then "true" else "false") ++ ")")
  | _, .int i => some ("Int(" ++ toString i.toInt ++ ")")
  | _, .float x => some ("Float(" ++ x.text ++ ")")
  | _, .str text => some ("Str(" ++ Text.quoted text.chars ++ ")")
  | _, .function f => some ("Function(" ++ Text.quoted f.name ++ ")")
  | _, .object o => some ("Object(" ++ s.debugObject o ++ ")")
  | 0, .tuple _ => none
  | 0, .list _ => none
  | fuel + 1, .tuple id => do
    let parts ← (s.items id).mapM (s.debugWithin fuel)
    some ("Tuple([" ++ String.intercalate ", " parts ++ "])")
  | fuel + 1, .list id => do
    let parts ← (s.items id).mapM (s.debugWithin fuel)
    some ("List([" ++ String.intercalate ", " parts ++ "])")

/-- The developer's text of a value; none if it has no end. -/
def debugText (s : Store) (v : Value) : Option String :=
  s.debugWithin s.cells.size v

end DynamicBinding.Store
