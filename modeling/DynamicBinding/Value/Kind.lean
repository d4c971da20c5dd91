/-!
# Kinds

The coarse classification of values, and the shapes and signatures that are built from it.
-/

namespace DynamicBinding

/-- The coarse kind of a value. -/
inductive Kind where
  | nothing
  | bool
  | int
  | float
  | str
  | tuple
  | list
  | function
  | object
deriving DecidableEq, Inhabited

namespace Kind

/-- The name of the kind that programs see. -/
def name : Kind → String
  | .nothing => "NoneType"
  | .bool => "bool"
  | .int => "int"
  | .float => "float"
  | .str => "str"
  | .tuple => "tuple"
  | .list => "list"
  | .function => "function"
  | .object => "object"

/-- The kinds in the order in which they are listed. -/
def all : List Kind :=
  [.nothing, .bool, .int, .float, .str, .tuple, .list, .function, .object]

theorem mem_all (k : Kind) : k ∈ all := by
  cases k <;> decide

/-- The kinds whose values are numbers. -/
def isNumeric : Kind → Bool
  | .bool | .int | .float => true
  | _ => false

/-- The kinds whose values are whole numbers. -/
def isIntegral : Kind → Bool
  | .bool | .int => true
  | _ => false

/-- The kinds whose values are sequences. -/
def isSequence : Kind → Bool
  | .str | .list | .tuple => true
  | _ => false

end Kind

/-- The shape of one parameter or of a result. -/
inductive Shape where
  /-- Any value, passed on unchanged. -/
  | any
  /-- No value; a result of this shape is dropped. -/
  | void
  /-- A value of one kind. -/
  | kind (k : Kind)
deriving DecidableEq, Inhabited

/-- The name of a shape. -/
def Shape.name : Shape → String
  | .any => "any"
  | .void => "void"
  | .kind k => k.name

/-- The fixed calling convention of a delegate: the shape of its result and of each
parameter. -/
structure Signature where
  result : Shape
  params : List Shape
deriving DecidableEq, Inhabited

/-- The text of a signature. -/
def Signature.text (s : Signature) : String :=
  "fn(" ++ String.intercalate ", " (s.params.map Shape.name) ++ ") -> " ++ s.result.name

end DynamicBinding
