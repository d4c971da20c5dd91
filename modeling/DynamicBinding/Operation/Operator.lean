/-!
# Operators

The operators of unary and binary operations, with their spelling and the method by which a
class overloads them.
-/

namespace DynamicBinding

/-- How many operands an operator takes. -/
inductive Arity where
  | unary
  | binary
deriving DecidableEq, Inhabited

namespace Arity

def operandCount : Arity → Nat
  | .unary => 1
  | .binary => 2

def name : Arity → String
  | .unary => "unary"
  | .binary => "binary"

end Arity

/-- Unary, binary and comparison operators. -/
inductive Operator where
  | not
  | pos
  | invert
  | negate
  | add
  | subtract
  | multiply
  /-- Division that floors on whole numbers. -/
  | divide
  /-- Division whose result is always a float. -/
  | trueDivide
  | modulo
  | bitwiseAnd
  | bitwiseOr
  | bitwiseXor
  | leftShift
  | rightShift
  | power
  | floorDivide
  | lessThan
  | lessThanOrEqual
  | greaterThan
  | greaterThanOrEqual
  | equal
  | notEqual
  | isIn
  | notIn
  | isSame
  | isNotSame
deriving DecidableEq, Inhabited

namespace Operator

/-- Every operator, unary ones first. -/
def all : List Operator :=
  [.not, .pos, .invert, .negate, .add, .subtract, .multiply, .divide, .trueDivide, .modulo,
    .bitwiseAnd, .bitwiseOr, .bitwiseXor, .leftShift, .rightShift, .power, .floorDivide,
    .lessThan, .lessThanOrEqual, .greaterThan, .greaterThanOrEqual, .equal, .notEqual, .isIn,
    .notIn, .isSame, .isNotSame]

theorem mem_all (o : Operator) : o ∈ all := by
  cases o <;> decide

/-- The one arity an operator has. -/
def arity : Operator → Arity
  | .not | .pos | .invert | .negate => .unary
  | _ => .binary

/-- Whether the operator tests order, equality, membership or identity. -/
def isComparison : Operator → Bool
  | .lessThan | .lessThanOrEqual | .greaterThan | .greaterThanOrEqual | .equal | .notEqual
  | .isIn | .notIn | .isSame | .isNotSame => true
  | _ => false

/-- The spelling in program text. -/
def symbol : Operator → String
  | .not => "not"
  | .pos => "+"
  | .invert => "~"
  | .negate => "-"
  | .add => "+"
  | .subtract => "-"
  | .multiply => "*"
  | .divide => "/"
  | .trueDivide => "/"
  | .modulo => "%"
  | .bitwiseAnd => "&"
  | .bitwiseOr => "|"
  | .bitwiseXor => "^"
  | .leftShift => "<<"
  | .rightShift => ">>"
  | .power => "**"
  | .floorDivide => "//"
  | .lessThan => "<"
  | .lessThanOrEqual => "<="
  | .greaterThan => ">"
  | .greaterThanOrEqual => ">="
  | .equal => "=="
  | .notEqual => "!="
  | .isIn => "in"
  | .notIn => "not in"
  | .isSame => "is"
  | .isNotSame => "is not"

/-- The method by which a class overloads the operator.  The logical negation, the negated
membership test and the identity tests cannot be overloaded. -/
def method? : Operator → Option String
  | .not | .notIn | .isSame | .isNotSame => none
  | .pos => some "__pos__"
  | .invert => some "__invert__"
  | .negate => some "__neg__"
  | .add => some "__add__"
  | .subtract => some "__sub__"
  | .multiply => some "__mul__"
  | .divide => some "__div__"
  | .trueDivide => some "__truediv__"
  | .modulo => some "__mod__"
  | .bitwiseAnd => some "__and__"
  | .bitwiseOr => some "__or__"
  | .bitwiseXor => some "__xor__"
  | .leftShift => some "__lshift__"
  | .rightShift => some "__rshift__"
  | .power => some "__pow__"
  | .floorDivide => some "__floordiv__"
  | .lessThan => some "__lt__"
  | .lessThanOrEqual => some "__le__"
  | .greaterThan => some "__gt__"
  | .greaterThanOrEqual => some "__ge__"
  | .equal => some "__eq__"
  | .notEqual => some "__ne__"
  | .isIn => some "__contains__"

end Operator

/-- A unary or binary operation was asked for with an operator of the other arity. -/
structure ArityMismatch where
  operator : Operator
  expected : Arity
deriving DecidableEq, Inhabited

def ArityMismatch.message (e : ArityMismatch) : String :=
  "operator '" ++ e.operator.symbol ++ "' is not a " ++ e.expected.name ++ " operator"

end DynamicBinding
