import DynamicBinding.Script.Conversion
/-!
# Implementations of operators

Which implementation serves an operator on operands of given kinds, and how it runs.  The choice
looks at the kinds only, so a guard that pins the kinds keeps it right.
-/

namespace DynamicBinding.Script

/-- The implementations of binary operators. -/
inductive BinaryImplementation where
  | arithmetic
  | concatenate
  | repetition
  | bitwise
  | order
  | equality
  | identity
  | membership
deriving DecidableEq, Inhabited

/-- The implementation of a binary operator for two kinds, if there is one. -/
def BinaryImplementation.select? (operator : Operator) (l r : Kind) :
    Option BinaryImplementation :=
  let numeric := l.isNumeric && r.isNumeric
  let integral := l.isIntegral && r.isIntegral
  let given (condition : Bool) (i : BinaryImplementation) : Option BinaryImplementation :=
    if condition then some i else none
  match operator with
  | .add => if numeric then some .arithmetic else given (l == r && l.isSequence) .concatenate
  | .multiply =>
    if numeric then some .arithmetic
    else given ((l.isSequence && r.isIntegral) || (l.isIntegral && r.isSequence)) .repetition
  | .subtract | .divide | .trueDivide | .modulo | .power | .floorDivide =>
    given numeric .arithmetic
  | .bitwiseAnd | .bitwiseOr | .bitwiseXor | .leftShift | .rightShift => given integral .bitwise
  | .lessThan | .lessThanOrEqual | .greaterThan | .greaterThanOrEqual =>
    given (numeric || (l == .str && r == .str)) .order
  | .equal | .notEqual => some .equality
  | .isSame | .isNotSame => some .identity
  | .isIn | .notIn =>
    given (r == .list || r == .tuple || (l == .str && r == .str)) .membership
  | .not | .pos | .invert | .negate => none

/-- Runs the implementation of a binary operator. -/
def BinaryImplementation.run (i : BinaryImplementation) (operator : Operator) (a b : Value) :
    Effect Value :=
  match i with
  | .arithmetic => lift (Script.arithmetic operator a b)
  | .concatenate => Script.concatenate operator a b
  | .repetition => Script.repetition operator a b
  | .bitwise => lift (Script.bitwise operator a b)
  | .order => lift (compareValues operator a b)
  | .equality => Script.equality operator a b
  | .identity => Script.identity operator a b
  | .membership => Script.membership operator a b

/-- The implementations of unary operators. -/
inductive UnaryImplementation where
  | not
  | positive
  | negative
  | invert
deriving DecidableEq, Inhabited

/-- The implementation of a unary operator for a kind, if there is one. -/
def UnaryImplementation.select? (operator : Operator) (k : Kind) : Option UnaryImplementation :=
  match operator with
  | .not => some .not
  | .pos => if k.isNumeric then some .positive else none
  | .negate => if k.isNumeric then some .negative else none
  | .invert => if k.isIntegral then some .invert else none
  | _ => none

/-- Runs the implementation of a unary operator. -/
def UnaryImplementation.run (i : UnaryImplementation) (v : Value) : Effect Value := do
  match i with
  | .not => pure (.bool (!(← get).isTruthy v))
  | .positive => lift (Script.positive v)
  | .negative => lift (Script.negative v)
  | .invert => lift (Script.invert v)

end DynamicBinding.Script
