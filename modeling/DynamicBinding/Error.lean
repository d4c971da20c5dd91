import DynamicBinding.Value.Basic
/-!
# Errors

The causes for which running a plan fails, and their messages.  Resolution itself never fails:
a failure is the plan of the binding.
-/

namespace DynamicBinding

inductive RuntimeError where
  /-- Nothing in the chain supports the operation on these arguments. -/
  | unsupported (operation : Operation) (typeName : String)
  | notCallable (typeName : String)
  | typeMismatch (expected actual : String)
  /-- A value or a call does not fit a delegate signature. -/
  | signatureMismatch (expected : Signature) (actual : String)
  | argumentCount (expected actual : Nat)
  | operatorArity (mismatch : ArityMismatch)
  | indexOutOfRange (index : Int) (length : Nat)
  | divisionByZero
  | overflow (operator : Operator)
  /-- A value of the right type that the operation cannot take. -/
  | invalidValue (text : String)
  /-- An error that a function raised by itself. -/
  | raised (text : String)
deriving DecidableEq, Inhabited

namespace RuntimeError

def message : RuntimeError → String
  | .unsupported operation typeName =>
    "'" ++ typeName ++ "' object does not support " ++ operation.text
  | .notCallable typeName => "'" ++ typeName ++ "' object is not callable"
  | .typeMismatch expected actual => "expected " ++ expected ++ ", got '" ++ actual ++ "'"
  | .signatureMismatch expected actual =>
    "cannot convert " ++ actual ++ " to delegate " ++ expected.text
  | .argumentCount expected actual =>
    "expected " ++ toString expected ++ " arguments, got " ++ toString actual
  | .operatorArity mismatch => mismatch.message
  | .indexOutOfRange index length =>
    "index " ++ toString index ++ " out of range for length " ++ toString length
  | .divisionByZero => "division by zero"
  | .overflow operator => "integer overflow in '" ++ operator.symbol ++ "'"
  | .invalidValue text => text
  | .raised text => text

/-- The operation is not supported on this receiver. -/
def unsupportedOn (operation : Operation) (receiver : Value) : RuntimeError :=
  .unsupported operation receiver.typeName

/-- The value cannot be called. -/
def notCallableValue (v : Value) : RuntimeError :=
  .notCallable v.typeName

/-- The value is not of the expected type. -/
def mismatch (expected : String) (v : Value) : RuntimeError :=
  .typeMismatch expected v.typeName

end RuntimeError

end DynamicBinding
