import DynamicBinding.Guard
import DynamicBinding.Script.Implementation
/-!
# Plans and bindings

A plan says what to do with the arguments of an operation.  Plans are data: what they do is the
business of evaluation.  A binding puts a plan under the guard that licenses it.
-/

namespace DynamicBinding

/-- What is done with the answer of an operation inside a plan. -/
inductive NestedUse where
  /-- It is the answer. -/
  | answer
  /-- Its truth says whether the first argument is in the second; the container is asked. -/
  | membership (negated : Bool)
  /-- The opposite of its truth is the answer. -/
  | negatedTruth
deriving DecidableEq, Inhabited

/-- What a binding does. -/
inductive Plan where
  | fail (e : RuntimeError)
  /-- Fails because the receiver that is passed cannot be called. -/
  | notCallable
  | constant (v : Value)
  /-- Gives the receiver back. -/
  | receiver
  /-- Evaluates an expression over the arguments. -/
  | body (e : Expr)
  /-- Evaluates the body of an offer of a record. -/
  | offer (r : RecordRef) (index : Nat)
  /-- Makes an instance and runs its initialiser on the other arguments. -/
  | instantiate (c : ClassRef)
  /-- The member of a class under its stored name. -/
  | classMember (c : ClassRef) (name : String)
  | readMember (name : String) (ignoreCase : Bool)
  | assignMember (name : String) (ignoreCase : Bool)
  | deleteMember (name : String) (ignoreCase : Bool)
  /-- Reads a member of the receiver and calls it with the other arguments. -/
  | callMember (name : String) (ignoreCase : Bool) (count : Nat)
  /-- Calls a method of the class with all arguments. -/
  | callMethod (c : ClassRef) (method : String)
  /-- Calls the truth method of the class, which must give a bool. -/
  | truthMethod (c : ClassRef)
  /-- Calls the index assignment method of the class and gives the last argument back. -/
  | storeMethod (c : ClassRef)
  /-- Calls the receiver, a function. -/
  | callFunction
  | builtinMethod (m : Script.Method)
  | getItem
  | setItem
  | binary (i : Script.BinaryImplementation) (operator : Operator)
  | unary (i : Script.UnaryImplementation)
  | convert (c : Script.Conversion)
  /-- The text that the language gives of the argument. -/
  | format (language : Language)
  /-- Turns the argument into a delegate for the language. -/
  | delegate (language : Language) (signature : Signature)
  /-- Performs another operation, through the given site if there is one. -/
  | through (inner : Binder) (site : Option Nat) (use : NestedUse)
  /-- The text of the argument inside marks of negation. -/
  | negationText
  /-- The texts of both arguments one after the other. -/
  | joinedText

/-- The step of the chain that made a binding. -/
inductive Source where
  | protocol
  | language
  | fallback
deriving DecidableEq, Inhabited

/-- A plan under its guard. -/
structure Binding where
  guard : Guard
  plan : Plan
  source : Source := .language

namespace Binding

/-- A binding that fails. -/
def failure (guard : Guard) (e : RuntimeError) : Binding :=
  { guard := guard, plan := .fail e }

/-- The binding under its own tests and those of another guard. -/
def guardedBy (b : Binding) (extra : Guard) : Binding :=
  { b with guard := b.guard.and extra }

def withSource (b : Binding) (source : Source) : Binding :=
  { b with source := source }

/-- Whether the guard passes. -/
def applies (b : Binding) (args : List Value) : Bool :=
  b.guard.passes args

end Binding

end DynamicBinding
