import DynamicBinding.Operation.Operator
import DynamicBinding.Value.Kind
/-!
# Operations

The closed set of operations that a call site can perform.  Some are still addressed by a
name; the two names that have a typed form redirect to it.
-/

namespace DynamicBinding

/-- What a conversion produces. -/
inductive Target where
  | bool
  | int
  | float
  | str
  | list
  | tuple
  /-- A function with a fixed calling convention. -/
  | delegate (signature : Signature)
deriving DecidableEq, Inhabited

def Target.text : Target → String
  | .bool => "bool"
  | .int => "int"
  | .float => "float"
  | .str => "str"
  | .list => "list"
  | .tuple => "tuple"
  | .delegate signature => "delegate " ++ signature.text

/-- An operation addressed by its name. -/
inductive NamedOperation where
  /-- The receiver and its indexes. -/
  | getItem
  /-- The receiver, its indexes and the value to store. -/
  | setItem
  | other (name : String)
deriving DecidableEq, Inhabited

namespace NamedOperation

def ofName (name : String) : NamedOperation :=
  if name = "GetItem" then .getItem
  else if name = "SetItem" then .setItem
  else .other name

def name : NamedOperation → String
  | .getItem => "GetItem"
  | .setItem => "SetItem"
  | .other name => name

end NamedOperation

/-- The categories of operations. -/
inductive Category where
  | getMember
  | setMember
  | deleteMember
  | invoke
  | invokeMember
  | createInstance
  | convert
  | unary
  | binary
  | getIndex
  | setIndex
  | named
deriving DecidableEq, Inhabited

namespace Category

/-- The categories in the order of their indexes. -/
def all : List Category :=
  [.getMember, .setMember, .deleteMember, .invoke, .invokeMember, .createInstance, .convert,
    .unary, .binary, .getIndex, .setIndex, .named]

theorem mem_all (c : Category) : c ∈ all := by
  cases c <;> decide

/-- The position of a category among all. -/
def index (c : Category) : Nat := all.idxOf c

end Category

/-- An operation on a receiver.  Counts are of the arguments after the receiver. -/
inductive Operation where
  | getMember (name : String) (ignoreCase : Bool)
  | setMember (name : String) (ignoreCase : Bool)
  | deleteMember (name : String) (ignoreCase : Bool)
  | invoke (count : Nat)
  | invokeMember (name : String) (ignoreCase : Bool) (count : Nat)
  | createInstance (count : Nat)
  | convert (target : Target) (explicit : Bool)
  | unary (operator : Operator)
  | binary (operator : Operator)
  | getIndex (count : Nat)
  | setIndex (count : Nat)
  | named (operation : NamedOperation)
deriving DecidableEq, Inhabited

/-- The typed operation that a name stands for when the site has `count` arguments, the receiver
included.  There is none for other names and for too few arguments. -/
def NamedOperation.redirect? (operation : NamedOperation) (count : Nat) : Option Operation :=
  match operation with
  | .getItem => if 1 ≤ count then some (.getIndex (count - 1)) else none
  | .setItem => if 2 ≤ count then some (.setIndex (count - 2)) else none
  | .other _ => none

namespace Operation

/-- The unary operation of an operator. -/
def unary? (operator : Operator) : Except ArityMismatch Operation :=
  match operator.arity with
  | .unary => .ok (.unary operator)
  | .binary => .error ⟨operator, .unary⟩

/-- The binary operation of an operator. -/
def binary? (operator : Operator) : Except ArityMismatch Operation :=
  match operator.arity with
  | .binary => .ok (.binary operator)
  | .unary => .error ⟨operator, .binary⟩

/-- The complaint about an operator of the wrong arity, if there is one. -/
def arityMismatch? : Operation → Option ArityMismatch
  | .unary operator => if operator.arity = .unary then none else some ⟨operator, .unary⟩
  | .binary operator => if operator.arity = .binary then none else some ⟨operator, .binary⟩
  | _ => none

def category : Operation → Category
  | .getMember .. => .getMember
  | .setMember .. => .setMember
  | .deleteMember .. => .deleteMember
  | .invoke _ => .invoke
  | .invokeMember .. => .invokeMember
  | .createInstance _ => .createInstance
  | .convert .. => .convert
  | .unary _ => .unary
  | .binary _ => .binary
  | .getIndex _ => .getIndex
  | .setIndex _ => .setIndex
  | .named _ => .named

/-- How many arguments a site of the operation takes, the receiver included.  Named operations
take any number. -/
def siteArity? : Operation → Option Nat
  | .getMember .. | .deleteMember .. | .convert .. | .unary _ => some 1
  | .setMember .. | .binary _ => some 2
  | .invoke count | .invokeMember _ _ count | .createInstance count | .getIndex count =>
    some (count + 1)
  | .setIndex count => some (count + 2)
  | .named _ => none

/-- The member that the operation addresses. -/
def memberName? : Operation → Option String
  | .getMember name _ | .setMember name _ | .deleteMember name _ | .invokeMember name _ _ =>
    some name
  | _ => none

/-- The name that stands in the operation, whether of a member or of the operation itself. -/
def nameInside? : Operation → Option String
  | .named operation => some operation.name
  | operation => operation.memberName?

/-- The operator that stands in the operation. -/
def operatorInside? : Operation → Option Operator
  | .unary operator | .binary operator => some operator
  | _ => none

/-- The operation in the words of an error message. -/
def text : Operation → String
  | .getMember name _ => "member read '" ++ name ++ "'"
  | .setMember name _ => "member assignment '" ++ name ++ "'"
  | .deleteMember name _ => "member deletion '" ++ name ++ "'"
  | .invoke count => "invocation with " ++ toString count ++ " arguments"
  | .invokeMember name _ count =>
    "method call '" ++ name ++ "' with " ++ toString count ++ " arguments"
  | .createInstance count => "instantiation with " ++ toString count ++ " arguments"
  | .convert target _ => "conversion to " ++ target.text
  | .unary operator => "unary '" ++ operator.symbol ++ "'"
  | .binary operator => "operator '" ++ operator.symbol ++ "'"
  | .getIndex _ => "indexing"
  | .setIndex _ => "index assignment"
  | .named operation => "operation '" ++ operation.name ++ "'"

end Operation

end DynamicBinding
