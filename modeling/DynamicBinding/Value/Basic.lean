import DynamicBinding.Binary64.Basic
import DynamicBinding.Operation.Kind
/-!
# Values

A value is a scalar or a *handle* on something that the store keeps.  A handle consists of an
identity and a header.  The header holds all that resolution may look at: the signature of a
function, the member names of a class, the offers of a record.  What a program can change, and
what only running a plan needs, stays in the store.

Two consequences follow.  Guards and resolution are functions of the arguments alone, without a
store.  And identity of values is equality: two handles with one identity carry one header.
-/

namespace DynamicBinding

/-- A key among the members of a record.  Only names are identifiers. -/
inductive MemberKey where
  | name (text : String)
  | index (i : Int64)
  | symbol (n : Nat)
deriving DecidableEq, Inhabited

def MemberKey.name? : MemberKey → Option String
  | .name text => some text
  | .index _ | .symbol _ => none

/-- A text with its identity.  Equal texts made at different times are different values. -/
structure Text where
  id : Nat
  chars : String
deriving DecidableEq, Inhabited

/-- A handle on a function: its name, the number of arguments it insists on, and the signature it
was made for. -/
structure FunctionRef where
  id : Nat
  name : String
  arity : Option Nat
  signature : Option Signature
deriving DecidableEq, Inhabited

/-- A handle on a class: its number in the order of completion, its name, and the names of its
members in the order of their first definition. -/
structure ClassRef where
  id : Nat
  name : String
  members : List String
deriving DecidableEq, Inhabited

namespace ClassRef

/-- Whether the class defines a member of this very name. -/
def has (c : ClassRef) (name : String) : Bool :=
  c.members.contains name

/-- Where types are listed, a class shows as its number. -/
instance : ToString ClassRef := ⟨fun c => toString c.id⟩

end ClassRef

/-- Which test of the first argument comes with an offer of a record. -/
inductive OfferGuard where
  /-- The class of every argument. -/
  | arguments
  /-- The record itself. -/
  | identity
  /-- Any record. -/
  | type
deriving DecidableEq, Inhabited

/-- The operations that a record takes on: those that agree with every part that is given. -/
structure Offer where
  category : Option Category
  name : Option String
  operator : Option Operator
  guard : OfferGuard
deriving DecidableEq, Inhabited

/-- Whether the offer covers an operation. -/
def Offer.covers (offer : Offer) (operation : Operation) : Bool :=
  offer.category.all (· == operation.category) &&
    offer.name.all (some · == operation.nameInside?) &&
    offer.operator.all (some · == operation.operatorInside?)

/-- A handle on a record: an object of the host that answers for itself by its offers. -/
structure RecordRef where
  id : Nat
  typeName : String
  callable : Bool
  /-- Whether a refusal holds for every record and not only for this one. -/
  declinesByType : Bool
  offers : List Offer
deriving DecidableEq, Inhabited

/-- Objects: the values that may bind operations on themselves. -/
inductive Object where
  /-- A class as a value. -/
  | classObject (c : ClassRef)
  /-- The instance with the given number, of the given class. -/
  | classInstance (id : Nat) (c : ClassRef)
  | record (r : RecordRef)
  /-- An object of the host that never binds anything. -/
  | inert (id : Nat) (typeName : String)
deriving DecidableEq, Inhabited

/-- The values of programs. -/
inductive Value where
  | nothing
  | bool (b : Bool)
  | int (i : Int64)
  | float (x : Binary64)
  | str (text : Text)
  /-- The tuple in the given cell of the store. -/
  | tuple (id : Nat)
  /-- The list in the given cell of the store. -/
  | list (id : Nat)
  | function (f : FunctionRef)
  | object (o : Object)
deriving DecidableEq, Inhabited

/-- The types that native objects share. -/
inductive NativeType where
  | record
  | inert
  | classObject
deriving DecidableEq, Inhabited

/-- The exact type of a value.  The type of an instance is its class, told apart like everything
that has an identity: by its handle. -/
inductive RuntimeType where
  | builtin (k : Kind)
  | instanceOf (c : ClassRef)
  | native (t : NativeType)
deriving DecidableEq, Inhabited

namespace Object

def typeName : Object → String
  | .classObject _ => "type"
  | .classInstance _ c => c.name
  | .record r => r.typeName
  | .inert _ typeName => typeName

def runtimeType : Object → RuntimeType
  | .classObject _ => .native .classObject
  | .classInstance _ c => .instanceOf c
  | .record _ => .native .record
  | .inert _ _ => .native .inert

/-- Whether the object can be invoked: classes always, instances of classes with a call method,
records that say so. -/
def isCallable : Object → Bool
  | .classObject _ => true
  | .classInstance _ c => c.has "__call__"
  | .record r => r.callable
  | .inert _ _ => false

end Object

namespace Value

def kind : Value → Kind
  | .nothing => .nothing
  | .bool _ => .bool
  | .int _ => .int
  | .float _ => .float
  | .str _ => .str
  | .tuple _ => .tuple
  | .list _ => .list
  | .function _ => .function
  | .object _ => .object

def runtimeType : Value → RuntimeType
  | .object o => o.runtimeType
  | v => .builtin v.kind

/-- The name of the type, as error messages give it. -/
def typeName : Value → String
  | .object o => o.typeName
  | v => v.kind.name

def isObject : Value → Bool
  | .object _ => true
  | _ => false

/-- Whether the value itself can be invoked. -/
def isCallable : Value → Bool
  | .function _ => true
  | .object o => o.isCallable
  | _ => false

/-- The whole number of an int or a bool. -/
def asInt? : Value → Option Int64
  | .int i => some i
  | .bool b => some (if b then 1 else 0)
  | _ => none

/-- The number of a float, an int or a bool. -/
def asFloat? : Value → Option Binary64
  | .float x => some x
  | .int i => some (.ofInt i.toInt)
  | .bool b => some (.ofInt (if b then 1 else 0))
  | _ => none

def asStr? : Value → Option String
  | .str text => some text.chars
  | _ => none

/-- Identity.  Scalars are identical when they are the same value, floats bit by bit; all other
values when they are the same handle. -/
def identical (a b : Value) : Bool := a == b

@[simp] theorem identical_iff {a b : Value} : identical a b = true ↔ a = b := by
  simp [identical]

end Value

/-- Whether a value satisfies the target as it is. -/
def Target.accepts : Target → Value → Bool
  | .bool, v => v.kind == .bool
  | .int, v => v.kind == .int
  | .float, v => v.kind == .float
  | .str, v => v.kind == .str
  | .list, v => v.kind == .list
  | .tuple, v => v.kind == .tuple
  | .delegate signature, .function f => f.signature == some signature
  | .delegate _, _ => false

end DynamicBinding
