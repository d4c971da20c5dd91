import DynamicBinding.Binding
/-!
# The protocol of objects

How objects bind operations on themselves.  The bindings of an instance test the class only:
everything else a plan needs is read when it runs.  An object that declines says under which
guard it would decline again.
-/

namespace DynamicBinding

namespace ClassRef

/-- The stored name of the member that a name addresses. -/
def find? (c : ClassRef) (name : String) (ignoreCase : Bool) : Option String :=
  c.members.find? fun candidate => Text.namesMatch name candidate ignoreCase

/-- The guard of the bindings of an instance. -/
def instanceGuard (c : ClassRef) (args : List Value) : Guard :=
  (Guard.arity args.length).exactType 0 (.instanceOf c)

/-- The binding of an instance whose class defines `method`. -/
def methodBinding? (c : ClassRef) (method : String) (plan : Plan) (args : List Value) :
    Option Binding :=
  if c.has method then some { guard := c.instanceGuard args, plan := plan } else none

/-- How a class as a value binds: it is called to make instances, and its members are read. -/
def bindClass (c : ClassRef) (operation : Operation) (args : List Value) : Option Binding := do
  let receiver ← args.head?
  match operation with
  | .invoke count | .createInstance count =>
    some { guard := (Guard.arity (count + 1)).identity 0 receiver, plan := .instantiate c }
  | .getMember name ignoreCase =>
    let stored ← c.find? name ignoreCase
    some { guard := (Guard.arity 1).identity 0 receiver, plan := .classMember c stored }
  | _ => none

/-- How an instance binds: members, and whatever its class has a method for.  Membership is
dispatched on the container, which is the second operand, so the first operand declines it. -/
def bindInstance (c : ClassRef) (operation : Operation) (args : List Value) : Option Binding :=
  let bound (plan : Plan) : Option Binding :=
    some { guard := c.instanceGuard args, plan := plan }
  let method (name : String) : Option Binding :=
    c.methodBinding? name (.callMethod c name) args
  match operation with
  | .getMember name ignoreCase => bound (.readMember name ignoreCase)
  | .setMember name ignoreCase => bound (.assignMember name ignoreCase)
  | .deleteMember name ignoreCase => bound (.deleteMember name ignoreCase)
  | .invokeMember name ignoreCase count => bound (.callMember name ignoreCase count)
  | .invoke _ => method "__call__"
  | .unary operator | .binary operator =>
    match operator with
    | .isIn | .notIn => none
    | operator => operator.method?.bind method
  | .convert .str _ => method "__str__"
  | .convert .bool _ => c.methodBinding? "__bool__" (.truthMethod c) args
  | .convert _ _ => none
  | .getIndex _ => method "__getitem__"
  | .setIndex _ => c.methodBinding? "__setitem__" (.storeMethod c) args
  | .createInstance _ | .named _ => none

end ClassRef

namespace RecordRef

/-- The guard of an offer on the arguments. -/
def offerGuard (args : List Value) : OfferGuard → Guard
  | .arguments => Guard.forArguments args
  | .identity =>
    match args with
    | [] => Guard.arity 0
    | receiver :: _ => (Guard.arity args.length).identity 0 receiver
  | .type => (Guard.arity args.length).exactType 0 (.native .record)

/-- How a record binds: by the first offer that covers the operation. -/
def bind (r : RecordRef) (operation : Operation) (args : List Value) : Option Binding := do
  let index ← r.offers.findIdx? (·.covers operation)
  let offer ← r.offers[index]?
  some { guard := offerGuard args offer.guard, plan := .offer r index }

end RecordRef

namespace Object

/-- The binding that an object makes for an operation on the arguments, if it takes it on. -/
def bind (o : Object) (operation : Operation) (args : List Value) : Option Binding :=
  match o with
  | .classObject c => c.bindClass operation args
  | .classInstance _ c => c.bindInstance operation args
  | .record r => r.bind operation args
  | .inert _ _ => none

/-- The guard that pins the receiver itself. -/
def receiverGuard : List Value → Guard
  | [] => Guard.always
  | receiver :: _ => Guard.always.identity 0 receiver

/-- The guard under which a refusal holds again: the type, where refusals depend on nothing else,
and the object itself otherwise. -/
def declineGuard (o : Object) (args : List Value) : Guard :=
  match o with
  | .classInstance _ c => Guard.always.exactType 0 (.instanceOf c)
  | .record r =>
    if r.declinesByType then Guard.always.exactType 0 (.native .record) else receiverGuard args
  | .classObject _ | .inert _ _ => receiverGuard args

end Object

end DynamicBinding
