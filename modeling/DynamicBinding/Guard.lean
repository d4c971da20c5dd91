import DynamicBinding.Value.Basic
/-!
# Guards

A guard is a conjunction of tests of an argument list.  Tests look at handles only, so a guard
answers the same at all times for the same arguments.

* `Guard.passes` is the meaning of a guard; `passes_add` reads it off the last test.
* `Guard.forArguments` classifies an argument list as finely as most plans need: builtin values
  by their kind, objects by their exact type.
* `Guard.and` keeps the tests of its first part in place and adds those of the second that are
  new.  Equality of guards is equality of their tests in order, and that is what decides whether
  a site replaces an entry.
* `Guard.excludesObjects` is an analysis of the tests one by one: it may miss that a guard rules
  objects out, it never sees that where it is not so.
-/

namespace DynamicBinding

/-- One test of an argument list.  A test of an argument that is not there fails. -/
inductive GuardTest where
  /-- There are this many arguments. -/
  | argumentCount (count : Nat)
  /-- The argument has this kind. -/
  | kindIs (index : Nat) (kind : Kind)
  /-- The argument has this exact type. -/
  | typeIs (index : Nat) (type : RuntimeType)
  /-- The argument is this very value. -/
  | identityIs (index : Nat) (target : Value)
  /-- The argument cannot be invoked. -/
  | notCallable (index : Nat)
  /-- The argument is a builtin value and not an object. -/
  | plain (index : Nat)
deriving DecidableEq, Inhabited

/-- Whether the test passes on the arguments. -/
def GuardTest.passes (args : List Value) : GuardTest → Bool
  | .argumentCount count => args.length == count
  | .kindIs index kind => args[index]?.any fun v => v.kind == kind
  | .typeIs index type => args[index]?.any fun v => v.runtimeType == type
  | .identityIs index target => args[index]?.any fun v => v.identical target
  | .notCallable index => args[index]?.any fun v => !v.isCallable
  | .plain index => args[index]?.any fun v => !v.isObject

/-- A conjunction of tests.  Guards are equal when they have equal tests in the same order. -/
structure Guard where
  tests : List GuardTest
deriving DecidableEq, Inhabited

namespace Guard

/-- The guard that passes always. -/
def always : Guard := ⟨[]⟩

/-- The guard with one more test at its end. -/
def add (g : Guard) (t : GuardTest) : Guard := ⟨g.tests ++ [t]⟩

/-- A guard on the number of arguments only. -/
def arity (count : Nat) : Guard := always.add (.argumentCount count)

def kind (g : Guard) (index : Nat) (k : Kind) : Guard := g.add (.kindIs index k)

def exactType (g : Guard) (index : Nat) (t : RuntimeType) : Guard := g.add (.typeIs index t)

def identity (g : Guard) (index : Nat) (target : Value) : Guard := g.add (.identityIs index target)

def notCallable (g : Guard) (index : Nat) : Guard := g.add (.notCallable index)

def plain (g : Guard) (index : Nat) : Guard := g.add (.plain index)

/-- Tests an argument for the class of `v`: the kind of a builtin value, the exact type of an
object. -/
def classified (g : Guard) (index : Nat) (v : Value) : Guard :=
  match v with
  | .object o => g.exactType index o.runtimeType
  | v => g.kind index v.kind

/-- Adds the class of each value, the first one at position `index`. -/
def classifiedFrom (g : Guard) (index : Nat) : List Value → Guard
  | [] => g
  | v :: rest => (g.classified index v).classifiedFrom (index + 1) rest

/-- The number of arguments and the class of each. -/
def forArguments (args : List Value) : Guard :=
  (arity args.length).classifiedFrom 0 args

/-- The conjunction of two guards.  Tests that are already there are not repeated. -/
def and (g h : Guard) : Guard :=
  ⟨h.tests.foldl (fun tests t => if tests.contains t then tests else tests ++ [t]) g.tests⟩

/-- Whether one of the tests by itself rules out that the argument is an object. -/
def excludesObjects (g : Guard) (index : Nat) : Bool :=
  g.tests.any fun
    | .kindIs i k => i == index && k != .object
    | .typeIs i (.builtin k) => i == index && k != .object
    | .typeIs _ _ => false
    | .identityIs i target => i == index && !target.isObject
    | .plain i => i == index
    | .argumentCount _ | .notCallable _ => false

/-- Whether every test passes. -/
def passes (g : Guard) (args : List Value) : Bool :=
  g.tests.all (·.passes args)

@[simp] theorem passes_always (args : List Value) : always.passes args = true := rfl

@[simp] theorem passes_add (g : Guard) (t : GuardTest) (args : List Value) :
    (g.add t).passes args = (g.passes args && t.passes args) := by
  simp [passes, add]

end Guard

end DynamicBinding
