import DynamicBinding.Language.Bind
import DynamicBinding.Publisher
import DynamicBinding.Resolution.Chain
import DynamicBinding.Site
/-!
# The machine

What programs run on: the store, the call sites, the sites and stubs that are shared, and the
names that programs can use.  The store is all that a program can see of what it did; sites only
decide how an answer is found.
-/

namespace DynamicBinding

/-- What the delegates of a signature run.  Stubs are numbered in the order of their making, which
tells one stub from another. -/
structure Stub where
  signature : Signature
  serial : Nat
deriving DecidableEq, Inhabited

/-- The state of a run. -/
structure Machine where
  store : Store := {}
  sites : Array Site := #[]
  /-- The sites that all users of one binder share, by position. -/
  shared : Publisher Binder Nat := {}
  /-- The stubs of delegate signatures. -/
  stubs : Publisher Signature Stub := {}
  /-- The variables that programs can name. -/
  globals : List (String × Value) := []
  /-- The sites that programs can name, by position. -/
  siteNames : List (String × Nat) := []
  /-- The language in which bodies perform operations. -/
  main : Language

instance : Inhabited Machine := ⟨{ main := default }⟩

/-- Computations on the machine.  What they did to the machine stays when they stop. -/
abbrev Exec := ExceptT Stop (StateM Machine)

namespace Exec

/-- Stops with an error. -/
def fail {α : Type} (e : RuntimeError) : Exec α := throw (.error e)

/-- Performs a computation on the store of the machine. -/
def onStore {α : Type} (x : Effect α) : Exec α :=
  ExceptT.mk fun m =>
    let (result, store) := x.run.run m.store
    (result, { m with store := store })

/-- Turns a result into a computation. -/
def lift {α : Type} : Except RuntimeError α → Exec α
  | .ok a => pure a
  | .error e => fail e

/-- Stops if there is no answer. -/
def require {α : Type} : Option α → Exec α
  | some a => pure a
  | none => throw .diverged

/-- Performs a computation and changes the machine afterwards, whether it gave a value or
stopped. -/
def afterwards {α : Type} (x : Exec α) (change : Machine → Machine) : Exec α :=
  ExceptT.mk fun m =>
    let (result, m) := x.run.run m
    (result, change m)

end Exec

namespace Machine

/-- The site at a position. -/
def site (m : Machine) (id : Nat) : Site := m.sites.getD id default

/-- Changes the site at a position. -/
def modifySite (m : Machine) (id : Nat) (change : Site → Site) : Machine :=
  { m with sites := m.sites.modify id change }

/-- Adds a site. -/
def addSite (m : Machine) (s : Site) : Nat × Machine :=
  (m.sites.size, { m with sites := m.sites.push s })

/-- The position of the site that a binder shares, which is made on first request. -/
def sharedSite (m : Machine) (b : Binder) : Nat × Machine :=
  match m.shared.get? b with
  | some id => (id, m)
  | none =>
    let opened := { m with shared := m.shared.start b }
    let (id, added) := opened.addSite (.ofBinder b)
    (id, { added with shared := added.shared.finish b id })

/-- The stub of a signature, which is made on first request. -/
def stub (m : Machine) (signature : Signature) : Stub × Machine :=
  match m.stubs.get? signature with
  | some stub => (stub, m)
  | none =>
    let stub : Stub := ⟨signature, m.stubs.created⟩
    (stub, { m with stubs := (m.stubs.start signature).finish signature stub })

/-- Sharing a site changes no more than the sites and what is shared. -/
theorem frame_sharedSite (m : Machine) (b : Binder) :
    ∃ sites shared, (m.sharedSite b).2 = { m with sites := sites, shared := shared } := by
  unfold sharedSite
  split
  · exact ⟨m.sites, m.shared, rfl⟩
  · exact ⟨_, _, rfl⟩

/-- Making a stub changes no more than the stubs. -/
theorem frame_stub (m : Machine) (signature : Signature) :
    ∃ stubs, (m.stub signature).2 = { m with stubs := stubs } := by
  unfold stub
  split
  · exact ⟨m.stubs, rfl⟩
  · exact ⟨_, rfl⟩

/-- Sets a variable. -/
def setVariable (m : Machine) (name : String) (v : Value) : Machine :=
  { m with globals := (name, v) :: m.globals.filter (·.1 != name) }

/-- Names a site. -/
def nameSite (m : Machine) (name : String) (id : Nat) : Machine :=
  { m with siteNames := (name, id) :: m.siteNames.filter (·.1 != name) }

/-- Gives a plan that performs another operation a site of its own for it. -/
def anchor (m : Machine) (b : Binding) : Binding × Machine :=
  match b.plan with
  | .through inner none use =>
    let (id, m) := m.addSite (.ofBinder inner)
    ({ b with plan := .through inner (some id) use }, m)
  | _ => (b, m)

end Machine

end DynamicBinding
