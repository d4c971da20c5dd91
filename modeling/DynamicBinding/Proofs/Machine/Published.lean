import DynamicBinding.Proofs.Machine.Stages
import DynamicBinding.Proofs.Publisher.Requests
/-!
# What a machine shares

A machine has one stub for each signature and one site for each binder that asks for it.  Both are
kept by publishers, whose factories make a stub of the signature that is the key, and a site of the
binder that is the key.

* `Machine.Published` is what stays true of what is shared.  Each step of a run keeps it
  (`Machine.Changes.published`), and so does each `Machine.Use`, which is one thing that is done
  with a machine from outside.
* `Machine.Arises` says that a machine comes from a new one by any number of uses.
* `Publisher.creates_once` is the promise of publishers together with what it means for machines.
-/

namespace DynamicBinding

open Relation

namespace Machine

variable {m n : Machine} {b : Binder}

/-! ## Stubs and sites as published values -/

/-- The factory of a stub makes one of the signature. -/
theorem run_stub (m : Machine) (s : Signature) :
    (Publisher.getOrCreate s (pure ⟨s, m.stubs.created⟩)).run m.stubs =
      ((m.stub s).1, (m.stub s).2.stubs) := by
  rw [Publisher.run_getOrCreate]
  cases h : m.stubs.get? s with
  | some found => simp only [stub, h]
  | none =>
    simp only [stub, h]
    rfl

/-- The factory of a shared site adds one, whose position is published. -/
theorem run_sharedSite (m : Machine) (b : Binder) :
    (Publisher.getOrCreate b (pure m.sites.size)).run m.shared =
      ((m.sharedSite b).1, (m.sharedSite b).2.shared) := by
  rw [Publisher.run_getOrCreate]
  cases h : m.shared.get? b with
  | some id => simp only [sharedSite, h]
  | none =>
    simp only [sharedSite, h]
    rfl

/-- The site that is added is one of the binder. -/
theorem hosts_sharedSite (h : m.shared.get? b = none) :
    (m.sharedSite b).2.Hosts m.sites.size b := by
  simp only [sharedSite, h]
  exact hosts_addSite m (.ofBinder b)

/-- Every stub is one of its signature, and every shared site one of its binder. -/
structure Published (m : Machine) : Prop where
  stubs : ∀ s stub, m.stubs.get? s = some stub → stub.signature = s
  shared : ∀ b id, m.shared.get? b = some id → m.Hosts id b

namespace Published

/-- On a new machine nothing is published. -/
theorem new (main : Language) : Published { main := main } where
  stubs s stub h := by simp [Publisher.get?] at h
  shared b id h := by simp [Publisher.get?] at h

/-- Sites may be added where nothing new is shared. -/
theorem grows (h : m.Published) (hgrows : m.Grows n) (hstubs : n.stubs = m.stubs)
    (hshared : n.shared = m.shared) : n.Published where
  stubs := by
    rw [hstubs]
    exact h.stubs
  shared b id hid := by
    rw [hshared] at hid
    exact hgrows (h.shared b id hid)

/-- The stub of a signature is one of it, whether it was there or not. -/
theorem stub (h : m.Published) (s : Signature) :
    (m.stub s).1.signature = s ∧ (m.stub s).2.Published := by
  have hmade := Publisher.forall_getOrCreate (fun s (stub : Stub) => stub.signature = s) s
    ⟨s, m.stubs.created⟩ h.stubs fun _ => rfl
  rw [run_stub] at hmade
  obtain ⟨stubs, heq⟩ := m.frame_stub s
  refine ⟨hmade.1, hmade.2, ?_⟩
  rw [heq]
  exact h.shared

/-- The site of a binder is one of it, whether it was there or not. -/
theorem sharedSite (h : m.Published) (b : Binder) :
    (m.sharedSite b).2.Hosts (m.sharedSite b).1 b ∧ (m.sharedSite b).2.Published := by
  have hmade := Publisher.forall_getOrCreate (fun k id => (m.sharedSite b).2.Hosts id k) b
    m.sites.size (fun k id hid => m.grows_sharedSite b (h.shared k id hid)) hosts_sharedSite
  rw [run_sharedSite] at hmade
  obtain ⟨sites, shared, heq⟩ := m.frame_sharedSite b
  refine ⟨hmade.1, ?_, hmade.2⟩
  rw [heq]
  exact h.stubs

end Published

/-! ## Runs and uses -/

/-- What changes in a machine keeps everything published in its place. -/
theorem Changes.published (h : m.Changes n) (hm : m.Published) : n.Published := by
  cases h with
  | sharedSite b => exact (hm.sharedSite b).2
  | stub s => exact (hm.stub s).2
  | store hs => exact hm.grows (Changes.store hs).grows rfl rfl
  | site id hbinder => exact hm.grows (Changes.site id hbinder).grows rfl rfl
  | addSite s => exact hm.grows (grows_addSite m s) rfl rfl

/-- A run keeps everything published in its place. -/
theorem Evolves.published (h : m.Evolves n) (hm : m.Published) : n.Published := by
  induction h with
  | refl => exact hm
  | tail _ hstep ih => exact hstep.published ih

/-- One thing that is done with a machine from outside. -/
inductive Use (m : Machine) : Machine → Prop
  | request (caching : Caching) (depth : Nat) (request : Request) :
    Use m ((request.perform caching depth).run.run m).2
  | task (caching : Caching) (depth : Nat) (task : Task) :
    Use m ((run caching depth task).run.run m).2
  | delegate (l : Language) (v : Value) (s : Signature) : Use m ((l.delegate v s).run.run m).2
  /-- A call under a signature, as delegates perform it. -/
  | call (caching : Caching) (depth : Nat) (s : Signature) (binder : Binder) (site : Option Nat)
    (target : Value) (args : List Value) :
    Use m ((s.call (fun all => run caching depth (.invoke binder site all)) target
      args).run.run m).2
  | anchor (β : Binding) : Use m (m.anchor β).2
  | setField (id : Nat) (name : String) (v : Value) :
    Use m { m with store := m.store.setFields id ((m.store.fields id).set name false v) }
  | nameSite (name : String) (id : Nat) : Use m (m.nameSite name id)
  | speak (main : Language) : Use m { m with main := main }
  | sharedSite (b : Binder) : Use m (m.sharedSite b).2
  | stub (s : Signature) : Use m (m.stub s).2

/-- So does everything else that is done with a machine. -/
theorem Use.published (h : m.Use n) (hm : m.Published) : n.Published := by
  cases h with
  | request caching depth request =>
    have hleaves := request.leaves caching depth m
    generalize ((request.perform caching depth).run.run m).2 = n at hleaves ⊢
    cases hleaves with
    | openSite name binder capacity =>
      exact hm.grows (Machine.Tracks.grows_openSite m name binder capacity) rfl rfl
    | define name v => exact hm.grows (fun _ _ hosts => hosts) rfl rfl
    | evolves hevolves => exact hevolves.published hm
  | task caching depth task => exact (run_evolves caching depth task m).published hm
  | delegate l v s => exact (l.delegate_evolves v s m).published hm
  | call caching depth s binder site target args =>
    exact (s.call_evolves (fun all => run_evolves caching depth _) target args m).published hm
  | anchor β => exact (Evolves.anchor m β).published hm
  | setField id name v => exact (Changes.store (.set id name false v)).published hm
  | nameSite name id => exact hm.grows (fun _ _ hosts => hosts) rfl rfl
  | speak main => exact hm.grows (fun _ _ hosts => hosts) rfl rfl
  | sharedSite b => exact (hm.sharedSite b).2
  | stub s => exact (hm.stub s).2

/-- The machine comes from a new one by uses. -/
def Arises (m : Machine) : Prop := ∃ main : Language, ReflTransGen Use { main := main } m

/-- On every machine that arises, stubs and shared sites are in their place. -/
theorem Arises.published (h : m.Arises) : m.Published := by
  obtain ⟨main, h⟩ := h
  induction h with
  | refl => exact .new main
  | tail _ huse ih => exact huse.published ih

end Machine

/-! ## The promise -/

/-- **What is published is made once.**  A publisher is used in any way in which no call waits for
itself.  Then the factory of a key runs once at most, all calls for a key return the value that the
first of them made, a value is found exactly when a call for it has returned, and whenever no call
is in progress, as many factories have run as there are cells and keys that were asked for.

So the stub of a signature is one of that signature, and the shared site of a binder is one of that
binder, whatever was done with the machine before. -/
theorem Publisher.creates_once :
    (∀ (κ α β : Type) [DecidableEq κ] (program : Publisher.Program κ α β), program.Clear →
      ((program.log [] {}).getLast?.map Publisher.Entry.publisher).getD {} =
          (program.perform.run {}).2 ∧
        ∀ (earlier later : List (Publisher.Entry κ α)) (entry : Publisher.Entry κ α),
          program.log [] {} = earlier ++ entry :: later →
            Publisher.Lawful (earlier.map Publisher.Entry.event) entry) ∧
      ∀ m : Machine, m.Arises →
        (∀ s, (m.stub s).1.signature = s) ∧
          ∀ b, ((m.sharedSite b).2.site (m.sharedSite b).1).binder = b := by
  refine ⟨fun κ α β _ program hclear => program.all_lawful hclear, fun m hm => ?_⟩
  have hpublished := hm.published
  exact ⟨fun s => (hpublished.stub s).1, fun b => (hpublished.sharedSite b).1.site_eq.2⟩

/-- The factory of the first key asks for the second, and whether the first has a value; then the
first is asked for again. -/
def Publisher.nested : Publisher.Program Nat Nat Nat :=
  .create 1 (.create 2 (.done 20) fun v => .contains 1 fun known =>
    .done (if known then v else v + 1)) fun _ => .create 1 (.done 7) .done

/-- The second call for the first key returns what the first made, and runs no factory. -/
theorem Publisher.creates_once_nested :
    let s : Signature := ⟨.any, [.void]⟩
    let m := (({ main := default } : Machine).stub ⟨.any, []⟩).2
    Publisher.Lawful [.asked 1, .started 1, .asked 2, .started 2, .gave 2 20, .checked 1 false,
        .gave 1 21, .asked 1] ⟨.gave 1 21, [], ⟨[(1, some 21), (2, some 20)], 2⟩⟩ ∧
      (m.stub s).1.signature = s ∧ (m.stub s).1.serial = 1 := by
  intro s m
  have hclear : nested.Clear := by
    unfold Program.Clear
    decide
  have hlawful := (Publisher.creates_once.1 Nat Nat Nat nested hclear).2
    ((nested.log [] {}).take 8) [] ⟨.gave 1 21, [], ⟨[(1, some 21), (2, some 20)], 2⟩⟩ rfl
  have hm : m.Arises := ⟨default, .single (.stub _)⟩
  exact ⟨hlawful, (Publisher.creates_once.2 m hm).1 s, by decide⟩

end DynamicBinding
