import DynamicBinding.Proofs.Site.Reached
/-!
# What goes on at a site

A call is looked up when it comes in, and what was resolved for it is installed when it ends.  In
between the same site may be called again, and again, before the first call ends.  So what happens
at a site is a sequence of events, `Site.Event`, and what they do to it depends on the calls that
are going on, which `Site.Activity` keeps as a stack.

* `Site.Activity.accounts_run`: whatever happens, and at every moment, the bindings fit in and have
  different guards, and the counters account for the calls that were let in.
* `Site.Moment` is an event with the site that it left, and `Site.Activity.Leads` says of a sequence
  of moments that it is what the events make of the site.
* `Site.OneByOne` says that calls end before the next one comes in.  Such calls take nothing but
  `Site.serve`, and then the counters account for every binding (`Site.Settled.foldl_serve`).
-/

namespace DynamicBinding

namespace Binding.ResolvedFor

variable {β : Binding} {binder : Binder} {args : List Value}

/-- A binding has the guard that resolution makes for its arguments. -/
theorem guard_eq (h : β.ResolvedFor binder args) : β.guard = (binder.resolve args).guard := by
  rw [← h.siteless_eq]
  rfl

/-- A binding that was resolved for the arguments applies to them. -/
theorem applies (h : β.ResolvedFor binder args) : β.applies args = true := by
  show β.guard.passes args = true
  rw [h.guard_eq]
  exact binder.resolve_applies h.recordFree h.accepts

end Binding.ResolvedFor

namespace Site

/-! ## Events -/

/-- What happens at a site. -/
inductive Event where
  /-- A call with a number of arguments that the site does not take. -/
  | refusal (args : List Value)
  /-- A call that is let in, and the binding that is resolved for it unless there is one already. -/
  | call (args : List Value) (resolved : Binding)
  /-- The last of the calls that are going on ends. -/
  | finish

namespace Event

/-- The call was turned away. -/
def isRefusal : Event → Bool
  | .refusal _ => true
  | _ => false

/-- The call was let in. -/
def isCall : Event → Bool
  | .call _ _ => true
  | _ => false

/-- The arguments of a call that is let in, and what is resolved for it. -/
def call? : Event → Option (List Value × Binding)
  | .call args resolved => some (args, resolved)
  | _ => none

/-- A call that ends before anything else happens. -/
def served (call : List Value × Binding) : List Event := [.call call.1 call.2, .finish]

end Event

/-- The calls that are let in, in their order. -/
def calls (events : List Event) : List (List Value × Binding) := events.filterMap Event.call?

/-- No call is let in while another one is going on. -/
def OneByOne (events : List Event) : Prop :=
  events.filter (!·.isRefusal) = (calls events).flatMap Event.served

/-- A site and the calls that are going on, the last one first.  Each that missed has the binding
that it installs at its end. -/
structure Activity where
  site : Site
  pending : List (Option Binding) := []

namespace Activity

/-- What an event does. -/
def step (a : Activity) : Event → Activity
  | .refusal _ => a
  | .call args resolved =>
    match a.site.lookup? args with
    | some (_, found) => ⟨found.countHit, none :: a.pending⟩
    | none => ⟨a.site.countMiss, some resolved :: a.pending⟩
  | .finish =>
    match a.pending with
    | [] => a
    | none :: others => ⟨a.site, others⟩
    | some resolved :: others => ⟨a.site.install resolved, others⟩

/-- What events do one after the other. -/
def run (a : Activity) (events : List Event) : Activity := events.foldl step a

/-- How many of the calls that are going on will install a binding. -/
def owed (a : Activity) : Nat := a.pending.countP (·.isSome)

/-- Where nothing happens the site stays. -/
@[simp] theorem run_nil (a : Activity) : a.run [] = a := rfl

/-- Events happen one after the other. -/
@[simp] theorem run_cons (a : Activity) (e : Event) (events : List Event) :
    a.run (e :: events) = (a.step e).run events := rfl

/-- What happens later happens to what is left. -/
theorem run_append (a : Activity) (events more : List Event) :
    a.run (events ++ more) = (a.run events).run more := List.foldl_append

end Activity

/-! ## Accounts -/

/-- The bindings fit in and have different guards, and the counters account for the calls and for
the bindings that were dropped, are there, or are still to come. -/
structure Accounts (s : Site) (calls owed : Nat) : Prop where
  bounded : s.bindings.length ≤ s.capacity
  distinct : s.bindings.Pairwise fun β γ => β.guard ≠ γ.guard
  counted : s.hits + s.misses = calls
  covered : s.bindings.length + s.evictions + owed ≤ s.misses

variable {s found : Site} {β γ : Binding} {args : List Value} {n owed : Nat}

/-- A new site owes nothing. -/
theorem Accounts.new (binder : Binder) (capacity : Nat) :
    (withCapacity binder capacity).Accounts 0 0 where
  bounded := Nat.zero_le _
  distinct := List.Pairwise.nil
  counted := rfl
  covered := Nat.le_refl _

/-- What is dropped for want of room is counted. -/
theorem length_trim_add_evictions (s : Site) :
    s.trim.bindings.length + s.trim.evictions = s.bindings.length + s.evictions := by
  have hlength : s.trim.bindings.length = min s.capacity s.bindings.length := List.length_take
  have hevictions : s.trim.evictions = s.evictions + (s.bindings.length - s.capacity) := rfl
  omega

/-- After an installation there is the new binding and what is left of the others. -/
theorem length_install_add_evictions (s : Site) (β : Binding) :
    (s.install β).bindings.length + (s.install β).evictions =
      (s.bindings.eraseP (·.guard == β.guard)).length + 1 + s.evictions := by
  rw [install_eq, length_trim_add_evictions]
  rfl

/-- A hit only reorders the bindings. -/
theorem lookup?_frame (h : s.lookup? args = some (β, found)) :
    found = { s with bindings := found.bindings } := by
  simp only [lookup?, Option.bind_eq_bind, Option.bind_eq_some_iff] at h
  obtain ⟨i, -, γ, -, h⟩ := h
  cases h
  rfl

namespace Accounts

/-- A hit is counted. -/
theorem hit (h : s.Accounts n owed) (hlookup : s.lookup? args = some (β, found)) :
    found.countHit.Accounts (n + 1) owed := by
  obtain ⟨-, -, -, hperm⟩ := lookup?_eq_some hlookup
  have hlength := hperm.length_eq
  have hcounted := h.counted
  rw [lookup?_frame hlookup]
  refine ⟨?_, (hperm.pairwise_iff fun h => Ne.symm h).2 h.distinct, ?_, ?_⟩
  · show found.bindings.length ≤ s.capacity
    rw [hlength]
    exact h.bounded
  · show s.hits + 1 + s.misses = n + 1
    omega
  · show found.bindings.length + s.evictions + owed ≤ s.misses
    rw [hlength]
    exact h.covered

/-- A miss is counted, and a binding is to come. -/
theorem miss (h : s.Accounts n owed) : s.countMiss.Accounts (n + 1) (owed + 1) := by
  obtain ⟨hbounded, hdistinct, hcounted, hcovered⟩ := h
  refine ⟨hbounded, hdistinct, ?_, ?_⟩
  · show s.hits + (s.misses + 1) = n + 1
    omega
  · show s.bindings.length + s.evictions + (owed + 1) ≤ s.misses + 1
    omega

/-- A binding that was to come is there, or has been dropped. -/
theorem install (h : s.Accounts n (owed + 1)) (β : Binding) : (s.install β).Accounts n owed where
  bounded := length_bindings_install_le s β
  distinct := (bindings_install h.distinct β).2
  counted := h.counted
  covered := by
    have hothers : (s.bindings.eraseP (·.guard == β.guard)).length ≤ s.bindings.length :=
      List.eraseP_sublist.length_le
    have hlength := length_install_add_evictions s β
    have hcovered := h.covered
    have hmisses : (s.install β).misses = s.misses := rfl
    omega

/-- Fewer bindings may be to come. -/
theorem of_le {fewer : Nat} (h : s.Accounts n owed) (hle : fewer ≤ owed) :
    s.Accounts n fewer where
  bounded := h.bounded
  distinct := h.distinct
  counted := h.counted
  covered := by
    have hcovered := h.covered
    omega

end Accounts

namespace Activity

variable {a b c : Activity}

/-- No event changes the capacity. -/
theorem capacity_step (a : Activity) (e : Event) :
    (a.step e).site.capacity = a.site.capacity := by
  obtain ⟨s, pending⟩ := a
  cases e with
  | refusal args => rfl
  | call args resolved =>
    cases hlookup : s.lookup? args with
    | some hit =>
      simp only [step, hlookup]
      rw [lookup?_frame hlookup]
      rfl
    | none =>
      simp only [step, hlookup]
      rfl
  | finish =>
    match pending with
    | [] => rfl
    | none :: _ => rfl
    | some _ :: _ => rfl

/-- The capacity is that of the beginning. -/
theorem capacity_run (a : Activity) (events : List Event) :
    (a.run events).site.capacity = a.site.capacity := by
  induction events generalizing a with
  | nil => rfl
  | cons e rest ih => exact (ih (a.step e)).trans (a.capacity_step e)

/-- Whatever happens next, the accounts stay right. -/
theorem accounts_step (h : a.site.Accounts n a.owed) (e : Event) :
    (a.step e).site.Accounts (n + if e.isCall then 1 else 0) (a.step e).owed := by
  obtain ⟨s, pending⟩ := a
  cases e with
  | refusal args => exact h
  | call args resolved =>
    cases hlookup : s.lookup? args with
    | some hit =>
      obtain ⟨β, found⟩ := hit
      have howed : (⟨found.countHit, none :: pending⟩ : Activity).owed = owed ⟨s, pending⟩ := rfl
      simp only [step, hlookup, howed]
      exact h.hit hlookup
    | none =>
      have howed : (⟨s.countMiss, some resolved :: pending⟩ : Activity).owed =
          owed ⟨s, pending⟩ + 1 := by
        simp [owed]
      simp only [step, hlookup, howed]
      exact h.miss
  | finish =>
    match pending, h with
    | [], h => exact h
    | none :: others, h => exact h
    | some resolved :: others, h =>
      have howed : (⟨s, some resolved :: others⟩ : Activity).owed = owed ⟨s, others⟩ + 1 := by
        simp [owed]
      rw [howed] at h
      exact h.install resolved

/-- **The accounts are right** after whatever happened, calls within calls included. -/
theorem accounts_run (h : a.site.Accounts n a.owed) (events : List Event) :
    (a.run events).site.Accounts (n + events.countP (·.isCall)) (a.run events).owed := by
  induction events generalizing a n with
  | nil => exact h
  | cons e rest ih =>
    have hrest := ih (accounts_step h e)
    have hcount : n + (e :: rest).countP (·.isCall) =
        n + (if e.isCall then 1 else 0) + rest.countP (·.isCall) := by
      rw [List.countP_cons]
      omega
    rw [hcount]
    exact hrest

/-- From a new site on the accounts are right, whatever is still to come. -/
theorem accounts_new (binder : Binder) (capacity : Nat) (events : List Event) :
    (run ⟨.withCapacity binder capacity, []⟩ events).site.Accounts
      (events.countP (·.isCall)) 0 := by
  have hrun := accounts_run (a := ⟨.withCapacity binder capacity, []⟩)
    (Accounts.new binder capacity) events
  rw [Nat.zero_add] at hrun
  exact hrun.of_le (Nat.zero_le _)

end Activity

/-! ## Moments -/

/-- An event and the site that it left. -/
structure Moment where
  event : Event
  site : Site

/-- The site after some moments. -/
def siteAfter (s : Site) (moments : List Moment) : Site :=
  moments.getLast?.elim s Moment.site

namespace Activity

/-- The moments are what their events do to the site, one after the other. -/
inductive Leads : Activity → List Moment → Activity → Prop
  | nil (a : Activity) : Leads a [] a
  | cons {a b : Activity} (e : Event) {rest : List Moment} (h : Leads (a.step e) rest b) :
    Leads a (⟨e, (a.step e).site⟩ :: rest) b

namespace Leads

variable {a b c : Activity} {moments more : List Moment}

/-- One event leads to one moment. -/
theorem single (a : Activity) (e : Event) : Leads a [⟨e, (a.step e).site⟩] (a.step e) :=
  .cons e (.nil _)

/-- Moments go on from where the last ones led. -/
theorem append (h : Leads a moments b) (h' : Leads b more c) : Leads a (moments ++ more) c := by
  induction h with
  | nil => exact h'
  | cons e _ ih => exact .cons e (ih h')

/-- The moments up to some point and those from there on. -/
theorem split {passed : List Moment} (h : Leads a (passed ++ more) c) :
    ∃ b, Leads a passed b ∧ Leads b more c := by
  induction passed generalizing a with
  | nil => exact ⟨a, .nil a, h⟩
  | cons moment rest ih =>
    cases h with
    | cons e h =>
      obtain ⟨b, hb, hc⟩ := ih h
      exact ⟨b, .cons e hb, hc⟩

/-- The moments say what the events have done. -/
theorem eq_run (h : Leads a moments b) : b = a.run (moments.map (·.event)) := by
  induction h with
  | nil => rfl
  | cons e _ ih => exact ih

/-- The site after the last moment is the one that is left. -/
theorem siteAfter_eq (h : Leads a moments b) : siteAfter a.site moments = b.site := by
  induction h with
  | nil => rfl
  | @cons a b e rest h ih =>
    cases rest with
    | nil =>
      cases h
      rfl
    | cons moment others =>
      rw [← ih]
      rfl

end Leads

end Activity

/-! ## One call after the other -/

/-- A call that ends before anything else happens. -/
def serve (s : Site) (call : List Value × Binding) : Site :=
  match s.lookup? call.1 with
  | some (_, found) => found.countHit
  | none => s.countMiss.install call.2

/-- The calls of some events and of more are those of both. -/
theorem calls_append (events more : List Event) :
    calls (events ++ more) = calls events ++ calls more := List.filterMap_append

/-- Serving calls shows those calls. -/
theorem calls_flatMap_served (served : List (List Value × Binding)) :
    calls (served.flatMap Event.served) = served := by
  induction served with
  | nil => rfl
  | cons call rest ih =>
    rw [List.flatMap_cons, calls_append, ih]
    rfl

/-- There are as many events of a call as there are calls. -/
theorem countP_isCall (events : List Event) :
    events.countP (·.isCall) = (calls events).length := by
  induction events with
  | nil => rfl
  | cons e rest ih =>
    cases e with
    | call args resolved => exact (List.countP_cons_of_pos rfl).trans (congrArg (· + 1) ih)
    | _ => exact (List.countP_cons_of_neg Bool.false_ne_true).trans ih

/-- Calls that end before anything else happens come one after the other. -/
theorem oneByOne_flatMap_served (served : List (List Value × Binding)) :
    OneByOne (served.flatMap Event.served) := by
  rw [OneByOne, calls_flatMap_served, List.filter_eq_self]
  intro e he
  obtain ⟨call, -, he⟩ := List.mem_flatMap.1 he
  rcases List.mem_cons.1 he with rfl | he
  · rfl
  · obtain rfl := List.mem_singleton.1 he
    rfl

namespace Activity

/-- A call that is over before anything else leaves what serving it leaves. -/
theorem run_served (a : Activity) (call : List Value × Binding) :
    a.run (Event.served call) = ⟨a.site.serve call, a.pending⟩ := by
  simp only [Event.served, run_cons, run_nil, step, serve]
  cases a.site.lookup? call.1 with
  | some hit => rfl
  | none => rfl

/-- Calls that are turned away leave nothing behind. -/
theorem run_filter_isRefusal (a : Activity) (events : List Event) :
    a.run (events.filter (!·.isRefusal)) = a.run events := by
  induction events generalizing a with
  | nil => rfl
  | cons e rest ih =>
    cases e with
    | refusal args => exact ih a
    | _ => exact ih _

/-- Serving calls one after the other is one step each. -/
theorem run_flatMap_served (a : Activity) (calls : List (List Value × Binding)) :
    a.run (calls.flatMap Event.served) = ⟨calls.foldl serve a.site, a.pending⟩ := by
  induction calls generalizing a with
  | nil => rfl
  | cons call rest ih =>
    rw [List.flatMap_cons, run_append, run_served, ih]
    rfl

/-- If no call comes in before the last one has ended, then the site serves one after the
other. -/
theorem run_oneByOne {events : List Event} (h : OneByOne events) (a : Activity) :
    a.run events = ⟨(calls events).foldl serve a.site, a.pending⟩ := by
  rw [← run_filter_isRefusal, h, run_flatMap_served]

end Activity

/-- The site is sound, and every miss left a binding that is there or was dropped. -/
structure Settled (s : Site) : Prop where
  sound : s.Sound
  bounded : s.bindings.length ≤ s.capacity
  balanced : s.bindings.length + s.evictions = s.misses

/-- A new site has missed nothing. -/
theorem Settled.new (binder : Binder) (capacity : Nat) : (withCapacity binder capacity).Settled where
  sound := (Reached.new binder capacity).sound
  bounded := Nat.zero_le _
  balanced := rfl

namespace Sound

/-- What applies to the arguments are the bindings of the guard that resolution makes of them. -/
theorem applies_iff (h : s.Sound) (hβ : β.ResolvedFor s.binder args) (hγ : γ ∈ s.bindings) :
    γ.applies args = true ↔ γ.guard = β.guard := by
  constructor
  · intro happlies
    have hsiteless := h.siteless_of_applies hβ.recordFree hγ happlies
    rw [← hβ.siteless_eq] at hsiteless
    have hguard : γ.siteless.guard = β.siteless.guard := congrArg Binding.guard hsiteless
    exact hguard
  · intro hguard
    show γ.guard.passes args = true
    rw [hguard]
    exact hβ.applies

/-- A miss means that there is no binding of the guard yet. -/
theorem guard_ne_of_lookup? (h : s.Sound) (hβ : β.ResolvedFor s.binder args)
    (hlookup : s.lookup? args = none) : ∀ γ ∈ s.bindings, γ.guard ≠ β.guard := by
  intro γ hγ hguard
  have hnone := map_fst_lookup? s args
  rw [hlookup, Option.map_none, eq_comm, List.find?_eq_none] at hnone
  exact hnone γ hγ ((h.applies_iff hβ hγ).2 hguard)

end Sound

/-- Serving a call changes neither the binder nor the capacity. -/
theorem serve_frame (s : Site) (call : List Value × Binding) :
    (s.serve call).binder = s.binder ∧ (s.serve call).capacity = s.capacity := by
  unfold serve
  split
  · next γ found hlookup =>
    rw [lookup?_frame hlookup]
    exact ⟨rfl, rfl⟩
  · exact ⟨rfl, rfl⟩

/-- However many calls are served, the binder stays. -/
theorem binder_foldl_serve (s : Site) (calls : List (List Value × Binding)) :
    (calls.foldl serve s).binder = s.binder := by
  induction calls generalizing s with
  | nil => rfl
  | cons call rest ih => exact (ih (s.serve call)).trans (s.serve_frame call).1

namespace Settled

variable {calls : List (List Value × Binding)}

/-- A call that ends at once leaves the site settled: a miss brings in a binding with a new
guard. -/
theorem serve (h : s.Settled) (hβ : β.ResolvedFor s.binder args) :
    (s.serve (args, β)).Settled := by
  obtain ⟨hsound, hbounded, hbalanced⟩ := h
  cases hlookup : s.lookup? args with
  | some hit =>
    obtain ⟨γ, found⟩ := hit
    obtain ⟨-, -, hbinder, hperm⟩ := lookup?_eq_some hlookup
    have hlength := hperm.length_eq
    have hsite := lookup?_frame hlookup
    have hserve : s.serve (args, β) = found.countHit := by simp only [Site.serve, hlookup]
    rw [hserve]
    refine ⟨hsound.of_perm hbinder hperm, ?_, ?_⟩
    · rw [hsite]
      show found.bindings.length ≤ s.capacity
      omega
    · rw [hsite]
      show found.bindings.length + s.evictions = s.misses
      omega
  | none =>
    have hserve : s.serve (args, β) = s.countMiss.install β := by
      simp only [Site.serve, hlookup]
    have hothers : s.bindings.eraseP (·.guard == β.guard) = s.bindings := by
      apply List.eraseP_of_forall_not
      intro γ hγ
      simpa using hsound.guard_ne_of_lookup? hβ hlookup γ hγ
    have hlength := length_install_add_evictions s.countMiss β
    have hsound' : s.countMiss.Sound := hsound.of_perm rfl (List.Perm.refl _)
    rw [hserve]
    refine ⟨hsound'.install hβ, length_bindings_install_le _ β, ?_⟩
    rw [hlength]
    show (s.bindings.eraseP (·.guard == β.guard)).length + 1 + s.evictions = s.misses + 1
    rw [hothers]
    omega

/-- **Every miss brings in one binding**, as long as calls come one after the other. -/
theorem foldl_serve (h : s.Settled) (hcalls : ∀ call ∈ calls, call.2.ResolvedFor s.binder call.1) :
    (calls.foldl Site.serve s).Settled := by
  induction calls generalizing s with
  | nil => exact h
  | cons call rest ih =>
    rw [List.forall_mem_cons] at hcalls
    refine ih (h.serve hcalls.1) ?_
    rw [(serve_frame s call).1]
    exact hcalls.2

end Settled

end Site

end DynamicBinding
