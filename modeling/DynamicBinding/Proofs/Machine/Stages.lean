import DynamicBinding.Proofs.Machine.Changes
import DynamicBinding.Proofs.Machine.Client
/-!
# The stages of what a user does

What a user does falls into stages: a request, its answer, and the machine before and after.  What
is claimed of sequences of operations is claimed of the stages of a user who asks for no others.

* `Client.stages` are the stages in their order; each begins where the one before it ended.
* `Request.leaves`: a request opens a site, or sets a variable, or has the machine evolve.
* `Client.run_leads`: the store changes from stage to stage by the steps of `Store.Changes` only.
* `Client.forall_stages` is the induction along the stages: an invariant of the machine that every
  stage preserves holds at each of them.
-/

namespace DynamicBinding

/-- A request of a user, its answer, and the machine before and after. -/
structure Stage where
  before : Machine
  request : Request
  answer : Answer
  after : Machine

/-- The stage of a request on a machine. -/
def Request.stage (depth : Nat) (m : Machine) (request : Request) : Stage :=
  let answered := (request.perform .kept depth).run.run m
  ⟨m, request, answered.1, answered.2⟩

/-- What the user does, stage by stage. -/
def Client.stages (depth : Nat) : Client → Machine → List Stage
  | .done, _ => []
  | .ask request next, m =>
    let stage := request.stage depth m
    stage :: (next stage.answer).stages depth stage.after

variable {m n : Machine}

/-! ## The machine that is left -/

/-- What a request leaves: another site, another variable, or what a run leaves. -/
inductive Request.Leaves (m : Machine) : Request → Machine → Prop
  | openSite (name : String) (binder : Binder) (capacity : Nat) :
    Leaves m (.openSite name binder capacity) (m.openSite name binder capacity)
  | define (name : String) (v : Value) : Leaves m (.define name v) (m.setVariable name v)
  | evolves {request : Request} {n : Machine} (h : m.Evolves n) : Leaves m request n

/-- A request leaves a site or a variable more, or what a run leaves. -/
theorem Request.leaves (caching : Caching) (depth : Nat) (request : Request) (m : Machine) :
    request.Leaves m ((request.perform caching depth).run.run m).2 := by
  cases request with
  | openSite name binder capacity => exact .openSite name binder capacity
  | make literal =>
    have hmakes : literal.make.Evolves := .of_makes fun m => literal.make_makes m
    exact .evolves (hmakes m)
  | define name v => exact .define name v
  | call name args =>
    simp only [perform, run_get_bind]
    split
    · exact .evolves (run_evolves caching depth _ m)
    · exact .evolves (.refl m)

/-! ## The store -/

/-- A request changes the store one thing after the other. -/
theorem Request.perform_leads (caching : Caching) (depth : Nat) (request : Request) (m : Machine) :
    m.store.Leads ((request.perform caching depth).run.run m).2.store := by
  have hleaves := request.leaves caching depth m
  generalize ((request.perform caching depth).run.run m).2 = n at hleaves ⊢
  cases hleaves with
  | evolves h => exact h.leads
  | _ => exact .refl m.store

/-- What a user does changes the store one thing after the other. -/
theorem Client.run_leads (caching : Caching) (depth : Nat) (client : Client) (m : Machine) :
    m.store.Leads (client.run caching depth m).2.store := by
  induction client generalizing m with
  | done => exact .refl m.store
  | ask request next ih => exact (request.perform_leads caching depth m).trans (ih _ _)

/-! ## Invariants -/

/-- What a user without records leaves goes along with a machine that keeps nothing, if what the
user found does. -/
theorem Client.exists_tracks_run {client : Client} (h : client.RecordFree) (depth : Nat)
    (htracks : m.Tracks n) : ∃ n, (client.run .kept depth m).2.Tracks n := by
  have hagree := run_agree (fun _ capacity => capacity) depth h htracks
  rw [resize_self] at hagree
  exact ⟨_, hagree.2⟩

/-- The stage begins on a machine that goes along with one that keeps nothing, and its request has
no record. -/
structure Stage.Sound (depth : Nat) (stage : Stage) : Prop where
  tracks : ∃ n, stage.before.Tracks n
  recordFree : stage.request.RecordFree
  stage_eq : stage = stage.request.stage depth stage.before

/-- An invariant of the machine that every stage preserves holds before and after each of them, and
at the end. -/
theorem Client.forall_stages {depth : Nat} {client : Client} {p : Machine → Prop} {q : Stage → Prop}
    (h : client.RecordFree) (htracks : m.Tracks n)
    (hq : ∀ stage ∈ client.stages depth m, q stage)
    (hstep : ∀ stage : Stage, stage.Sound depth → q stage → p stage.before → p stage.after)
    (hm : p m) :
    (∀ stage ∈ client.stages depth m, stage.Sound depth ∧ p stage.before ∧ p stage.after) ∧
      p (client.run .kept depth m).2 := by
  induction client generalizing m n with
  | done => exact ⟨fun stage hstage => (nomatch hstage), hm⟩
  | ask request next ih =>
    simp only [stages, List.forall_mem_cons] at hq ⊢
    have hagree := request.perform_agree (fun _ capacity => capacity) depth h.1 htracks
    rw [request.resize_self] at hagree
    have hsound : (request.stage depth m).Sound depth := ⟨⟨n, htracks⟩, h.1, rfl⟩
    have hafter := hstep _ hsound hq.1 hm
    obtain ⟨hrest, hend⟩ := ih _ (h.2 _ fun v hv => hagree.good hv) hagree.tracks hq.2 hafter
    exact ⟨⟨⟨hsound, hm, hafter⟩, hrest⟩, hend⟩

/-- Each stage begins where the one before it ended. -/
theorem Client.isChain_stages (client : Client) (depth : Nat) (m : Machine) :
    (client.stages depth m).IsChain fun first second => second.before = first.after := by
  induction client generalizing m with
  | done => exact .nil
  | ask request next ih =>
    have hrest := ih (request.stage depth m).answer (request.stage depth m).after
    simp only [stages]
    cases hnext : next (request.stage depth m).answer with
    | done => exact .singleton _
    | ask request' next' =>
      rw [hnext] at hrest
      exact .cons_cons rfl hrest

/-- A user whose requests do not depend on the answers. -/
def Client.inOrder (requests : List Request) : Client :=
  requests.foldr (fun request rest => .ask request fun _ => rest) .done

/-- Without records in any request, there are none in all of them in order. -/
theorem Client.recordFree_inOrder {requests : List Request} (h : ∀ r ∈ requests, r.RecordFree) :
    (inOrder requests).RecordFree := by
  induction requests with
  | nil => trivial
  | cons request rest ih =>
    rw [List.forall_mem_cons] at h
    exact ⟨h.1, fun _ _ => ih h.2⟩

/-- What all stages do to a part of the store, told from the end back to the beginning and beyond,
if each of them moves it by a relation. -/
theorem Client.exists_past {α : Type} (f : Store → α) {r : α → α → Prop} {depth : Nat}
    {client : Client}
    (hr : ∀ stage ∈ client.stages depth m, r (f stage.after.store) (f stage.before.store))
    {past : List α} (hpast : (f m.store :: past).IsChain r) :
    ∃ older, ((client.stages depth m).map fun stage => f stage.after.store).reverse ++
        f m.store :: past = f (client.run .kept depth m).2.store :: older ∧
      (f (client.run .kept depth m).2.store :: older).IsChain r := by
  induction client generalizing m past with
  | done => exact ⟨past, rfl, hpast⟩
  | ask request next ih =>
    simp only [stages, List.forall_mem_cons] at hr
    obtain ⟨older, htold, hchain⟩ := ih _ hr.2 (.cons_cons hr.1 hpast)
    refine ⟨older, ?_, hchain⟩
    simp only [stages, List.map_cons, List.reverse_cons, List.append_assoc]
    exact htold

/-! ## Calls -/

section Calls

variable {name : String} {id depth : Nat} {args : List Value}

/-- A call by the name of a site is a run of its operation through the site. -/
theorem Request.perform_call (caching : Caching) (h : m.siteNames.lookup name = some id) :
    ((Request.call name args).perform caching depth).run.run m =
      (run caching depth (.invoke (m.site id).binder (some id) args)).run.run m := by
  simp only [perform, run_get_bind, h]

/-- A call by a name that no site has is an error, and changes nothing. -/
theorem Request.perform_call_unknown (caching : Caching) (h : m.siteNames.lookup name = none) :
    ((Request.call name args).perform caching depth).run.run m =
      (.error (.error (.raised ("unknown site '" ++ name ++ "'"))), m) := by
  simp only [perform, run_get_bind, h]
  rfl

end Calls

namespace Stage

/-- The binder of the site that is called, and the arguments.  There are none where the request is
no call, or there is no site of the name. -/
def asked? (stage : Stage) : Option (Binder × List Value) :=
  match stage.request with
  | .call name args =>
    (stage.before.siteNames.lookup name).map fun id => ((stage.before.site id).binder, args)
  | _ => none

variable {depth : Nat} {stage : Stage}

namespace Sound

variable (h : stage.Sound depth)

include h

/-- The answer is what performing the request comes to. -/
theorem answer_eq :
    stage.answer = ((stage.request.perform .kept depth).run.run stage.before).1 :=
  congrArg Stage.answer h.stage_eq

/-- What is left is what performing the request leaves. -/
theorem after_eq : stage.after = ((stage.request.perform .kept depth).run.run stage.before).2 :=
  congrArg Stage.after h.stage_eq

/-- The store changes one thing after the other. -/
theorem leads : stage.before.store.Leads stage.after.store := by
  rw [h.after_eq]
  exact stage.request.perform_leads .kept depth stage.before

/-- A call comes to what it comes to on a machine that keeps nothing and has the same store and the
same variables. -/
theorem asked {binder : Binder} {args : List Value} (hasked : stage.asked? = some (binder, args)) :
    RecordFreeArgs args ∧
      ∃ n : Machine, n.store = stage.before.store ∧ n.globals = stage.before.globals ∧
        stage.answer = ((run .fresh depth (.invoke binder none args)).run.run n).1 ∧
          stage.after.store = ((run .fresh depth (.invoke binder none args)).run.run n).2.store ∧
          stage.after.globals =
            ((run .fresh depth (.invoke binder none args)).run.run n).2.globals := by
  have hanswer := h.answer_eq
  have hafter := h.after_eq
  obtain ⟨⟨n, htracks⟩, hfree, -⟩ := h
  unfold asked? at hasked
  split at hasked
  · next name args' hrequest =>
    obtain ⟨id, hid, hcall⟩ := Option.map_eq_some_iff.1 hasked
    cases hcall
    rw [hrequest] at hanswer hafter hfree
    have hsite : ∀ other, some id = some other →
        stage.before.Hosts other (stage.before.site id).binder := by
      rintro other ⟨⟩
      rcases htracks.named name with ⟨hnone, -⟩ | ⟨id₁, -, binder, hid₁, hosts, -, -⟩
      · rw [hid] at hnone
        cases hnone
      · rw [hid] at hid₁
        cases hid₁
        rwa [hosts.site_eq.2]
    have hagree := run_agree depth htracks (.invoke none hsite hfree)
    rw [Request.perform_call .kept hid] at hanswer hafter
    refine ⟨hfree, n, htracks.store_eq, htracks.globals_eq, hanswer.trans hagree.same, ?_, ?_⟩
    · rw [hafter, hagree.tracks.store_eq]
    · rw [hafter, hagree.tracks.globals_eq]
  · cases hasked

/-- Where nothing is called, things are only made. -/
theorem unasked (hasked : stage.asked? = none) {given : Value → Prop}
    (hclosed : stage.before.Closed given) :
    stage.before.store.Extends given stage.after.store := by
  rw [h.after_eq]
  unfold asked? at hasked
  split at hasked
  · next name args hrequest =>
    rw [hrequest, Request.perform_call_unknown .kept (Option.map_eq_none_iff.1 hasked)]
    exact .refl _
  · next hcall =>
    cases hrequest : stage.request with
    | openSite name binder capacity => exact .refl _
    | make literal =>
      obtain ⟨s, hleft, hextends, -⟩ := literal.make_makes stage.before hclosed
      simp only [Request.perform, hleft]
      exact hextends
    | define name v => exact .refl _
    | call name args => exact (hcall name args hrequest).elim

end Sound

end Stage

end DynamicBinding
