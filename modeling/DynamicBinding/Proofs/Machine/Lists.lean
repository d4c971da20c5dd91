import DynamicBinding.Proofs.Machine.Builtins
/-!
# Lists are sequences of values

However lists are shared and nested, what a user of the script language does with builtin operands
treats each of them as a sequence of values.

* `Stage.Performs`: a stage performs one operation on one list, or it only makes things.
* `Stage.Replays`: the stages that are asked for operations on a list answer as a sequence answers
  on which the same operations are performed in turn, and after each of them the list holds what the
  sequence holds.
* `Client.lists_lawful`: this is so for every list, from the stage on that finds it, and nothing
  else ever changes a list or a field.
-/

namespace DynamicBinding

namespace Stage

variable {stage : Stage} {id depth : Nat}

/-- What is called, if anything, is an operation of the script language on builtin operands, and no
call of a function. -/
def OnBuiltins (stage : Stage) : Prop := ∀ asked ∈ stage.asked?, asked.1.OnBuiltins asked.2

instance : Decidable stage.OnBuiltins :=
  inferInstanceAs (Decidable (∀ asked ∈ stage.asked?, asked.1.OnBuiltins asked.2))

/-- The list on which the stage is asked to operate, and the operation. -/
def listOperation? (stage : Stage) : Option (Nat × ListAction) :=
  stage.asked?.bind fun asked => ListAction.of? asked.1 asked.2

/-- What the stage is asked to do to the list in the cell. -/
def listAction? (stage : Stage) (id : Nat) : Option ListAction :=
  stage.listOperation?.bind fun asked => if asked.1 = id then some asked.2 else none

/-! ## Stages -/

/-- The stage performs its operation on the list; it only makes things if there is none. -/
def Performs (stage : Stage) : Prop :=
  match stage.listOperation? with
  | some (id, action) => action.Runs id stage.before.store stage.answer stage.after.store
  | none =>
    ∀ given, stage.before.Closed given → stage.before.store.Extends given stage.after.store

/-- A call on builtin operands performs its operation on the list.  A stage without a call, or with
a call that is no operation on a list, only makes things. -/
theorem Sound.performs (h : stage.Sound (depth + 4)) (hon : stage.OnBuiltins) :
    stage.Performs := by
  unfold Performs listOperation?
  cases hasked : stage.asked? with
  | none => exact fun given hclosed => h.unasked hasked hclosed
  | some asked =>
    obtain ⟨binder, args⟩ := asked
    obtain ⟨-, n, hstore, -, hanswer, hafter, -⟩ := h.asked hasked
    have hperforms := (hon _ hasked).performs depth
    rw [hanswer, hafter, ← hstore]
    simp only [Option.bind_some]
    cases hof : ListAction.of? binder args with
    | some operation =>
      rw [hof] at hperforms
      exact (hperforms n).1
    | none =>
      rw [hof] at hperforms
      intro given hclosed
      refine (hperforms n given ?_).1
      rw [hstore]
      exact hclosed.store

/-- Seen from one list, the stage performs what it is asked to do to that list, and leaves it as it
is if it is asked for nothing. -/
def ActsOn (stage : Stage) (id : Nat) : Prop :=
  match stage.listAction? id with
  | some action =>
    stage.answer = (action.perform (stage.before.store.items id)).1.mapError .error ∧
      stage.after.store.items id = (action.perform (stage.before.store.items id)).2
  | none => stage.after.store.items id = stage.before.store.items id

namespace Performs

variable (h : stage.Performs)

include h

/-- Only the list in question can change, and as its operation says. -/
theorem actsOn (hid : id < stage.before.store.cells.size) : stage.ActsOn id := by
  unfold Performs at h
  unfold ActsOn listAction?
  split at h
  · next other action hoperation =>
    rw [hoperation, Option.bind_some]
    by_cases hother : other = id
    · subst hother
      rw [if_pos rfl]
      exact ⟨h.answer, h.items hid⟩
    · rw [if_neg hother]
      exact h.others id hother
  · next hoperation =>
    rw [hoperation]
    exact (h _ stage.before.closed_true).items hid

/-- No operation on lists touches the fields of an instance. -/
theorem fields (id : Nat) : stage.after.store.fields id = stage.before.store.fields id := by
  unfold Performs at h
  split at h
  · simp only [Store.fields, h.instances]
  · exact (h _ stage.before.closed_true).fields id

/-- No list goes away. -/
theorem size_le : stage.before.store.cells.size ≤ stage.after.store.cells.size := by
  unfold Performs at h
  split at h
  · exact Nat.le_of_eq h.size.symm
  · exact (h _ stage.before.closed_true).size_le

end Performs

/-- A list changes only through a writing operation on that list that succeeds. -/
theorem ActsOn.changes (h : stage.ActsOn id)
    (hne : stage.after.store.items id ≠ stage.before.store.items id) :
    ∃ action v, stage.listAction? id = some action ∧ action.writes = true ∧
      stage.answer = .ok v := by
  unfold ActsOn at h
  split at h
  · next action haction =>
    obtain ⟨hanswer, hitems⟩ := h
    rw [hitems] at hne
    obtain ⟨hwrites, v, hv⟩ := ListAction.perform_eq hne
    refine ⟨action, v, haction, hwrites, hanswer.trans ?_⟩
    simp [hv, Except.mapError]
  · exact (hne h).elim

/-! ## Courses -/

/-- The stages that are asked for operations on the list answer as the sequence does on which these
operations are performed in turn, and leave in the list what they leave of the sequence. -/
def Replays (id : Nat) (stages : List Stage) (xs : List Value) : Prop :=
  (stages.filterMap fun stage =>
      (stage.listAction? id).map fun _ => (stage.answer, stage.after.store.items id)) =
    (ListAction.trace (stages.filterMap fun stage => stage.listAction? id) xs).map fun done =>
      (done.1.mapError .error, done.2)

/-- What the first stage finds in the list is what the sequence begins with. -/
theorem replays {stages : List Stage} {xs : List Value}
    (hchain : stages.IsChain fun first second => second.before = first.after)
    (hperforms : ∀ stage ∈ stages, stage.Performs)
    (hfirst : ∀ first ∈ stages.head?,
      id < first.before.store.cells.size ∧ first.before.store.items id = xs) :
    Replays id stages xs := by
  induction stages generalizing xs with
  | nil => rfl
  | cons stage rest ih =>
    obtain ⟨hid, rfl⟩ := hfirst stage rfl
    obtain ⟨hnext, hchain⟩ := List.isChain_cons.1 hchain
    rw [List.forall_mem_cons] at hperforms
    obtain ⟨hperforms, hrest⟩ := hperforms
    have hlater : Replays id rest (stage.after.store.items id) :=
      ih hchain hrest fun next hhead => by
        rw [hnext next hhead]
        exact ⟨Nat.lt_of_lt_of_le hid hperforms.size_le, rfl⟩
    have hacts := hperforms.actsOn hid
    unfold ActsOn at hacts
    unfold Replays at hlater ⊢
    cases haction : stage.listAction? id with
    | none =>
      rw [haction] at hacts
      simp only [List.filterMap_cons, haction, Option.map_none]
      rwa [hacts] at hlater
    | some action =>
      rw [haction] at hacts
      simp only [List.filterMap_cons, haction, Option.map_some, ListAction.trace, List.map_cons]
      rw [← hacts.1, ← hacts.2, hlater]

end Stage

namespace Client

variable {client : Client} {m n : Machine} {depth : Nat}

/-- All stages perform their operations, from any machine that users leave. -/
theorem stages_perform (h : client.RecordFree) (htracks : m.Tracks n)
    (hon : ∀ stage ∈ client.stages (depth + 4) m, stage.OnBuiltins) :
    ∀ stage ∈ client.stages (depth + 4) m, stage.Performs := by
  have hinvariant := (client.forall_stages (p := fun _ => True) h htracks hon
    (fun _ _ _ _ => trivial) trivial).1
  exact fun stage hstage => (hinvariant stage hstage).1.performs (hon stage hstage)

/-- **Lists are sequences of values.**  After anything that a user did, any number of operations of
the script language are performed on builtin operands, and no function is called.

* From any stage on, every list that is there answers as a sequence of values does, beginning with
  what it holds at that stage.
* A list changes only at a stage that is asked for a writing operation on that very list and does
  not fail, and the fields of instances never do. -/
theorem lists_lawful (before client : Client) (hbefore : before.RecordFree)
    (hclient : client.RecordFree) (main : Language) (height depth : Nat)
    (hm : before.left height main = m)
    (hon : ∀ stage ∈ client.stages (depth + 4) m, stage.OnBuiltins) :
    (∀ earlier stage later, client.stages (depth + 4) m = earlier ++ stage :: later →
      ∀ id < stage.before.store.cells.size,
        Stage.Replays id (stage :: later) (stage.before.store.items id)) ∧
      ∀ stage ∈ client.stages (depth + 4) m,
        (∀ id < stage.before.store.cells.size,
          stage.after.store.items id ≠ stage.before.store.items id →
            ∃ action v, stage.listAction? id = some action ∧ action.writes = true ∧
              stage.answer = .ok v) ∧
        ∀ id, stage.after.store.fields id = stage.before.store.fields id := by
  obtain ⟨n, htracks⟩ := exists_tracks_left hbefore main height
  rw [hm] at htracks
  have hperforms := stages_perform hclient htracks hon
  refine ⟨fun earlier stage later heq id hid => ?_, fun stage hstage => ⟨fun id hid => ?_, ?_⟩⟩
  · have hchain := client.isChain_stages (depth + 4) m
    rw [heq] at hchain hperforms
    exact Stage.replays hchain.right_of_append
      (fun stage' h => hperforms stage' (List.mem_append_right _ h))
      fun first hfirst => by
        cases hfirst
        exact ⟨hid, rfl⟩
  · exact ((hperforms stage hstage).actsOn hid).changes
  · exact (hperforms stage hstage).fields

/-- A user who makes the list of a one. -/
def makingList : Client := inOrder [.make (.list [.int 1])]

/-- A user who puts a list into itself, reads it back, writes in place of it, and takes out more
than there is. -/
def knotting : Client :=
  inOrder
    [.openSite "append" ⟨.invokeMember "append" false 1, default⟩ 4,
      .openSite "read" ⟨.getIndex 1, default⟩ 4,
      .openSite "write" ⟨.named .setItem, default⟩ 4,
      .openSite "pop" ⟨.named (.other "pop"), default⟩ 4,
      .call "append" [.list 0, .list 0], .call "read" [.list 0, .int (-1)],
      .call "write" [.list 0, .bool true, .int 7], .call "pop" [.list 0], .call "pop" [.list 0],
      .call "pop" [.list 0]]

/-- The list of a one answers as that sequence does, also once it has been put into itself. -/
theorem lists_lawful_knotting :
    Stage.Replays 0 (knotting.stages 4 (makingList.left 4 default)) [.int 1] := by
  have hmaking : makingList.RecordFree := recordFree_inOrder (by simp [Request.RecordFree]; rfl)
  have hknotting : knotting.RecordFree := recordFree_inOrder (by
    simp [Request.RecordFree, RecordFreeArgs, Value.RecordFree, Value.isRecord])
  have hon : ∀ stage ∈ knotting.stages 4 (makingList.left 4 default), stage.OnBuiltins := by
    decide +kernel
  exact (lists_lawful makingList knotting hmaking hknotting default 4 0 rfl hon).1 [] _ _ rfl 0
    (show 0 < 1 by decide)

example :
    ListAction.trace [.append (.list 0), .read (-1), .write 1 (.int 7), .pop, .pop, .pop]
        [.int 1] =
      [(.ok .nothing, [.int 1, .list 0]), (.ok (.list 0), [.int 1, .list 0]),
        (.ok (.int 7), [.int 1, .int 7]), (.ok (.int 7), [.int 1]), (.ok (.int 1), []),
        (.error (.indexOutOfRange (-1) 0), [])] := by
  rfl

end Client

end DynamicBinding
