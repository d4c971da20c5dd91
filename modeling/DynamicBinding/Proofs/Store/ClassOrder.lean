import DynamicBinding.Proofs.Store.Changes
import DynamicBinding.Proofs.Store.RecordFree
/-!
# The order of classes

A class gets its members when it is completed, and they never change.  So its members are values
that were there before it, and a member that is a class or an instance refers to an older class.
Nothing that runs looks at that order, but calls can only go down in it.

* `Store.Built` tells how a store came by its classes.  Whatever happens to a store, it stays built
  as long as the members of new classes are on hand (`Store.Built.changes`).
* `Store.Built.member`: the members of a class refer to older classes only.
-/

namespace DynamicBinding

/-- The class that a value is, or is an instance of. -/
def Value.class? : Value → Option ClassRef
  | .object (.classObject c) | .object (.classInstance _ c) => some c
  | _ => none

namespace Store

variable {s t : Store} {v : Value} {c : ClassRef} {name : String} {ignoreCase : Bool}

/-- The value is no record, and its class, if it has one, is completed. -/
structure OnHand (s : Store) (v : Value) : Prop where
  recordFree : v.RecordFree
  completed : ∀ c, v.class? = some c → c.id < s.classes.size

/-- The classes of the store were completed one after the other, each with members that were on hand
then.  What else happens to a store leaves its classes alone. -/
inductive Built : Store → Prop
  | start : Built {}
  | build {s : Store} (h : Built s) (name : String) {members : MemberTable}
    (hmembers : ∀ entry ∈ members.entries, s.OnHand entry.2) : Built (s.makeClass name members).2
  | other {s t : Store} (h : Built s) (hclasses : t.classes = s.classes) : Built t

/-- A class that is completed has its members, and those before keep theirs. -/
theorem members_makeClass (s : Store) (name : String) (members : MemberTable) (c : ClassRef) :
    (s.makeClass name members).2.members c =
      if c.id = s.classes.size then members else s.members c := by
  simp only [makeClass, Store.members, Array.getD_eq_getD_getElem?, Array.getElem?_push]
  split <;> rfl

/-- Members depend on the classes of the store only. -/
theorem members_congr (h : t.classes = s.classes) (c : ClassRef) : t.members c = s.members c := by
  simp only [Store.members, h]

/-- A class with members is completed. -/
theorem lt_size_of_get? (h : (s.members c).get? name ignoreCase = some v) :
    c.id < s.classes.size := by
  rcases Nat.lt_or_ge c.id s.classes.size with hlt | hle
  · exact hlt
  · rw [Store.members, Array.getD_eq_getD_getElem?, Array.getElem?_eq_none hle] at h
    cases h

namespace Built

/-- **Members refer to older classes.** -/
theorem member (h : s.Built) (hget : (s.members c).get? name ignoreCase = some v) :
    v.RecordFree ∧ ∀ older, v.class? = some older → older.id < c.id := by
  induction h with
  | start => exact absurd (lt_size_of_get? hget) (Nat.not_lt_zero _)
  | @build s h _ members hmembers ih =>
    rw [members_makeClass] at hget
    split at hget
    · next hid =>
      obtain ⟨entry, hentry, rfl⟩ := Option.map_eq_some_iff.1 hget
      have honHand := hmembers entry (List.mem_of_find?_eq_some hentry)
      exact ⟨honHand.recordFree, fun older holder => hid ▸ honHand.completed older holder⟩
    · exact ih hget
  | other h hclasses ih =>
    rw [members_congr hclasses] at hget
    exact ih hget

/-- Of all changes, only the completion of a class matters. -/
theorem changes (h : s.Built) (hchange : s.Changes t)
    (hmembers : ∀ name members, t = (s.makeClass name members).2 →
      ∀ entry ∈ members.entries, s.OnHand entry.2) : t.Built := by
  cases hchange with
  | makes hmakes =>
    cases hmakes with
    | newClass name members => exact h.build name (hmembers name members rfl)
    | _ => exact h.other rfl
  | _ => exact h.other rfl

end Built

end Store

end DynamicBinding
