import DynamicBinding.Value.MemberTable
import Mathlib.Data.List.Chain
/-!
# The laws of member tables

A name with a regard of case addresses one entry of a table or none: the first one whose name
matches.  All routines of a table agree on that entry.

* `MemberTable.Addresses` says which entry it is and what stands before and after it, and
  `MemberTable.Lacks` that there is none; one of the two always holds (`addresses_or_lacks`).
* Under `Addresses`, reading gives the value of the entry, writing replaces its value and nothing
  else, and removing takes it out.  Under `Lacks`, reading finds nothing, writing adds an entry at
  the end, and there is nothing to remove.
* `MemberTable.age` counts for how many tables back a name has been there without interruption.
  Tables that change by writing and removing list their names from the oldest to the youngest
  (`pairwise_older`).
* `MemberTable.Apart`: no two names of the table match.  Exact matching never fails to tell the
  names of a table apart; matching that ignores case tells them apart as long as everything was
  written that way.
-/

namespace DynamicBinding.MemberTable

variable {t u : MemberTable} {name : String} {ignoreCase : Bool} {v w : Value} {key : String}
  {front back : List (String × Value)}

/-! ## Addressing -/

/-- The name addresses the entry of `key`, which is the first one that matches. -/
structure Addresses (t : MemberTable) (name : String) (ignoreCase : Bool)
    (front : List (String × Value)) (key : String) (v : Value) (back : List (String × Value)) :
    Prop where
  entries : t.entries = front ++ (key, v) :: back
  hit : Text.namesMatch name key ignoreCase = true
  first : ∀ entry ∈ front, Text.namesMatch name entry.1 ignoreCase = false

/-- The name addresses no entry. -/
def Lacks (t : MemberTable) (name : String) (ignoreCase : Bool) : Prop :=
  ∀ entry ∈ t.entries, Text.namesMatch name entry.1 ignoreCase = false

/-- A name addresses the first entry that matches, or none does. -/
theorem addresses_or_lacks (t : MemberTable) (name : String) (ignoreCase : Bool) :
    (∃ front key v back, t.Addresses name ignoreCase front key v back) ∨
      t.Lacks name ignoreCase := by
  cases hfind : t.entries.find? fun entry => Text.namesMatch name entry.1 ignoreCase with
  | some entry =>
    obtain ⟨hhit, front, back, hentries, hfirst⟩ := List.find?_eq_some_iff_append.1 hfind
    exact .inl ⟨front, entry.1, entry.2, back, hentries, hhit, by simpa using hfirst⟩
  | none => exact .inr (by simpa [Lacks] using hfind)

namespace Addresses

variable (h : t.Addresses name ignoreCase front key v back)

include h

/-- The place is the one after all entries in front. -/
theorem position? : t.position? name ignoreCase = some front.length := by
  rw [MemberTable.position?, List.findIdx?_eq_some_iff_getElem]
  refine ⟨by simp [h.entries], by simpa [h.entries] using h.hit, fun i hi => ?_⟩
  simp only [h.entries, List.getElem_append_left hi]
  simpa using h.first _ (List.getElem_mem hi)

/-- Reading gives the value that is addressed. -/
theorem get? : t.get? name ignoreCase = some v := by
  have hfind : t.entries.find? (fun entry => Text.namesMatch name entry.1 ignoreCase) =
      some (key, v) :=
    List.find?_eq_some_iff_append.2
      ⟨h.hit, front, back, h.entries, fun entry hentry => by simp [h.first entry hentry]⟩
  rw [MemberTable.get?, hfind, Option.map_some]

/-- Writing replaces the value and keeps the key and the place. -/
theorem set (w : Value) : t.set name ignoreCase w = ⟨front ++ (key, w) :: back⟩ := by
  simp only [MemberTable.set, h.position?, h.entries]
  congr 1
  rw [List.modify_eq_take_cons_drop (by simp)]
  simp

/-- Removing closes the gap. -/
theorem remove? : t.remove? name ignoreCase = some ⟨front ++ back⟩ := by
  simp only [MemberTable.remove?, h.position?, h.entries, Option.map_some]
  rw [List.eraseIdx_append_of_length_le (Nat.le_refl _)]
  simp

/-- After writing, the name addresses the same place. -/
theorem addresses_set (w : Value) :
    (t.set name ignoreCase w).Addresses name ignoreCase front key w back :=
  ⟨by rw [h.set w], h.hit, h.first⟩

end Addresses

namespace Lacks

variable (h : t.Lacks name ignoreCase)

include h

/-- A name that addresses nothing has no place. -/
theorem position? : t.position? name ignoreCase = none := by
  simpa [MemberTable.position?, Lacks] using h

/-- Nothing is read. -/
theorem get? : t.get? name ignoreCase = none := by
  simpa [MemberTable.get?, Lacks] using h

/-- Writing adds an entry at the end, under the name as it was written. -/
theorem set (w : Value) : t.set name ignoreCase w = ⟨t.entries ++ [(name, w)]⟩ := by
  simp only [MemberTable.set, h.position?]

/-- There is nothing to remove. -/
theorem remove? : t.remove? name ignoreCase = none := by
  simp only [MemberTable.remove?, h.position?, Option.map_none]

/-- After writing, the name addresses the last place. -/
theorem addresses_set (w : Value) :
    (t.set name ignoreCase w).Addresses name ignoreCase t.entries name w [] :=
  ⟨by rw [h.set w], Text.namesMatch_self name ignoreCase, h⟩

end Lacks

/-- What was written is read back. -/
theorem get?_set (t : MemberTable) (name : String) (ignoreCase : Bool) (w : Value) :
    (t.set name ignoreCase w).get? name ignoreCase = some w := by
  rcases t.addresses_or_lacks name ignoreCase with ⟨front, key, v, back, h⟩ | h
  · exact (h.addresses_set w).get?
  · exact (h.addresses_set w).get?

/-! ## Names -/

/-- Writing keeps all names in their order, and adds the written one at most. -/
theorem names_set (t : MemberTable) (name : String) (ignoreCase : Bool) (w : Value) :
    (t.set name ignoreCase w).names = t.names ∨
      (t.Lacks name ignoreCase ∧ (t.set name ignoreCase w).names = t.names ++ [name]) := by
  rcases t.addresses_or_lacks name ignoreCase with ⟨front, key, v, back, h⟩ | h
  · exact .inl (by simp [names, h.set w, h.entries])
  · exact .inr ⟨h, by simp [names, h.set w]⟩

/-- Removing keeps the order of the names that stay. -/
theorem names_remove? (h : t.remove? name ignoreCase = some u) : u.names.Sublist t.names := by
  obtain ⟨i, -, rfl⟩ := Option.map_eq_some_iff.1 h
  exact (List.eraseIdx_sublist _ i).map _

/-- No two names match. -/
def Apart (t : MemberTable) (ignoreCase : Bool) : Prop :=
  t.names.Pairwise fun a b => Text.namesMatch a b ignoreCase = false

/-- Names that match exactly are equal. -/
theorem apart_false_iff : t.Apart false ↔ t.names.Nodup := by
  simp [Apart, Text.namesMatch, List.Nodup]

/-- An empty table has no names. -/
theorem apart_empty (ignoreCase : Bool) : empty.Apart ignoreCase := List.Pairwise.nil

/-- A name that matches nothing when case is ignored matches nothing exactly. -/
theorem Lacks.exact (h : t.Lacks name true) : t.Lacks name false := by
  intro entry hentry
  have hne : name ≠ entry.1 := by
    rintro rfl
    simpa using h entry hentry
  simpa [Text.namesMatch] using hne

/-- Writing keeps names apart unless it tells apart more than they are. -/
theorem Apart.set {strict : Bool} (h : t.Apart strict) (hle : strict = true → ignoreCase = true)
    (name : String) (w : Value) : (t.set name ignoreCase w).Apart strict := by
  rcases t.names_set name ignoreCase w with hnames | ⟨hlacks, hnames⟩
  · rwa [Apart, hnames]
  · have hstrict : t.Lacks name strict := by
      cases strict with
      | true => exact hle rfl ▸ hlacks
      | false =>
        cases ignoreCase with
        | true => exact hlacks.exact
        | false => exact hlacks
    rw [Apart, hnames, List.pairwise_append]
    refine ⟨h, List.pairwise_singleton _ _, fun a ha b hb => ?_⟩
    obtain ⟨entry, hentry, rfl⟩ := List.mem_map.1 ha
    rw [List.mem_singleton.1 hb, Text.namesMatch_comm]
    exact hstrict entry hentry

/-- Removing keeps names apart. -/
theorem Apart.remove? {strict : Bool} (h : t.Apart strict)
    (hremove : t.remove? name ignoreCase = some u) : u.Apart strict :=
  List.Pairwise.sublist (names_remove? hremove) h

/-! ## The order of names -/

/-- For how many tables back a name has been there without interruption.  The last table comes
first. -/
def age (past : List MemberTable) (name : String) : Nat :=
  (past.takeWhile fun t => t.names.contains name).length

variable {start : MemberTable} {past : List MemberTable} {a b : String}

/-- A name that is there once more has been there for one table more. -/
theorem age_cons_of_mem (h : name ∈ t.names) : age (t :: past) name = age past name + 1 := by
  simp [age, h]

/-- The first name is there longer than the second, or both have always been there, in this
order. -/
def Older (start : MemberTable) (past : List MemberTable) (a b : String) : Prop :=
  age past b < age past a ∨
    (age past a = past.length ∧ age past b = past.length ∧ [a, b].Sublist start.names)

/-- Names that stay keep their order. -/
theorem Older.cons (h : Older start past a b) (ha : a ∈ t.names) (hb : b ∈ t.names) :
    Older start (t :: past) a b := by
  unfold Older
  rw [age_cons_of_mem ha, age_cons_of_mem hb, List.length_cons]
  rcases h with h | ⟨hage, hage', hstart⟩
  · exact .inl (Nat.succ_lt_succ h)
  · exact .inr ⟨by rw [hage], by rw [hage'], hstart⟩

/-- From the second table to the first, names go, or one name comes at the end. -/
def Shifts (u t : MemberTable) : Prop :=
  u.names.Sublist t.names ∨ ∃ name, name ∉ t.names ∧ u.names = t.names ++ [name]

/-- Writing adds one name at the end, or none. -/
theorem shifts_set (t : MemberTable) (name : String) (ignoreCase : Bool) (w : Value) :
    (t.set name ignoreCase w).Shifts t := by
  rcases t.names_set name ignoreCase w with hnames | ⟨hlacks, hnames⟩
  · exact .inl (hnames ▸ .refl _)
  · refine .inr ⟨name, fun hname => ?_, hnames⟩
    obtain ⟨entry, hentry, rfl⟩ := List.mem_map.1 hname
    simpa using hlacks entry hentry

/-- Where names only go or come at the end, they stand from the oldest to the youngest.  The tables
are told from the last one back to the start. -/
theorem pairwise_older (h : (t :: past).IsChain Shifts)
    (hstart : (t :: past).getLast (List.cons_ne_nil t past) = start) :
    t.names.Pairwise (Older start (t :: past)) := by
  induction past generalizing t with
  | nil =>
    obtain rfl : t = start := hstart
    rw [List.pairwise_iff_forall_sublist]
    intro a b hab
    have ha : a ∈ t.names := hab.subset (by simp)
    have hb : b ∈ t.names := hab.subset (by simp)
    exact .inr ⟨age_cons_of_mem ha, age_cons_of_mem hb, hab⟩
  | cons u past ih =>
    rw [List.isChain_cons_cons] at h
    have hlater := ih h.2 hstart
    -- names that were there before keep their order as they grow older
    have hkept : ∀ names : List String, names.Sublist u.names → (∀ n ∈ names, n ∈ t.names) →
        names.Pairwise (Older start (t :: u :: past)) := by
      intro names hnames hthere
      exact (hlater.sublist hnames).imp_of_mem fun ha hb hab => hab.cons (hthere _ ha) (hthere _ hb)
    rcases h.1 with hgone | ⟨name, hnew, hnames⟩
    · exact hkept t.names hgone fun _ hn => hn
    · have hold : ∀ n ∈ u.names, n ∈ t.names := by
        intro n hn
        rw [hnames]
        exact List.mem_append_left _ hn
      have hname : name ∈ t.names := by simp [hnames]
      rw [hnames, List.pairwise_append]
      refine ⟨hkept u.names (.refl _) hold, List.pairwise_singleton _ _, fun a ha b hb => .inl ?_⟩
      obtain rfl : b = name := List.mem_singleton.1 hb
      have hyoung : age (u :: past) b = 0 := by simp [age, hnew]
      rw [age_cons_of_mem hname, age_cons_of_mem (hold a ha), age_cons_of_mem ha, hyoung]
      omega

end DynamicBinding.MemberTable
