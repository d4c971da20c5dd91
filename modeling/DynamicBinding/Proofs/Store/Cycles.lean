import DynamicBinding.Proofs.Store.Changes
import DynamicBinding.Value.Display
import DynamicBinding.Value.Equality
import Mathlib.Data.Set.Card
import Mathlib.Order.Interval.Finset.Nat
/-!
# Sequences that hold themselves

A sequence holds the sequences among its items, and reaches what those reach.  A sequence that
reaches itself has no text, and comparing it can go on without end.  Nothing else can: a value is
grounded if no sequence that can be reached from it reaches itself, and the text of a grounded value
ends, and so does its comparison with any value.

* `Store.rank` counts the sequences that can be reached from a value.  It decreases from a grounded
  value to its items, which is why the recursions end, and it is at most the number of cells, which
  is why `display` and `equals` never stop short.
* `Store.isSome_display_iff`: a value has a text just in case it is grounded.
* `Store.isSome_equals`: a comparison ends if one of the two values is grounded.
* `Store.isSome_equals_self`: so does that of a value with itself, as a list is equal to itself
  whatever it holds.  `Store.withoutLists` is what such a comparison still goes through.
* `Acyclic.extends` and `Acyclic.write`: making things never closes a cycle, and writing into a list
  does only if the list can be reached from what is written.
-/

namespace DynamicBinding.Store

open Relation

variable {s t : Store} {v w : Value} {i j : Nat}

/-! ## What sequences reach -/

/-- The first cell has an item in the second one. -/
def Holds (s : Store) (i j : Nat) : Prop := ∃ v ∈ s.items i, v.cell? = some j

/-- The cell of the value is the cell, or reaches it from item to item. -/
def Reaches (s : Store) (v : Value) (j : Nat) : Prop :=
  ∃ i, v.cell? = some i ∧ ReflTransGen s.Holds i j

/-- No sequence that can be reached from the value reaches itself. -/
def Grounded (s : Store) (v : Value) : Prop := ∀ i, s.Reaches v i → ¬ TransGen s.Holds i i

/-- No sequence at all reaches itself. -/
def Acyclic (s : Store) : Prop := ∀ i, ¬ TransGen s.Holds i i

/-- Where no sequence reaches itself, every value is grounded. -/
theorem Acyclic.grounded (h : s.Acyclic) (v : Value) : s.Grounded v := fun i _ => h i

/-- The value is a handle on something that was made. -/
abbrev Made (s : Store) (v : Value) : Prop := s.Knows (fun _ => False) v

instance : Decidable (s.Made v) :=
  decidable_of_iff (∀ id ∈ v.cell?, id < s.cells.size)
    ⟨fun h => .inr h, fun h => h.resolve_left id⟩

/-- Everything that sequences hold was made. -/
abbrev Sealed (s : Store) : Prop := s.Closed fun _ => False

/-- The cell of what was made is there. -/
theorem Made.lt (h : s.Made v) (hv : v.cell? = some i) : i < s.cells.size := by
  rcases h with h | h
  · exact h.elim
  · exact h i hv

/-- What was made stays made while no cell goes. -/
theorem Made.of_size_le (h : s.Made v) (hsize : s.cells.size ≤ t.cells.size) : t.Made v :=
  .inr fun _ hv => Nat.lt_of_lt_of_le (h.lt hv) hsize

/-- What is held was made. -/
theorem Sealed.lt (h : s.Sealed) (hij : s.Holds i j) : j < s.cells.size := by
  obtain ⟨v, hv, hcell⟩ := hij
  exact Made.lt (h i v hv) hcell

/-- What is reached was made. -/
theorem Sealed.lt_of_reaches (h : s.Sealed) (hv : s.Made v) (hreaches : s.Reaches v j) :
    j < s.cells.size := by
  obtain ⟨i, hi, hpath⟩ := hreaches
  rcases hpath.cases_tail with rfl | ⟨k, -, hkj⟩
  · exact hv.lt hi
  · exact h.lt hkj

/-- What an item reaches, the sequence reaches. -/
theorem Reaches.of_item (hv : v.cell? = some i) (hw : w ∈ s.items i) (h : s.Reaches w j) :
    s.Reaches v j := by
  obtain ⟨k, hk, hpath⟩ := h
  exact ⟨i, hv, hpath.head ⟨w, hw, hk⟩⟩

/-- The items of a grounded sequence are grounded. -/
theorem Grounded.item (h : s.Grounded v) (hv : v.cell? = some i) (hw : w ∈ s.items i) :
    s.Grounded w :=
  fun j hj => h j (hj.of_item hv hw)

/-- A sequence of grounded items is grounded, because a way back to it leads through an item. -/
theorem Grounded.of_items (hv : v.cell? = some i) (h : ∀ w ∈ s.items i, s.Grounded w) :
    s.Grounded v := by
  rintro j ⟨k, hk, hpath⟩ hcycle
  obtain rfl : i = k := Option.some.inj (hv.symm.trans hk)
  rcases hpath.cases_head with rfl | ⟨k, ⟨w, hw, hwk⟩, hpath⟩
  · obtain ⟨k, ⟨w, hw, hwk⟩, hback⟩ := TransGen.head'_iff.1 hcycle
    exact h w hw k ⟨k, hwk, .refl⟩ (.tail' hback ⟨w, hw, hwk⟩)
  · exact h w hw j ⟨k, hwk, hpath⟩ hcycle

/-- A list among its own items is not grounded. -/
theorem not_grounded_of_mem (h : .list i ∈ s.items i) : ¬ s.Grounded (.list i) :=
  fun hgrounded => hgrounded i ⟨i, rfl, .refl⟩ (.single ⟨_, h, rfl⟩)

/-- A value that is no sequence reaches nothing. -/
theorem grounded_of_cell? (hv : v.cell? = none) : s.Grounded v := by
  rintro j ⟨i, hi, -⟩
  rw [hv] at hi
  cases hi

/-! ## The rank of a value -/

/-- How many sequences can be reached from the value. -/
noncomputable def rank (s : Store) (v : Value) : Nat := {j | s.Reaches v j}.ncard

/-- No more sequences can be reached than there are. -/
theorem Sealed.rank_le (h : s.Sealed) (hv : s.Made v) : s.rank v ≤ s.cells.size := by
  have hsubset : {j | s.Reaches v j} ⊆ Set.Iio s.cells.size := fun j hj => h.lt_of_reaches hv hj
  have hcard := Set.ncard_le_ncard hsubset (Set.finite_Iio _)
  rwa [← Finset.coe_Iio, Set.ncard_coe_finset, Nat.card_Iio] at hcard

/-- A grounded sequence reaches more than any of its items, namely itself. -/
theorem Sealed.rank_lt (h : s.Sealed) (hv : s.Made v) (hgrounded : s.Grounded v)
    (hcell : v.cell? = some i) (hw : w ∈ s.items i) : s.rank w < s.rank v := by
  have hfinite : {j | s.Reaches v j}.Finite :=
    (Set.finite_Iio s.cells.size).subset fun j hj => h.lt_of_reaches hv hj
  refine Set.ncard_lt_ncard ⟨fun j hj => hj.of_item hcell hw, fun hall => ?_⟩ hfinite
  obtain ⟨k, hk, hback⟩ : s.Reaches w i := hall ⟨i, hcell, .refl⟩
  exact hgrounded i ⟨i, hcell, .refl⟩ (.head' ⟨w, hw, hk⟩ hback)

/-- The value is grounded, and its rank is at most a number of descents. -/
structure EndsWithin (s : Store) (fuel : Nat) (v : Value) : Prop where
  made : s.Made v
  grounded : s.Grounded v
  rank_le : s.rank v ≤ fuel

/-- A grounded value ends within as many descents as there are cells. -/
theorem Sealed.endsWithin (h : s.Sealed) (hv : s.Made v) (hgrounded : s.Grounded v) :
    s.EndsWithin s.cells.size v :=
  ⟨hv, hgrounded, h.rank_le hv⟩

/-- The items of a sequence take one descent less. -/
theorem EndsWithin.item {fuel : Nat} (h : s.EndsWithin (fuel + 1) v) (hs : s.Sealed)
    (hcell : v.cell? = some i) (hw : w ∈ s.items i) : s.EndsWithin fuel w where
  made := hs i w hw
  grounded := h.grounded.item hcell hw
  rank_le := Nat.le_of_lt_succ
    (Nat.lt_of_lt_of_le (hs.rank_lt h.made h.grounded hcell hw) h.rank_le)

/-- Without a descent there is no sequence. -/
theorem EndsWithin.cell? (h : s.EndsWithin 0 v) (hs : s.Sealed) : v.cell? = none := by
  cases hcell : v.cell? with
  | none => rfl
  | some i =>
    have hfinite : {j | s.Reaches v j}.Finite :=
      (Set.finite_Iio s.cells.size).subset fun j hj => hs.lt_of_reaches h.made hj
    have hempty : {j | s.Reaches v j} = ∅ :=
      (Set.ncard_eq_zero hfinite).1 (Nat.le_zero.1 h.rank_le)
    have hself : i ∈ {j | s.Reaches v j} := ⟨i, hcell, .refl⟩
    rw [hempty] at hself
    exact hself.elim

/-! ## Texts -/

/-- A list is mapped to an answer if every item of it is. -/
theorem isSome_mapM_iff {α β : Type} {f : α → Option β} {xs : List α} :
    (xs.mapM f).isSome = true ↔ ∀ x ∈ xs, (f x).isSome = true := by
  induction xs with
  | nil => simp
  | cons x rest ih =>
    rw [List.mapM_cons, List.forall_mem_cons, ← ih]
    cases f x with
    | none => simp
    | some y => cases rest.mapM f <;> simp

/-- A sequence has a text within one descent more than all its items have. -/
theorem isSome_displayWithin_succ (fuel : Nat) (hv : v.cell? = some i) :
    (s.displayWithin (fuel + 1) v).isSome = true ↔
      ∀ w ∈ s.items i, (s.displayWithin fuel w).isSome = true := by
  have hparts : ((s.items i).mapM fun w => (s.displayWithin fuel w).map (quoteIfStr w)).isSome =
      true ↔ ∀ w ∈ s.items i, (s.displayWithin fuel w).isSome = true := by
    rw [isSome_mapM_iff]
    simp
  rw [← hparts]
  cases v with
  | tuple id | list id =>
    cases hv
    simp only [displayWithin]
    cases (s.items i).mapM fun w => (s.displayWithin fuel w).map (quoteIfStr w) <;> simp
  | _ => cases hv

/-- A value that is no sequence has a text without any descent. -/
theorem isSome_displayWithin_of_cell? (fuel : Nat) (hv : v.cell? = none) :
    (s.displayWithin fuel v).isSome = true := by
  cases v with
  | tuple id | list id => cases hv
  | _ => cases fuel <;> rfl

/-- A text that ends is the text of a grounded value, however many descents it took. -/
theorem grounded_of_isSome_displayWithin {fuel : Nat}
    (h : (s.displayWithin fuel v).isSome = true) : s.Grounded v := by
  induction fuel generalizing v with
  | zero =>
    cases v with
    | tuple id | list id => cases h
    | _ => exact grounded_of_cell? rfl
  | succ fuel ih =>
    cases hcell : v.cell? with
    | none => exact grounded_of_cell? hcell
    | some i =>
      rw [isSome_displayWithin_succ fuel hcell] at h
      exact .of_items hcell fun w hw => ih (h w hw)

/-- A value that is not grounded has no text, however many descents it is given. -/
theorem displayWithin_eq_none (h : ¬ s.Grounded v) (fuel : Nat) : s.displayWithin fuel v = none :=
  Option.not_isSome_iff_eq_none.1 fun htext => h (grounded_of_isSome_displayWithin htext)

/-- As many descents as a value takes are enough for its text. -/
theorem EndsWithin.isSome_displayWithin {fuel : Nat} (h : s.EndsWithin fuel v) (hs : s.Sealed) :
    (s.displayWithin fuel v).isSome = true := by
  induction fuel generalizing v with
  | zero => exact isSome_displayWithin_of_cell? 0 (h.cell? hs)
  | succ fuel ih =>
    cases hcell : v.cell? with
    | none => exact isSome_displayWithin_of_cell? _ hcell
    | some i =>
      rw [isSome_displayWithin_succ fuel hcell]
      exact fun w hw => ih (h.item hs hcell hw)

/-- **A value has a text just in case it is grounded.** -/
theorem isSome_display_iff (hs : s.Sealed) (hv : s.Made v) :
    (s.display v).isSome = true ↔ s.Grounded v :=
  ⟨grounded_of_isSome_displayWithin, fun h => (hs.endsWithin hv h).isSome_displayWithin hs⟩

/-- Quotes around a text do not keep it from ending. -/
theorem isSome_repr (s : Store) (v : Value) : (s.repr v).isSome = (s.display v).isSome := by
  simp [Store.repr]

/-! ## Comparisons -/

/-- Items are compared in pairs, so it is enough that those comparisons end. -/
theorem isSome_equalItems {equal : Value → Value → Option Bool} {xs ys : List Value}
    (h : ∀ pair ∈ xs.zip ys, (equal pair.1 pair.2).isSome = true) :
    (equalItems equal xs ys).isSome = true := by
  have hgo : (equalItems.go equal xs ys).isSome = true := by
    induction xs, ys using equalItems.go.induct with
    | case1 x xs y ys ih =>
      obtain ⟨hpair, hrest⟩ := List.forall_mem_cons.1 h
      obtain ⟨b, hb⟩ := Option.isSome_iff_exists.1 hpair
      simp only [equalItems.go, hb]
      cases b with
      | true => exact ih hrest
      | false => rfl
    | case2 xs ys hne => simp [equalItems.go]
  unfold equalItems
  split
  · exact hgo
  · rfl

/-- A comparison ends within one descent more than all comparisons of items take. -/
theorem isSome_equalsWithin_succ {fuel : Nat}
    (h : ∀ i j, v.cell? = some i → w.cell? = some j → ∀ x ∈ s.items i, ∀ y ∈ s.items j,
      (s.equalsWithin fuel x y).isSome = true) :
    (s.equalsWithin (fuel + 1) v w).isSome = true := by
  have hitems : ∀ i j, v.cell? = some i → w.cell? = some j →
      (equalItems (s.equalsWithin fuel) (s.items i) (s.items j)).isSome = true := by
    intro i j hi hj
    refine isSome_equalItems fun pair hpair => ?_
    obtain ⟨hx, hy⟩ := List.of_mem_zip hpair
    exact h i j hi hj pair.1 hx pair.2 hy
  cases v with
  | tuple i =>
    cases w with
    | tuple j => exact hitems i j rfl rfl
    | _ => rfl
  | list i =>
    cases w with
    | list j =>
      simp only [equalsWithin]
      split
      · rfl
      · exact hitems i j rfl rfl
    | _ => rfl
  | _ => rfl

/-- It is enough that one of the two values ends: each descent goes into both. -/
theorem isSome_equalsWithin {fuel : Nat} (hs : s.Sealed)
    (h : s.EndsWithin fuel v ∨ s.EndsWithin fuel w) :
    (s.equalsWithin (fuel + 1) v w).isSome = true := by
  induction fuel generalizing v w with
  | zero =>
    apply isSome_equalsWithin_succ
    intro i j hi hj
    rcases h with h | h
    · rw [h.cell? hs] at hi
      cases hi
    · rw [h.cell? hs] at hj
      cases hj
  | succ fuel ih =>
    apply isSome_equalsWithin_succ
    intro i j hi hj x hx y hy
    exact ih (h.imp (·.item hs hi hx) (·.item hs hj hy))

/-- A comparison is given more descents than a grounded value takes. -/
theorem Sealed.endsWithin_equals (hs : s.Sealed) (hv : s.Made v) (hgrounded : s.Grounded v) :
    s.EndsWithin (s.cells.size * s.cells.size + 1) v where
  made := hv
  grounded := hgrounded
  rank_le := (hs.rank_le hv).trans (Nat.le_succ_of_le (Nat.le_mul_self _))

/-- **A comparison ends if one of the two values is grounded.** -/
theorem isSome_equals (hs : s.Sealed) (h : s.Made v ∧ s.Grounded v ∨ s.Made w ∧ s.Grounded w) :
    (s.equals v w).isSome = true := by
  apply isSome_equalsWithin hs
  exact h.imp (fun h => hs.endsWithin_equals h.1 h.2) (fun h => hs.endsWithin_equals h.1 h.2)

/-- Two lists that hold nothing but themselves are compared without end. -/
theorem equalsWithin_of_items (hij : i ≠ j) (hi : s.items i = [.list i])
    (hj : s.items j = [.list j]) (fuel : Nat) :
    s.equalsWithin fuel (.list i) (.list j) = none := by
  induction fuel with
  | zero => rfl
  | succ fuel ih => simp [equalsWithin, equalItems, equalItems.go, hij, hi, hj, ih]

/-! ## Staying without cycles -/

/-- A cell that is not there holds nothing. -/
theorem items_of_size_le (h : s.cells.size ≤ i) : s.items i = [] := by
  simp [items, cell, h]

/-- Only a cell that there is holds anything. -/
theorem lt_size_of_mem (h : v ∈ s.items i) : i < s.cells.size := by
  by_contra hi
  rw [items_of_size_le (Nat.not_lt.1 hi)] at h
  cases h

/-- A cell that holds anything is among the cells. -/
theorem cell_mem (h : v ∈ s.items i) : s.cell i ∈ s.cells := by
  simp [cell, lt_size_of_mem h]

/-- Where there are no cells, there is no cycle. -/
theorem acyclic_of_size_eq_zero (h : s.cells.size = 0) : s.Acyclic := by
  intro i hcycle
  obtain ⟨j, ⟨v, hv, -⟩, -⟩ := TransGen.head'_iff.1 hcycle
  exact Nat.not_lt_zero i (h ▸ lt_size_of_mem hv)

/-- Things that are made hold only what was there before them, so they close no cycle. -/
theorem Acyclic.extends (h : s.Acyclic) (hs : s.Sealed) (hextends : s.Extends (fun _ => False) t) :
    t.Acyclic := by
  have hold : ∀ i j, i < s.cells.size → t.Holds i j → s.Holds i j := by
    rintro i j hi ⟨v, hv, hcell⟩
    rw [hextends.items hi] at hv
    exact ⟨v, hv, hcell⟩
  have hnew : ∀ i j, s.cells.size ≤ i → t.Holds i j → j < i := by
    rintro i j hi ⟨v, hv, hcell⟩
    rcases hextends.fresh hi hv with hv | hv | hv
    · rw [items_of_size_le hi] at hv
      cases hv
    · exact hv.elim
    · exact hv j hcell
  -- a path from an old cell stays among the old ones, a path from a new one goes down
  have hpath : ∀ i j, TransGen t.Holds i j →
      (i < s.cells.size ∧ TransGen s.Holds i j) ∨ (s.cells.size ≤ i ∧ j < i) := by
    intro i j hij
    induction hij with
    | single hij =>
      rcases Nat.lt_or_ge i s.cells.size with hi | hi
      · exact .inl ⟨hi, .single (hold i _ hi hij)⟩
      · exact .inr ⟨hi, hnew i _ hi hij⟩
    | @tail j k _ hjk ih =>
      rcases ih with ⟨hi, hij⟩ | ⟨hi, hij⟩
      · obtain ⟨l, -, hlj⟩ := TransGen.tail'_iff.1 hij
        exact .inl ⟨hi, hij.tail (hold j k (hs.lt hlj) hjk)⟩
      · rcases Nat.lt_or_ge j s.cells.size with hj | hj
        · exact .inr ⟨hi, Nat.lt_of_lt_of_le (hs.lt (hold j k hj hjk)) hi⟩
        · exact .inr ⟨hi, Nat.lt_trans (hnew j k hj hjk) hij⟩
  intro i hcycle
  rcases hpath i i hcycle with ⟨-, hcycle⟩ | ⟨-, hlt⟩
  · exact h i hcycle
  · exact Nat.lt_irrefl i hlt

/-- A list that gets values closes no cycle, unless one of them reaches the list. -/
theorem Acyclic.write (h : s.Acyclic) (id : Nat) (written : Value → Prop)
    (hitems : ∀ i, ∀ v ∈ t.items i, v ∈ s.items i ∨ (i = id ∧ written v))
    (hwritten : ∀ v, written v → ¬ s.Reaches v id) : t.Acyclic := by
  -- a path through a new item would lead from what was written back to the list
  have hpath : ∀ i j, TransGen t.Holds i j →
      TransGen s.Holds i j ∨ (ReflTransGen s.Holds i id ∧ ∃ v, written v ∧ s.Reaches v j) := by
    intro i j hij
    induction hij with
    | single hij =>
      obtain ⟨v, hv, hcell⟩ := hij
      rcases hitems i v hv with hv | ⟨rfl, hnew⟩
      · exact .inl (.single ⟨v, hv, hcell⟩)
      · exact .inr ⟨.refl, v, hnew, ⟨_, hcell, .refl⟩⟩
    | @tail j k _ hjk ih =>
      obtain ⟨v, hv, hcell⟩ := hjk
      rcases hitems j v hv with hv | ⟨rfl, hnew⟩
      · rcases ih with hij | ⟨hi, u, hu, l, hl, hlj⟩
        · exact .inl (hij.tail ⟨v, hv, hcell⟩)
        · exact .inr ⟨hi, u, hu, l, hl, hlj.tail ⟨v, hv, hcell⟩⟩
      · rcases ih with hij | ⟨-, u, hu, hback⟩
        · exact .inr ⟨hij.to_reflTransGen, v, hnew, ⟨k, hcell, .refl⟩⟩
        · exact (hwritten u hu hback).elim
  intro i hcycle
  rcases hpath i i hcycle with hcycle | ⟨hi, v, hv, l, hl, hli⟩
  · exact h i hcycle
  · exact hwritten v hv ⟨l, hl, hli.trans hi⟩

/-! ## Values compared with themselves -/

/-- Nothing in place of a list. -/
def blankList : Value → Value
  | .list _ => .nothing
  | v => v

/-- The store with nothing in place of the lists among all items.  Sequences hold each other there
only as tuples. -/
def withoutLists (s : Store) : Store :=
  { s with cells := s.cells.map fun items => items.map blankList }

/-- The items are the same but for the lists. -/
theorem items_withoutLists (s : Store) (i : Nat) :
    s.withoutLists.items i = (s.items i).map blankList := by
  by_cases hi : i < s.cells.size <;> simp [withoutLists, items, cell, hi]

/-- What was made is there without the lists. -/
theorem Made.blankList (h : s.Made v) : s.withoutLists.Made (blankList v) := by
  refine .inr fun id hid => ?_
  have hv : v.cell? = some id := by
    cases v with
    | list i => cases hid
    | _ => exact hid
  simpa [withoutLists] using h.lt hv

/-- What sequences hold was made, and the more so without the lists. -/
theorem Sealed.withoutLists (h : s.Sealed) : s.withoutLists.Sealed := by
  intro i v hv
  rw [items_withoutLists] at hv
  obtain ⟨w, hw, rfl⟩ := List.mem_map.1 hv
  exact Made.blankList (h i w hw)

/-- What is reached without the lists is the tuple itself, or is held as a tuple. -/
theorem Reaches.tuple (h : s.withoutLists.Reaches (blankList v) j) :
    v = .tuple j ∨ ∃ i, .tuple j ∈ s.items i := by
  have htuple : ∀ w : Value, (blankList w).cell? = some j → w = .tuple j := by
    intro w hw
    cases w with
    | tuple id =>
      cases hw
      rfl
    | _ => cases hw
  obtain ⟨i, hi, hpath⟩ := h
  rcases hpath.cases_tail with rfl | ⟨k, -, w, hw, hcell⟩
  · exact .inl (htuple v hi)
  · rw [items_withoutLists] at hw
    obtain ⟨u, hu, rfl⟩ := List.mem_map.1 hw
    exact .inr ⟨k, htuple u hcell ▸ hu⟩

/-- What is made in a store is made in it without the lists. -/
theorem Extends.withoutLists (h : s.Extends (fun _ => False) t) :
    s.withoutLists.Extends (fun _ => False) t.withoutLists := by
  induction h with
  | refl => exact .refl _
  | @tail t u _ hstep ih =>
    refine ih.trans (.single ?_)
    cases hstep with
    | @cell items hitems =>
      have hpush : { t with cells := t.cells.push items.toArray }.withoutLists =
          { t.withoutLists with
            cells := t.withoutLists.cells.push (items.map blankList).toArray } := by
        simp [Store.withoutLists]
      rw [hpush]
      refine .cell fun v hv => ?_
      obtain ⟨w, hw, rfl⟩ := List.mem_map.1 hv
      exact Made.blankList (hitems w hw)
    | str chars => exact .str chars
    | inert typeName => exact .inert typeName
    | function name arity signature body => exact .function name arity signature body
    | newClass name members => exact .newClass name members
    | newInstance c => exact .newInstance c
    | record typeName callable declinesByType members offers =>
      exact .record typeName callable declinesByType members offers

/-- A list is never looked into, so the comparison goes down through tuples alone. -/
theorem isSome_equalsWithin_self {fuel : Nat} (hs : s.Sealed)
    (h : s.withoutLists.EndsWithin fuel (blankList v)) :
    (s.equalsWithin (fuel + 1) v v).isSome = true := by
  induction fuel generalizing v with
  | zero =>
    have hcell := h.cell? hs.withoutLists
    cases v with
    | tuple i => cases hcell
    | list i => simp [equalsWithin]
    | _ => rfl
  | succ fuel ih =>
    cases v with
    | tuple i =>
      -- every item meets itself, so all pairs lie on the diagonal
      refine isSome_equalItems fun pair hpair => ?_
      have hself := List.map_prod_right_eq_zip (l := s.items i) (f := id)
      rw [List.map_id] at hself
      rw [← hself] at hpair
      obtain ⟨x, hx, rfl⟩ := List.mem_map.1 hpair
      refine ih (h.item hs.withoutLists rfl ?_)
      rw [items_withoutLists]
      exact List.mem_map_of_mem hx
    | list i => simp [equalsWithin]
    | _ => rfl

/-- **A comparison of a value with itself ends**, if no tuple reaches itself through tuples. -/
theorem isSome_equals_self (hs : s.Sealed) (h : s.withoutLists.Acyclic) (hv : s.Made v) :
    (s.equals v v).isSome = true := by
  have hends := hs.withoutLists.endsWithin_equals hv.blankList (h.grounded _)
  have hsize : s.withoutLists.cells.size = s.cells.size := Array.size_map
  rw [hsize] at hends
  exact isSome_equalsWithin_self hs hends

/-! ## Stores in layers -/

/-- Every sequence holds only sequences that were made before it. -/
def Layered (s : Store) : Prop := ∀ i < s.cells.size, ∀ v ∈ s.items i, ∀ j ∈ v.cell?, j < i

instance : Decidable s.Layered :=
  inferInstanceAs (Decidable (∀ i < s.cells.size, ∀ v ∈ s.items i, ∀ j ∈ v.cell?, j < i))

/-- In layers, what is held comes before what holds it. -/
theorem Layered.lt (h : s.Layered) (hij : s.Holds i j) : j < i ∧ i < s.cells.size := by
  obtain ⟨v, hv, hcell⟩ := hij
  have hi := lt_size_of_mem hv
  exact ⟨h i hi v hv j hcell, hi⟩

/-- In layers, nothing is held that was not made. -/
theorem Layered.sealed (h : s.Layered) : s.Sealed := by
  intro i v hv
  refine .inr fun j hj => ?_
  have hlt := h.lt ⟨v, hv, hj⟩
  exact Nat.lt_trans hlt.1 hlt.2

/-- Ways down through layers never lead back. -/
theorem Layered.acyclic (h : s.Layered) : s.Acyclic := by
  intro i hcycle
  have hdown : ∀ j, TransGen s.Holds i j → j < i := by
    intro j hij
    induction hij with
    | single hij => exact (h.lt hij).1
    | tail _ hjk ih => exact Nat.lt_trans (h.lt hjk).1 ih
  exact Nat.lt_irrefl i (hdown i hcycle)

end DynamicBinding.Store
