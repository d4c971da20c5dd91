import DynamicBinding.Proofs.Store.Cycles
/-!
# Structural equality

On values without floats the structural equality of values is an equivalence, and values that are
identical are equal.  A float can spoil it: the one that is no number is not equal to itself, and
two large whole numbers can be equal to one float and not to each other.

* `Value.content?` is what the equality of a value that is no sequence looks at, and
  `equalScalars_iff` says so.  Sequences are equal where their items are, place by place.
* `Store.EqualBy` lists the reasons for which two values are equal, and `equalsWithin_succ_iff` says
  that there are no others.  The three laws of an equivalence go through it case by case.
* `Store.equivalence_equals`: where no sequence reaches itself, equality answers on any two values,
  is an equivalence on values without floats, and holds of identical values.  `equals_iff` says
  which values without floats are equal.
* `Store.Extends.equals`: an answer stays the same when things are made.
-/

namespace DynamicBinding

/-! ## Values that are no sequences -/

/-- What the equality of a value without items looks at, floats apart. -/
inductive Content where
  | nothing
  | number (i : Int64)
  | text (chars : String)
  | function (f : FunctionRef)
  | object (o : Object)
deriving DecidableEq

/-- The content of a value that is neither a sequence nor a float. -/
def Value.content? : Value → Option Content
  | .nothing => some .nothing
  | .bool b => some (.number (if b then 1 else 0))
  | .int i => some (.number i)
  | .str text => some (.text text.chars)
  | .function f => some (.function f)
  | .object o => some (.object o)
  | .float _ | .tuple _ | .list _ => none

namespace Store

open Relation

variable {s t : Store} {u v w : Value} {i j fuel more : Nat} {b : Bool}

/-- Without floats, values that are not two sequences of one kind are equal if they have a content
and it is the same. -/
theorem equalScalars_iff (hv : v.kind ≠ .float) (hw : w.kind ≠ .float) :
    equalScalars v w = true ↔ v.content?.isSome = true ∧ v.content? = w.content? := by
  cases v with
  | float x => exact (hv rfl).elim
  | _ =>
    cases w with
    | float x => exact (hw rfl).elim
    | _ => simp [equalScalars, Value.content?, Value.asInt?, Value.asFloat?]

/-! ## Sequences -/

section Items

variable {equal equal' : Value → Value → Option Bool} {xs ys : List Value}

/-- Lists of one length are equal if their items are, pair by pair. -/
theorem go_eq_true_iff (h : xs.length = ys.length) :
    equalItems.go equal xs ys = some true ↔
      List.Forall₂ (fun x y => equal x y = some true) xs ys := by
  induction xs, ys using equalItems.go.induct with
  | case1 x xs y ys ih =>
    rw [List.forall₂_cons, ← ih (Nat.succ.inj h)]
    cases hxy : equal x y with
    | none => simp [equalItems.go, hxy]
    | some b => cases b <;> simp [equalItems.go, hxy]
  | case2 xs ys hne =>
    cases xs with
    | nil =>
      obtain rfl : ys = [] := List.eq_nil_of_length_eq_zero h.symm
      simp [equalItems.go]
    | cons x xs =>
      cases ys with
      | nil => cases h
      | cons y ys => exact (hne x xs y ys rfl rfl).elim

/-- Sequences are equal if their items are, place by place. -/
theorem equalItems_eq_true_iff :
    equalItems equal xs ys = some true ↔
      List.Forall₂ (fun x y => equal x y = some true) xs ys := by
  unfold equalItems
  by_cases h : xs.length = ys.length
  · rw [if_pos h, go_eq_true_iff h]
  · rw [if_neg h]
    exact ⟨nofun, fun hall => (h hall.length_eq).elim⟩

/-- What is known of all items carries one relation between them over to another one. -/
theorem forall₂_imp_of_mem {r q : Value → Value → Prop} (h : List.Forall₂ r xs ys)
    (himp : ∀ x ∈ xs, ∀ y ∈ ys, r x y → q x y) : List.Forall₂ q xs ys := by
  induction h with
  | nil => exact .nil
  | cons hxy _ ih =>
    refine .cons (himp _ List.mem_cons_self _ List.mem_cons_self hxy) (ih fun x hx y hy => ?_)
    exact himp x (List.mem_cons_of_mem _ hx) y (List.mem_cons_of_mem _ hy)

/-- Items are compared alike if all that is answered about them is answered alike. -/
theorem equalItems_mono
    (h : ∀ x ∈ xs, ∀ y ∈ ys, ∀ b, equal x y = some b → equal' x y = some b)
    (heq : equalItems equal xs ys = some b) : equalItems equal' xs ys = some b := by
  have hgo : ∀ b, equalItems.go equal xs ys = some b → equalItems.go equal' xs ys = some b := by
    clear heq
    induction xs, ys using equalItems.go.induct with
    | case1 x xs y ys ih =>
      have hrest := ih fun x hx y hy =>
        h x (List.mem_cons_of_mem _ hx) y (List.mem_cons_of_mem _ hy)
      intro b hb
      cases hxy : equal x y with
      | none => simp [equalItems.go, hxy] at hb
      | some first =>
        have hfirst := h x List.mem_cons_self y List.mem_cons_self first hxy
        cases first with
        | false => simpa [equalItems.go, hxy, hfirst] using hb
        | true =>
          simp only [equalItems.go, hxy, hfirst] at hb ⊢
          exact hrest b hb
    | case2 xs ys hne =>
      intro b hb
      simpa [equalItems.go] using hb
  unfold equalItems at heq ⊢
  by_cases hlen : xs.length = ys.length
  · rw [if_pos hlen] at heq ⊢
    exact hgo b heq
  · rw [if_neg hlen] at heq ⊢
    exact heq

end Items

/-- Why two values are equal within one descent more than `fuel`. -/
inductive EqualBy (s : Store) (fuel : Nat) : Value → Value → Prop
  /-- No item differs. -/
  | tuple {i j : Nat} (h : List.Forall₂ (fun x y => s.equalsWithin fuel x y = some true)
      (s.items i) (s.items j)) : EqualBy s fuel (.tuple i) (.tuple j)
  /-- A list is not compared with itself. -/
  | same (i : Nat) : EqualBy s fuel (.list i) (.list i)
  /-- No item differs. -/
  | list {i j : Nat} (h : List.Forall₂ (fun x y => s.equalsWithin fuel x y = some true)
      (s.items i) (s.items j)) : EqualBy s fuel (.list i) (.list j)
  /-- Neither is a sequence. -/
  | scalars {v w : Value} (hv : v.cell? = none) (hw : w.cell? = none)
    (h : equalScalars v w = true) : EqualBy s fuel v w

/-- Two sequences of one kind are equal if their items are. -/
theorem EqualBy.of_items (hkind : v.kind = w.kind) (hi : v.cell? = some i) (hj : w.cell? = some j)
    (h : List.Forall₂ (fun x y => s.equalsWithin fuel x y = some true) (s.items i) (s.items j)) :
    s.EqualBy fuel v w := by
  cases v with
  | tuple id =>
    cases w with
    | tuple id' =>
      cases hi
      cases hj
      exact .tuple h
    | _ => cases hkind
  | list id =>
    cases w with
    | list id' =>
      cases hi
      cases hj
      exact .list h
    | _ => cases hkind
  | _ => cases hi

/-- A sequence on the left is equal to nothing as a scalar. -/
theorem equalScalars_of_cell? (h : v.cell? = some i) : equalScalars v w = false := by
  cases v with
  | tuple id | list id => cases w <;> rfl
  | _ => cases h

/-- A sequence on the right is equal to nothing as a scalar. -/
theorem equalScalars_of_cell?_right (h : w.cell? = some i) : equalScalars v w = false := by
  cases w with
  | tuple id | list id =>
    cases v <;> simp [equalScalars, Value.asInt?, Value.asFloat?]
  | _ => cases h

/-- What is not two sequences of one kind is compared without a descent. -/
theorem equalsWithin_succ_of_ne (htuple : ∀ i j, v = .tuple i → w ≠ .tuple j)
    (hlist : ∀ i j, v = .list i → w ≠ .list j) :
    s.equalsWithin (fuel + 1) v w = some (equalScalars v w) := by
  unfold equalsWithin
  split
  · cases ‹_ + 1 = _›
  · exact (htuple _ _ rfl rfl).elim
  · exact (hlist _ _ rfl rfl).elim
  · rfl

/-- There are no other reasons. -/
theorem equalsWithin_succ_iff : s.equalsWithin (fuel + 1) v w = some true ↔ s.EqualBy fuel v w := by
  constructor
  · intro h
    by_cases htuple : ∃ i j, v = .tuple i ∧ w = .tuple j
    · obtain ⟨i, j, rfl, rfl⟩ := htuple
      exact .tuple (equalItems_eq_true_iff.1 h)
    by_cases hlist : ∃ i j, v = .list i ∧ w = .list j
    · obtain ⟨i, j, rfl, rfl⟩ := hlist
      by_cases hij : i = j
      · subst hij
        exact .same i
      · simp only [equalsWithin, if_neg hij] at h
        exact .list (equalItems_eq_true_iff.1 h)
    rw [equalsWithin_succ_of_ne (fun i j hv hw => htuple ⟨i, j, hv, hw⟩)
      (fun i j hv hw => hlist ⟨i, j, hv, hw⟩), Option.some_inj] at h
    refine .scalars ?_ ?_ h
    · by_contra hv
      obtain ⟨i, hv⟩ := Option.ne_none_iff_exists'.1 hv
      rw [equalScalars_of_cell? hv] at h
      cases h
    · by_contra hw
      obtain ⟨j, hw⟩ := Option.ne_none_iff_exists'.1 hw
      rw [equalScalars_of_cell?_right hw] at h
      cases h
  · rintro (h | _ | h | ⟨hv, hw, h⟩)
    · exact equalItems_eq_true_iff.2 h
    · simp [equalsWithin]
    · simp only [equalsWithin, equalItems_eq_true_iff.2 h, ite_self]
    · rw [equalsWithin_succ_of_ne (by rintro i j rfl; cases hv) (by rintro i j rfl; cases hv), h]

/-! ## Making things -/

/-- What is made leaves alone the sequences that comparisons of older values look at. -/
theorem Extends.equalsWithin {given : Value → Prop} (h : s.Extends given t) (hs : s.Sealed)
    (hfuel : fuel ≤ more) (hv : s.Made v) (hw : s.Made w)
    (heq : s.equalsWithin fuel v w = some b) : t.equalsWithin more v w = some b := by
  -- the larger store allows more descents, and both counts go down together
  induction fuel generalizing more v w b with
  | zero => cases heq
  | succ fuel ih =>
    obtain ⟨more, rfl⟩ : ∃ n, more = n + 1 := ⟨more - 1, by omega⟩
    have hitems : ∀ i j, v.cell? = some i → w.cell? = some j →
        equalItems (s.equalsWithin fuel) (s.items i) (s.items j) = some b →
        equalItems (t.equalsWithin more) (t.items i) (t.items j) = some b := by
      intro i j hi hj heq
      rw [h.items (hv.lt hi), h.items (hw.lt hj)]
      exact equalItems_mono (fun x hx y hy c hxy =>
        ih (Nat.le_of_succ_le_succ hfuel) (hs i x hx) (hs j y hy) hxy) heq
    by_cases htuple : ∃ i j, v = .tuple i ∧ w = .tuple j
    · obtain ⟨i, j, rfl, rfl⟩ := htuple
      exact hitems i j rfl rfl heq
    by_cases hlist : ∃ i j, v = .list i ∧ w = .list j
    · obtain ⟨i, j, rfl, rfl⟩ := hlist
      simp only [Store.equalsWithin] at heq ⊢
      split at heq
      · rwa [if_pos ‹_›]
      · rw [if_neg ‹_›]
        exact hitems i j rfl rfl heq
    have htuple : ∀ i j, v = .tuple i → w ≠ .tuple j := fun i j hv hw => htuple ⟨i, j, hv, hw⟩
    have hlist : ∀ i j, v = .list i → w ≠ .list j := fun i j hv hw => hlist ⟨i, j, hv, hw⟩
    rw [equalsWithin_succ_of_ne htuple hlist] at heq ⊢
    exact heq

/-- **Making things changes no comparison** that has an answer. -/
theorem Extends.equals {given : Value → Prop} (h : s.Extends given t) (hs : s.Sealed)
    (hv : s.Made v) (hw : s.Made w) (heq : s.equals v w = some b) : t.equals v w = some b := by
  have hfuel : s.cells.size * s.cells.size + 2 ≤ t.cells.size * t.cells.size + 2 :=
    Nat.add_le_add_right (Nat.mul_le_mul h.size_le h.size_le) 2
  exact h.equalsWithin hs hfuel hv hw heq

/-! ## Floats -/

/-- Neither is the value a float, nor is a float an item of a sequence that can be reached. -/
def FloatFree (s : Store) (v : Value) : Prop :=
  v.kind ≠ .float ∧ ∀ i, s.Reaches v i → ∀ w ∈ s.items i, w.kind ≠ .float

/-- An item of a value without floats has none either. -/
theorem FloatFree.item (h : s.FloatFree v) (hv : v.cell? = some i) (hw : w ∈ s.items i) :
    s.FloatFree w :=
  ⟨h.2 i ⟨i, hv, .refl⟩ w hw, fun j hj => h.2 j (hj.of_item hv hw)⟩

/-- A value that is neither a sequence nor a float has a content. -/
theorem isSome_content? (hfloat : v.kind ≠ .float) (hcell : v.cell? = none) :
    v.content?.isSome = true := by
  cases v with
  | float x => exact (hfloat rfl).elim
  | tuple id | list id => cases hcell
  | _ => rfl

/-- A value with a content is no sequence. -/
theorem cell?_of_content? (h : v.content?.isSome = true) : v.cell? = none := by
  cases v with
  | tuple id | list id => cases h
  | _ => rfl

/-! ## The laws of an equivalence -/

/-- A value that ends is equal to itself. -/
theorem EndsWithin.equalsWithin_self (h : s.EndsWithin fuel v) (hs : s.Sealed)
    (hfloat : s.FloatFree v) : s.equalsWithin (fuel + 1) v v = some true := by
  induction fuel generalizing v with
  | zero =>
    have hcell := h.cell? hs
    have hequal := (equalScalars_iff hfloat.1 hfloat.1).2 ⟨isSome_content? hfloat.1 hcell, rfl⟩
    exact equalsWithin_succ_iff.2 (.scalars hcell hcell hequal)
  | succ fuel ih =>
    have hitems : ∀ i, v.cell? = some i → ∀ w ∈ s.items i,
        s.equalsWithin (fuel + 1) w w = some true :=
      fun i hi w hw => ih (h.item hs hi hw) (hfloat.item hi hw)
    apply equalsWithin_succ_iff.2
    cases hcell : v.cell? with
    | none =>
      have hequal := (equalScalars_iff hfloat.1 hfloat.1).2 ⟨isSome_content? hfloat.1 hcell, rfl⟩
      exact .scalars hcell hcell hequal
    | some i =>
      cases v with
      | tuple id => exact .tuple (List.forall₂_same.2 (hitems id rfl))
      | list id => exact .same id
      | _ => cases hcell

/-- Without floats, equal values are equal the other way round. -/
theorem equalsWithin_symm (hv : s.FloatFree v) (hw : s.FloatFree w)
    (h : s.equalsWithin fuel v w = some true) : s.equalsWithin fuel w v = some true := by
  induction fuel generalizing v w with
  | zero => cases h
  | succ fuel ih =>
    have hitems : ∀ i j, v.cell? = some i → w.cell? = some j →
        List.Forall₂ (fun x y => s.equalsWithin fuel x y = some true) (s.items i) (s.items j) →
        List.Forall₂ (fun x y => s.equalsWithin fuel x y = some true) (s.items j) (s.items i) := by
      intro i j hi hj hall
      exact forall₂_imp_of_mem hall.flip fun y hy x hx hxy => ih (hv.item hi hx) (hw.item hj hy) hxy
    rw [equalsWithin_succ_iff] at h ⊢
    cases h with
    | tuple h => exact .tuple (hitems _ _ rfl rfl h)
    | same i => exact .same i
    | list h => exact .list (hitems _ _ rfl rfl h)
    | scalars hcell hcell' h =>
      rw [equalScalars_iff hv.1 hw.1] at h
      refine .scalars hcell' hcell ((equalScalars_iff hw.1 hv.1).2 ⟨?_, h.2.symm⟩)
      rw [← h.2]
      exact h.1

/-- Without floats, values that are equal to the same value are equal. -/
theorem equalsWithin_trans (hu : s.FloatFree u) (hv : s.FloatFree v) (hw : s.FloatFree w)
    (huv : s.equalsWithin fuel u v = some true) (hvw : s.equalsWithin fuel v w = some true) :
    s.equalsWithin fuel u w = some true := by
  induction fuel generalizing u v w with
  | zero => cases huv
  | succ fuel ih =>
    have hitems : ∀ i j k, u.cell? = some i → v.cell? = some j → w.cell? = some k →
        List.Forall₂ (fun x y => s.equalsWithin fuel x y = some true) (s.items i) (s.items j) →
        List.Forall₂ (fun x y => s.equalsWithin fuel x y = some true) (s.items j) (s.items k) →
        List.Forall₂ (fun x y => s.equalsWithin fuel x y = some true) (s.items i) (s.items k) := by
      intro i j k hi hj hk hij hjk
      rw [List.forall₂_iff_get] at hij hjk ⊢
      refine ⟨hij.1.trans hjk.1, fun n hn hn' => ?_⟩
      have hmiddle : n < (s.items j).length := hij.1 ▸ hn
      exact ih (hu.item hi (List.get_mem _ _)) (hv.item hj (List.get_mem _ ⟨n, hmiddle⟩))
        (hw.item hk (List.get_mem _ _)) (hij.2 n hn hmiddle) (hjk.2 n hmiddle hn')
    rw [equalsWithin_succ_iff] at huv hvw ⊢
    -- the reasons fit together at the middle value, whose kind both of them fix
    cases huv with
    | tuple huv =>
      cases hvw with
      | tuple hvw => exact .tuple (hitems _ _ _ rfl rfl rfl huv hvw)
      | scalars hcell => cases hcell
    | same i => exact hvw
    | list huv =>
      cases hvw with
      | same i => exact .list huv
      | list hvw => exact .list (hitems _ _ _ rfl rfl rfl huv hvw)
      | scalars hcell => cases hcell
    | scalars hcell _ huv =>
      cases hvw with
      | scalars _ hcell' hvw =>
        rw [equalScalars_iff hu.1 hv.1] at huv
        rw [equalScalars_iff hv.1 hw.1] at hvw
        exact .scalars hcell hcell'
          ((equalScalars_iff hu.1 hw.1).2 ⟨huv.1, huv.2.trans hvw.2⟩)
      | _ => cases ‹_ = none›

section Laws

variable (hs : s.Sealed) (hacyclic : s.Acyclic)

include hs hacyclic

/-- Without floats, a value is equal to itself. -/
theorem equals_self (hv : s.Made v) (hfloat : s.FloatFree v) : s.equals v v = some true :=
  (hs.endsWithin_equals hv (hacyclic.grounded v)).equalsWithin_self hs hfloat

/-- Items are compared with one descent less, which is still enough. -/
theorem equalsWithin_item_iff (hv : s.Made v) (hi : v.cell? = some i) (hu : u ∈ s.items i)
    (hw : s.Made w) :
    s.equalsWithin (s.cells.size * s.cells.size + 1) u w = some true ↔
      s.equals u w = some true := by
  have hself : s.Extends (fun _ => False) s := .refl s
  have hmore : ∀ b, s.equalsWithin (s.cells.size * s.cells.size + 1) u w = some b →
      s.equals u w = some b :=
    fun b => hself.equalsWithin hs (Nat.le_succ _) (hs i u hu) hw
  refine ⟨hmore true, fun h => ?_⟩
  have hends := (hs.endsWithin_equals hv (hacyclic.grounded v)).item hs hi hu
  obtain ⟨b, hb⟩ := Option.isSome_iff_exists.1 (isSome_equalsWithin (w := w) hs (.inl hends))
  rw [hmore b hb] at h
  rw [hb, h]

/-- Values are equal if they have the same content, or are sequences of one kind with equal items,
place by place. -/
theorem equals_iff (hv : s.Made v) (hw : s.Made w) (hfv : s.FloatFree v) (hfw : s.FloatFree w) :
    s.equals v w = some true ↔
      (v.content?.isSome = true ∧ v.content? = w.content?) ∨
      (v.kind = w.kind ∧ ∃ i j, v.cell? = some i ∧ w.cell? = some j ∧
        List.Forall₂ (fun x y => s.equals x y = some true) (s.items i) (s.items j)) := by
  have hitem : ∀ i j, v.cell? = some i → w.cell? = some j → ∀ x ∈ s.items i, ∀ y ∈ s.items j,
      (s.equalsWithin (s.cells.size * s.cells.size + 1) x y = some true ↔
        s.equals x y = some true) :=
    fun i j hi hj x hx y hy => equalsWithin_item_iff hs hacyclic hv hi hx (hs j y hy)
  refine equalsWithin_succ_iff.trans ⟨fun h => ?_, ?_⟩
  · cases h with
    | tuple h =>
      exact .inr ⟨rfl, _, _, rfl, rfl, forall₂_imp_of_mem h fun x hx y hy =>
        (hitem _ _ rfl rfl x hx y hy).1⟩
    | same i =>
      refine .inr ⟨rfl, i, i, rfl, rfl, List.forall₂_same.2 fun x hx => ?_⟩
      exact equals_self hs hacyclic (hs i x hx) (hfv.item rfl hx)
    | list h =>
      exact .inr ⟨rfl, _, _, rfl, rfl, forall₂_imp_of_mem h fun x hx y hy =>
        (hitem _ _ rfl rfl x hx y hy).1⟩
    | scalars _ _ h => exact .inl ((equalScalars_iff hfv.1 hfw.1).1 h)
  · rintro (⟨hsome, hcontent⟩ | ⟨hkind, i, j, hi, hj, hall⟩)
    · have hsome' : w.content?.isSome = true := hcontent ▸ hsome
      exact .scalars (cell?_of_content? hsome) (cell?_of_content? hsome')
        ((equalScalars_iff hfv.1 hfw.1).2 ⟨hsome, hcontent⟩)
    · exact .of_items hkind hi hj
        (forall₂_imp_of_mem hall fun x hx y hy => (hitem i j hi hj x hx y hy).2)

end Laws

/-- **Equality is an equivalence**, and identical values are equal.  On a store where no sequence
reaches itself, every comparison of values that were made has an answer; on values from which no
float can be reached, equality is an equivalence that holds of identical values, and it holds just
where contents are the same or items are equal. -/
theorem equivalence_equals (hs : s.Sealed) (hacyclic : s.Acyclic) :
    (∀ v w, s.Made v → s.Made w → (s.equals v w).isSome = true) ∧
      Equivalence (fun v w : {v : Value // s.Made v ∧ s.FloatFree v} =>
        s.equals v w = some true) ∧
      (∀ v w, s.Made v → s.FloatFree v → v.identical w = true → s.equals v w = some true) ∧
      ∀ v w, s.Made v → s.Made w → s.FloatFree v → s.FloatFree w →
        (s.equals v w = some true ↔
          (v.content?.isSome = true ∧ v.content? = w.content?) ∨
          (v.kind = w.kind ∧ ∃ i j, v.cell? = some i ∧ w.cell? = some j ∧
            List.Forall₂ (fun x y => s.equals x y = some true) (s.items i) (s.items j))) := by
  refine ⟨fun v w hv _ => isSome_equals hs (.inl ⟨hv, hacyclic.grounded v⟩), ?_, ?_, ?_⟩
  · exact {
      refl := fun v => equals_self hs hacyclic v.2.1 v.2.2
      symm := fun {v w} h => equalsWithin_symm v.2.2 w.2.2 h
      trans := fun {u v w} huv hvw => equalsWithin_trans u.2.2 v.2.2 w.2.2 huv hvw }
  · intro v w hv hfloat hvw
    rw [← Value.identical_iff.1 hvw]
    exact equals_self hs hacyclic hv hfloat
  · exact fun v w => equals_iff hs hacyclic

/-- Two tuples.  The first holds one list twice, the second another list and the first one. -/
def sharing : Store where
  cells := #[#[.int 1], #[.bool true], #[.list 0, .list 0], #[.list 1, .list 0]]

/-- The numbers of the two lists are equal, though they are of different kinds. -/
theorem equivalence_equals_sharing :
    sharing.Sealed ∧ sharing.Acyclic ∧ sharing.equals (.tuple 3) (.tuple 2) = some true := by
  have hlayered : sharing.Layered := by decide
  have hfloat : ∀ v, sharing.FloatFree (.tuple v) := by
    have hall : ∀ i < sharing.cells.size, ∀ w ∈ sharing.items i, w.kind ≠ .float := by decide
    exact fun v => ⟨nofun, fun i _ w hw => hall i (lt_size_of_mem hw) w hw⟩
  have hmade : sharing.Made (.tuple 2) ∧ sharing.Made (.tuple 3) := by decide
  have hequal : sharing.equals (.tuple 2) (.tuple 3) = some true := by decide
  obtain ⟨-, hequivalence, -⟩ := equivalence_equals hlayered.sealed hlayered.acyclic
  exact ⟨hlayered.sealed, hlayered.acyclic, @Equivalence.symm _ _ hequivalence
    ⟨.tuple 2, hmade.1, hfloat 2⟩ ⟨.tuple 3, hmade.2, hfloat 3⟩ hequal⟩

/-! ## Searching -/

variable {x : Value} {items : List Value} {b₁ b₂ : Bool}

/-- If every item has an answer, so has the search, and it finds what there is. -/
theorem anyEqual_eq_some (x : Value)
    (h : ∀ item ∈ items, (s.equals item x).isSome = true) :
    ∃ found, s.anyEqual x items = some found ∧
      (found = true ↔ ∃ item ∈ items, s.equals item x = some true) := by
  induction items with
  | nil => exact ⟨false, rfl, by simp⟩
  | cons item rest ih =>
    rw [List.forall_mem_cons] at h
    obtain ⟨found, hfound, hiff⟩ := ih h.2
    obtain ⟨b, hb⟩ := Option.isSome_iff_exists.1 h.1
    cases b with
    | true => exact ⟨true, by simp [anyEqual, hb], by simp [hb]⟩
    | false => exact ⟨found, by simp [anyEqual, hb, hfound], by simp [hb, hiff]⟩

/-- A search goes through one sequence and then through the next one. -/
theorem anyEqual_append {xs ys : List Value} (hx : s.anyEqual x xs = some b₁)
    (hy : s.anyEqual x ys = some b₂) : s.anyEqual x (xs ++ ys) = some (b₁ || b₂) := by
  induction xs generalizing b₁ with
  | nil =>
    cases hx
    exact hy
  | cons item rest ih =>
    cases hitem : s.equals item x with
    | none => simp [anyEqual, hitem] at hx
    | some b =>
      cases b with
      | true =>
        simp only [anyEqual, hitem] at hx
        cases hx
        simp [anyEqual, hitem]
      | false =>
        simp only [anyEqual, hitem] at hx
        simpa [anyEqual, hitem] using ih hx

/-- Making things changes no search. -/
theorem Extends.anyEqual {given : Value → Prop} (h : s.Extends given t) (hs : s.Sealed)
    (hx : s.Made x) (hitems : ∀ item ∈ items, s.Made item) (heq : s.anyEqual x items = some b) :
    t.anyEqual x items = some b := by
  induction items with
  | nil => exact heq
  | cons item rest ih =>
    rw [List.forall_mem_cons] at hitems
    cases hitem : s.equals item x with
    | none => simp [Store.anyEqual, hitem] at heq
    | some found =>
      have hkept := h.equals hs hitems.1 hx hitem
      cases found with
      | true => simpa [Store.anyEqual, hitem, hkept] using heq
      | false =>
        simp only [Store.anyEqual, hitem] at heq
        simpa [Store.anyEqual, hkept] using ih hitems.2 heq

end Store

end DynamicBinding
