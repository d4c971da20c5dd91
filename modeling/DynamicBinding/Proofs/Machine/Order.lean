import DynamicBinding.Proofs.Machine.Membership
import DynamicBinding.Proofs.Machine.Numbers
import DynamicBinding.Proofs.Script.Order
/-!
# Comparisons

The four order relations and equality of the script language, through any site with any history.
Equality is not computed from the order, nor by the same implementation, and two of the relations
are the negations of others.

* `Operator.agrees` is the table of what the comparisons say of values in a given order, and
  `Machine.Compares` says that they do.  `Machine.holds_iff_relates`: where values compare as their
  keys in a linear order, each comparison is true of what it relates there (`Operator.Relates`).
* `Machine.TotallyOrders` says that the comparisons are the relations of one total order.
  `Machine.totallyOrders_of_key`: they are where all values compare as their keys.
* `Machine.Sound.comparisons_ordered`: ints and bools are ordered as the integers, and texts by the
  scalar values of their characters.
-/

namespace DynamicBinding

open Script

variable {m : Machine} {operator : Operator} {x y v : Value} {order : Ordering}

/-- The order relations of the script language. -/
def orderRelations : List Operator :=
  [.lessThan, .lessThanOrEqual, .greaterThan, .greaterThanOrEqual]

/-- Whether a comparison is true of values in the given order. -/
def Operator.agrees : Operator → Ordering → Bool
  | .equal, order => order == .eq
  | operator, order => (holds? operator order).getD false

/-- What a comparison says of two keys. -/
def Operator.Relates {κ : Type} [LinearOrder κ] (operator : Operator) (a b : κ) : Prop :=
  match operator with
  | .lessThan => a < b
  | .lessThanOrEqual => a ≤ b
  | .greaterThan => b < a
  | .greaterThanOrEqual => b ≤ a
  | .equal => a = b
  | _ => False

/-- An order relation is a binary operator that holds of an ordering as it should, and is no test of
membership. -/
theorem holds?_of_mem_orderRelations (h : operator ∈ orderRelations) :
    operator.arity = .binary ∧ (operator == .isIn || operator == .notIn) = false ∧
      ∀ order, holds? operator order = some (operator.agrees order) := by
  simp only [orderRelations, List.mem_cons, List.not_mem_nil, or_false] at h
  rcases h with rfl | rfl | rfl | rfl <;> exact ⟨rfl, rfl, fun _ => rfl⟩

/-- Where two values are ordered, comparing them gives what the relation says of the ordering. -/
theorem compareValues_of_order? {b : Bool} (horder : order? x y = some (some order))
    (hholds : holds? operator order = some b) : compareValues operator x y = .ok (.bool b) := by
  simp only [compareValues, horder, hholds]

namespace Machine

/-- The operator gives true, through every site of the script language. -/
def Holds (m : Machine) (operator : Operator) (x y : Value) : Prop :=
  m.Computes (.binary operator) [x, y] (.ok (.bool true))

/-- Each comparison gives the bool that agrees with the order. -/
def Compares (m : Machine) (x y : Value) (order : Ordering) : Prop :=
  ∀ operator ∈ Operator.equal :: orderRelations,
    m.Computes (.binary operator) [x, y] (.ok (.bool (operator.agrees order)))

/-- On the values, the comparisons are the relations of one total order. -/
structure TotallyOrders (m : Machine) (values : Value → Prop) : Prop where
  isBool : ∀ x y, values x → values y → ∀ operator ∈ Operator.equal :: orderRelations,
    ∃ b, m.Computes (.binary operator) [x, y] (.ok (.bool b))
  trichotomy : ∀ x y, values x → values y →
    ∃! operator, operator ∈ [Operator.lessThan, .equal, .greaterThan] ∧ m.Holds operator x y
  lessThanOrEqual_iff : ∀ x y, values x → values y →
    (m.Holds .lessThanOrEqual x y ↔ m.Holds .lessThan x y ∨ m.Holds .equal x y)
  greaterThanOrEqual_iff : ∀ x y, values x → values y →
    (m.Holds .greaterThanOrEqual x y ↔ m.Holds .greaterThan x y ∨ m.Holds .equal x y)
  lessThan_iff_greaterThan : ∀ x y, values x → values y → ∀ b,
    (m.Computes (.binary .lessThan) [x, y] (.ok (.bool b)) ↔
      m.Computes (.binary .greaterThan) [y, x] (.ok (.bool b)))
  lessThan_trans : ∀ x y z, values x → values y → values z →
    m.Holds .lessThan x y → m.Holds .lessThan y z → m.Holds .lessThan x z

/-! ## Keys -/

/-- The bool that is given is the one that agrees with the order. -/
theorem Compares.computes_iff {b : Bool} (h : m.Compares x y order)
    (hoperator : operator ∈ Operator.equal :: orderRelations) :
    m.Computes (.binary operator) [x, y] (.ok (.bool b)) ↔ operator.agrees order = b := by
  constructor
  · intro hcomputes
    cases (h operator hoperator).unique hcomputes
    rfl
  · rintro rfl
    exact h operator hoperator

section Key

variable {κ : Type} [LinearOrder κ] {a b : κ}

/-- An operator agrees with the ordering of two keys just if it relates them. -/
theorem agrees_cmp (hoperator : operator ∈ Operator.equal :: orderRelations) :
    operator.agrees (cmp a b) = true ↔ operator.Relates a b := by
  simp only [orderRelations, List.mem_cons, List.not_mem_nil, or_false] at hoperator
  rcases hoperator with rfl | rfl | rfl | rfl | rfl
  · exact beq_iff_eq.trans (cmp_eq_eq_iff a b)
  · exact beq_iff_eq.trans (cmp_eq_lt_iff a b)
  · exact bne_iff_ne.trans ((cmp_eq_gt_iff a b).not.trans not_lt)
  · exact beq_iff_eq.trans (cmp_eq_gt_iff a b)
  · exact bne_iff_ne.trans ((cmp_eq_lt_iff a b).not.trans not_lt)

variable (h : m.Compares x y (cmp a b))

include h

/-- Values that are compared by their keys are related as the keys are. -/
theorem holds_iff_relates (hoperator : operator ∈ Operator.equal :: orderRelations) :
    m.Holds operator x y ↔ operator.Relates a b :=
  (h.computes_iff hoperator).trans (agrees_cmp hoperator)

/-- **Trichotomy:** exactly one of less, equal and greater holds. -/
theorem existsUnique_holds :
    ∃! operator, operator ∈ [Operator.lessThan, .equal, .greaterThan] ∧ m.Holds operator x y := by
  have hlt : m.Holds .lessThan x y ↔ a < b := holds_iff_relates h (by decide)
  have heq : m.Holds .equal x y ↔ a = b := holds_iff_relates h (by decide)
  have hgt : m.Holds .greaterThan x y ↔ b < a := holds_iff_relates h (by decide)
  simp only [ExistsUnique, List.mem_cons, List.not_mem_nil, or_false]
  rcases lt_trichotomy a b with hab | hab | hab
  · refine ⟨.lessThan, ⟨.inl rfl, hlt.2 hab⟩, ?_⟩
    rintro _ ⟨rfl | rfl | rfl, hholds⟩
    · rfl
    · exact absurd (heq.1 hholds) hab.ne
    · exact absurd (hgt.1 hholds) hab.asymm
  · refine ⟨.equal, ⟨.inr (.inl rfl), heq.2 hab⟩, ?_⟩
    rintro _ ⟨rfl | rfl | rfl, hholds⟩
    · exact absurd hab (hlt.1 hholds).ne
    · rfl
    · exact absurd hab (hgt.1 hholds).ne'
  · refine ⟨.greaterThan, ⟨.inr (.inr rfl), hgt.2 hab⟩, ?_⟩
    rintro _ ⟨rfl | rfl | rfl, hholds⟩
    · exact absurd (hlt.1 hholds) hab.asymm
    · exact absurd (heq.1 hholds) hab.ne'
    · rfl

end Key

/-- Where values compare as their keys, they are totally ordered. -/
theorem totallyOrders_of_key {κ : Type} [LinearOrder κ] {values : Value → Prop}
    (key : Value → Option κ) (hkey : ∀ v, values v → ∃ a, key v = some a)
    (h : ∀ x y a b, key x = some a → key y = some b → m.Compares x y (cmp a b)) :
    m.TotallyOrders values where
  isBool x y hx hy operator hoperator := by
    obtain ⟨a, ha⟩ := hkey x hx
    obtain ⟨b, hb⟩ := hkey y hy
    exact ⟨_, h x y a b ha hb operator hoperator⟩
  trichotomy x y hx hy := by
    obtain ⟨a, ha⟩ := hkey x hx
    obtain ⟨b, hb⟩ := hkey y hy
    exact existsUnique_holds (h x y a b ha hb)
  lessThanOrEqual_iff x y hx hy := by
    obtain ⟨a, ha⟩ := hkey x hx
    obtain ⟨b, hb⟩ := hkey y hy
    have hxy := h x y a b ha hb
    rw [holds_iff_relates hxy (by decide), holds_iff_relates hxy (by decide),
      holds_iff_relates hxy (by decide)]
    exact le_iff_lt_or_eq
  greaterThanOrEqual_iff x y hx hy := by
    obtain ⟨a, ha⟩ := hkey x hx
    obtain ⟨b, hb⟩ := hkey y hy
    have hxy := h x y a b ha hb
    rw [holds_iff_relates hxy (by decide), holds_iff_relates hxy (by decide),
      holds_iff_relates hxy (by decide)]
    exact le_iff_lt_or_eq.trans (or_congr_right eq_comm)
  lessThan_iff_greaterThan x y hx hy r := by
    obtain ⟨a, ha⟩ := hkey x hx
    obtain ⟨b, hb⟩ := hkey y hy
    rw [(h x y a b ha hb).computes_iff (by decide), (h y x b a hb ha).computes_iff (by decide),
      ← cmp_swap]
    cases cmp b a <;> rfl
  lessThan_trans x y z hx hy hz hxy hyz := by
    obtain ⟨a, ha⟩ := hkey x hx
    obtain ⟨b, hb⟩ := hkey y hy
    obtain ⟨c, hc⟩ := hkey z hz
    rw [holds_iff_relates (h x y a b ha hb) (by decide)] at hxy
    rw [holds_iff_relates (h y z b c hb hc) (by decide)] at hyz
    rw [holds_iff_relates (h x z a c ha hc) (by decide)]
    exact lt_trans hxy hyz

end Machine

/-! ## Whole numbers and texts -/

/-- The integer that an int or a bool counts as. -/
def Value.integer? (v : Value) : Option Int := v.asInt?.map Int64.toInt

/-- The characters of a text. -/
def Value.chars? : Value → Option String
  | .str text => some text.chars
  | _ => none

/-- Only texts have characters to be compared. -/
theorem Value.eq_str_of_chars? {chars : String} (h : v.chars? = some chars) :
    ∃ text : Text, v = .str text ∧ text.chars = chars := by
  cases v <;> cases h
  exact ⟨_, rfl, rfl⟩

namespace Machine.Sound

/-- Where order and equality are implemented by keys, the values compare as their keys. -/
theorem compares_of_key {κ : Type} [LinearOrder κ] {a b : κ} (hm : m.Sound)
    (hx : x.isObject = false) (hy : y.isObject = false)
    (hselect : ∀ operator ∈ orderRelations,
      BinaryImplementation.select? operator x.kind y.kind = some .order)
    (horder : order? x y = some (some (cmp a b)))
    (hequal : m.store.equals x y = some (decide (a = b))) : m.Compares x y (cmp a b) := by
  have hfree : RecordFreeArgs [x, y] := .cons (Value.recordFree_of_isObject hx)
    (.cons (Value.recordFree_of_isObject hy) .nil)
  intro operator hoperator
  -- equality is not one of the relations: it has no guard on kinds and asks the store
  rcases List.mem_cons.1 hoperator with rfl | hrelation
  · have hanswers : x.answersEqual = false := by
      cases x with
      | object o => cases hx
      | _ => rfl
    have hsame : decide (a = b) = (cmp a b == .eq) := by
      rw [Bool.eq_iff_iff, decide_eq_true_iff, beq_iff_eq, cmp_eq_eq_iff]
    rw [hsame] at hequal
    exact hm.computes_equal hfree.head hfree.tail.head hanswers hequal
  · have hdeclines : ∀ o, x = .object o → o.bind (.binary operator) [x, y] = none := by
      rintro o rfl
      cases hx
    obtain ⟨harity, hmember, hholds⟩ := holds?_of_mem_orderRelations hrelation
    refine hm.answers_binary hfree harity hdeclines (by rw [hmember, Bool.false_and])
      (hselect operator hrelation) ?_
    have hcompare := compareValues_of_order? horder (hholds (cmp a b))
    rw [BinaryImplementation.run, hcompare]
    exact Script.run_lift _ _

/-- Whole numbers and bools are compared as integers. -/
theorem compares_integers (hm : m.Sound) {a b : Int} (hx : x.integer? = some a)
    (hy : y.integer? = some b) : m.Compares x y (cmp a b) := by
  obtain ⟨i, hi, rfl⟩ := Option.map_eq_some_iff.1 hx
  obtain ⟨j, hj, rfl⟩ := Option.map_eq_some_iff.1 hy
  have hselect : ∀ operator ∈ orderRelations,
      BinaryImplementation.select? operator x.kind y.kind = some .order := by
    have hboth : (x.kind.isNumeric && y.kind.isNumeric) = true := by
      rw [Value.isNumeric_of_asInt? hi, Value.isNumeric_of_asInt? hj, Bool.and_self]
    intro operator hoperator
    simp only [orderRelations, List.mem_cons, List.not_mem_nil, or_false] at hoperator
    rcases hoperator with rfl | rfl | rfl | rfl <;>
      simp only [BinaryImplementation.select?, hboth, Bool.true_or, if_true]
  have horder : order? x y = some (some (cmp i.toInt j.toInt)) := by
    rw [cmp_eq_compare]
    cases x <;> cases hi <;> cases y <;> cases hj <;> rfl
  have hequal : m.store.equals x y = some (decide (i.toInt = j.toInt)) := by
    simp only [Int64.toInt_inj, ← beq_eq_decide]
    cases x <;> cases hi <;> cases y <;> cases hj <;> rfl
  exact hm.compares_of_key (Value.isObject_of_asInt? hi) (Value.isObject_of_asInt? hj) hselect
    horder hequal

/-- Texts are compared by their scalar values. -/
theorem compares_texts (hm : m.Sound) {a b : String} (hx : x.chars? = some a)
    (hy : y.chars? = some b) : m.Compares x y (cmp a b) := by
  obtain ⟨s, rfl, rfl⟩ := Value.eq_str_of_chars? hx
  obtain ⟨t, rfl, rfl⟩ := Value.eq_str_of_chars? hy
  have hselect : ∀ operator ∈ orderRelations,
      BinaryImplementation.select? operator .str .str = some .order := by decide
  have horder : order? (.str s) (.str t) = some (some (cmp s.chars t.chars)) := by
    rw [cmp_eq_compare]
    rfl
  exact hm.compares_of_key rfl rfl hselect horder rfl

/-- **The comparisons are a total order that is consistent with equality**, on ints and bools and on
texts.  Ints and bools are in the order of the integers they count as, and texts in the
lexicographic order of the scalar values of their characters, which is that of their bytes. -/
theorem comparisons_ordered (hm : m.Sound) :
    (m.TotallyOrders fun v => v.kind = .int ∨ v.kind = .bool) ∧
    (∀ x y a b, x.integer? = some a → y.integer? = some b →
      (m.Holds .lessThan x y ↔ a < b) ∧ (m.Holds .equal x y ↔ a = b)) ∧
    (m.TotallyOrders fun v => v.kind = .str) ∧
    ∀ s t : Text,
      (m.Holds .lessThan (.str s) (.str t) ↔ List.Lex (· < ·) s.scalars t.scalars) ∧
      (m.Holds .lessThan (.str s) (.str t) ↔ List.Lex (· < ·) s.bytes t.bytes) ∧
      (m.Holds .equal (.str s) (.str t) ↔ s.scalars = t.scalars) := by
  refine ⟨totallyOrders_of_key Value.integer? ?_ fun x y a b => hm.compares_integers,
    fun x y a b hx hy => ?_,
    totallyOrders_of_key Value.chars? ?_ fun x y a b => hm.compares_texts,
    fun s t => ?_⟩
  · intro v hv
    rcases hv with hv | hv <;> cases v <;> cases hv <;> exact ⟨_, rfl⟩
  · have hxy := hm.compares_integers hx hy
    exact ⟨holds_iff_relates hxy (by decide), holds_iff_relates hxy (by decide)⟩
  · intro v hv
    cases v <;> cases hv
    exact ⟨_, rfl⟩
  · have hst := hm.compares_texts (x := .str s) (y := .str t) rfl rfl
    rw [holds_iff_relates hst (by decide), holds_iff_relates hst (by decide)]
    exact ⟨lt_iff_scalars, lt_iff_bytes, scalars_inj.symm⟩

/-- A bool is between two ints.  The last character of the first plane comes before those of the
planes above it. -/
theorem comparisons_ordered_planes :
    let m : Machine := { main := default }
    m.Holds .lessThan (.int 0) (.int 2) ∧
      m.Holds .lessThan (.str ⟨0, "\uffff"⟩) (.str ⟨1, "😀"⟩) := by
  intro m
  have hm : m.Sound := .new default
  obtain ⟨horders, hintegers, -, htexts⟩ := hm.comparisons_ordered
  have hfirst : m.Holds .lessThan (.int 0) (.bool true) :=
    (hintegers _ _ 0 1 rfl rfl).1.2 (by decide)
  have hsecond : m.Holds .lessThan (.bool true) (.int 2) :=
    (hintegers _ _ 1 2 rfl rfl).1.2 (by decide)
  refine ⟨horders.lessThan_trans _ _ _ (.inl rfl) (.inr rfl) (.inl rfl) hfirst hsecond,
    (htexts _ _).1.2 (.rel ?_)⟩
  decide

end Machine.Sound

end DynamicBinding
