import DynamicBinding.Proofs.Machine.Numbers
import DynamicBinding.Proofs.Script.Sequences
/-!
# Sums and products of sequences

What the script language makes of texts, lists and tuples with the operators of sums and products,
through any site with any history.

* `Machine.Gives` says that an operation makes a value that consists of a given sequence.  A list or
  tuple that is made is a new one.
* `Machine.Sums` goes from machine to machine and adds a sequence to a sum of it with itself.  All
  such sums consist of one sequence (`Machine.Sums.sequence?`).
* `Machine.Sound.repetition_exact`: a product is such a sum, or an overflow if it would be too long.
-/

namespace DynamicBinding

open Script

variable {m n o : Machine} {operation : Operation} {args : List Value} {v w x y : Value}
  {c d e : Sequence} {k : Nat} {a b : Int64}

/-! ## Making sequences -/

namespace Value

/-! Sequences are texts, lists and tuples. -/

/-- No sequence is an object. -/
theorem isObject_of_sequence? {s : Store} (hx : s.sequence? x = some c) : x.isObject = false := by
  cases x <;> first | rfl | cases hx

/-- No sequence is a record. -/
theorem recordFree_of_sequence? {s : Store} (hx : s.sequence? x = some c) : x.RecordFree := by
  cases x <;> first | rfl | cases hx

/-- The kinds of texts, lists and tuples are those of sequences. -/
theorem isSequence_of_sequence? {s : Store} (hx : s.sequence? x = some c) :
    x.kind.isSequence = true := by
  cases x <;> first | rfl | cases hx

end Value

/-- The operation makes a value that consists of the sequence. -/
def Machine.Gives (m : Machine) (operation : Operation) (args : List Value) (c : Sequence) : Prop :=
  ∃ v n, m.Does operation args v n ∧ m.store.Adds v c n.store

/-- An operation that gives a sequence can be done. -/
theorem Machine.Gives.exists_does (h : m.Gives operation args c) :
    ∃ v n, m.Does operation args v n :=
  let ⟨v, n, hdoes, _⟩ := h
  ⟨v, n, hdoes⟩

/-- However often it is done, the operation makes the same. -/
theorem Machine.Gives.adds (h : m.Gives operation args c) (hdoes : m.Does operation args v n) :
    m.store.Adds v c n.store := by
  obtain ⟨w, o, hother, hadds⟩ := h
  obtain ⟨hvalue, hstore⟩ := hother.answers.unique hdoes.answers
  cases hvalue
  rwa [hstore] at hadds

namespace Machine.Sound

/-- A computation that makes a sequence is run by an operation that gives it. -/
theorem gives (hm : m.Sound) {z : Effect Value} (hargs : RecordFreeArgs args)
    (hbuilds : z.Builds m.store c)
    (hanswers : ∀ v t, z.run.run m.store = (.ok v, t) → m.Answers operation args (.ok v) t) :
    m.Gives operation args c := by
  obtain ⟨v, t, hrun, hadds⟩ := hbuilds
  obtain ⟨n, hdoes, rfl⟩ := (hanswers v t hrun).exists_does hm hargs
  exact ⟨v, n, hdoes, hadds⟩

/-- The sum of two sequences of one kind is the first, followed by the second. -/
theorem gives_add (hm : m.Sound) (hx : m.store.sequence? x = some c)
    (hy : m.store.sequence? y = some d) (h : c.append? d = some e) :
    m.Gives (.binary .add) [x, y] e := by
  have hargs : RecordFreeArgs [x, y] :=
    .cons (Value.recordFree_of_sequence? hx) (.cons (Value.recordFree_of_sequence? hy) .nil)
  have hselect : BinaryImplementation.select? .add x.kind y.kind = some .concatenate := by
    have hsequence := Value.isSequence_of_sequence? hx
    rw [← (Store.exists_append?_iff hx hy).1 ⟨e, h⟩]
    revert hsequence
    cases x.kind <;> decide
  refine hm.gives hargs (concatenate_builds .add hx hy h) fun v t hrun => ?_
  refine hm.answers_binary hargs rfl ?_ rfl hselect hrun
  rintro o rfl
  cases hx

/-- The operands of a product are the sequence and the number, in either order. -/
theorem answers_multiply (hm : m.Sound) (hx : m.store.sequence? x = some c)
    (hy : y.asInt? = some a) (hargs : args ∈ [[x, y], [y, x]])
    {result : Except RuntimeError Value} {s : Store}
    (hrun : (repetition .multiply x y).run.run m.store = (result.mapError .error, s)) :
    m.Answers (.binary .multiply) args result s := by
  have hfree := Value.recordFree_of_sequence? hx
  have hfree' := Value.recordFree_of_asInt? hy
  have hsequence := Value.isSequence_of_sequence? hx
  have hintegral := Value.isIntegral_of_asInt? hy
  have hselect : BinaryImplementation.select? .multiply x.kind y.kind = some .repetition ∧
      BinaryImplementation.select? .multiply y.kind x.kind = some .repetition := by
    revert hsequence hintegral
    cases x.kind <;> cases y.kind <;> decide
  rcases List.mem_pair.1 hargs with rfl | rfl
  · refine hm.answers_binary (.cons hfree (.cons hfree' .nil)) rfl ?_ rfl hselect.1 hrun
    rintro o rfl
    cases hx
  · rw [← repetition_comm .multiply hx hy] at hrun
    refine hm.answers_binary (.cons hfree' (.cons hfree .nil)) rfl ?_ rfl hselect.2 hrun
    rintro o rfl
    cases hy

/-- A product that is not too long is the sequence a number of times over. -/
theorem gives_multiply (hm : m.Sound) (hx : m.store.sequence? x = some c)
    (hy : y.asInt? = some a) (hsize : c.size * a.toInt.toNat ≤ maxRepeatSize)
    (hargs : args ∈ [[x, y], [y, x]]) :
    m.Gives (.binary .multiply) args (c.times a.toInt.toNat) := by
  have hfree : RecordFreeArgs args := by
    have hx := Value.recordFree_of_sequence? hx
    have hy := Value.recordFree_of_asInt? hy
    rcases List.mem_pair.1 hargs with rfl | rfl
    · exact .cons hx (.cons hy .nil)
    · exact .cons hy (.cons hx .nil)
  refine hm.gives hfree (repetition_builds .multiply hx hy hsize) fun v t hrun => ?_
  exact hm.answers_multiply hx hy hargs hrun

end Machine.Sound

/-! ## Sums of a sequence with itself -/

/-- On one machine after the other, the value is added to sums of it with itself.  The last sum is
of so many values, and this is the machine that is left. -/
inductive Machine.Sums (m : Machine) (x : Value) : Nat → Value → Machine → Prop
  | one : Sums m x 1 x m
  | add {k : Nat} {v w : Value} {n o : Machine} (h : Sums m x k v n)
    (hadd : n.Does (.binary .add) [v, x] w o) : Sums m x (k + 1) w o

namespace Machine.Sums

variable (hx : m.store.sequence? x = some c) (hmade : m.store.Made x)

include hx hmade

/-- One more value is added to a sum of so many values. -/
theorem gives_next (hn : n.Sound) (hextension : m.store.Extends (fun _ => True) n.store)
    (hv : n.store.sequence? v = some (c.times k)) :
    n.Gives (.binary .add) [v, x] (c.times (k + 1)) := by
  have hx : n.store.sequence? x = some (c.times 1) := by
    rw [hextension.sequence? hmade, hx, Sequence.times_one]
  exact hn.gives_add hv hx (Sequence.append?_times c k 1)

/-- **A sum of a sequence with itself is the sequence that many times over**, and the sequence is
still what it was. -/
theorem sequence? (hm : m.Sound) (h : m.Sums x k v n) :
    n.Sound ∧ m.store.Extends (fun _ => True) n.store ∧
      n.store.sequence? v = some (c.times k) := by
  induction h with
  | one => exact ⟨hm, .refl _, by rw [hx, Sequence.times_one]⟩
  | add _ hadd ih =>
    obtain ⟨hn, hextension, hv⟩ := ih
    have hadds := (gives_next hx hmade hn hextension hv).adds hadd
    exact ⟨hadd.sound, hextension.trans hadds.extension, hadds.sequence⟩

/-- There are sums of any number of values. -/
theorem exists_of_pos (hm : m.Sound) (hk : 0 < k) : ∃ v n, m.Sums x k v n := by
  induction k with
  | zero => exact (Nat.lt_irrefl 0 hk).elim
  | succ k ih =>
    rcases Nat.eq_zero_or_pos k with rfl | hk
    · exact ⟨x, m, .one⟩
    · obtain ⟨v, n, hsums⟩ := ih hk
      obtain ⟨hn, hextension, hv⟩ := hsums.sequence? hx hmade hm
      obtain ⟨w, o, hadd⟩ := (gives_next hx hmade hn hextension hv).exists_does
      exact ⟨w, o, .add hsums hadd⟩

end Machine.Sums

/-! ## Products -/

/-- The value is a product of the sequence and the number, in either order. -/
def Machine.Multiplies (m : Machine) (x y v : Value) (n : Machine) : Prop :=
  ∃ args ∈ [[x, y], [y, x]], m.Does (.binary .multiply) args v n

/-- A machine on which a product was made is sound. -/
theorem Machine.Multiplies.sound (h : m.Multiplies x y v n) : n.Sound :=
  let ⟨_, _, hdoes⟩ := h
  hdoes.sound

namespace Machine.Sound

/-- A product that is made is the sequence a number of times over. -/
theorem adds_of_multiplies (hm : m.Sound) (hx : m.store.sequence? x = some c)
    (hy : y.asInt? = some a) (h : m.Multiplies x y v n) :
    m.store.Adds v (c.times a.toInt.toNat) n.store := by
  obtain ⟨args, hargs, hdoes⟩ := h
  rcases Nat.lt_or_ge maxRepeatSize (c.size * a.toInt.toNat) with hsize | hsize
  · -- no product is made of a sequence that would be too long
    have hoverflow : m.Computes (.binary .multiply) args (.error (.overflow .multiply)) :=
      hm.answers_multiply hx hy hargs (run_repetition_of_lt .multiply hx hy hsize)
    cases (Answers.unique hoverflow hdoes.answers).1
  · exact (hm.gives_multiply hx hy hsize hargs).adds hdoes

/-- Products with two numbers that are not negative add up to the product with their sum. -/
theorem sequence?_add_products (hm : m.Sound) (hx : m.store.sequence? x = some c)
    (hmade : m.store.Made x) {y₁ y₂ v₁ v₂ : Value} {n₁ n₂ : Machine} {i : Int64}
    (hy₁ : y₁.asInt? = some a) (hy₂ : y₂.asInt? = some b) (hy : y.asInt? = some i)
    (ha : 0 ≤ a.toInt) (hb : 0 ≤ b.toInt) (hi : i.toInt = a.toInt + b.toInt)
    (hfirst : m.Multiplies x y₁ v₁ n₁) (hsecond : n₁.Multiplies x y₂ v₂ n₂)
    (hsum : n₂.Does (.binary .add) [v₁, v₂] w o) (hproduct : m.Multiplies x y v n) :
    o.store.sequence? w = n.store.sequence? v := by
  have hv := hm.adds_of_multiplies hx hy hproduct
  have hv₁ := hm.adds_of_multiplies hx hy₁ hfirst
  have hx₁ : n₁.store.sequence? x = some c := by rw [hv₁.extension.sequence? hmade, hx]
  have hv₂ := hfirst.sound.adds_of_multiplies hx₁ hy₂ hsecond
  have hkept : n₂.store.sequence? v₁ = some (c.times a.toInt.toNat) := by
    rw [hv₂.extension.sequence? hv₁.made, hv₁.sequence]
  have hw := (hsecond.sound.gives_add hkept hv₂.sequence (Sequence.append?_times c _ _)).adds hsum
  rw [hw.sequence, hv.sequence, hi, Int.toNat_add ha hb]

/-- **Repetition is iterated concatenation, up to an exact size.**  For a text, list or tuple, on
any machine:

* a product with a number, in either order, is an overflow just in case it would be longer than
  `2 ^ 28`.  Otherwise it consists of nothing for numbers that are not positive, and for positive
  ones of what every sum of so many values consists of;
* a sum with a value of its kind always is the one followed by the other;
* a product with a sum of two numbers is the sum of the two products;
* what is made is new, and shares nothing with what was there. -/
theorem repetition_exact (hm : m.Sound) (hx : m.store.sequence? x = some c)
    (hmade : m.store.Made x) :
    (∀ y a, y.asInt? = some a → ∀ args ∈ [[x, y], [y, x]],
      (2 ^ 28 < c.size * a.toInt.toNat →
        m.Computes (.binary .multiply) args (.error (.overflow .multiply))) ∧
      (c.size * a.toInt.toNat ≤ 2 ^ 28 →
        (a.toInt ≤ 0 → m.Gives (.binary .multiply) args c.cleared) ∧
        (0 < a.toInt → (∃ v n, m.Sums x a.toInt.toNat v n) ∧
          ∀ v n, m.Sums x a.toInt.toNat v n →
            ∃ d, n.store.sequence? v = some d ∧ m.Gives (.binary .multiply) args d))) ∧
    (∀ y d, m.store.sequence? y = some d → y.kind = x.kind →
      ∃ e, c.append? d = some e ∧ m.Gives (.binary .add) [x, y] e) ∧
    (∀ y₁ y₂ y (a b i : Int64), y₁.asInt? = some a → y₂.asInt? = some b → y.asInt? = some i →
      0 ≤ a.toInt → 0 ≤ b.toInt → i.toInt = a.toInt + b.toInt →
      ∀ v₁ n₁ v₂ n₂ w o v n, m.Multiplies x y₁ v₁ n₁ → n₁.Multiplies x y₂ v₂ n₂ →
        n₂.Does (.binary .add) [v₁, v₂] w o → m.Multiplies x y v n →
        o.store.sequence? w = n.store.sequence? v) ∧
    ∀ operation args d v n, m.Gives operation args d → m.Does operation args v n →
      m.store.Apart v n.store := by
  refine ⟨fun y a hy args hargs => ⟨fun hsize => ?_, fun hsize => ?_⟩, fun y d hy hkind => ?_,
    ?_, fun operation args d v n hgives hdoes => (hgives.adds hdoes).apart⟩
  · exact hm.answers_multiply hx hy hargs (run_repetition_of_lt .multiply hx hy hsize)
  · have hproduct := hm.gives_multiply hx hy hsize hargs
    refine ⟨fun ha => ?_, fun ha => ⟨?_, fun v n hsums => ?_⟩⟩
    · rwa [Int.toNat_of_nonpos ha, Sequence.times_zero] at hproduct
    · exact Sums.exists_of_pos hx hmade hm (by omega)
    · exact ⟨_, (hsums.sequence? hx hmade hm).2.2, hproduct⟩
  · obtain ⟨e, he⟩ := (Store.exists_append?_iff hx hy).2 hkind.symm
    exact ⟨e, he, hm.gives_add hx hy he⟩
  · intro y₁ y₂ y a b i hy₁ hy₂ hy ha hb hi v₁ n₁ v₂ n₂ w o v n hfirst hsecond hsum hproduct
    exact hm.sequence?_add_products hx hmade hy₁ hy₂ hy ha hb hi hfirst hsecond hsum hproduct

end Machine.Sound

/-- Twice the list, and a product that would be two items too long. -/
theorem Machine.Sound.repetition_exact_pair :
    let m := (Client.making (.list [.int 1, .bool true])).left 4 default
    m.Gives (.binary .multiply) [.list 0, .int 2]
        (.list [.int 1, .bool true, .int 1, .bool true]) ∧
      m.Computes (.binary .multiply) [.int 0x8000001, .list 0]
        (.error (.overflow .multiply)) := by
  intro m
  have hm : m.Sound := Client.sound_making rfl default 4
  have hx : m.store.sequence? (.list 0) = some (.list [.int 1, .bool true]) := rfl
  have hmade : m.store.Made (.list 0) := by decide +kernel
  obtain ⟨hproduct, -⟩ := hm.repetition_exact hx hmade
  obtain ⟨-, htwice⟩ := hproduct (.int 2) 2 rfl _ (List.mem_pair.2 (.inl rfl))
  obtain ⟨⟨v, n, hsums⟩, hall⟩ := (htwice (by decide)).2 (by decide)
  obtain ⟨d, hd, hgives⟩ := hall v n hsums
  rw [(hsums.sequence? hx hmade hm).2.2] at hd
  cases hd
  exact ⟨hgives, (hproduct (.int 0x8000001) _ rfl _ (List.mem_pair.2 (.inr rfl))).1 (by decide)⟩

end DynamicBinding
