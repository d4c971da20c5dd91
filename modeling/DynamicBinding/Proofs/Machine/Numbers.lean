import DynamicBinding.Proofs.Machine.Answers
import DynamicBinding.Proofs.Script.Division
import DynamicBinding.Proofs.Script.Powers
/-!
# Operators on whole numbers

What the operators of the script language give on ints and bools, through any site with any history.

* `Machine.Computes` says that an operation gives a result, be it a value or an error, through every
  site of the script language.  `Machine.ComputesExactly` says that the result is a given number, or
  an overflow if no word holds the number.
* `Machine.Sound.computes_binary` and `Machine.Sound.computes_unary` take an operator to what
  implements it.
* `Machine.Sound.sums_exact`: sums, products, negatives and shifts are exact.
* `Machine.Sound.division_law`: quotient and remainder are those of the floor.
* `Machine.Sound.powers_exact`: powers are exact, but for exponents of more than thirty-two bits.
  Of these every power is reported as too large, also those of `1`, `0` and `-1`.
-/

namespace DynamicBinding

open Exec Script

/-! ## Results of operations -/

/-- Through every site of the script language, the operation gives the result on the arguments and
leaves the store as it is. -/
def Machine.Computes (m : Machine) (operation : Operation) (args : List Value)
    (result : Except RuntimeError Value) : Prop :=
  ∀ (l : Language) (site : Option Nat), l.Scripts → m.Admits site ⟨operation, l⟩ →
    (Task.invoke ⟨operation, l⟩ site args).ComesTo .kept m (result.mapError .error) m.store

/-- The operation gives the number, or the overflow of the operator if no word holds the number. -/
def Machine.ComputesExactly (m : Machine) (operation : Operation) (operator : Operator)
    (args : List Value) (n : Int) : Prop :=
  (InRange n → ∃ i : Int64, i.toInt = n ∧ m.Computes operation args (.ok (.int i))) ∧
    (¬ InRange n → m.Computes operation args (.error (.overflow operator)))

variable {m : Machine} {operation : Operation} {operator : Operator} {args : List Value}
  {result : Except RuntimeError Value} {x y v : Value} {a b i : Int64} {n : Int}

/-- An operation gives one result at most. -/
theorem Machine.Computes.unique {result' : Except RuntimeError Value}
    (h : m.Computes operation args result) (h' : m.Computes operation args result') :
    result = result' :=
  (Machine.Answers.unique h h').1

/-- What is checked is exact. -/
theorem Machine.computesExactly_of_checked
    (h : m.Computes operation args (checked operator (word? n))) :
    m.ComputesExactly operation operator args n := by
  constructor
  · intro hrange
    obtain ⟨i, hi⟩ := hrange.exists_word
    rw [word?_eq_some_iff.2 hi] at h
    exact ⟨i, hi, h⟩
  · intro hrange
    rw [word?_eq_none_iff.2 hrange] at h
    exact h

/-! ## From operations to implementations -/

namespace Value

/-! Whole numbers are ints and bools. -/

/-- What counts as a whole number is no object. -/
theorem isObject_of_asInt? (h : v.asInt? = some i) : v.isObject = false := by
  cases v <;> cases h <;> rfl

/-- What counts as a whole number is no record. -/
theorem recordFree_of_asInt? (h : v.asInt? = some i) : v.RecordFree := by
  cases v <;> cases h <;> rfl

/-- What counts as a whole number is of a numeric kind. -/
theorem isNumeric_of_asInt? (h : v.asInt? = some i) : v.kind.isNumeric = true := by
  cases v <;> cases h <;> rfl

/-- What counts as a whole number is of an integral kind, as bools are. -/
theorem isIntegral_of_asInt? (h : v.asInt? = some i) : v.kind.isIntegral = true := by
  cases v <;> cases h <;> rfl

end Value

/-- The operators of arithmetic that give whole numbers of whole numbers. -/
def wholeOperators : List Operator :=
  [.add, .subtract, .multiply, .divide, .floorDivide, .modulo, .power]

namespace Machine.Sound

/-- A machine on which nothing was done. -/
theorem new (main : Language) : Machine.Sound { main := main } := ⟨_, Tracks.new main⟩

/-- A binary operator on whole numbers gives what its implementation does. -/
theorem computes_binary (hm : m.Sound) (hx : x.asInt? = some a) (hy : y.asInt? = some b)
    {implementation : BinaryImplementation} (harity : operator.arity = .binary)
    (hmember : (operator == .isIn || operator == .notIn) = false)
    (hselect : BinaryImplementation.select? operator x.kind y.kind = some implementation)
    (hrun : implementation.run operator x y = Script.lift result) :
    m.Computes (.binary operator) [x, y] result := by
  have hfree : RecordFreeArgs [x, y] := .cons (Value.recordFree_of_asInt? hx)
    (.cons (Value.recordFree_of_asInt? hy) .nil)
  refine hm.answers_binary hfree harity ?_ (by rw [hmember, Bool.false_and]) hselect ?_
  · rintro o rfl
    cases hx
  · rw [hrun, Script.run_lift]

/-- A unary operator on a whole number gives what its implementation does. -/
theorem computes_unary (hm : m.Sound) (hx : x.asInt? = some a)
    {implementation : UnaryImplementation} (harity : operator.arity = .unary)
    (hnot : (operator == .not) = false)
    (hselect : UnaryImplementation.select? operator x.kind = some implementation)
    (hrun : implementation.run x = Script.lift result) :
    m.Computes (.unary operator) [x] result := by
  have hfree : RecordFreeArgs [x] := .cons (Value.recordFree_of_asInt? hx) .nil
  exact hm.answers_unary hfree harity hnot (Value.isObject_of_asInt? hx) hselect
    (by rw [hrun, Script.run_lift])

/-- The operators on whole numbers are done on their words. -/
theorem computes_arithmetic (hm : m.Sound) (hx : x.asInt? = some a) (hy : y.asInt? = some b)
    (hoperator : operator ∈ wholeOperators) :
    m.Computes (.binary operator) [x, y] (intArithmetic operator a b) := by
  have hboth : (x.kind.isNumeric && y.kind.isNumeric) = true := by
    rw [Value.isNumeric_of_asInt? hx, Value.isNumeric_of_asInt? hy, Bool.and_self]
  have hfloat : eitherFloat x y = false := by
    cases x <;> cases hx <;> cases y <;> cases hy <;> rfl
  have hselect : BinaryImplementation.select? operator x.kind y.kind = some .arithmetic := by
    simp only [wholeOperators, List.mem_cons, List.not_mem_nil, or_false] at hoperator
    rcases hoperator with rfl | rfl | rfl | rfl | rfl | rfl | rfl <;>
      simp only [BinaryImplementation.select?, hboth, if_true]
  have hrun : BinaryImplementation.arithmetic.run operator x y =
      Script.lift (intArithmetic operator a b) := by
    simp only [BinaryImplementation.run, arithmetic, hfloat, hx, hy, Bool.false_eq_true, if_false]
  have harity : operator.arity = .binary ∧ (operator == .isIn || operator == .notIn) = false := by
    clear hselect hrun
    revert operator
    decide
  exact hm.computes_binary hx hy harity.1 harity.2 hselect hrun

/-- Shifts are done on the words of their operands. -/
theorem computes_shift (hm : m.Sound) (hx : x.asInt? = some a) (hy : y.asInt? = some b)
    (hbits : wordBits operator a b = some result)
    (hoperator : operator = .leftShift ∨ operator = .rightShift) :
    m.Computes (.binary operator) [x, y] result := by
  have hboth : (x.kind.isIntegral && y.kind.isIntegral) = true := by
    rw [Value.isIntegral_of_asInt? hx, Value.isIntegral_of_asInt? hy, Bool.and_self]
  have hselect : BinaryImplementation.select? operator x.kind y.kind = some .bitwise := by
    rcases hoperator with rfl | rfl <;>
      simp only [BinaryImplementation.select?, hboth, if_true]
  have hlogical : ∀ p q, logical? operator p q = none := by
    rcases hoperator with rfl | rfl <;> exact fun _ _ => rfl
  -- truth values do not go another way for shifts
  have hrun : BinaryImplementation.bitwise.run operator x y = Script.lift result := by
    simp only [BinaryImplementation.run, bitwise, hx, hy, hbits, Option.getD_some, hlogical]
    split <;> rfl
  have harity : operator.arity = .binary ∧ (operator == .isIn || operator == .notIn) = false := by
    rcases hoperator with rfl | rfl <;> decide
  exact hm.computes_binary hx hy harity.1 harity.2 hselect hrun

/-- The negative is that of the word. -/
theorem computes_negate (hm : m.Sound) (hx : x.asInt? = some a) :
    m.Computes (.unary .negate) [x] (exactly .negate (-a.toInt)) := by
  have hselect : UnaryImplementation.select? .negate x.kind = some .negative :=
    if_pos (Value.isNumeric_of_asInt? hx)
  have hnegative : negative x = exactly .negate (-a.toInt) := by
    cases x <;> cases hx <;> rfl
  have hrun : UnaryImplementation.negative.run x =
      Script.lift (exactly .negate (-a.toInt)) := by
    rw [← hnegative]
    rfl
  exact hm.computes_unary hx rfl rfl hselect hrun

/-! ## Sums, products, negatives and shifts -/

/-- Sums, differences, products and negatives are exact where they are in range. -/
theorem computes_sums (hm : m.Sound) (hx : x.asInt? = some a) (hy : y.asInt? = some b) :
    m.ComputesExactly (.binary .add) .add [x, y] (a.toInt + b.toInt) ∧
      m.ComputesExactly (.binary .subtract) .subtract [x, y] (a.toInt - b.toInt) ∧
      m.ComputesExactly (.binary .multiply) .multiply [x, y] (a.toInt * b.toInt) ∧
      m.ComputesExactly (.unary .negate) .negate [x] (-a.toInt) :=
  ⟨computesExactly_of_checked (hm.computes_arithmetic hx hy (by decide)),
    computesExactly_of_checked (hm.computes_arithmetic hx hy (by decide)),
    computesExactly_of_checked (hm.computes_arithmetic hx hy (by decide)),
    computesExactly_of_checked (hm.computes_negate hx)⟩

/-- No shift takes a negative count. -/
theorem computes_shift_of_neg (hm : m.Sound) (hx : x.asInt? = some a) (hy : y.asInt? = some b)
    (hb : b.toInt < 0) (hoperator : operator = .leftShift ∨ operator = .rightShift) :
    m.Computes (.binary operator) [x, y] (.error (.invalidValue "negative shift count")) := by
  have hneg : b < 0 := Int64.lt_iff_toInt_lt.2 hb
  refine hm.computes_shift hx hy ?_ hoperator
  rcases hoperator with rfl | rfl <;> simp only [wordBits, if_pos hneg]

/-- A shift to the right by a count that is not negative gives the floor. -/
theorem computes_rightShift (hm : m.Sound) (hx : x.asInt? = some a) (hy : y.asInt? = some b)
    (hb : 0 ≤ b.toInt) :
    ∃ i : Int64, i.toInt = ⌊(a.toInt : ℚ) / 2 ^ b.toInt.toNat⌋ ∧
      m.Computes (.binary .rightShift) [x, y] (.ok (.int i)) := by
  refine ⟨a >>> min b 63, toInt_shiftRight a hb, hm.computes_shift hx hy ?_ (.inr rfl)⟩
  simp only [wordBits, if_neg (not_neg_of_nonneg hb)]

/-- The three ways of shifting to the left give the same number. -/
theorem computesExactly_leftShift (hm : m.Sound) (hx : x.asInt? = some a)
    (hy : y.asInt? = some b) (hb : 0 ≤ b.toInt) :
    m.ComputesExactly (.binary .leftShift) .leftShift [x, y] (a.toInt * 2 ^ b.toInt.toNat) := by
  apply computesExactly_of_checked
  refine hm.computes_shift hx hy ?_ (.inl rfl)
  simp only [wordBits, if_neg (not_neg_of_nonneg hb)]
  by_cases ha : a = 0
  · rw [if_pos ha, ha, Int64.toInt_zero, zero_mul, ← Int64.toInt_zero, word?_toInt]
    rfl
  rw [if_neg ha]
  have hwidth : (64 : Int64).toInt = 64 := by decide
  by_cases hlarge : 64 ≤ b
  · rw [Int64.le_iff_toInt_le, hwidth] at hlarge
    have hrange := not_inRange_mul_two_pow (mt toInt_eq_zero.1 ha)
      (show 64 ≤ b.toInt.toNat by omega)
    rw [if_pos (Int64.le_iff_toInt_le.2 (hwidth ▸ hlarge)), word?_eq_none_iff.2 hrange]
    rfl
  · rw [if_neg hlarge]
    rw [Int64.le_iff_toInt_le, hwidth] at hlarge
    rw [exactly, toInt_wideShift hb (by omega)]

/-- **Sums, differences, products, negatives and shifts are exact**, or an overflow of their own
operator where no word holds the number.  Shifts take every count that is not negative: the shift to
the right gives the floor, however large the count is. -/
theorem sums_exact (hm : m.Sound) (hx : x.asInt? = some a) (hy : y.asInt? = some b) :
    m.ComputesExactly (.binary .add) .add [x, y] (a.toInt + b.toInt) ∧
      m.ComputesExactly (.binary .subtract) .subtract [x, y] (a.toInt - b.toInt) ∧
      m.ComputesExactly (.binary .multiply) .multiply [x, y] (a.toInt * b.toInt) ∧
      m.ComputesExactly (.unary .negate) .negate [x] (-a.toInt) ∧
      (b.toInt < 0 → ∀ operator ∈ [Operator.leftShift, .rightShift],
        m.Computes (.binary operator) [x, y] (.error (.invalidValue "negative shift count"))) ∧
      (0 ≤ b.toInt →
        (∃ i : Int64, i.toInt = ⌊(a.toInt : ℚ) / 2 ^ b.toInt.toNat⌋ ∧
          m.Computes (.binary .rightShift) [x, y] (.ok (.int i))) ∧
        m.ComputesExactly (.binary .leftShift) .leftShift [x, y]
          (a.toInt * 2 ^ b.toInt.toNat)) := by
  obtain ⟨hadd, hsubtract, hmultiply, hnegate⟩ := hm.computes_sums hx hy
  refine ⟨hadd, hsubtract, hmultiply, hnegate, fun hb operator hoperator => ?_, fun hb => ?_⟩
  · exact hm.computes_shift_of_neg hx hy hb (by simpa using hoperator)
  · exact ⟨hm.computes_rightShift hx hy hb, hm.computesExactly_leftShift hx hy hb⟩

/-- The largest word: with one added it is too large, and its negative is in range. -/
theorem sums_exact_mixed :
    let m : Machine := { main := default }
    m.Computes (.binary .add) [.int Int64.maxValue, .bool true] (.error (.overflow .add)) ∧
      m.Computes (.unary .negate) [.int Int64.maxValue] (.ok (.int (-Int64.maxValue))) ∧
      m.Computes (.binary .rightShift) [.int Int64.maxValue, .bool true]
        (.ok (.int 0x3fffffffffffffff)) := by
  intro m
  have hm : m.Sound := .new default
  obtain ⟨⟨-, hadd⟩, -, -, ⟨hnegate, -⟩, -, hshift⟩ :=
    hm.sums_exact (x := .int Int64.maxValue) (y := .bool true) rfl rfl
  obtain ⟨i, hi, hnegate⟩ := hnegate (by decide)
  obtain ⟨⟨j, hj, hright⟩, -⟩ := hshift (by decide)
  obtain rfl : i = -Int64.maxValue := Int64.toInt_inj.1 (by rw [hi]; decide)
  rw [floor_div_two_pow] at hj
  obtain rfl : j = 0x3fffffffffffffff := Int64.toInt_inj.1 (by rw [hj]; decide)
  exact ⟨hadd (by decide), hnegate, hright⟩

/-! ## Division -/

/-- A quotient is that of the words, or there is none by zero. -/
theorem computes_divide (hm : m.Sound) (hx : x.asInt? = some a) (hy : y.asInt? = some b)
    (hoperator : operator ∈ [Operator.divide, .floorDivide]) :
    m.Computes (.binary operator) [x, y]
      (if b = 0 then .error .divisionByZero else checked operator (floorQuotient? a b)) := by
  simp only [List.mem_cons, List.not_mem_nil, or_false] at hoperator
  rcases hoperator with rfl | rfl <;> exact hm.computes_arithmetic hx hy (by decide)

/-- A remainder is that of the words, or there is none by zero. -/
theorem computes_modulo (hm : m.Sound) (hx : x.asInt? = some a) (hy : y.asInt? = some b) :
    m.Computes (.binary .modulo) [x, y]
      (if b = 0 then .error .divisionByZero else .ok (.int (floorRemainder a b))) :=
  hm.computes_arithmetic hx hy (by decide)

/-- **Quotient and remainder are those of the floor.**  For a divisor of zero there is neither.
Otherwise there is always a remainder, which is zero or has the sign of the divisor; there is a
quotient but for the corner where no word holds it, and together they give the dividend back.  Both
operators of division do the same, and no step on the way wraps. -/
theorem division_law (hm : m.Sound) (hx : x.asInt? = some a) (hy : y.asInt? = some b) :
    (b.toInt = 0 → ∀ operator ∈ [Operator.divide, .floorDivide, .modulo],
      m.Computes (.binary operator) [x, y] (.error .divisionByZero)) ∧
    (b.toInt ≠ 0 → DividesExactly a b ∧ ∃ r : Int64,
      m.Computes (.binary .modulo) [x, y] (.ok (.int r)) ∧
      r.toInt = a.toInt - b.toInt * ⌊(a.toInt : ℚ) / b.toInt⌋ ∧
      (r.toInt = 0 ∨ r.toInt.sign = b.toInt.sign) ∧ |r.toInt| < |b.toInt| ∧
      ∀ operator ∈ [Operator.divide, .floorDivide],
        (IsCorner a b → m.Computes (.binary operator) [x, y] (.error (.overflow operator))) ∧
        (¬ IsCorner a b → ∃ q : Int64,
          m.Computes (.binary operator) [x, y] (.ok (.int q)) ∧
          q.toInt = ⌊(a.toInt : ℚ) / b.toInt⌋ ∧
          a.toInt = q.toInt * b.toInt + r.toInt)) := by
  have hdivide : ∀ operator ∈ [Operator.divide, .floorDivide],
      m.Computes (.binary operator) [x, y]
        (if b = 0 then .error .divisionByZero else checked operator (floorQuotient? a b)) :=
    fun _ => hm.computes_divide hx hy
  have hmodulo := hm.computes_modulo hx hy
  by_cases hb : b = 0
  · simp only [if_pos hb] at hdivide hmodulo
    refine ⟨fun _ operator hoperator => ?_, fun hne => (hne (toInt_eq_zero.2 hb)).elim⟩
    simp only [List.mem_cons, List.not_mem_nil, or_false] at hoperator
    rcases hoperator with rfl | rfl | rfl
    · exact hdivide .divide (by simp)
    · exact hdivide .floorDivide (by simp)
    · exact hmodulo
  · simp only [if_neg hb] at hdivide hmodulo
    have hremainder := toInt_floorRemainder hb (a := a)
    have hbounds := fmod_bounds (mt toInt_eq_zero.1 hb) (a := a.toInt)
    rw [Int.fmod_def, ← floor_div_eq_fdiv, ← hremainder] at hbounds
    refine ⟨fun hzero => (hb (toInt_eq_zero.1 hzero)).elim, fun _ => ⟨dividesExactly a b,
      floorRemainder a b, hmodulo, hremainder, hbounds.1, hbounds.2, ?_⟩⟩
    refine fun operator hoperator => ⟨fun hcorner => ?_, fun hcorner => ?_⟩
    · have hquotient := hdivide operator hoperator
      rwa [floorQuotient?_of_isCorner hcorner] at hquotient
    · obtain ⟨q, hq, hfloor⟩ := floorQuotient?_eq_some hb hcorner
      have hquotient := hdivide operator hoperator
      rw [hq] at hquotient
      refine ⟨q, hquotient, hfloor, ?_⟩
      rw [hremainder, hfloor]
      ring

/-- The quotient of `-7` by `2` is lowered, and the remainder raised. -/
theorem division_law_corrected :
    let m : Machine := { main := default }
    m.Computes (.binary .floorDivide) [.int (-7), .int 2] (.ok (.int (-4))) ∧
      m.Computes (.binary .modulo) [.int (-7), .int 2] (.ok (.int 1)) := by
  intro m
  have hm : m.Sound := .new default
  obtain ⟨-, r, hmodulo, hr, -, -, hquotient⟩ :=
    (hm.division_law (x := .int (-7)) (y := .int 2) rfl rfl).2 (by decide)
  obtain ⟨q, hdivide, hq, -⟩ := (hquotient .floorDivide (by decide)).2 (by decide)
  rw [floor_div_eq_fdiv] at hr hq
  obtain rfl : r = 1 := Int64.toInt_inj.1 (by rw [hr]; decide)
  obtain rfl : q = -4 := Int64.toInt_inj.1 (by rw [hq]; decide)
  exact ⟨hdivide, hmodulo⟩

/-! ## Powers -/

/-- A power with an exponent that is not negative is that of the words. -/
theorem computes_power (hm : m.Sound) (hx : x.asInt? = some a) (hy : y.asInt? = some b)
    (hb : 0 ≤ b.toInt) : m.Computes (.binary .power) [x, y] (intPower a b) := by
  have hpower : m.Computes (.binary .power) [x, y] (intArithmetic .power a b) :=
    hm.computes_arithmetic hx hy (by decide)
  rwa [intArithmetic, if_neg (not_neg_of_nonneg hb)] at hpower

/-- **Powers are exact**, or an overflow where no word holds the power.

There is one exception.  An exponent of more than thirty-two bits is an overflow before anything is
computed, and so it is for the bases `1`, `0` and `-1`, whose powers are all in range. -/
theorem powers_exact (hm : m.Sound) (hx : x.asInt? = some a) (hy : y.asInt? = some b)
    (hb : 0 ≤ b.toInt) :
    (b.toInt < 2 ^ 32 ∨ 2 ≤ |a.toInt| →
      m.ComputesExactly (.binary .power) .power [x, y] (a.toInt ^ b.toInt.toNat)) ∧
    (2 ^ 32 ≤ b.toInt → |a.toInt| ≤ 1 →
      m.Computes (.binary .power) [x, y] (.error (.overflow .power))) := by
  have hpower := hm.computes_power hx hy hb
  have hbound : (0x100000000 : Int64).toInt = 2 ^ 32 := by decide
  by_cases hlarge : (0x100000000 : Int64) ≤ b
  · rw [intPower, if_pos hlarge] at hpower
    rw [Int64.le_iff_toInt_le, hbound] at hlarge
    refine ⟨fun hcases => ?_, fun _ _ => hpower⟩
    have hrange : ¬ InRange (a.toInt ^ b.toInt.toNat) :=
      not_inRange_pow (hcases.resolve_left (by omega)) (by omega)
    exact ⟨fun h => (hrange h).elim, fun _ => hpower⟩
  · rw [intPower, if_neg hlarge, power?_eq] at hpower
    rw [Int64.le_iff_toInt_le, hbound] at hlarge
    exact ⟨fun _ => computesExactly_of_checked hpower, fun h => (hlarge h).elim⟩

/-- The lowest word is a power. -/
theorem powers_exact_lowest :
    let m : Machine := { main := default }
    m.Computes (.binary .power) [.int (-2), .int 63] (.ok (.int Int64.minValue)) := by
  intro m
  have hm : m.Sound := .new default
  obtain ⟨hexact, -⟩ := hm.powers_exact (x := .int (-2)) (y := .int 63) rfl rfl (by decide)
  obtain ⟨i, hi, hpower⟩ := (hexact (.inl (by decide))).1 (by decide)
  obtain rfl : i = Int64.minValue := Int64.toInt_inj.1 (by rw [hi]; decide)
  exact hpower

/-- One to the power of `2 ^ 32` is reported as too large. -/
theorem not_computesExactly_power_one :
    let m : Machine := { main := default }
    ¬ m.ComputesExactly (.binary .power) .power [.int 1, .int 0x100000000]
      (1 ^ (0x100000000 : Int64).toInt.toNat) := by
  intro m hexact
  have hm : m.Sound := .new default
  have hpower : m.Computes (.binary .power) [.int 1, .int 0x100000000]
      (.error (.overflow .power)) :=
    hm.computes_power (x := .int 1) (y := .int 0x100000000) rfl rfl (by decide)
  rw [one_pow] at hexact
  obtain ⟨i, -, hone⟩ := hexact.1 (by decide)
  cases hpower.unique hone

end Machine.Sound

end DynamicBinding
