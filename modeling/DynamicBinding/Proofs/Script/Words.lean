import DynamicBinding.Script.Arithmetic
import Mathlib.Data.Rat.Floor
import Mathlib.Tactic.Linarith
/-!
# Words and whole numbers

What the words of the script language hold, and what is exact on them.

* `word?_eq_some_iff` and `word?_eq_none_iff`: the check of an operator tells the numbers in range
  from the others.
* `toInt_add_of_inRange` and `toInt_sub_of_inRange`: a sum or a difference in range does not wrap.
* `toInt_wideShift`: in twice as many bits, no shift to the left by less than the width loses a bit.
* `toInt_shiftRight`: the shift to the right, whose count is cut at the last bit, rounds toward the
  floor whatever the count is.
-/

namespace DynamicBinding.Script

variable {n : Int} {a b i : Int64}

/-! ## What a word holds -/

/-- A word can hold the whole number. -/
def InRange (n : Int) : Prop := -2 ^ 63 ≤ n ∧ n ≤ 2 ^ 63 - 1

instance : Decidable (InRange n) :=
  inferInstanceAs (Decidable (-2 ^ 63 ≤ n ∧ n ≤ 2 ^ 63 - 1))

/-- Every word is in range. -/
theorem inRange_toInt (i : Int64) : InRange i.toInt := by
  have hle := i.le_toInt
  have hlt := i.toInt_lt
  exact ⟨hle, by omega⟩

/-- A number in range is that of a word. -/
theorem InRange.exists_word (h : InRange n) : ∃ i : Int64, i.toInt = n :=
  ⟨Int64.ofInt n, Int64.toInt_ofInt_of_le h.1 (by have := h.2; omega)⟩

/-- A number in range is at most `2 ^ 63` away from zero. -/
theorem InRange.abs_le_two_pow (h : InRange n) : |n| ≤ 2 ^ 63 :=
  abs_le.2 ⟨h.1, h.2.trans (by norm_num)⟩

/-- Taking a word as a number and back changes nothing. -/
theorem word?_toInt (i : Int64) : word? i.toInt = some i := by
  have hrange := inRange_toInt i
  unfold InRange at hrange
  rw [word?, if_pos, Int64.ofInt_toInt]
  simp only [Int64.toInt_minValue, Int64.toInt_maxValue]
  omega

/-- A number has no word just if it is out of range. -/
theorem word?_eq_none_iff : word? n = none ↔ ¬ InRange n := by
  simp only [word?, InRange, Int64.toInt_minValue, Int64.toInt_maxValue]
  split
  · simp; omega
  · simp; omega

/-- A number has the word that it is the value of. -/
theorem word?_eq_some_iff : word? n = some i ↔ i.toInt = n := by
  constructor
  · intro h
    by_cases hrange : InRange n
    · obtain ⟨j, rfl⟩ := hrange.exists_word
      rw [word?_toInt] at h
      rw [Option.some.inj h]
    · rw [word?_eq_none_iff.2 hrange] at h
      cases h
  · rintro rfl
    exact word?_toInt i

/-- Only the word zero has the value zero. -/
theorem toInt_eq_zero : b.toInt = 0 ↔ b = 0 := by
  rw [← Int64.toInt_zero, Int64.toInt_inj]

/-- A word with a value that is not negative is not below zero. -/
theorem not_neg_of_nonneg (h : 0 ≤ b.toInt) : ¬ b < 0 := by
  rw [Int64.lt_iff_toInt_lt, Int64.toInt_zero]
  omega

/-! ## Sums and differences -/

/-- Words are added exactly where the sum is in range. -/
theorem toInt_add_of_inRange (h : InRange (a.toInt + b.toInt)) :
    (a + b).toInt = a.toInt + b.toInt := by
  obtain ⟨hle, hge⟩ := h
  rw [Int64.toInt_add]
  exact Int.bmod_eq_of_le_mul_two (by omega) (by omega)

/-- Words are subtracted exactly where the difference is in range. -/
theorem toInt_sub_of_inRange (h : InRange (a.toInt - b.toInt)) :
    (a - b).toInt = a.toInt - b.toInt := by
  obtain ⟨hle, hge⟩ := h
  rw [Int64.toInt_sub]
  exact Int.bmod_eq_of_le_mul_two (by omega) (by omega)

/-! ## Shifts to the left -/

/-- In the wide word a shift by less than the width of a word loses nothing. -/
theorem toInt_wideShift (hb : 0 ≤ b.toInt) (hlt : b.toInt < 64) :
    (wideShift a b).toInt = a.toInt * 2 ^ b.toInt.toNat := by
  obtain ⟨n, hn⟩ := Int.eq_ofNat_of_zero_le hb
  rw [wideShift, hn, Int.toNat_natCast, BitVec.shiftLeft_eq_mul_twoPow, BitVec.toInt_mul,
    BitVec.toInt_signExtend_of_le (by decide), Int64.toInt_toBitVec, BitVec.toInt_twoPow,
    if_neg (by omega), if_neg (by omega)]
  have hpow : (2 : Int) ^ n ≤ 2 ^ 63 := pow_le_pow_right₀ (by decide) (by omega)
  have hpos : (0 : Int) < 2 ^ n := by positivity
  obtain ⟨hle, hge⟩ := inRange_toInt a
  apply Int.bmod_eq_of_le_mul_two
  · push_cast
    nlinarith
  · push_cast
    nlinarith

/-- No number but zero stays in range when it is shifted by the width or more. -/
theorem not_inRange_mul_two_pow {k : Nat} (hn : n ≠ 0) (hk : 64 ≤ k) :
    ¬ InRange (n * 2 ^ k) := by
  intro hrange
  have hle := hrange.abs_le_two_pow
  have : 2 ^ 64 ≤ |n * 2 ^ k| := calc
    (2 : Int) ^ 64 ≤ 2 ^ k := pow_le_pow_right₀ (by decide) hk
    _ ≤ |n| * 2 ^ k := le_mul_of_one_le_left (by positivity) (Int.one_le_abs hn)
    _ = |n * 2 ^ k| := by rw [abs_mul, abs_of_pos (show (0 : Int) < 2 ^ k by positivity)]
  omega

/-! ## Shifts to the right -/

/-- The bits of a word that is not negative are those of its number. -/
theorem toNat_toBitVec (hb : 0 ≤ b.toInt) : b.toBitVec.toNat = b.toInt.toNat := by
  have hcases := b.toBitVec.toInt_eq_toNat_cond
  have hlt := b.toBitVec.isLt
  rw [Int64.toInt_toBitVec] at hcases
  split at hcases <;> omega

/-- A count below the width is taken as it is. -/
theorem toInt_shiftRight_of_lt (hb : 0 ≤ b.toInt) (hlt : b.toInt < 64) :
    (a >>> b).toInt = a.toInt >>> b.toInt.toNat := by
  have hcount : (b.toBitVec.smod 64).toNat = b.toInt.toNat := by
    have hnat := toNat_toBitVec hb
    have hmsb : b.toBitVec.msb = false := by
      rw [BitVec.msb_eq_false_iff_two_mul_lt]
      omega
    have hmsb' : (64 : BitVec 64).msb = false := by decide
    rw [BitVec.toNat_smod, hmsb, hmsb', ← hnat]
    exact Nat.mod_eq_of_lt (by rw [hnat]; exact (Int.toNat_lt hb).2 hlt)
  rw [← Int64.toInt_toBitVec, Int64.toBitVec_shiftRight, BitVec.sshiftRight_eq',
    BitVec.toInt_sshiftRight, hcount, Int64.toInt_toBitVec]

/-- A count that is cut to the last bit is cut as a number. -/
theorem toInt_min_lastBit (b : Int64) : (min b 63).toInt = min b.toInt 63 := by
  have hlast : (63 : Int64).toInt = 63 := by decide
  show (if b ≤ 63 then b else 63 : Int64).toInt = min b.toInt 63
  split
  · next hle =>
    rw [Int64.le_iff_toInt_le, hlast] at hle
    exact (min_eq_left hle).symm
  · next hle =>
    rw [Int64.le_iff_toInt_le, hlast] at hle
    rw [hlast, min_eq_right (by omega)]

/-- Past the last bit only the sign is left. -/
theorem InRange.shiftRight_eq (h : InRange n) {k : Nat} (hk : 63 ≤ k) :
    n >>> k = n >>> (63 : Nat) := by
  obtain ⟨hle, hge⟩ := h
  have hpow : (2 : Int) ^ 63 ≤ 2 ^ k := pow_le_pow_right₀ (by decide) hk
  rw [Int.shiftRight_eq_div_pow, Int.shiftRight_eq_div_pow]
  push_cast
  by_cases hn : 0 ≤ n
  · rw [Int.ediv_eq_zero_of_lt hn (by omega), Int.ediv_eq_zero_of_lt hn (by omega)]
  · rw [Int.ediv_eq_neg_one_of_neg_of_le (by omega) (by omega),
      Int.ediv_eq_neg_one_of_neg_of_le (by omega) (by omega)]

/-- The floor of a quotient by a power of two is the number shifted to the right. -/
theorem floor_div_two_pow (n : Int) (k : Nat) : ⌊(n : ℚ) / 2 ^ k⌋ = n >>> k := by
  rw [Int.shiftRight_eq_div_pow, ← Rat.floor_intCast_div_natCast]
  push_cast
  rfl

/-- A shift to the right gives the floor, also for counts past the last bit. -/
theorem toInt_shiftRight (a : Int64) (hb : 0 ≤ b.toInt) :
    (a >>> min b 63).toInt = ⌊(a.toInt : ℚ) / 2 ^ b.toInt.toNat⌋ := by
  have hmin := toInt_min_lastBit b
  rw [floor_div_two_pow, toInt_shiftRight_of_lt (by omega) (by omega), hmin]
  rcases le_total b.toInt 63 with hle | hle
  · rw [min_eq_left hle]
  · rw [min_eq_right hle]
    exact ((inRange_toInt a).shiftRight_eq (by omega)).symm

end DynamicBinding.Script
