import DynamicBinding.Proofs.Script.Words
/-!
# Division toward the floor

The machine divides toward zero.  Quotient and remainder are corrected by tests of signs, each by
its own.

* `fdiv_eq_tdiv_ite` and `fmod_eq_tmod_ite` are the corrections on numbers, and `roundsUp_iff` and
  `differsInSign_mod` say that both tests on words are the test in them.
* `toInt_div_sub_one` and `toInt_mod_add`: no correction wraps.
* `toInt_floorRemainder` and `floorQuotient?_eq_some`: quotient and remainder are those of the
  floor of the exact quotient, with one corner in which there is no quotient.
-/

namespace DynamicBinding.Script

/-! ## Corrections on numbers -/

/-- The floor of the exact quotient. -/
theorem floor_div_eq_fdiv (a b : Int) : ⌊(a : ℚ) / b⌋ = a.fdiv b := by
  obtain hb | hb := le_or_gt 0 b
  · lift b to Nat using hb
    rw [Int.fdiv_eq_ediv_of_nonneg a (Int.natCast_nonneg b)]
    exact Rat.floor_intCast_div_natCast a b
  · obtain ⟨n, rfl⟩ : ∃ n : Nat, b = -n := ⟨b.natAbs, by omega⟩
    rw [← neg_neg a, Int.neg_fdiv_neg, Int.fdiv_eq_ediv_of_nonneg _ (Int.natCast_nonneg n)]
    rw [← Rat.floor_intCast_div_natCast]
    push_cast
    rw [neg_div_neg_eq]

/-- The quotient toward the floor is one less than that toward zero where both differ. -/
theorem fdiv_eq_tdiv_ite {a b : Int} (hb : b ≠ 0) :
    a.fdiv b = if a.tmod b ≠ 0 ∧ (a < 0 ↔ ¬ b < 0) then a.tdiv b - 1 else a.tdiv b := by
  have hdvd : b ∣ a ↔ a.tmod b = 0 := Int.dvd_iff_tmod_eq_zero
  rw [Int.fdiv_eq_tdiv]
  rcases lt_or_gt_of_ne hb with hneg | hpos
  · rw [Int.sign_eq_neg_one_of_neg hneg]
    split_ifs <;> omega
  · rw [Int.sign_eq_one_of_pos hpos]
    split_ifs <;> omega

/-- The remainder toward the floor is larger by the divisor in the same cases. -/
theorem fmod_eq_tmod_ite {a b : Int} (hb : b ≠ 0) :
    a.fmod b = if a.tmod b ≠ 0 ∧ (a < 0 ↔ ¬ b < 0) then a.tmod b + b else a.tmod b := by
  have hmod := Int.mul_tdiv_add_tmod a b
  rw [Int.fmod_def, fdiv_eq_tdiv_ite hb]
  split
  · rw [Int.mul_sub]
    omega
  · omega

/-- A remainder toward zero that is not zero has the sign of the dividend. -/
theorem tmod_neg_iff {a b : Int} (h : a.tmod b ≠ 0) : a.tmod b < 0 ↔ a < 0 := by
  have hsign := Int.sign_tmod a b
  rw [if_neg (mt Int.dvd_iff_tmod_eq_zero.1 h)] at hsign
  rw [← Int.sign_eq_neg_one_iff_neg, hsign, Int.sign_eq_neg_one_iff_neg]

/-- A remainder toward the floor is zero or has the sign of the divisor, and is smaller. -/
theorem fmod_bounds {a b : Int} (hb : b ≠ 0) :
    (a.fmod b = 0 ∨ (a.fmod b).sign = b.sign) ∧ |a.fmod b| < |b| := by
  rcases lt_or_gt_of_ne hb with hneg | hpos
  · have hnonneg := Int.fmod_nonneg_of_pos (-a) (Int.neg_pos_of_neg hneg)
    have hlt := Int.fmod_lt_of_pos (-a) (Int.neg_pos_of_neg hneg)
    rw [Int.neg_fmod_neg] at hnonneg hlt
    constructor
    · rcases (show a.fmod b = 0 ∨ a.fmod b < 0 by omega) with hzero | hmod
      · exact .inl hzero
      · exact .inr (by rw [Int.sign_eq_neg_one_of_neg hmod, Int.sign_eq_neg_one_of_neg hneg])
    · rw [abs_of_nonpos (by omega), abs_of_neg hneg]
      omega
  · have hnonneg := Int.fmod_nonneg_of_pos a hpos
    have hlt := Int.fmod_lt_of_pos a hpos
    constructor
    · rcases (show a.fmod b = 0 ∨ 0 < a.fmod b by omega) with hzero | hmod
      · exact .inl hzero
      · exact .inr (by rw [Int.sign_eq_one_of_pos hmod, Int.sign_eq_one_of_pos hpos])
    · rw [abs_of_nonneg hnonneg, abs_of_pos hpos]
      exact hlt

/-! ## Tests of signs -/

variable {a b : Int64}

/-- The test for rounding says that there is a remainder and the signs differ. -/
theorem roundsUp_iff :
    roundsUp a b = true ↔ a.toInt.tmod b.toInt ≠ 0 ∧ (a.toInt < 0 ↔ ¬ b.toInt < 0) := by
  rw [roundsUp, Bool.and_eq_true, bne_iff_ne, bne_iff_ne, ne_eq, ne_eq, ← toInt_eq_zero,
    Int64.toInt_mod, decide_eq_decide, Int64.lt_iff_toInt_lt, Int64.lt_iff_toInt_lt,
    Int64.toInt_zero]
  tauto

/-- The test of the signs of remainder and divisor says the same. -/
theorem differsInSign_mod (a b : Int64) : differsInSign (a % b) b = roundsUp a b := by
  rw [Bool.eq_iff_iff, roundsUp_iff, differsInSign, Bool.and_eq_true, bne_iff_ne, bne_iff_ne,
    ne_eq, ne_eq, ← toInt_eq_zero, decide_eq_decide, Int64.lt_iff_toInt_lt,
    Int64.lt_iff_toInt_lt, Int64.toInt_mod, Int64.toInt_zero]
  by_cases hmod : a.toInt.tmod b.toInt = 0
  · simp only [hmod, ne_eq, not_true_eq_false, false_and]
  · rw [tmod_neg_iff hmod]
    tauto

/-! ## Quotients -/

/-- The one quotient of words that is out of range. -/
def IsCorner (a b : Int64) : Prop := a.toInt = -2 ^ 63 ∧ b.toInt = -1

instance : Decidable (IsCorner a b) :=
  inferInstanceAs (Decidable (a.toInt = -2 ^ 63 ∧ b.toInt = -1))

/-- The one quotient that is out of range, in words. -/
theorem isCorner_iff : IsCorner a b ↔ a = Int64.minValue ∧ b = -1 := by
  rw [← Int64.toInt_inj, ← Int64.toInt_inj]
  rfl

/-- The machine's quotient does not wrap. -/
theorem toInt_div (hcorner : ¬ IsCorner a b) : (a / b).toInt = a.toInt.tdiv b.toInt := by
  rw [isCorner_iff] at hcorner
  by_cases ha : a = Int64.minValue
  · exact Int64.toInt_div_of_ne_right a b fun hb => hcorner ⟨ha, hb⟩
  · exact Int64.toInt_div_of_ne_left a b ha

/-- Where a quotient is corrected, the divisor is not `1` or `-1`, so that the quotient is at most
half as large as the dividend. -/
theorem inRange_tdiv_sub_one (h : a.toInt.tmod b.toInt ≠ 0) :
    InRange (a.toInt.tdiv b.toInt - 1) := by
  have hsize : b.toInt.natAbs = 0 ∨ 2 ≤ b.toInt.natAbs := by
    by_contra hsmall
    rcases Int.natAbs_eq_iff.1 (show b.toInt.natAbs = 1 by omega) with hb | hb
    · exact h (by rw [hb, Int.natCast_one, Int.tmod_one])
    · exact h (by rw [hb, Int.tmod_neg, Int.natCast_one, Int.tmod_one])
  obtain ⟨hle, hge⟩ := inRange_toInt a
  have habs : (a.toInt.tdiv b.toInt).natAbs = a.toInt.natAbs / b.toInt.natAbs :=
    Int.natAbs_tdiv _ _
  have hhalf : a.toInt.natAbs / b.toInt.natAbs ≤ a.toInt.natAbs / 2 := by
    rcases hsize with hzero | htwo
    · rw [hzero, Nat.div_zero]
      exact Nat.zero_le _
    · exact Nat.div_le_div_left htwo (by decide)
  unfold InRange
  omega

/-- The correction of the quotient does not wrap. -/
theorem toInt_div_sub_one (hcorner : ¬ IsCorner a b) (h : roundsUp a b = true) :
    (a / b - 1).toInt = (a / b).toInt - 1 := by
  have hrange := inRange_tdiv_sub_one (roundsUp_iff.1 h).1
  rw [← toInt_div hcorner] at hrange
  exact toInt_sub_of_inRange hrange

/-- Away from zero and from the corner, the quotient of words is the floor. -/
theorem floorQuotient?_eq_some (hb : b ≠ 0) (hcorner : ¬ IsCorner a b) :
    ∃ q, floorQuotient? a b = some q ∧ q.toInt = ⌊(a.toInt : ℚ) / b.toInt⌋ := by
  have hquotient : quotient? a b = some (a / b) := by
    rw [quotient?, if_neg (not_or_intro hb (mt isCorner_iff.2 hcorner))]
  rw [floorQuotient?, hquotient, Option.map_some]
  refine ⟨_, rfl, ?_⟩
  rw [floor_div_eq_fdiv, fdiv_eq_tdiv_ite (mt toInt_eq_zero.1 hb), ← toInt_div hcorner]
  by_cases hup : roundsUp a b = true
  · rw [if_pos hup, if_pos (roundsUp_iff.1 hup)]
    exact toInt_div_sub_one hcorner hup
  · rw [if_neg hup, if_neg (mt roundsUp_iff.2 hup)]

/-- In the corner there is no quotient. -/
theorem floorQuotient?_of_isCorner (h : IsCorner a b) : floorQuotient? a b = none := by
  rw [floorQuotient?, quotient?, if_pos (.inr (isCorner_iff.1 h)), Option.map_none]

/-! ## Remainders -/

/-- The correction of the remainder does not wrap. -/
theorem toInt_mod_add (h : differsInSign (a % b) b = true) :
    (a % b + b).toInt = (a % b).toInt + b.toInt := by
  obtain ⟨hmod, hsign⟩ := roundsUp_iff.1 (differsInSign_mod a b ▸ h)
  apply toInt_add_of_inRange
  have hneg := tmod_neg_iff hmod
  obtain ⟨hle, hge⟩ := inRange_toInt (a % b)
  obtain ⟨hle', hge'⟩ := inRange_toInt b
  rw [Int64.toInt_mod] at hle hge ⊢
  -- the summands have different signs
  unfold InRange
  omega

/-- The remainder of words is what the floor leaves, in the corner as well. -/
theorem toInt_floorRemainder (hb : b ≠ 0) :
    (floorRemainder a b).toInt = a.toInt - b.toInt * ⌊(a.toInt : ℚ) / b.toInt⌋ := by
  rw [floor_div_eq_fdiv, ← Int.fmod_def, fmod_eq_tmod_ite (mt toInt_eq_zero.1 hb),
    ← Int64.toInt_mod]
  unfold floorRemainder
  have htest := roundsUp_iff (a := a) (b := b)
  rw [← differsInSign_mod, ← Int64.toInt_mod] at htest
  by_cases hsign : differsInSign (a % b) b = true
  · rw [if_pos (htest.1 hsign)]
    simp only [if_pos hsign]
    exact toInt_mod_add hsign
  · rw [if_neg (mt htest.2 hsign)]
    simp only [if_neg hsign]

/-! ## No step wraps -/

/-- Every step of the division gives on words what it gives on numbers: the quotient and the
remainder toward zero, and the correction of each where it is made. -/
structure DividesExactly (a b : Int64) : Prop where
  quotient : ¬ IsCorner a b → (a / b).toInt = a.toInt.tdiv b.toInt
  lowered : ¬ IsCorner a b → roundsUp a b = true → (a / b - 1).toInt = (a / b).toInt - 1
  remainder : (a % b).toInt = a.toInt.tmod b.toInt
  raised : differsInSign (a % b) b = true → (a % b + b).toInt = (a % b).toInt + b.toInt

/-- **No step of a division wraps,** away from the corner. -/
theorem dividesExactly (a b : Int64) : DividesExactly a b :=
  ⟨toInt_div, toInt_div_sub_one, Int64.toInt_mod a b, toInt_mod_add⟩

end DynamicBinding.Script
