import DynamicBinding.Proofs.Script.Words
import Mathlib.Tactic.Ring
/-!
# Powers of words

The power is computed by squaring the base and halving the exponent, and each product on the way is
checked.  The checks could refuse a power that is in range, because a square may be larger than the
power; the last round does without the square for that reason.

* `timesPower?_eq`: what the rounds compute is the factor times the power, or nothing if that is out
  of range.
* `power?_eq`: so the power is found exactly if it is in range.
-/

namespace DynamicBinding.Script

/-! ## Numbers out of range -/

/-- A number out of range stays so when it is multiplied by a positive one. -/
theorem not_inRange_mul {x c : Int} (hx : ¬ InRange x) (hc : 1 ≤ c) : ¬ InRange (x * c) := by
  rintro ⟨hle, hge⟩
  by_cases hsign : 0 ≤ x
  · exact hx ⟨by omega, by nlinarith⟩
  · exact hx ⟨by nlinarith, by omega⟩

/-- If a square is out of range, so are the multiples of all larger powers.  No square is `2 ^ 63`,
so none of the multiples is `-2 ^ 63`, which is in range. -/
theorem not_inRange_mul_pow {f x : Int} {e : Nat} (hx : ¬ InRange (x * x)) (hf : f ≠ 0)
    (he : 2 ≤ e) : ¬ InRange (f * x ^ e) := by
  have hsquare : 2 ^ 63 < x * x := by
    have hlarge : 3037000500 ≤ |x| := by
      by_contra hsmall
      have habs : |x| ≤ 3037000499 := by omega
      refine hx ⟨by nlinarith [mul_self_nonneg x], ?_⟩
      nlinarith [abs_mul_abs_self x, abs_nonneg x]
    nlinarith [abs_mul_abs_self x]
  have hx' : 1 ≤ |x| := by
    rcases eq_or_ne x 0 with rfl | hne
    · norm_num at hsquare
    · exact Int.one_le_abs hne
  intro hrange
  have hle := hrange.abs_le_two_pow
  have : x * x ≤ |f * x ^ e| := calc
    x * x = |x| ^ 2 := by rw [sq_abs, sq]
    _ ≤ |x| ^ e := pow_le_pow_right₀ hx' he
    _ ≤ |f| * |x| ^ e := le_mul_of_one_le_left (by positivity) (Int.one_le_abs hf)
    _ = |f * x ^ e| := by rw [abs_mul, abs_pow]
  omega

/-- Only `1`, `0` and `-1` have large powers in range. -/
theorem not_inRange_pow {x : Int} {e : Nat} (hx : 2 ≤ |x|) (he : 64 ≤ e) :
    ¬ InRange (x ^ e) := by
  intro hrange
  have hle := hrange.abs_le_two_pow
  have : 2 ^ 64 ≤ |x ^ e| := calc
    (2 : Int) ^ 64 ≤ 2 ^ e := pow_le_pow_right₀ (by decide) he
    _ ≤ |x| ^ e := pow_le_pow_left₀ (by decide) hx e
    _ = |x ^ e| := (abs_pow x e).symm
  omega

/-! ## Rounds -/

/-- The last bit split off an exponent. -/
theorem mul_pow_halves (f x : Int) (e : Nat) :
    f * x ^ e = f * x ^ (e % 2) * (x * x) ^ (e / 2) := by
  conv_lhs => rw [← Nat.mod_add_div e 2, pow_add, pow_mul, sq]
  ring

theorem timesIfOdd?_eq (factor base : Int64) (e : Nat) :
    timesIfOdd? factor base e = word? (factor.toInt * base.toInt ^ (e % 2)) := by
  unfold timesIfOdd?
  split
  · next hodd => rw [hodd, pow_one, times?]
  · next heven => rw [Nat.mod_two_ne_one.1 heven, pow_zero, mul_one, word?_toInt]

/-- If the factor of a round is out of range, so is the power. -/
theorem not_inRange_of_timesIfOdd {f x : Int} {e : Nat} (hf : InRange f)
    (h : ¬ InRange (f * x ^ (e % 2))) : ¬ InRange (f * x ^ e) := by
  have hx : x ≠ 0 := by
    rintro rfl
    rcases Nat.mod_two_eq_zero_or_one e with heven | hodd
    · exact h (by rwa [heven, pow_zero, mul_one])
    · exact h (by rw [hodd, pow_one, mul_zero]; decide)
  rw [mul_pow_halves]
  exact not_inRange_mul h (one_le_pow₀ (mul_self_pos.2 hx))

/-- **Squaring and multiplying gives the power**, or nothing if it is out of range: what is computed
on the way is out of range only if the power is.  A factor of zero makes no difference as long as
the base is zero too. -/
theorem timesPower?_eq {factor base : Int64} {e : Nat} (hzero : factor = 0 → base = 0)
    (he : 1 ≤ e) : timesPower? factor base e = word? (factor.toInt * base.toInt ^ e) := by
  induction e using Nat.strongRecOn generalizing factor base with
  | ind e ih =>
    rw [timesPower?]
    split
    · next hone =>
      obtain rfl : e = 1 := by omega
      rw [pow_one, times?]
    · next hmore =>
      rw [timesIfOdd?_eq, times?]
      cases hfactor : word? (factor.toInt * base.toInt ^ (e % 2)) with
      | none =>
        have hrange := word?_eq_none_iff.1 hfactor
        exact (word?_eq_none_iff.2
          (not_inRange_of_timesIfOdd (inRange_toInt factor) hrange)).symm
      | some factor' =>
        cases hbase : word? (base.toInt * base.toInt) with
        | none =>
          have hsquare := word?_eq_none_iff.1 hbase
          have hne : factor.toInt ≠ 0 := by
            intro h
            rw [hzero (toInt_eq_zero.1 h)] at hsquare
            exact hsquare (by decide)
          exact (word?_eq_none_iff.2 (not_inRange_mul_pow hsquare hne (by omega))).symm
        | some base' =>
          have hfactor' := word?_eq_some_iff.1 hfactor
          have hbase' := word?_eq_some_iff.1 hbase
          have hzero' : factor' = 0 → base' = 0 := by
            rintro rfl
            have hbasezero : base = 0 := by
              rcases mul_eq_zero.1 hfactor'.symm with hf | hb
              · exact hzero (toInt_eq_zero.1 hf)
              · exact toInt_eq_zero.1 (eq_zero_of_pow_eq_zero hb)
            rw [hbasezero] at hbase'
            exact toInt_eq_zero.1 hbase'
          show timesPower? factor' base' (e / 2) = _
          rw [ih (e / 2) (by omega) hzero' (by omega), hfactor', hbase', ← mul_pow_halves]

/-- The power of a word is found exactly if it is in range. -/
theorem power?_eq (base : Int64) (e : Nat) : power? base e = word? (base.toInt ^ e) := by
  unfold power?
  split
  · next h =>
    rw [h, pow_zero]
    exact (word?_toInt 1).symm
  · next h =>
    rw [timesPower?_eq (fun h => absurd h (by decide)) (by omega), Int64.toInt_one, one_mul]

end DynamicBinding.Script
