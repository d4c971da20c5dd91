import DynamicBinding.Binary64.Basic
/-!
# Shortest decimals

The decimal with the fewest digits that reads back to a given number, found by exact comparison:
for one digit, two digits and so on the two neighbours of the number on that decimal grid are
tried.  Of two that read back the nearer is taken, and the upper one on a tie.
-/

namespace DynamicBinding

/-- The decimal `digits · 10 ^ exponent`. -/
structure Decimal where
  digits : Nat
  exponent : Int
deriving DecidableEq, Inhabited

namespace Decimal

/-- Numerator and denominator of the value. -/
def toQuotient (d : Decimal) : Nat × Nat :=
  (d.digits * Nat.pow 10 d.exponent.toNat, Nat.pow 10 (-d.exponent).toNat)

/-- Moves trailing zeros of the digits into the exponent, at most `bound` of them. -/
def strip : Nat → Decimal → Decimal
  | 0, d => d
  | bound + 1, d =>
    if d.digits ≠ 0 ∧ d.digits % 10 = 0 then strip bound ⟨d.digits / 10, d.exponent + 1⟩ else d

end Decimal

/-- The order of two quotients with positive denominators. -/
def compareQuotients (a b : Nat × Nat) : Ordering :=
  compare (a.1 * b.2) (b.1 * a.2)

namespace Binary64

/-- The quotient `m · 2 ^ q`. -/
def scaled (m : Nat) (q : Int) : Nat × Nat :=
  (m <<< q.toNat, 1 <<< (-q).toNat)

/-- Whether a decimal lies among the reals that round to the absolute value of `x`.  The interval
reaches halfway to each neighbour, holds its ends exactly when the significand is even, and is
narrower below a power of two. -/
def readsBack (x : Binary64) (d : Decimal) : Bool :=
  let m := x.significand
  let narrow := m == exponentWeight && -1074 < x.exponent
  let low := scaled (if narrow then 4 * m - 1 else 4 * m - 2) (x.exponent - 2)
  let high := scaled (4 * m + 2) (x.exponent - 2)
  let closed := m % 2 == 0
  let fromLow := compareQuotients d.toQuotient low
  let toHigh := compareQuotients d.toQuotient high
  (fromLow == .gt || closed && fromLow == .eq) && (toHigh == .lt || closed && toHigh == .eq)

/-- The least `k` for which the absolute value of a number other than zero is below
`10 ^ k`. -/
def decimalScale (x : Binary64) : Int :=
  let estimate := ((x.significand.log2 : Int) + x.exponent) * 30103 / 100000
  let isAbove (k : Int) : Bool := compareQuotients x.toQuotient (Decimal.toQuotient ⟨1, k⟩) == .lt
  if isAbove estimate then estimate
  else if isAbove (estimate + 1) then estimate + 1
  else estimate + 2

/-- The decimal of `count` leading digits that reads back, if there is one. -/
def withDigits? (x : Binary64) (scale : Int) (count : Nat) : Option Decimal :=
  let place := scale - count
  let unit := Decimal.toQuotient ⟨1, place⟩
  let (n, d) := x.toQuotient
  let below := n * unit.2 / (d * unit.1)
  let lower : Decimal := ⟨below, place⟩
  let upper : Decimal := ⟨below + 1, place⟩
  match x.readsBack lower, x.readsBack upper with
  | true, false => some lower
  | false, true => some upper
  | false, false => none
  | true, true =>
    if 2 * n * unit.2 < (2 * below + 1) * (d * unit.1) then some lower else some upper

/-- The decimal with the fewest digits that reads back to the absolute value of a finite number
other than zero.  Seventeen digits are enough for every number; the exact value stands in the
last line so that the answer always reads back. -/
def shortest (x : Binary64) : Decimal :=
  let scale := x.decimalScale
  match (List.range 17).findSome? fun n => x.withDigits? scale (n + 1) with
  | some d => d.strip 17
  | none =>
    ⟨(x.significand <<< x.exponent.toNat) * Nat.pow 5 (-x.exponent).toNat, min x.exponent 0⟩

end Binary64

end DynamicBinding
