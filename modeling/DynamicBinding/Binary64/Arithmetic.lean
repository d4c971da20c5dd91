import DynamicBinding.Binary64.Basic
/-!
# Arithmetic on binary64 numbers

Each operation but the power computes the exact result and rounds it.  A NaN operand comes back
as the result, the left one first; an operation without a result gives `invalid`.
-/

namespace DynamicBinding.Binary64

/-- The NaN with its quiet bit set. -/
def quiet (x : Binary64) : Binary64 :=
  ⟨x.bits ||| 0x0008000000000000⟩

/-- Passes a NaN operand on, made quiet; runs the operation on two numbers otherwise. -/
def onNumbers (operation : Binary64 → Binary64 → Binary64) (a b : Binary64) : Binary64 :=
  if a.isNaN then a.quiet
  else if b.isNaN then b.quiet
  else operation a b

/-- The sum of finite numbers.  A sum that is exactly zero is negative only when both are. -/
def addFinite (a b : Binary64) : Binary64 :=
  let place := min a.exponent b.exponent
  let scaled (x : Binary64) : Int :=
    let m : Int := (x.significand <<< (x.exponent - place).toNat : Nat)
    if x.isNegative then -m else m
  let sum := scaled a + scaled b
  if sum = 0 then zero (a.isNegative && b.isNegative)
  else ofQuotient (sum < 0) (sum.natAbs <<< place.toNat) (1 <<< (-place).toNat)

protected def add : Binary64 → Binary64 → Binary64 :=
  onNumbers fun a b =>
    if a.isInfinite && b.isInfinite then
      if a.isNegative == b.isNegative then a else invalid
    else if a.isInfinite then a
    else if b.isInfinite then b
    else addFinite a b

/-- The difference; the subtrahend's NaN comes back with its own sign. -/
protected def sub (a b : Binary64) : Binary64 :=
  if b.isNaN then onNumbers (fun x _ => x) a b else Binary64.add a b.negate

protected def mul : Binary64 → Binary64 → Binary64 :=
  onNumbers fun a b =>
    let negative := a.isNegative != b.isNegative
    if a.isInfinite || b.isInfinite then
      if a.isZero || b.isZero then invalid else infinity negative
    else
      ofQuotient negative (a.toQuotient.1 * b.toQuotient.1) (a.toQuotient.2 * b.toQuotient.2)

protected def div : Binary64 → Binary64 → Binary64 :=
  onNumbers fun a b =>
    let negative := a.isNegative != b.isNegative
    if a.isInfinite then
      if b.isInfinite then invalid else infinity negative
    else if b.isInfinite then zero negative
    else if b.isZero then
      if a.isZero then invalid else infinity negative
    else
      ofQuotient negative (a.toQuotient.1 * b.toQuotient.2) (a.toQuotient.2 * b.toQuotient.1)

/-- The exact remainder of the division that rounds toward zero; it has the sign of the
dividend. -/
def remainder : Binary64 → Binary64 → Binary64 :=
  onNumbers fun a b =>
    if a.isInfinite || b.isZero then invalid
    else if b.isInfinite then a
    else
      let (n, d) := a.toQuotient
      let (n', d') := b.toQuotient
      ofQuotient a.isNegative ((n * d') % (n' * d)) (d * d')

/-- The remainder with the sign of the divisor, as it belongs to the floor of the quotient. -/
def floorRemainder (a b : Binary64) : Binary64 :=
  let r := remainder a b
  if !r.isZero && r.isBelowZero != b.isBelowZero then Binary64.add r b else r

/-- The greatest whole number that is not above the number. -/
def floor (x : Binary64) : Binary64 :=
  if !x.isFinite then x
  else
    let (n, d) := x.toQuotient
    ofQuotient x.isNegative (if x.isNegative then (n + d - 1) / d else n / d) 1

/-- The whole number toward zero from a finite number. -/
def truncate (x : Binary64) : Int :=
  let (n, d) := x.toQuotient
  if x.isNegative then -((n / d : Nat) : Int) else (n / d : Nat)

/-- Whether a finite number is an odd whole number. -/
def isOddWhole (x : Binary64) : Bool :=
  x.isFinite && x.exponent ≤ 0 &&
    x.significand % (1 <<< (-x.exponent).toNat) == 0 &&
    (x.significand >>> (-x.exponent).toNat) % 2 == 1

/-- The power.  It is the one operation whose rounding no simple rule gives, so the machine's own
power is taken.  It is a number when the base is one or the exponent is zero, even beside a NaN.
A NaN base loses its sign to an odd exponent: the base goes into the result as its square, and a
negative one is turned once more. -/
def pow (a b : Binary64) : Binary64 :=
  let result : Binary64 := ⟨(Float.pow (Float.ofBits a.bits) (Float.ofBits b.bits)).toBits⟩
  if !result.isNaN then result
  else if a.isNaN && a.isNegative && b.isOddWhole then a.quiet.negate
  else onNumbers (fun _ _ => invalid) a b

end DynamicBinding.Binary64
