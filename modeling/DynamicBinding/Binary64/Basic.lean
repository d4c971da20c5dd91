/-!
# Binary64 numbers

A number is its bit pattern, so that the two zeros differ, NaNs of different sign differ, and
equality of numbers as values of the type decides identity.  Comparison as numbers is separate:
it equates the zeros and nothing with a NaN.

Every result is an exact one rounded to the nearest number, a half going to the even neighbour.
`ofQuotient` is the one place where rounding happens.
-/

namespace DynamicBinding

/-- A binary64 number, held as its bit pattern. -/
structure Binary64 where
  /-- Sign, eleven bits of exponent, fifty-two bits of fraction. -/
  bits : UInt64
deriving DecidableEq, Inhabited

namespace Binary64

/-- The weight of the sign bit, `2 ^ 63`. -/
def signWeight : Nat := 0x8000000000000000

/-- The weight of the least bit of the exponent, `2 ^ 52`.  It is also the weight of the leading
bit of a significand, which is not written. -/
def exponentWeight : Nat := 0x10000000000000

/-- Whether the sign bit is set. -/
def isNegative (x : Binary64) : Bool :=
  signWeight ≤ x.bits.toNat

/-- The bits without the sign, as a number; it grows with the absolute value. -/
def magnitude (x : Binary64) : Nat :=
  x.bits.toNat % signWeight

/-- The magnitude of the infinities. -/
def infiniteMagnitude : Nat := 0x7FF * exponentWeight

/-- The number with the given sign and magnitude. -/
def ofParts (negative : Bool) (magnitude : Nat) : Binary64 :=
  ⟨UInt64.ofNat ((if negative then signWeight else 0) + magnitude)⟩

def isNaN (x : Binary64) : Bool := infiniteMagnitude < x.magnitude

def isInfinite (x : Binary64) : Bool := x.magnitude == infiniteMagnitude

def isFinite (x : Binary64) : Bool := x.magnitude < infiniteMagnitude

def isZero (x : Binary64) : Bool := x.magnitude == 0

/-- The zero with the given sign. -/
def zero (negative : Bool) : Binary64 := ofParts negative 0

/-- The infinity with the given sign. -/
def infinity (negative : Bool) : Binary64 := ofParts negative infiniteMagnitude

/-- The quiet NaN without payload and with the given sign. -/
def nan (negative : Bool) : Binary64 := ofParts negative (infiniteMagnitude + exponentWeight / 2)

/-- The result of an operation that has none: the NaN whose sign bit is set. -/
def invalid : Binary64 := nan true

/-- The number with its sign turned; a NaN keeps its payload. -/
def negate (x : Binary64) : Binary64 := ofParts (!x.isNegative) x.magnitude

/-- The whole number `m` in the value `m · 2 ^ q` of a finite number without its sign. -/
def significand (x : Binary64) : Nat :=
  if x.magnitude < exponentWeight then x.magnitude
  else exponentWeight + x.magnitude % exponentWeight

/-- The exponent `q` in the value `m · 2 ^ q` of a finite number without its sign. -/
def exponent (x : Binary64) : Int :=
  if x.magnitude < exponentWeight then -1074 else (x.magnitude / exponentWeight : Nat) - 1075

/-- The value without its sign, as a numerator and a denominator. -/
def toQuotient (x : Binary64) : Nat × Nat :=
  (x.significand <<< x.exponent.toNat, 1 <<< (-x.exponent).toNat)

/-! ## Rounding -/

/-- The quotient rounded to a whole number, a half going to the even neighbour. -/
def roundHalfEven (num den : Nat) : Nat :=
  let floor := num / den
  let twice := 2 * (num % den)
  if twice < den then floor
  else if den < twice then floor + 1
  else floor + floor % 2

/-- The number nearest to `num / den` with the given sign.  The last kept bit has the weight
`2 ^ place`, chosen so that fifty-three bits remain, and no smaller than the weight of the least
number; a carry out of the fifty-three bits runs into the exponent by itself. -/
def ofQuotient (negative : Bool) (num den : Nat) : Binary64 :=
  if num = 0 then zero negative
  else
    let estimate : Int := (num.log2 : Int) - den.log2 - 53
    let quotient (place : Int) : Nat × Nat :=
      (num <<< (-place).toNat, den <<< place.toNat)
    let fits (place : Int) : Bool :=
      (quotient place).1 < (quotient place).2 <<< 53
    let place := max (-1074) (if fits estimate then estimate else estimate + 1)
    let kept := roundHalfEven (quotient place).1 (quotient place).2
    ofParts negative (min infiniteMagnitude ((place + 1074).toNat * exponentWeight + kept))

/-- The number nearest to a whole number. -/
def ofInt (n : Int) : Binary64 :=
  ofQuotient (n < 0) n.natAbs 1

/-! ## Comparison as numbers -/

/-- A whole number that orders the numbers that are not NaN; both zeros have the same. -/
def orderKey (x : Binary64) : Int :=
  if x.isNegative then -(x.magnitude : Int) else x.magnitude

/-- The order of two numbers, none if one of them is NaN. -/
def compare? (a b : Binary64) : Option Ordering :=
  if a.isNaN || b.isNaN then none else some (compare a.orderKey b.orderKey)

/-- Equality as numbers. -/
def sameNumber (a b : Binary64) : Bool :=
  a.compare? b == some .eq

/-- Whether the number is below zero. -/
def isBelowZero (x : Binary64) : Bool :=
  x.isNegative && !x.isZero && !x.isNaN

end Binary64

end DynamicBinding
