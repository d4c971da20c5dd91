import DynamicBinding.Binary64.Shortest
/-!
# Text of numbers

Two forms.  The standard form shows that the value is a number with a fraction: it writes at
least one digit after the point and turns to an exponent for very large and very small values.
The plain form is positional for every value and has no fraction where none is needed.
-/

namespace DynamicBinding.Binary64

/-- The digits of a decimal written positionally. -/
def positional (d : Decimal) (pointZero : Bool) : String :=
  let digits := Nat.toDigits 10 d.digits
  if 0 ≤ d.exponent then
    let whole := digits ++ List.replicate d.exponent.toNat '0'
    String.ofList whole ++ (if pointZero then ".0" else "")
  else
    let places := (-d.exponent).toNat
    let padded := List.replicate (places + 1 - digits.length) '0' ++ digits
    let point := padded.length - places
    String.ofList (padded.take point ++ '.' :: padded.drop point)

/-- The digits of a decimal written with one digit before the point and an exponent. -/
def scientific (d : Decimal) : String :=
  let digits := Nat.toDigits 10 d.digits
  let power : Int := d.exponent + digits.length - 1
  let fraction := if digits.length ≤ 1 then [] else '.' :: digits.drop 1
  String.ofList (digits.take 1 ++ fraction) ++ "e" ++ toString power

/-- Writes the sign and the values that are not finite, and leaves the others to `finite`. -/
def signed (finite : Binary64 → String) (x : Binary64) : String :=
  if x.isNaN then "NaN"
  else (if x.isNegative then "-" else "") ++ (if x.isInfinite then "inf" else finite x)

/-- The standard form: positional from `10 ^ -4` up to but without `10 ^ 16`, with a fraction in
any case; an exponent without a plus sign elsewhere. -/
def text : Binary64 → String :=
  signed fun x =>
    if x.isZero then "0.0"
    else
      let d := x.shortest
      let power : Int := d.exponent + (Nat.toDigits 10 d.digits).length - 1
      if -4 ≤ power ∧ power < 16 then positional d true else scientific d

/-- The plain form: positional, without a fraction where the value is whole. -/
def plainText : Binary64 → String :=
  signed fun x => if x.isZero then "0" else positional x.shortest false

end DynamicBinding.Binary64
