import DynamicBinding.Binary64.Basic
/-!
# Reading numbers

A decimal literal is an optional sign, then `inf`, `infinity` or `nan` in any case of the
letters, or digits with an optional point among or around them and an optional exponent.  There
is at least one digit before the exponent, and the exponent has at least one.

The value of a literal is the number nearest to what it denotes, with one exception: an exponent
is read only until it is out of reach of every number (`exponentValue`), so one that is undone by
a mantissa of tens of thousands of digits is not read to its end.
-/

namespace DynamicBinding.Binary64

/-- The number that a run of decimal digits denotes. -/
def digitsValue (cs : List Char) : Nat :=
  cs.foldl (fun n c => 10 * n + (c.toNat - '0'.toNat)) 0

/-- What is read of the digits of an exponent: digits that follow a value of `2 ^ 16` or more are
passed over. -/
def exponentValue (cs : List Char) : Nat :=
  cs.foldl (fun n c => if n < 0x10000 then 10 * n + (c.toNat - '0'.toNat) else n) 0

/-- A sign at the front and the characters after it. -/
def splitSign : List Char → Bool × List Char
  | '-' :: rest => (true, rest)
  | '+' :: rest => (false, rest)
  | cs => (false, cs)

/-- The exponent that stands at the end of a literal: nothing, or the letter `e`, a sign and
digits. -/
def readExponent? : List Char → Option Int
  | [] => some 0
  | c :: rest =>
    if c = 'e' ∨ c = 'E' then
      let (negative, digits) := splitSign rest
      if digits.isEmpty || !digits.all Char.isDigit then none
      else
        let n : Int := exponentValue digits
        some (if negative then -n else n)
    else none

/-- The number nearest to `digits · 10 ^ exponent`.  Exponents out of reach of every number are
cut off before the power is taken. -/
def ofDecimal (negative : Bool) (digits : Nat) (exponent : Int) : Binary64 :=
  let length : Int := (Nat.toDigits 10 digits).length
  if digits = 0 || length + exponent < -400 then zero negative
  else if 400 < length + exponent then infinity negative
  else ofQuotient negative (digits * Nat.pow 10 exponent.toNat)
    (Nat.pow 10 (-exponent).toNat)

/-- The number that a literal denotes, none if it is no literal. -/
def parse? (cs : List Char) : Option Binary64 :=
  let (negative, body) := splitSign cs
  let word := String.ofList (body.map Char.toLower)
  if word = "inf" ∨ word = "infinity" then some (infinity negative)
  else if word = "nan" then some (nan negative)
  else
    let whole := body.takeWhile Char.isDigit
    let afterWhole := body.dropWhile Char.isDigit
    let (fraction, tail) :=
      match afterWhole with
      | '.' :: rest => (rest.takeWhile Char.isDigit, rest.dropWhile Char.isDigit)
      | rest => ([], rest)
    if whole.isEmpty && fraction.isEmpty then none
    else
      (readExponent? tail).map fun e =>
        ofDecimal negative (digitsValue (whole ++ fraction)) (e - fraction.length)

end DynamicBinding.Binary64
