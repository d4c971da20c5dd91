import DynamicBinding.Proofs.Script.Words
import DynamicBinding.Script.Conversion
import Mathlib.Data.List.DropRight
import Mathlib.Data.Nat.Digits.Defs
/-!
# Decimal numerals

Which texts are read as whole numbers, told without the reader.

* `IsNumeral` says which characters are a numeral and which number it denotes: an optional sign and
  at least one decimal digit.  `Text.Writes` allows blanks around it.
* `parseWord?_trim_eq_some_iff`: the reader takes the texts that write a number in range, and gives
  that number.
* `Text.writes_toString`: the text of a number writes it.
-/

namespace DynamicBinding

variable {before cs body after digits : List Char} {c : Char} {n : Int} {i : Int64}

/-! ## Blanks around a text -/

namespace Text

/-- Blanks in front are dropped, up to the first character that is none. -/
theorem dropWhile_isBlank_append (hbefore : ∀ c ∈ before, isBlank c = true)
    (hbody : ∀ c ∈ body.head?, isBlank c = false) : (before ++ body).dropWhile isBlank = body := by
  rw [List.dropWhile_append_of_pos hbefore]
  cases body with
  | nil => rfl
  | cons c rest => exact List.dropWhile_cons_of_neg (by simp [hbody c rfl])

/-- Trimming takes the blanks off both ends, and stops where there are none. -/
theorem trim_append (hbefore : ∀ c ∈ before, isBlank c = true)
    (hafter : ∀ c ∈ after, isBlank c = true) (hbody : ∀ c ∈ body, isBlank c = false)
    (hne : body ≠ []) : trim (before ++ body ++ after) = body := by
  have hhead : ∀ c ∈ (body ++ after).head?, isBlank c = false := by
    intro c hc
    rw [List.head?_append_of_ne_nil _ hne] at hc
    exact hbody c (List.mem_of_mem_head? hc)
  have hlast : ∀ c ∈ body.reverse.head?, isBlank c = false := fun c hc =>
    hbody c (List.mem_reverse.1 (List.mem_of_mem_head? hc))
  have hafter' : ∀ c ∈ after.reverse, isBlank c = true := fun c hc =>
    hafter c (List.mem_reverse.1 hc)
  rw [trim, List.append_assoc, dropWhile_isBlank_append hbefore hhead, List.reverse_append,
    dropWhile_isBlank_append hafter' hlast, List.reverse_reverse]

/-- What trimming takes off is blank. -/
theorem exists_trim (cs : List Char) : ∃ before after, cs = before ++ trim cs ++ after ∧
    (∀ c ∈ before, isBlank c = true) ∧ ∀ c ∈ after, isBlank c = true := by
  refine ⟨cs.takeWhile isBlank, (cs.dropWhile isBlank).rtakeWhile isBlank, ?_,
    fun c hc => List.mem_takeWhile_imp hc, fun c hc => List.mem_rtakeWhile_imp hc⟩
  rw [List.append_assoc]
  have hend : trim cs ++ (cs.dropWhile isBlank).rtakeWhile isBlank = cs.dropWhile isBlank :=
    List.rdropWhile_append_rtakeWhile
  rw [hend, List.takeWhile_append_dropWhile]

end Text

/-! ## Numerals -/

/-- The number of decimal digits, the last one of which counts ones. -/
def decimal (digits : List Char) : Nat :=
  Nat.ofDigits 10 (digits.reverse.map fun c => c.toNat - '0'.toNat)

/-- One or more of the ten digits. -/
def AreDigits (digits : List Char) : Prop := digits ≠ [] ∧ ∀ c ∈ digits, '0' ≤ c ∧ c ≤ '9'

/-- The characters are an optional sign and digits, and denote the number. -/
inductive IsNumeral : List Char → Int → Prop
  | bare {digits : List Char} (h : AreDigits digits) : IsNumeral digits (decimal digits)
  | plus {digits : List Char} (h : AreDigits digits) : IsNumeral ('+' :: digits) (decimal digits)
  | minus {digits : List Char} (h : AreDigits digits) :
    IsNumeral ('-' :: digits) (-(decimal digits : Int))

/-- The text is a numeral of the number, with blanks before and after it or none. -/
def Text.Writes (text : String) (n : Int) : Prop :=
  ∃ before numeral after, text.toList = before ++ numeral ++ after ∧
    (∀ c ∈ before, isBlank c = true) ∧ (∀ c ∈ after, isBlank c = true) ∧ IsNumeral numeral n

/-- The digits are the ten characters from `0` to `9`. -/
theorem isDigit_iff : c.isDigit = true ↔ '0' ≤ c ∧ c ≤ '9' := by
  simp [Char.isDigit, Char.le_def]

/-- The reader checks that there are digits and nothing else. -/
theorem areDigits_iff : AreDigits digits ↔
    (digits.isEmpty || !digits.all Char.isDigit) = false := by
  simp [AreDigits, isDigit_iff]

/-- No digit is a sign. -/
theorem AreDigits.not_cons (h : AreDigits (c :: digits)) : c ≠ '+' ∧ c ≠ '-' := by
  have hc := h.2 c List.mem_cons_self
  constructor <;> rintro rfl <;> revert hc <;> decide

/-- No character of a numeral is blank. -/
theorem IsNumeral.isBlank_eq_false (h : IsNumeral cs n) :
    cs ≠ [] ∧ ∀ c ∈ cs, Text.isBlank c = false := by
  have hdigit : ∀ c : Char, '0' ≤ c ∧ c ≤ '9' → Text.isBlank c = false := by
    intro c hc
    simp only [Char.le_def, UInt32.le_iff_toNat_le] at hc
    have hlow : 48 ≤ c.toNat := hc.1
    have hhigh : c.toNat ≤ 57 := hc.2
    simp only [Text.isBlank, Text.blankRanges, List.any_cons, List.any_nil, Bool.or_false,
      Bool.or_eq_false_iff, Bool.and_eq_false_iff, decide_eq_false_iff_not]
    omega
  cases h with
  | bare h => exact ⟨h.1, fun c hc => hdigit c (h.2 c hc)⟩
  | plus h | minus h =>
    refine ⟨List.cons_ne_nil _ _, List.forall_mem_cons.2 ⟨by decide, fun c hc => ?_⟩⟩
    exact hdigit c (h.2 c hc)

/-! ## The reader -/

/-- The number that the reader adds up from the front is that of the digits by their places. -/
theorem digitsValue_eq_decimal (digits : List Char) :
    Binary64.digitsValue digits = decimal digits := by
  -- one digit more at the end is one step more of the reader, and the new ones digit of the number
  induction digits using List.reverseRecOn with
  | nil => rfl
  | append_singleton digits c ih =>
    have hvalue : Binary64.digitsValue (digits ++ [c]) =
        10 * Binary64.digitsValue digits + (c.toNat - '0'.toNat) := List.foldl_concat ..
    rw [hvalue, ih, decimal, decimal, List.reverse_concat, List.map_cons, Nat.ofDigits_cons,
      Nat.add_comm]

/-- Digits by themselves have no sign to split off. -/
theorem AreDigits.splitSign_eq (h : AreDigits digits) :
    Binary64.splitSign digits = (false, digits) := by
  unfold Binary64.splitSign
  split
  · exact (h.not_cons.2 rfl).elim
  · exact (h.not_cons.1 rfl).elim
  · rfl

/-- A numeral is what has digits behind its sign. -/
theorem isNumeral_iff : IsNumeral cs n ↔ AreDigits (Binary64.splitSign cs).2 ∧
    n = if (Binary64.splitSign cs).1 then -(decimal (Binary64.splitSign cs).2 : Int)
      else decimal (Binary64.splitSign cs).2 := by
  constructor
  · rintro (h | h | h)
    · rw [h.splitSign_eq]
      exact ⟨h, rfl⟩
    · exact ⟨h, rfl⟩
    · exact ⟨h, rfl⟩
  · unfold Binary64.splitSign
    split <;> rintro ⟨h, rfl⟩
    · exact .minus h
    · exact .plus h
    · exact .bare h

namespace Script

/-- The reader takes numerals whose number is in range. -/
theorem parseWord?_eq_some_iff : parseWord? cs = some i ↔ IsNumeral cs i.toInt := by
  rw [isNumeral_iff, ← digitsValue_eq_decimal]
  unfold parseWord?
  by_cases h : AreDigits (Binary64.splitSign cs).2
  · have hdigits := areDigits_iff.1 h
    simp only [hdigits, h, Bool.false_eq_true, if_false, true_and]
    exact word?_eq_some_iff
  · have hdigits := mt areDigits_iff.2 h
    rw [Bool.not_eq_false] at hdigits
    simp [hdigits, h]

variable {text : String}

/-- Of a text with its blanks taken off, the reader gives the number that the text writes. -/
theorem parseWord?_trim_eq_some_iff :
    parseWord? (Text.trim text.toList) = some i ↔ Text.Writes text i.toInt := by
  constructor
  · intro h
    obtain ⟨before, after, htext, hbefore, hafter⟩ := Text.exists_trim text.toList
    exact ⟨before, _, after, htext, hbefore, hafter, parseWord?_eq_some_iff.1 h⟩
  · rintro ⟨before, numeral, after, htext, hbefore, hafter, hnumeral⟩
    obtain ⟨hne, hblank⟩ := hnumeral.isBlank_eq_false
    rw [htext, Text.trim_append hbefore hafter hblank hne]
    exact parseWord?_eq_some_iff.2 hnumeral

/-- Of a text with its blanks taken off, the reader gives nothing where the text writes no number in
range. -/
theorem parseWord?_trim_eq_none_iff :
    parseWord? (Text.trim text.toList) = none ↔ ¬ ∃ n, Text.Writes text n ∧ InRange n := by
  rw [Option.eq_none_iff_forall_ne_some, not_exists]
  constructor
  · rintro hnone n ⟨hwrites, hrange⟩
    obtain ⟨i, rfl⟩ := hrange.exists_word
    exact hnone i (parseWord?_trim_eq_some_iff.2 hwrites)
  · intro hnone i hi
    exact hnone i.toInt ⟨parseWord?_trim_eq_some_iff.1 hi, inRange_toInt i⟩

end Script

/-! ## The text of a number -/

/-- The digits of a number are digits. -/
theorem areDigits_toDigits (n : Nat) : AreDigits (Nat.toDigits 10 n) :=
  ⟨Nat.toDigits_ne_nil, fun _ hc =>
    isDigit_iff.1 (Nat.isDigit_of_mem_toDigits (by decide) (by decide) hc)⟩

/-- The digits of a number denote it. -/
theorem decimal_toDigits (n : Nat) : decimal (Nat.toDigits 10 n) = n := by
  rw [← digitsValue_eq_decimal]
  exact Nat.ofDigitChars_eq_foldl.symm.trans Nat.ofDigitChars_ten_toDigits

/-- **The text of a number writes the number.** -/
theorem Text.writes_toString (n : Int) : Text.Writes (toString n) n := by
  refine ⟨[], (toString n).toList, [], by simp, nofun, nofun, ?_⟩
  rw [Int.toString_eq_repr, Int.repr_eq_if]
  split
  · next h =>
    have hnumeral := IsNumeral.bare (areDigits_toDigits n.toNat)
    rw [decimal_toDigits, Int.toNat_of_nonneg h] at hnumeral
    rw [Nat.toList_repr]
    exact hnumeral
  · next h =>
    have hnumeral := IsNumeral.minus (areDigits_toDigits (-n).toNat)
    rw [decimal_toDigits, Int.toNat_of_nonneg (by omega), Int.neg_neg] at hnumeral
    rw [String.toList_append, Nat.toList_repr]
    exact hnumeral

end DynamicBinding
