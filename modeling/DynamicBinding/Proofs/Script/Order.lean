import DynamicBinding.Script.Arithmetic
import Mathlib.Data.String.Basic
/-!
# The order of texts

Texts are in the order of their characters, one by one, and characters in that of their scalar
values.  The bytes of texts in UTF-8 are in the same order, so a comparison need not decode them.

* `lex_flatMap_iff`: a coding of characters keeps the order of texts if the code of a smaller
  character comes first, whatever follows it.
* `lex_encode`: UTF-8 is such a coding.  A longer code starts with a larger byte.
* `lt_iff_scalars` and `lt_iff_bytes`: the order of texts is the lexicographic order of their scalar
  values, and that of their bytes.
-/

namespace DynamicBinding

/-- The scalar values of the characters. -/
def Text.scalars (text : Text) : List Nat := text.chars.toList.map Char.toNat

/-- The bytes of the text in UTF-8. -/
def Text.bytes (text : Text) : List UInt8 := text.chars.toUTF8.data.toList

namespace Script

variable {c d : Char} {s t : Text} {x y : Nat} {u w : List UInt8}

/-! ## Codings of characters -/

section Coding

variable {α : Type} [LT α] {code : Char → List α} (hne : ∀ c, code c ≠ [])
  (hcode : ∀ c d, c < d → ∀ u w, List.Lex (· < ·) (code c ++ u) (code d ++ w))

include hne hcode

/-- A coding that keeps the order of characters keeps that of texts. -/
theorem lex_flatMap {cs ds : List Char} (h : List.Lex (· < ·) cs ds) :
    List.Lex (· < ·) (cs.flatMap code) (ds.flatMap code) := by
  induction h with
  | @nil d ds =>
    obtain ⟨x, xs, hd⟩ := List.exists_cons_of_ne_nil (hne d)
    rw [List.flatMap_nil, List.flatMap_cons, hd]
    exact .nil
  | cons _ ih =>
    rw [List.flatMap_cons, List.flatMap_cons]
    exact ih.append_left _ _
  | rel hlt =>
    rw [List.flatMap_cons, List.flatMap_cons]
    exact hcode _ _ hlt _ _

/-- A coding that keeps the order of characters tells the order of texts. -/
theorem lex_flatMap_iff [Std.Asymm ((· < ·) : α → α → Prop)] (cs ds : List Char) :
    cs < ds ↔ List.Lex (· < ·) (cs.flatMap code) (ds.flatMap code) := by
  constructor
  · exact lex_flatMap hne hcode
  · intro hlex
    -- the other way round is impossible, and so are equal texts
    rcases lt_trichotomy cs ds with hlt | rfl | hgt
    · exact hlt
    · exact absurd hlex (List.lex_irrefl Std.Irrefl.irrefl _)
    · exact absurd hlex ((List.Lex.asymm _).asymm _ _ (lex_flatMap hne hcode hgt))

end Coding

/-- The order of texts is the lexicographic order of their scalar values. -/
theorem lt_iff_scalars : s.chars < t.chars ↔ List.Lex (· < ·) s.scalars t.scalars := by
  rw [String.lt_iff_toList_lt, Text.scalars, Text.scalars, List.map_eq_flatMap,
    List.map_eq_flatMap]
  refine lex_flatMap_iff (fun c => List.cons_ne_nil _ _) (fun c d h u w => ?_) _ _
  exact .rel h

/-- Texts with the same scalar values have the same characters. -/
theorem scalars_inj : s.scalars = t.scalars ↔ s.chars = t.chars := by
  have hinjective : Function.Injective (List.map Char.toNat) :=
    List.map_injective_iff.2 fun _ _ => Char.toNat_inj.1
  exact hinjective.eq_iff.trans String.toList_inj

/-! ## Bytes -/

/-- The bytes of a text are those of its characters. -/
theorem bytes_eq (text : Text) : text.bytes = text.chars.toList.flatMap String.utf8EncodeChar := by
  have hencode : text.chars.toList.utf8Encode = text.chars.toByteArray := String.utf8Encode_toList
  rw [Text.bytes, String.toUTF8_eq_toByteArray, ← hencode, List.utf8Encode]
  simp

/-- The bytes of a character, by the range of its scalar value. -/
theorem encode_cases (c : Char) :
    (c.toNat < 0x80 ∧ String.utf8EncodeChar c = [UInt8.ofNat c.toNat]) ∨
    (0x80 ≤ c.toNat ∧ c.toNat < 0x800 ∧ String.utf8EncodeChar c =
      [UInt8.ofNat (c.toNat / 64 % 32 + 192), UInt8.ofNat (c.toNat % 64 + 128)]) ∨
    (0x800 ≤ c.toNat ∧ c.toNat < 0x10000 ∧ String.utf8EncodeChar c =
      [UInt8.ofNat (c.toNat / 4096 % 16 + 224), UInt8.ofNat (c.toNat / 64 % 64 + 128),
        UInt8.ofNat (c.toNat % 64 + 128)]) ∨
    (0x10000 ≤ c.toNat ∧ c.toNat < 0x110000 ∧ String.utf8EncodeChar c =
      [UInt8.ofNat (c.toNat / 262144 % 8 + 240), UInt8.ofNat (c.toNat / 4096 % 64 + 128),
        UInt8.ofNat (c.toNat / 64 % 64 + 128), UInt8.ofNat (c.toNat % 64 + 128)]) := by
  have hrange : c.toNat < 0x110000 := by
    have hvalid := c.valid
    simp only [UInt32.isValidChar, Nat.isValidChar] at hvalid
    change c.val.toNat < _
    omega
  rw [String.utf8EncodeChar.eq_1]
  simp only [Char.toNat_val]
  split
  · exact .inl ⟨by omega, rfl⟩
  · split
    · exact .inr (.inl ⟨by omega, by omega, rfl⟩)
    · split
      · exact .inr (.inr (.inl ⟨by omega, by omega, rfl⟩))
      · exact .inr (.inr (.inr ⟨by omega, hrange, rfl⟩))

/-- The smaller byte in front decides. -/
theorem lex_byte (hx : x < 256) (hy : y < 256) (hlt : x < y) :
    List.Lex (· < ·) (UInt8.ofNat x :: u) (UInt8.ofNat y :: w) := by
  refine .rel (UInt8.lt_iff_toNat_lt.2 ?_)
  rwa [UInt8.toNat_ofNat_of_lt' hx, UInt8.toNat_ofNat_of_lt' hy]

/-- Of two bytes in front that may be equal, what follows decides if they are. -/
theorem lex_cons (hx : x < 256) (hy : y < 256) (hle : x ≤ y)
    (h : x = y → List.Lex (· < ·) u w) :
    List.Lex (· < ·) (UInt8.ofNat x :: u) (UInt8.ofNat y :: w) := by
  rcases Nat.lt_or_eq_of_le hle with hlt | rfl
  · exact lex_byte hx hy hlt
  · exact .cons (h rfl)

/-- The bytes of a character with a smaller scalar value come first, whatever follows them. -/
theorem lex_encode (hlt : c < d) (u w : List UInt8) :
    List.Lex (· < ·) (String.utf8EncodeChar c ++ u) (String.utf8EncodeChar d ++ w) := by
  have hlt : c.toNat < d.toNat := hlt
  rcases encode_cases c with
      ⟨hc, hcode⟩ | ⟨hc, hc', hcode⟩ | ⟨hc, hc', hcode⟩ | ⟨hc, hc', hcode⟩ <;>
    rcases encode_cases d with
      ⟨hd, hcode'⟩ | ⟨hd, hd', hcode'⟩ | ⟨hd, hd', hcode'⟩ | ⟨hd, hd', hcode'⟩ <;>
    rw [hcode, hcode'] <;>
    -- of two codes of different lengths, the longer one starts with the larger byte
    first | (exfalso; omega) | exact lex_byte (by omega) (by omega) (by omega) | skip
  · refine lex_cons (by omega) (by omega) (by omega) fun _ => ?_
    exact lex_byte (by omega) (by omega) (by omega)
  · refine lex_cons (by omega) (by omega) (by omega) fun _ => ?_
    refine lex_cons (by omega) (by omega) (by omega) fun _ => ?_
    exact lex_byte (by omega) (by omega) (by omega)
  · refine lex_cons (by omega) (by omega) (by omega) fun _ => ?_
    refine lex_cons (by omega) (by omega) (by omega) fun _ => ?_
    refine lex_cons (by omega) (by omega) (by omega) fun _ => ?_
    exact lex_byte (by omega) (by omega) (by omega)

/-- The order of texts is the lexicographic order of their bytes. -/
theorem lt_iff_bytes : s.chars < t.chars ↔ List.Lex (· < ·) s.bytes t.bytes := by
  rw [String.lt_iff_toList_lt, bytes_eq, bytes_eq]
  refine lex_flatMap_iff (fun c => ?_) (fun c d h => lex_encode h) _ _
  rcases encode_cases c with ⟨-, hcode⟩ | ⟨-, -, hcode⟩ | ⟨-, -, hcode⟩ | ⟨-, -, hcode⟩ <;>
    rw [hcode] <;> exact List.cons_ne_nil _ _

end Script

end DynamicBinding
