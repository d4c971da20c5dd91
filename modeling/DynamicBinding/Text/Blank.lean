/-!
# Blank characters

The twenty-five characters with the white space property, and the removal of blanks at both
ends of a text.  Core's `Char.isWhitespace` knows only the blanks among ASCII.
-/

namespace DynamicBinding.Text

/-- Ranges of the code points with the white space property, ascending, both ends included. -/
def blankRanges : List (Nat × Nat) :=
  [(0x09, 0x0D), (0x20, 0x20), (0x85, 0x85), (0xA0, 0xA0), (0x1680, 0x1680), (0x2000, 0x200A),
    (0x2028, 0x2029), (0x202F, 0x202F), (0x205F, 0x205F), (0x3000, 0x3000)]

/-- Whether a character has the white space property. -/
def isBlank (c : Char) : Bool :=
  blankRanges.any fun (low, high) => low ≤ c.toNat && c.toNat ≤ high

/-- The characters left when the blanks at both ends are dropped. -/
def trim (cs : List Char) : List Char :=
  ((cs.dropWhile isBlank).reverse.dropWhile isBlank).reverse

end DynamicBinding.Text
