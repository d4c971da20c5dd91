import DynamicBinding.Text.EscapeTable
/-!
# Quoted text

A text between double quotes, with the quote, the backslash and the characters that do not show
written as escapes.
-/

namespace DynamicBinding.Text

/-- Whether quoted text writes the character by its number. -/
def isHidden (c : Char) : Bool :=
  hiddenRanges.any fun (low, high) => low ≤ c.toNat && c.toNat ≤ high

/-- The digits of a code point in base sixteen, lower case, without padding. -/
def hexDigits (n : Nat) : List Char :=
  Nat.toDigits 16 n

/-- One character inside double quotes. -/
def escapeChar (c : Char) : List Char :=
  if c = Char.ofNat 0 then ['\\', '0']
  else if c = '\t' then ['\\', 't']
  else if c = '\n' then ['\\', 'n']
  else if c = '\r' then ['\\', 'r']
  else if c = '"' then ['\\', '"']
  else if c = '\\' then ['\\', '\\']
  else if isHidden c then
    ['\\', 'u', Char.ofNat 0x7B] ++ hexDigits c.toNat ++ [Char.ofNat 0x7D]
  else [c]

/-- The text between double quotes. -/
def quoted (s : String) : String :=
  String.ofList (['"'] ++ s.toList.flatMap escapeChar ++ ['"'])

end DynamicBinding.Text
