import DynamicBinding.Text.CaseTable
/-!
# Upper and lower case

Full case mapping of a text.  A character may become several, and a capital sigma at the end of
a word becomes the final small sigma.
-/

namespace DynamicBinding.Text

/-- Whether a code point lies in one of the ranges. -/
def inRanges (ranges : List (Nat × Nat)) (c : Char) : Bool :=
  ranges.any fun (low, high) => low ≤ c.toNat && c.toNat ≤ high

/-- The character that a run of a case table gives for `c`, if some run covers it. -/
def shift? (runs : List (Nat × Nat × Nat × Int)) (c : Char) : Option Char :=
  runs.findSome? fun (first, last, step, offset) =>
    if first ≤ c.toNat && c.toNat ≤ last && (c.toNat - first) % step == 0 then
      some (Char.ofNat (Int.toNat (c.toNat + offset)))
    else none

/-- The case mapping of one character by a table of expansions and a table of runs. -/
def mapCase (expansions : List (Nat × List Nat)) (runs : List (Nat × Nat × Nat × Int))
    (c : Char) : List Char :=
  match expansions.lookup c.toNat with
  | some codes => codes.map Char.ofNat
  | none => [(shift? runs c).getD c]

/-- The upper-case form of one character. -/
def upperChar (c : Char) : List Char :=
  mapCase upperExpansions upperRuns c

/-- The lower-case form of one character outside any context. -/
def lowerChar (c : Char) : List Char :=
  mapCase lowerExpansions lowerRuns c

/-- Whether the nearest character that counts for case is a cased one. -/
def meetsCased (cs : List Char) : Bool :=
  match cs.dropWhile (inRanges caseIgnorableRanges) with
  | [] => false
  | c :: _ => inRanges casedRanges c

/-- Lower case of the characters that follow `before`, which is in reverse order.  A capital
sigma is final when a cased character comes before it and none comes after it. -/
def lowerAfter (before : List Char) : List Char → List Char
  | [] => []
  | c :: rest =>
    let lowered :=
      if c.toNat = 0x3A3 then
        [Char.ofNat (if meetsCased before && !meetsCased rest then 0x3C2 else 0x3C3)]
      else lowerChar c
    lowered ++ lowerAfter (c :: before) rest

/-- The text in upper case. -/
def upper (s : String) : String :=
  String.ofList (s.toList.flatMap upperChar)

/-- The text in lower case. -/
def lower (s : String) : String :=
  String.ofList (lowerAfter [] s.toList)

end DynamicBinding.Text
