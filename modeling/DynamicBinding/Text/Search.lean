/-!
# Comparing and searching text

Name comparison that ignores the case of the ASCII letters, and the search for one text inside
another.
-/

namespace DynamicBinding.Text

/-- Equality up to the case of the ASCII letters; all other characters must agree exactly. -/
def sameIgnoringCase (a b : String) : Bool :=
  a.toList.map Char.toLower == b.toList.map Char.toLower

/-- Whether a member called `candidate` answers to `name`. -/
def namesMatch (name candidate : String) (ignoreCase : Bool) : Bool :=
  if ignoreCase then sameIgnoringCase name candidate else name == candidate

@[simp] theorem namesMatch_self (name : String) (ignoreCase : Bool) :
    namesMatch name name ignoreCase = true := by
  cases ignoreCase <;> simp [namesMatch, sameIgnoringCase]

theorem namesMatch_comm (a b : String) (ignoreCase : Bool) :
    namesMatch a b ignoreCase = namesMatch b a ignoreCase := by
  cases ignoreCase <;> simp [namesMatch, sameIgnoringCase, Bool.beq_comm]

/-- Whether `needle` occurs in `text` as a run of adjacent characters. -/
def occursIn (needle : List Char) : List Char → Bool
  | [] => needle.isEmpty
  | c :: rest => needle.isPrefixOf (c :: rest) || occursIn needle rest

end DynamicBinding.Text
