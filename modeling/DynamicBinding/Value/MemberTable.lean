import DynamicBinding.Text.Search
import DynamicBinding.Value.Basic
/-!
# Member tables

Named values in the order of their oldest uninterrupted existence.  Instances keep their fields
in such a table, classes their members.  Reading, writing and removing address the same entry for
the same name and the same regard of case: the first one whose name matches.
-/

namespace DynamicBinding

/-- Named values in order. -/
structure MemberTable where
  entries : List (String × Value)
deriving DecidableEq, Inhabited

namespace MemberTable

def empty : MemberTable := ⟨[]⟩

def size (t : MemberTable) : Nat := t.entries.length

/-- The names in order. -/
def names (t : MemberTable) : List String := t.entries.map Prod.fst

/-- The position of the entry that a name addresses. -/
def position? (t : MemberTable) (name : String) (ignoreCase : Bool) : Option Nat :=
  t.entries.findIdx? fun entry => Text.namesMatch name entry.1 ignoreCase

/-- The value under a name. -/
def get? (t : MemberTable) (name : String) (ignoreCase : Bool) : Option Value :=
  (t.entries.find? fun entry => Text.namesMatch name entry.1 ignoreCase).map Prod.snd

/-- Writes the entry that the name addresses and keeps its stored name and place, or adds a new
entry at the end. -/
def set (t : MemberTable) (name : String) (ignoreCase : Bool) (v : Value) : MemberTable :=
  match t.position? name ignoreCase with
  | some i => ⟨t.entries.modify i fun entry => (entry.1, v)⟩
  | none => ⟨t.entries ++ [(name, v)]⟩

/-- Removes the entry that the name addresses; none if there is no such entry. -/
def remove? (t : MemberTable) (name : String) (ignoreCase : Bool) : Option MemberTable :=
  (t.position? name ignoreCase).map fun i => ⟨t.entries.eraseIdx i⟩

/-- The table that results from writing the entries in order. -/
def ofEntries (entries : List (String × Value)) : MemberTable :=
  entries.foldl (fun t entry => t.set entry.1 false entry.2) empty

end MemberTable

end DynamicBinding
