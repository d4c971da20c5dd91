import DynamicBinding.Store
/-!
# Structural equality and truth

Numbers compare across int, float and bool, sequences item by item, functions and objects by
identity.  A list that holds itself can keep a comparison going without end.  A comparison of
values descends through pairs of cells, so one that goes deeper than there are pairs has met a
pair again and never ends; `equals` counts the descents and answers nothing then.
-/

namespace DynamicBinding.Store

/-- Compares two lists of items from the front until two differ or a comparison has no answer.
Lists of different lengths are different without any comparison. -/
def equalItems (equal : Value → Value → Option Bool) (xs ys : List Value) : Option Bool :=
  if xs.length = ys.length then go xs ys else some false
where
  /-- The comparison of the items. -/
  go : List Value → List Value → Option Bool
    | x :: xs, y :: ys => do
      if ← equal x y then go xs ys else some false
    | _, _ => some true

/-- Equality of values that are not two sequences of one kind. -/
def equalScalars (a b : Value) : Bool :=
  match a, b with
  | .nothing, .nothing => true
  | .str a, .str b => a.chars == b.chars
  | .function _, .function _ => a.identical b
  | .object _, .object _ => a.identical b
  | _, _ =>
    match a.asInt?, b.asInt? with
    | some i, some j => i == j
    | _, _ =>
      match a.asFloat?, b.asFloat? with
      | some x, some y => x.sameNumber y
      | _, _ => false

/-- Equality within a number of descents into sequences. -/
def equalsWithin (s : Store) : Nat → Value → Value → Option Bool
  | 0, _, _ => none
  | fuel + 1, .tuple i, .tuple j => equalItems (s.equalsWithin fuel) (s.items i) (s.items j)
  | fuel + 1, .list i, .list j =>
    if i = j then some true
    else equalItems (s.equalsWithin fuel) (s.items i) (s.items j)
  | _ + 1, a, b => some (equalScalars a b)

/-- Structural equality; none if the comparison never ends. -/
def equals (s : Store) (a b : Value) : Option Bool :=
  s.equalsWithin (s.cells.size * s.cells.size + 2) a b

/-- Whether some item equals `x`, asked from the front; an item without an answer stops the
search. -/
def anyEqual (s : Store) (x : Value) : List Value → Option Bool
  | [] => some false
  | item :: rest => do
    if ← s.equals item x then some true else s.anyEqual x rest

/-- Whether a value counts as true: not for nothing, false, zero and what is empty. -/
def isTruthy (s : Store) : Value → Bool
  | .nothing => false
  | .bool b => b
  | .int i => i != 0
  | .float x => !x.isZero
  | .str text => !text.chars.isEmpty
  | .tuple id | .list id => !(s.cell id).isEmpty
  | .function _ | .object _ => true

end DynamicBinding.Store
