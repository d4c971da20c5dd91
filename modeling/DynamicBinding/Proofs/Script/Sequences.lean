import DynamicBinding.Proofs.Script.Lists
import DynamicBinding.Proofs.Store.Cycles
/-!
# Texts, lists and tuples as sequences

What a text, list or tuple consists of, told without a store, and what the operations of the script
language make of it.

* `Store.sequence?` is what a value consists of, and `Sequence.append?` and `Sequence.times` are
  sums and repetitions of sequences.
* `Effect.Builds` says of a computation that it makes a value that consists of a given sequence, and
  leaves alone all that was there.  Sums, repetitions and conversions do (`concatenate_builds`,
  `repetition_builds`, `toList_builds`, `toTuple_builds`).
* `getItem_reads`: an index addresses in a sequence what it addresses among its items.
* `occursIn_iff`: one text is found in another where it is a part of it.
-/

namespace DynamicBinding

/-- A sequence as such: the characters of a text, or the items of a list or tuple. -/
inductive Sequence where
  | text (chars : String)
  | list (items : List Value)
  | tuple (items : List Value)
deriving DecidableEq

namespace Sequence

/-- The size of a sequence as the limit of repetitions counts it: the bytes of a text, the items of
a list or tuple. -/
def size : Sequence → Nat
  | .text chars => chars.utf8ByteSize
  | .list items | .tuple items => items.length

/-- The sequence of the same kind that consists of nothing. -/
def cleared : Sequence → Sequence
  | .text _ => .text ""
  | .list _ => .list []
  | .tuple _ => .tuple []

/-- One sequence followed by another one of the same kind. -/
def append? : Sequence → Sequence → Option Sequence
  | .text a, .text b => some (.text (a ++ b))
  | .list xs, .list ys => some (.list (xs ++ ys))
  | .tuple xs, .tuple ys => some (.tuple (xs ++ ys))
  | _, _ => none

/-- The items of a list or tuple. -/
def items? : Sequence → Option (List Value)
  | .text _ => none
  | .list items | .tuple items => some items

/-- The sequence a number of times over. -/
def times : Sequence → Nat → Sequence
  | .text chars, n => .text (String.join (List.replicate n chars))
  | .list items, n => .list (List.replicate n items).flatten
  | .tuple items, n => .tuple (List.replicate n items).flatten

/-- The values are the items of the sequence: those of a list or tuple, and for a text one text for
each character. -/
def Yields (c : Sequence) (items : List Value) : Prop :=
  match c with
  | .text chars => items.map Value.asStr? = chars.toList.map fun ch => some (String.singleton ch)
  | .list xs | .tuple xs => items = xs

/-- Two results of reading from the sequence are the same: the identical item, or texts of the same
characters where the sequence is a text itself, or the same error. -/
def ReadsAlike (c : Sequence) (r r' : Except RuntimeError Value) : Prop :=
  match c, r, r' with
  | .text _, .ok v, .ok w => ∃ chars, v.asStr? = some chars ∧ w.asStr? = some chars
  | _, r, r' => r = r'

variable {c d e : Sequence} {xs ys : List Value}

namespace Yields

variable {chars : String} {items : List Value} (h : (text chars).Yields items)

include h

/-- A text has as many items as characters. -/
theorem length_eq : items.length = chars.toList.length := by
  rw [← List.length_map Value.asStr?, h, List.length_map]

/-- The items of a text have the texts of its characters. -/
theorem asStr?_getD {p : Nat} (hp : p < chars.toList.length) :
    (items.getD p .nothing).asStr? = some (String.singleton (chars.toList.getD p default)) := by
  have hitem : (items.map Value.asStr?)[p]? =
      some (some (String.singleton (chars.toList.getD p default))) := by
    rw [h, List.getElem?_map, List.getD_eq_getElem?_getD, List.getElem?_eq_getElem hp]
    rfl
  rw [List.getElem?_map, Option.map_eq_some_iff] at hitem
  obtain ⟨item, hitem, htext⟩ := hitem
  rw [List.getD_eq_getElem?_getD, hitem]
  exact htext

/-- The items of a text, one after the other, are the text. -/
theorem join : String.join (items.filterMap Value.asStr?) = chars := by
  have htexts : items.filterMap Value.asStr? = (items.map Value.asStr?).filterMap id := by
    simp [List.filterMap_map]
  rw [htexts, h, ← String.toList_inj, String.toList_join]
  simp [List.filterMap_map, List.flatMap_map]

end Yields

/-- No times over, a sequence is the empty one of its kind. -/
@[simp] theorem times_zero (c : Sequence) : c.times 0 = c.cleared := by
  cases c <;> rfl

/-- Once over, a sequence is itself. -/
@[simp] theorem times_one (c : Sequence) : c.times 1 = c := by
  cases c <;> simp [times]

/-- A sum of lists or tuples has the items of both. -/
theorem items?_append? (h : c.append? d = some e) (hc : c.items? = some xs)
    (hd : d.items? = some ys) : e.items? = some (xs ++ ys) := by
  cases c <;> cases d <;> cases h <;> cases hc <;> cases hd <;> rfl

/-- Reading from a list or tuple, the same result is one that is alike. -/
theorem ReadsAlike.of_items? (h : c.items? = some xs) (r : Except RuntimeError Value) :
    c.ReadsAlike r r := by
  cases c <;> cases h <;> rfl

/-- A repetition after another is the repetition by the sum. -/
theorem append?_times (c : Sequence) (m n : Nat) :
    (c.times m).append? (c.times n) = some (c.times (m + n)) := by
  cases c <;> simp [append?, times, ← List.replicate_append_replicate]

end Sequence

/-! ## Stores -/

namespace Store

/-- What a text, list or tuple consists of. -/
def sequence? (s : Store) : Value → Option Sequence
  | .str text => some (.text text.chars)
  | .list id => some (.list (s.items id))
  | .tuple id => some (.tuple (s.items id))
  | _ => none

variable {s t : Store} {v w : Value} {c d : Sequence} {given : Value → Prop} {id : Nat}
  {items : List Value}

/-- Lists and tuples are the values with a cell. -/
theorem exists_sequence?_of_cell? (hv : v.cell? = some id) :
    ∃ c, s.sequence? v = some c ∧ c.items? = some (s.items id) := by
  cases v <;> cases hv <;> exact ⟨_, rfl, rfl⟩

/-- What consists of items has a cell, and they are the items of the cell. -/
theorem exists_cell?_of_sequence? (hv : s.sequence? v = some c) (hc : c.items? = some items) :
    ∃ id, v.cell? = some id ∧ s.items id = items := by
  cases v <;> cases hv <;> cases hc <;> exact ⟨_, rfl, rfl⟩

/-- Sequences can be appended if they are of one kind. -/
theorem exists_append?_iff (hv : s.sequence? v = some c) (hw : s.sequence? w = some d) :
    (∃ e, c.append? d = some e) ↔ v.kind = w.kind := by
  cases v <;> cases hv <;> cases w <;> cases hw <;> simp [Sequence.append?, Value.kind]

/-- What is there consists of the same when things are made. -/
theorem Extends.sequence? (h : s.Extends given t) (hv : s.Made v) :
    t.sequence? v = s.sequence? v := by
  cases v with
  | tuple id | list id => simp only [Store.sequence?, h.items (hv.lt rfl)]
  | _ => rfl

/-- From one store to the other, a value was made that consists of the sequence.  What was there is
as it was, and a list or tuple that was made has a cell of its own. -/
structure Adds (s : Store) (v : Value) (c : Sequence) (t : Store) : Prop where
  sequence : t.sequence? v = some c
  extension : s.Extends (fun _ => True) t
  fresh : ∀ id, v.cell? = some id → s.cells.size ≤ id ∧ id < t.cells.size

/-- The value that was made is there. -/
theorem Adds.made (h : s.Adds v c t) : t.Made v := .inr fun id hid => (h.fresh id hid).2

/-- The value has a cell of its own: whatever changes there changes no cell that was there before,
nor the other way round. -/
def Apart (s : Store) (v : Value) (t : Store) : Prop :=
  ∀ id, v.cell? = some id → ∀ other < s.cells.size, ∀ change : Array Value → Array Value,
    (t.modifyItems id change).items other = s.items other ∧
      (t.modifyItems other change).items id = t.items id

/-- The value that was made has a cell of its own. -/
theorem Adds.apart (h : s.Adds v c t) : s.Apart v t := by
  intro id hid other hother change
  have hne : other ≠ id := Nat.ne_of_lt (Nat.lt_of_lt_of_le hother (h.fresh id hid).1)
  rw [t.items_modifyItems_of_ne hne.symm, t.items_modifyItems_of_ne hne,
    h.extension.items hother]
  exact ⟨rfl, rfl⟩

end Store

/-! ## Computations -/

/-- From the store on, the computation makes a value that consists of the sequence. -/
def Effect.Builds (x : Effect Value) (s : Store) (c : Sequence) : Prop :=
  ∃ v t, x.run.run s = (.ok v, t) ∧ s.Adds v c t

namespace Effect.Builds

variable {s t : Store} {x : Effect Value} {c : Sequence}

/-- Making a text gives a value of its characters. -/
theorem str (s : Store) (chars : String) : (Effect.str chars).Builds s (.text chars) :=
  ⟨_, _, rfl, rfl, .single (.str chars), nofun⟩

/-- Making a list gives a value of its items. -/
theorem list (s : Store) (items : List Value) : (Effect.list items).Builds s (.list items) := by
  refine ⟨_, _, rfl, ?_, .single (.cell fun _ _ => .inl trivial), ?_⟩
  · simp [Store.sequence?, Store.items, Store.cell]
  · rintro id ⟨⟩
    simp

/-- Making a tuple gives a value of its items. -/
theorem tuple (s : Store) (items : List Value) : (Effect.tuple items).Builds s (.tuple items) := by
  refine ⟨_, _, rfl, ?_, .single (.cell fun _ _ => .inl trivial), ?_⟩
  · simp [Store.sequence?, Store.items, Store.cell]
  · rintro id ⟨⟩
    simp

/-- What was made on the way is there before the value is. -/
theorem bind {α : Type} {y : Effect α} {f : α → Effect Value} {a : α}
    (hy : y.run.run s = (.ok a, t)) (hextension : s.Extends (fun _ => True) t)
    (hf : (f a).Builds t c) : (y >>= f).Builds s c := by
  obtain ⟨v, u, hrun, hadds⟩ := hf
  refine ⟨v, u, ?_, hadds.sequence, hextension.trans hadds.extension, fun id hid => ?_⟩
  · rw [run_bind, hy]
    exact hrun
  · obtain ⟨hle, hlt⟩ := hadds.fresh id hid
    exact ⟨hextension.size_le.trans hle, hlt⟩

end Effect.Builds

namespace Script

open Effect

variable {s : Store} {x y : Value} {c d e : Sequence} {n : Int64} {items : List Value}

/-! ### Sums and repetitions -/

/-- The sum of two sequences of one kind consists of the first, followed by the second. -/
theorem concatenate_builds (operator : Operator) (hx : s.sequence? x = some c)
    (hy : s.sequence? y = some d) (h : c.append? d = some e) :
    (concatenate operator x y).Builds s e := by
  cases x <;> cases hx <;> cases y <;> cases hy <;> cases h
  · exact .str s _
  · exact .bind (a := s) rfl (.refl s) (.tuple s _)
  · exact .bind (a := s) rfl (.refl s) (.list s _)

/-- The items that come round and round are the items a number of times over. -/
theorem cycle_eq {α : Type} (items : List α) (count : Nat) :
    cycle items count = (List.replicate count items).flatten := by
  unfold cycle
  split
  · next h => simp [List.isEmpty_iff.1 h]
  · rfl

/-- The text that is written again and again is the text a number of times over. -/
theorem repeated_eq (chars : String) (count : Nat) :
    Text.repeated chars count = String.join (List.replicate count chars) := by
  rw [← String.toList_inj, Text.toList_repeated, String.toList_join]
  simp [List.flatMap_def]

/-- The check lets a repetition pass that is not too long. -/
theorem run_checkRepeatSize (operator : Operator) {size count : Nat}
    (h : size * count ≤ maxRepeatSize) (s : Store) :
    (checkRepeatSize operator size count).run.run s = (.ok (), s) := by
  rw [checkRepeatSize, if_neg (Nat.not_lt.2 h)]
  rfl

/-- Nothing comes after a check that fails. -/
theorem run_checkRepeatSize_bind (operator : Operator) {size count : Nat}
    (h : maxRepeatSize < size * count) (f : Unit → Effect Value) (s : Store) :
    (checkRepeatSize operator size count >>= f).run.run s =
      (.error (.error (.overflow operator)), s) := by
  rw [checkRepeatSize, if_pos h]
  rfl

/-- No sequence counts as a number. -/
theorem asInt?_of_sequence? (hx : s.sequence? x = some c) : x.asInt? = none := by
  cases x <;> first | rfl | cases hx

/-- The number may stand on either side. -/
theorem repetition_comm (operator : Operator) (hx : s.sequence? x = some c)
    (hn : y.asInt? = some n) : repetition operator y x = repetition operator x y := by
  have hnone := asInt?_of_sequence? hx
  unfold repetition
  simp only [hnone, hn]
  cases x <;> first | rfl | cases hx

/-- A repetition that is not too long consists of the sequence a number of times over. -/
theorem repetition_builds (operator : Operator) (hx : s.sequence? x = some c)
    (hn : y.asInt? = some n) (hsize : c.size * n.toInt.toNat ≤ maxRepeatSize) :
    (repetition operator x y).Builds s (c.times n.toInt.toNat) := by
  have hnone := asInt?_of_sequence? hx
  have hcheck := run_checkRepeatSize operator hsize s
  unfold repetition
  simp only [hnone, hn]
  cases x with
  | str text =>
    cases hx
    refine .bind hcheck (.refl s) ?_
    rw [repeated_eq]
    exact .str s _
  | list id =>
    cases hx
    refine .bind (a := s) rfl (.refl s) (.bind hcheck (.refl s) ?_)
    rw [cycle_eq]
    exact .list s _
  | tuple id =>
    cases hx
    refine .bind (a := s) rfl (.refl s) (.bind hcheck (.refl s) ?_)
    rw [cycle_eq]
    exact .tuple s _
  | _ => cases hx

/-- A repetition that is too long fails before anything is made. -/
theorem run_repetition_of_lt (operator : Operator) (hx : s.sequence? x = some c)
    (hn : y.asInt? = some n) (hsize : maxRepeatSize < c.size * n.toInt.toNat) :
    (repetition operator x y).run.run s = (.error (.error (.overflow operator)), s) := by
  have hnone := asInt?_of_sequence? hx
  unfold repetition
  simp only [hnone, hn]
  cases x with
  | str text =>
    cases hx
    exact run_checkRepeatSize_bind operator hsize _ s
  | list id | tuple id =>
    cases hx
    rw [run_get_bind]
    exact run_checkRepeatSize_bind operator hsize _ s
  | _ => cases hx

/-! ### Items -/

/-- A text is taken apart into one text for each character. -/
theorem run_characters (cs : List Char) (s : Store) :
    ∃ items t, (characters cs).run.run s = (.ok items, t) ∧
      items.map Value.asStr? = cs.map fun ch => some (String.singleton ch) := by
  -- the texts after the first are made in the store that has the first one
  induction cs generalizing s with
  | nil => exact ⟨[], s, rfl, rfl⟩
  | cons ch rest ih =>
    obtain ⟨items, t, hrun, hitems⟩ := ih (s.makeStr (String.singleton ch)).2
    refine ⟨(s.makeStr (String.singleton ch)).1 :: items, t, ?_, ?_⟩
    · have hfirst : (Effect.str (String.singleton ch)).run.run s =
          (.ok (s.makeStr (String.singleton ch)).1, (s.makeStr (String.singleton ch)).2) := rfl
      rw [characters, run_bind, hfirst]
      simp only [run_bind, hrun]
      rfl
    · rw [List.map_cons, List.map_cons, hitems]
      rfl

/-- The items of a sequence are taken out, and nothing changes that was there. -/
theorem run_itemsOf (hx : s.sequence? x = some c) :
    ∃ items t, (itemsOf x).run.run s = (.ok items, t) ∧ s.Extends (fun _ => True) t ∧
      c.Yields items := by
  have hextension := (itemsOf_makes (s := s) x fun _ _ _ => .inl trivial).1
  cases x with
  | str text =>
    cases hx
    obtain ⟨items, t, hrun, hitems⟩ := run_characters text.chars.toList s
    have hrun : (itemsOf (.str text)).run.run s = (.ok items, t) := hrun
    rw [hrun] at hextension
    exact ⟨items, t, hrun, hextension, hitems⟩
  | list id | tuple id =>
    cases hx
    exact ⟨s.items id, s, rfl, .refl s, rfl⟩
  | _ => cases hx

/-- **A conversion makes a list of the items** of a sequence. -/
theorem toList_builds (hx : s.sequence? x = some c) :
    ∃ items, c.Yields items ∧ (Conversion.toList.run x).Builds s (.list items) := by
  obtain ⟨items, t, hrun, hextension, hitems⟩ := run_itemsOf hx
  exact ⟨items, hitems, .bind hrun hextension (.list t items)⟩

/-- **A conversion makes a tuple of the items** of a sequence. -/
theorem toTuple_builds (hx : s.sequence? x = some c) :
    ∃ items, c.Yields items ∧ (Conversion.toTuple.run x).Builds s (.tuple items) := by
  obtain ⟨items, t, hrun, hextension, hitems⟩ := run_itemsOf hx
  exact ⟨items, hitems, .bind hrun hextension (.tuple t items)⟩

/-! ### Indexes -/

/-- Reading a text makes the text of the character at the place. -/
theorem run_getItem_str (s : Store) (text : Text) (i : Int) :
    (getItem (.str text) i).run.run s =
      match ListAction.place? i text.chars.toList.length with
      | some p => (.ok (s.makeStr (String.singleton (text.chars.toList.getD p default))).1,
          (s.makeStr (String.singleton (text.chars.toList.getD p default))).2)
      | none => (.error (.error (.indexOutOfRange i text.chars.toList.length)), s) := by
  simp only [getItem, position_eq]
  cases ListAction.place? i text.chars.toList.length <;> rfl

/-- Reading a list or tuple gives the item at the place, and makes nothing. -/
theorem run_getItem_of_cell {id : Nat} (hx : x.cell? = some id) (s : Store) (i : Int) :
    (getItem x i).run.run s =
      (((ListAction.read i).perform (s.items id)).1.mapError .error, s) := by
  cases x <;> cases hx <;> exact run_getItem_list s id i

/-- **An index addresses in a sequence what it addresses among the items.**  Reading a text makes
the text of one character; reading a list or tuple makes nothing. -/
theorem getItem_reads (hx : s.sequence? x = some c) (hitems : c.Yields items) (i : Int) :
    ∃ r t, (getItem x i).run.run s = (r.mapError .error, t) ∧
      c.ReadsAlike r ((ListAction.read i).perform items).1 := by
  cases x with
  | str text =>
    cases hx
    rw [run_getItem_str]
    simp only [ListAction.perform, hitems.length_eq]
    cases hplace : ListAction.place? i text.chars.toList.length with
    | some p =>
      have htext := hitems.asStr?_getD (ListAction.place?_lt hplace)
      exact ⟨.ok _, _, rfl, _, rfl, htext⟩
    | none => exact ⟨.error (.indexOutOfRange i text.chars.toList.length), s, rfl, rfl⟩
  | list id | tuple id =>
    cases hx
    obtain rfl : items = s.items id := hitems
    exact ⟨_, s, run_getItem_of_cell rfl s i, Sequence.ReadsAlike.of_items? rfl _⟩
  | _ => cases hx

/-- The length of a sequence is how many items it has. -/
theorem run_length (hx : s.sequence? x = some c) (hitems : c.Yields items) :
    (Method.length.run x []).run.run s = (.ok (.int (Int64.ofNat items.length)), s) := by
  cases x with
  | str text =>
    cases hx
    rw [hitems.length_eq, String.length_toList]
    rfl
  | list id | tuple id =>
    cases hx
    obtain rfl : items = s.items id := hitems
    rw [ListAction.length_items]
    rfl
  | _ => cases hx

/-! ### Parts of texts -/

/-- One text is found in another where it is a part of it. -/
theorem occursIn_iff (needle text : List Char) :
    Text.occursIn needle text = true ↔ needle <:+: text := by
  induction text with
  | nil => simp [Text.occursIn, List.isEmpty_iff]
  | cons ch rest ih =>
    rw [Text.occursIn, Bool.or_eq_true, List.isPrefixOf_iff_prefix, ih, List.infix_cons_iff]

/-- One text is found in another where it stands between two more. -/
theorem occursIn_iff_append (needle text : String) :
    Text.occursIn needle.toList text.toList = true ↔ ∃ p q : String, text = p ++ needle ++ q := by
  rw [occursIn_iff]
  constructor
  · rintro ⟨p, q, h⟩
    refine ⟨String.ofList p, String.ofList q, ?_⟩
    rw [← String.toList_inj]
    simpa using h.symm
  · rintro ⟨p, q, rfl⟩
    exact ⟨p.toList, q.toList, by simp⟩

end Script

end DynamicBinding
