import DynamicBinding.Publisher
import Mathlib.Tactic.ByContra
/-!
# The cells of a publisher

A cell is opened when the factory of its key starts and filled when the factory is done.  Nothing
else happens to cells.  What either does is told here in terms of the keys that have a cell, the
keys whose cell is open, and the values of the others.

* `Publisher.get?_eq_none_iff`: a key without a value has no cell, or its cell is open.
* `Publisher.forall_getOrCreate`: what holds of every value, and of what the factories make, holds
  of what `getOrCreate` gives and leaves.
-/

namespace DynamicBinding.Publisher

section Keys

variable {κ α : Type}

/-- The keys that have a cell, in the order of their first request. -/
def keys (p : Publisher κ α) : List κ := p.cells.map Prod.fst

/-- There are as many keys as cells. -/
theorem length_keys (p : Publisher κ α) : p.keys.length = p.size := List.length_map _

end Keys

variable {κ α : Type} [DecidableEq κ] {p : Publisher κ α} {key k : κ} {value v : α}

/-- The factory of the key has started and is not done. -/
def IsOpen (p : Publisher κ α) (key : κ) : Prop := p.cells.lookup key = some none

/-- A key has no cell just if it was never requested. -/
theorem lookup_eq_none_iff : p.cells.lookup key = none ↔ key ∉ p.keys := by
  rw [List.lookup_eq_none_iff]
  simp only [keys, List.mem_map, not_exists, not_and, bne_iff_ne]
  exact forall₂_congr fun cell _ => ne_comm

/-- A key with a value has a cell. -/
theorem mem_keys_of_get? (h : p.get? key = some v) : key ∈ p.keys := by
  by_contra hkey
  rw [get?, lookup_eq_none_iff.2 hkey] at h
  cases h

/-- A key whose cell is open has a cell. -/
theorem mem_keys_of_isOpen (h : p.IsOpen key) : key ∈ p.keys := by
  by_contra hkey
  rw [IsOpen, lookup_eq_none_iff.2 hkey] at h
  cases h

/-- A key without a value has no cell, or its cell is open. -/
theorem get?_eq_none_iff : p.get? key = none ↔ key ∉ p.keys ∨ p.IsOpen key := by
  rw [← lookup_eq_none_iff, get?, IsOpen]
  rcases p.cells.lookup key with _ | _ | v <;> simp

/-! ## Opening a cell -/

/-- The key of a new cell comes last. -/
theorem keys_start (h : key ∉ p.keys) : (p.start key).keys = p.keys ++ [key] := by
  simp [keys, start, lookup_eq_none_iff.2 h]

/-- A new cell is found under its key, and nothing else is found anew. -/
theorem lookup_start (h : key ∉ p.keys) (k : κ) :
    (p.start key).cells.lookup k = if k = key then some none else p.cells.lookup k := by
  have hnone := lookup_eq_none_iff.2 h
  simp only [start, hnone, Option.isSome_none, Bool.false_eq_true, if_false, List.lookup_append]
  split
  · next hk => simp [hk, hnone]
  · next hk => simp [List.lookup_cons, beq_false_of_ne hk]

/-- The new cell is open, the others are as they were. -/
theorem isOpen_start (h : key ∉ p.keys) : (p.start key).IsOpen k ↔ k = key ∨ p.IsOpen k := by
  rw [IsOpen, lookup_start h, IsOpen]
  by_cases hk : k = key <;> simp [hk]

/-- What is open has no value yet. -/
theorem get?_start (h : key ∉ p.keys) (k : κ) : (p.start key).get? k = p.get? k := by
  rw [get?, lookup_start h, get?]
  by_cases hk : k = key
  · simp [hk, lookup_eq_none_iff.2 h]
  · rw [if_neg hk]

/-! ## Filling a cell -/

/-- Filling a cell changes no key. -/
theorem keys_finish (p : Publisher κ α) (key : κ) (value : α) :
    (p.finish key value).keys = p.keys := by
  simp only [keys, finish, List.map_map]
  refine List.map_congr_left fun cell _ => ?_
  by_cases hcell : cell.1 = key <;> simp [hcell]

/-- Filling replaces the cell under the key, if there is one. -/
theorem lookup_finish (cells : List (κ × Option α)) (key k : κ) (value : α) :
    (cells.map fun cell => if cell.1 = key then (key, some value) else cell).lookup k =
      if k = key then (cells.lookup k).map fun _ => some value else cells.lookup k := by
  induction cells with
  | nil => simp
  | cons cell rest ih =>
    obtain ⟨key', o⟩ := cell
    rw [List.map_cons, List.lookup_cons, List.lookup_cons, ih]
    by_cases hkey : key' = key
    · subst hkey
      by_cases hk : k = key'
      · simp [hk]
      · simp [hk, beq_false_of_ne hk]
    · by_cases hk : k = key'
      · simp [hk, hkey]
      · simp [hkey, beq_false_of_ne hk]

/-- The cell that is filled is open no more. -/
theorem isOpen_finish : (p.finish key value).IsOpen k ↔ k ≠ key ∧ p.IsOpen k := by
  simp only [IsOpen, finish, lookup_finish]
  by_cases hk : k = key <;> simp [hk]

/-- An open cell that is filled has the value, the others have what they had. -/
theorem get?_finish (h : p.IsOpen key) (value : α) (k : κ) :
    (p.finish key value).get? k = if k = key then some value else p.get? k := by
  rw [IsOpen] at h
  simp only [get?, finish, lookup_finish]
  by_cases hk : k = key <;> simp [hk, h]

/-! ## Both -/

/-- A factory that leaves open what it finds open fills one cell, and opens none. -/
theorem isOpen_finish_of_start {q : Publisher κ α} (h : key ∉ p.keys)
    (hsame : ∀ k, q.IsOpen k ↔ (p.start key).IsOpen k) (value : α) (k : κ) :
    (q.finish key value).IsOpen k ↔ p.IsOpen k := by
  rw [isOpen_finish, hsame, isOpen_start h]
  constructor
  · rintro ⟨hne, heq | hk⟩
    · exact absurd heq hne
    · exact hk
  · intro hk
    refine ⟨?_, .inr hk⟩
    rintro rfl
    exact h (mem_keys_of_isOpen hk)

/-- What is found after a value was made was made then or was there before. -/
theorem get?_finish_start (h : ((p.start key).finish key value).get? k = some v) :
    (k = key ∧ v = value) ∨ p.get? k = some v := by
  simp only [get?, finish, lookup_finish] at h
  by_cases hk : k = key
  · left
    rw [if_pos hk] at h
    obtain ⟨o, -, hv⟩ : ∃ o, ((p.start key).cells.lookup k) = some o ∧ some value = some v := by
      cases hlookup : (p.start key).cells.lookup k with
      | none => simp [hlookup] at h
      | some o => exact ⟨o, rfl, by simpa [hlookup] using h⟩
    exact ⟨hk, (Option.some.inj hv).symm⟩
  · right
    rw [if_neg hk] at h
    have hstart : (p.start key).cells.lookup k = p.cells.lookup k := by
      unfold start
      split
      · rfl
      · simp [List.lookup_append, List.lookup_cons, beq_false_of_ne hk]
    rwa [hstart] at h

/-- A value that is there is given as it is.  Otherwise the factory makes it, on the publisher with
the cell of the key open. -/
theorem run_getOrCreate (p : Publisher κ α) (key : κ) (factory : StateM (Publisher κ α) α) :
    (getOrCreate key factory).run p =
      match p.get? key with
      | some value => (value, p)
      | none =>
        let made := factory.run (p.start key)
        (made.1, made.2.finish key made.1) := by
  show (StateT.run (match p.get? key with
    | some value => pure value
    | none => do
      modify (·.start key)
      let value ← factory
      modify (·.finish key value)
      pure value) p : Id _) = _
  cases p.get? key <;> rfl

/-- What holds of all values, and of the one that is made, holds of what is given and left. -/
theorem forall_getOrCreate (good : κ → α → Prop) (key : κ) (value : α)
    (hp : ∀ k v, p.get? k = some v → good k v) (hmade : p.get? key = none → good key value) :
    good key ((getOrCreate key (pure value)).run p).1 ∧
      ∀ k v, ((getOrCreate key (pure value)).run p).2.get? k = some v → good k v := by
  rw [run_getOrCreate]
  cases hkey : p.get? key with
  | some v => exact ⟨hp key v hkey, hp⟩
  | none =>
    refine ⟨hmade hkey, fun k v hv => ?_⟩
    rcases get?_finish_start hv with ⟨rfl, rfl⟩ | hv
    · exact hmade hkey
    · exact hp k v hv

end DynamicBinding.Publisher
