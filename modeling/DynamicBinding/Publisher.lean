/-!
# Publishers

A publisher makes the value of each key once.  A key gets a cell when it is first asked for; the
cell is filled when the factory is done, and the factory may ask the same publisher for other
keys in between.

A cell without a value counts in `size` but not in `contains`, so the two differ while a factory
runs.  A factory that never asks for its own key gives that key the value which every later
request finds.
-/

namespace DynamicBinding

/-- Cells by key, in the order of their first request. -/
structure Publisher (κ : Type) (α : Type) where
  /-- The keys with their values; a cell without a value is being filled. -/
  cells : List (κ × Option α) := []
  /-- How many factories were started. -/
  created : Nat := 0

namespace Publisher

variable {κ α : Type} [DecidableEq κ]

instance : Inhabited (Publisher κ α) := ⟨{}⟩

/-- The value of a key, if it has been made. -/
def get? (p : Publisher κ α) (key : κ) : Option α :=
  (p.cells.lookup key).join

/-- Whether the value of a key has been made. -/
def contains (p : Publisher κ α) (key : κ) : Bool := (p.get? key).isSome

/-- How many keys have a cell. -/
def size (p : Publisher κ α) : Nat := p.cells.length

def isEmpty (p : Publisher κ α) : Bool := p.cells.isEmpty

/-- Opens the cell of a key whose factory starts. -/
def start (p : Publisher κ α) (key : κ) : Publisher κ α :=
  { cells := if (p.cells.lookup key).isSome then p.cells else p.cells ++ [(key, none)]
    created := p.created + 1 }

/-- Fills the cell of a key. -/
def finish (p : Publisher κ α) (key : κ) (value : α) : Publisher κ α :=
  { p with cells := p.cells.map fun cell => if cell.1 = key then (key, some value) else cell }

@[simp] theorem created_start (p : Publisher κ α) (key : κ) :
    (p.start key).created = p.created + 1 := rfl

@[simp] theorem created_finish (p : Publisher κ α) (key : κ) (value : α) :
    (p.finish key value).created = p.created := rfl

@[simp] theorem size_finish (p : Publisher κ α) (key : κ) (value : α) :
    (p.finish key value).size = p.size := by
  simp [finish, size]

/-- The value of a key, made by the factory if it has not been made yet.  The factory works on
the publisher, in which the cell of the key is open. -/
def getOrCreate (key : κ) (factory : StateM (Publisher κ α) α) : StateM (Publisher κ α) α := do
  match (← get).get? key with
  | some value => pure value
  | none => do
    modify (·.start key)
    let value ← factory
    modify (·.finish key value)
    pure value

end Publisher

end DynamicBinding
