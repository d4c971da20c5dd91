import DynamicBinding.Proofs.Script.Makes
import DynamicBinding.Script.Bind
/-!
# Lists as sequences of values

What the operations on one list come to, told without a store: a list is a sequence of values.

* `ListAction.perform` is the answer of an operation and the sequence afterwards.  An operation that
  fails leaves the sequence as it is.
* `ListAction.Runs` says of a change of the store that it is the operation on the list in a given
  cell, and that all other cells and all fields stay as they are.  The computations of the script
  language on a list run these operations.
* `ListAction.of?` reads off an operation of a binder and its operands which operation on which list
  it is.
-/

namespace DynamicBinding

/-- An operation on a list. -/
inductive ListAction where
  | append (v : Value)
  | pop
  | read (i : Int)
  | write (i : Int) (v : Value)
  | length
deriving DecidableEq

namespace ListAction

/-! ## Sequences -/

/-- The place that an index addresses.  Negative indexes count from the end. -/
def place? (i : Int) (length : Nat) : Option Nat :=
  if 0 ≤ i ∧ i < length then some i.toNat
  else if -length ≤ i ∧ i < 0 then some (i + length).toNat
  else none

/-- The answer of an operation on a sequence, and the sequence afterwards. -/
def perform (action : ListAction) (xs : List Value) : Except RuntimeError Value × List Value :=
  match action with
  | .append v => (.ok .nothing, xs ++ [v])
  | .pop =>
    match xs.getLast? with
    | some last => (.ok last, xs.dropLast)
    | none => (.error (.indexOutOfRange (-1) 0), xs)
  | .read i =>
    match place? i xs.length with
    | some p => (.ok (xs.getD p .nothing), xs)
    | none => (.error (.indexOutOfRange i xs.length), xs)
  | .write i v =>
    match place? i xs.length with
    | some p => (.ok v, xs.set p v)
    | none => (.error (.indexOutOfRange i xs.length), xs)
  | .length => (.ok (.int (Int64.ofNat xs.length)), xs)

/-- The operation can change the sequence. -/
def writes : ListAction → Bool
  | .append _ | .pop | .write _ _ => true
  | .read _ | .length => false

/-- The value that the operation puts into the sequence. -/
def stored? : ListAction → Option Value
  | .append v | .write _ v => some v
  | .pop | .read _ | .length => none

/-- The answers of operations in turn on a sequence, with the sequence after each. -/
def trace : List ListAction → List Value → List (Except RuntimeError Value × List Value)
  | [], _ => []
  | action :: rest, xs => action.perform xs :: trace rest (action.perform xs).2

variable {action : ListAction} {xs : List Value} {v w : Value} {i : Int}

/-- A place is inside the sequence. -/
theorem place?_lt {length p : Nat} (h : place? i length = some p) : p < length := by
  unfold place? at h
  split at h
  · cases h
    omega
  · split at h <;> cases h
    omega

/-- An index that is not negative is its place. -/
theorem place?_natCast {p length : Nat} (h : p < length) : place? p length = some p := by
  simp [place?, h]

/-- Reading gives the items and nothing else. -/
theorem perform_read_eq_ok_iff :
    ((read i).perform xs).1 = .ok v ↔ ∃ p, place? i xs.length = some p ∧ xs[p]? = some v := by
  simp only [perform]
  cases hplace : place? i xs.length with
  | some p =>
    have hp := place?_lt hplace
    simp [List.getD_eq_getElem?_getD, List.getElem?_eq_getElem hp]
  | none => simp

/-- Nothing gets into a sequence but what is put there. -/
theorem mem_perform (h : w ∈ (action.perform xs).2) : w ∈ xs ∨ action.stored? = some w := by
  cases action with
  | append v =>
    rcases List.mem_append.1 h with h | h
    · exact .inl h
    · exact .inr (by rw [List.mem_singleton.1 h, stored?])
  | pop =>
    simp only [perform] at h
    split at h
    · exact .inl (List.dropLast_subset _ h)
    · exact .inl h
  | read i =>
    simp only [perform] at h
    split at h <;> exact .inl h
  | write i v =>
    simp only [perform] at h
    split at h
    · rcases List.mem_or_eq_of_mem_set h with h | rfl
      · exact .inl h
      · exact .inr rfl
    · exact .inl h
  | length => exact .inl h

/-- Only a write that succeeds changes the sequence. -/
theorem perform_eq (h : (action.perform xs).2 ≠ xs) :
    action.writes = true ∧ ∃ v, (action.perform xs).1 = .ok v := by
  cases action with
  | append v => exact ⟨rfl, _, rfl⟩
  | pop =>
    simp only [perform] at h ⊢
    split at h
    · exact ⟨rfl, _, rfl⟩
    · exact (h rfl).elim
  | read i =>
    simp only [perform] at h
    split at h <;> exact (h rfl).elim
  | write i v =>
    simp only [perform] at h ⊢
    split at h
    · exact ⟨rfl, _, rfl⟩
    · exact (h rfl).elim
  | length => exact (h rfl).elim

/-! ## The store -/

/-- From one store to the other, the operation has been performed on the list in the cell and has
given the answer.  Nothing else has changed. -/
structure Runs (action : ListAction) (id : Nat) (s : Store) (answer : Except Stop Value)
    (t : Store) : Prop where
  answer : answer = (action.perform (s.items id)).1.mapError .error
  items : id < s.cells.size → t.items id = (action.perform (s.items id)).2
  others : ∀ other, id ≠ other → t.items other = s.items other
  size : t.cells.size = s.cells.size
  instances : t.instances = s.instances

variable {id : Nat} {s : Store} {answer : Except Stop Value}

/-- An operation that changes nothing. -/
theorem Runs.unchanged (hanswer : answer = (action.perform (s.items id)).1.mapError .error)
    (hitems : (action.perform (s.items id)).2 = s.items id) : action.Runs id s answer s :=
  ⟨hanswer, fun _ => hitems.symm, fun _ _ => rfl, rfl, rfl⟩

/-- An operation that changes the cell. -/
theorem Runs.changed {change : Array Value → Array Value}
    (hanswer : answer = (action.perform (s.items id)).1.mapError .error)
    (hitems : (change (s.cell id)).toList = (action.perform (s.items id)).2) :
    action.Runs id s answer (s.modifyItems id change) where
  answer := hanswer
  items hid := by rw [s.items_modifyItems hid, hitems]
  others _ hne := s.items_modifyItems_of_ne hne change
  size := by simp [Store.modifyItems]
  instances := rfl

/-- The length of a list is the size of its cell. -/
theorem length_items (s : Store) (id : Nat) : (s.items id).length = (s.cell id).size := by
  simp [Store.items]

end ListAction

namespace Script

open ListAction

variable {id : Nat} {s : Store} {v : Value} {i : Int}

/-- The code adjusts an index first and checks it afterwards. -/
theorem position_eq (i : Int) (length : Nat) :
    position i length =
      match place? i length with
      | some p => .ok p
      | none => .error (.indexOutOfRange i length) := by
  unfold position place?
  by_cases hneg : i < 0
  · rw [if_neg (by omega : ¬ (0 ≤ i ∧ i < length))]
    by_cases hin : -length ≤ i
    · have hadjusted : 0 ≤ i + length ∧ i + length < length := by omega
      simp [hneg, hin, hadjusted.1, hadjusted.2]
    · have hadjusted : ¬ (0 ≤ i + length ∧ i + length < length) := by omega
      simp only [hneg, hin, if_true, if_neg hadjusted, false_and, if_false]
  · by_cases hin : i < length
    · simp [hneg, hin, Int.not_lt.1 hneg]
    · simp [hneg, hin]

/-- The method appends to the list. -/
theorem append_runs :
    (ListAction.append v).Runs id s ((Method.append.run (.list id) [v]).run.run s).1
      ((Method.append.run (.list id) [v]).run.run s).2 :=
  .changed rfl (by simp [perform, Store.items])

/-- The method takes the last item out of the list. -/
theorem pop_runs (args : List Value) :
    ListAction.pop.Runs id s ((Method.pop.run (.list id) args).run.run s).1
      ((Method.pop.run (.list id) args).run.run s).2 := by
  have hlast : (s.items id).getLast? = (s.cell id).back? := by simp [Store.items]
  simp only [Method.run, run_get_bind]
  cases hback : (s.cell id).back? with
  | some last =>
    rw [hback] at hlast
    exact .changed (by simp only [perform, hlast]; rfl)
      (by simp only [perform, hlast]; simp [Store.items])
  | none =>
    rw [hback] at hlast
    exact .unchanged (by simp only [perform, hlast]; rfl) (by simp only [perform, hlast])

/-- The method counts the items of the list. -/
theorem length_runs (args : List Value) :
    ListAction.length.Runs id s ((Method.length.run (.list id) args).run.run s).1
      ((Method.length.run (.list id) args).run.run s).2 :=
  .unchanged (by simp only [perform, length_items]; rfl) rfl

/-- Reading a list gives the item at the place, and changes nothing. -/
theorem run_getItem_list (s : Store) (id : Nat) (i : Int) :
    (getItem (.list id) i).run.run s =
      (((ListAction.read i).perform (s.items id)).1.mapError .error, s) := by
  have hposition := position_eq i (s.cell id).size
  have hperform := length_items s id
  simp only [getItem, run_get_bind]
  cases hplace : place? i (s.cell id).size with
  | some p =>
    rw [hplace] at hposition
    have hitem : (s.cell id).getD p .nothing = (s.items id).getD p .nothing := by
      simp [Store.items, Array.getD_eq_getD_getElem?, List.getD_eq_getElem?_getD]
    simp only [hposition, perform, hperform, hplace, ← hitem]
    rfl
  | none =>
    rw [hplace] at hposition
    simp only [hposition, perform, hperform, hplace]
    rfl

/-- Indexing reads the list. -/
theorem getItem_runs :
    (ListAction.read i).Runs id s ((getItem (.list id) i).run.run s).1
      ((getItem (.list id) i).run.run s).2 := by
  have hkeeps : ((ListAction.read i).perform (s.items id)).2 = s.items id := by
    simp only [perform]
    split <;> rfl
  rw [run_getItem_list]
  exact .unchanged rfl hkeeps

/-- Assigning to an index writes to the list. -/
theorem setItem_runs :
    (ListAction.write i v).Runs id s ((setItem id i v).run.run s).1
      ((setItem id i v).run.run s).2 := by
  have hposition := position_eq i (s.cell id).size
  have hperform := length_items s id
  simp only [setItem, run_get_bind]
  cases hplace : place? i (s.cell id).size with
  | some p =>
    rw [hplace] at hposition
    rw [hposition]
    exact .changed (by simp only [perform, hperform, hplace]; rfl)
      (by simp only [perform, hperform, hplace]; simp [Store.items])
  | none =>
    rw [hplace] at hposition
    rw [hposition]
    exact .unchanged (by simp only [perform, hperform, hplace]; rfl)
      (by simp only [perform, hperform, hplace])

end Script

/-! ## Requests -/

namespace ListAction

/-- The operation on a list that a method name stands for, given the other arguments. -/
def method? (name : String) (ignoreCase : Bool) (rest : List Value) : Option ListAction :=
  if Text.namesMatch name "append" ignoreCase then
    match rest with
    | [v] => some (.append v)
    | _ => none
  else if Text.namesMatch name "pop" ignoreCase then
    if rest.isEmpty then some .pop else none
  else if Text.namesMatch name "len" ignoreCase then
    if rest.isEmpty then some .length else none
  else none

/-- Reading at one index, if it is a whole number. -/
def read? : List Value → Option ListAction
  | [index] => index.asInt?.map fun i => .read i.toInt
  | _ => none

/-- Writing at one index, if it is a whole number. -/
def write? : List Value → Option ListAction
  | [index, v] => index.asInt?.map fun i => .write i.toInt v
  | _ => none

/-- The operation on a list that an operation of a binder is, given the other arguments. -/
def ofList? (binder : Binder) (rest : List Value) : Option ListAction :=
  match binder.operation with
  | .invokeMember name ignoreCase count =>
    if rest.length = count then method? name ignoreCase rest else none
  | .getIndex count => if count = 1 then read? rest else none
  | .setIndex count => if count = 1 then write? rest else none
  | .named .getItem => read? rest
  | .named .setItem => write? rest
  | .named (.other name) => method? name binder.language.config.ignoreCaseMembers rest
  | _ => none

/-- Which operation on which list the call of a site is, if it is one. -/
def of? (binder : Binder) (args : List Value) : Option (Nat × ListAction) :=
  match args with
  | .list id :: rest => (ofList? binder rest).map fun action => (id, action)
  | _ => none

/-- A call on a receiver of another kind is no operation on a list. -/
theorem of?_eq_none_of_kind {binder : Binder} {receiver : Value} {rest : List Value}
    (h : receiver.kind ≠ .list) : of? binder (receiver :: rest) = none := by
  cases receiver with
  | list id => exact (h rfl).elim
  | _ => rfl

/-- A call of an operator with the wrong arity is no operation on a list. -/
theorem of?_eq_none_of_arityMismatch {binder : Binder} {args : List Value}
    {mismatch : ArityMismatch} (h : binder.operation.arityMismatch? = some mismatch) :
    of? binder args = none := by
  obtain ⟨operation, language⟩ := binder
  unfold of?
  split
  · cases operation <;> first | cases h | rfl
  · rfl

/-- A call with the wrong number of arguments is no operation on a list. -/
theorem of?_eq_none_of_arity {binder : Binder} {args : List Value} {expected : Nat}
    (h : binder.operation.siteArity? = some expected) (hne : args.length ≠ expected) :
    of? binder args = none := by
  obtain ⟨operation, language⟩ := binder
  unfold of?
  split
  · next id rest =>
    cases operation with
    | invokeMember name ignoreCase count =>
      cases h
      have hcount : rest.length ≠ count := fun hcount => hne (by simp [hcount])
      simp only [ofList?, if_neg hcount, Option.map_none]
    | getIndex count =>
      cases h
      rcases rest with _ | ⟨index, _ | ⟨v, rest⟩⟩ <;> simp_all [ofList?, read?]
    | setIndex count =>
      cases h
      rcases rest with _ | ⟨index, _ | ⟨v, _ | ⟨w, rest⟩⟩⟩ <;> simp_all [ofList?, write?]
    | named op => cases h
    | _ => rfl
  · rfl

/-! ### What is put into lists -/

/-- What a method puts into a list is an argument. -/
theorem mem_of_method? {name : String} {ignoreCase : Bool} {rest : List Value}
    {action : ListAction} {v : Value} (h : method? name ignoreCase rest = some action)
    (hv : action.stored? = some v) : v ∈ rest := by
  unfold method? at h
  split at h
  · split at h
    · cases h
      cases hv
      exact List.mem_cons_self
    · cases h
  · split at h
    · split at h <;> cases h
      cases hv
    · split at h
      · split at h <;> cases h
        cases hv
      · cases h

/-- A read puts nothing into a list. -/
theorem mem_of_read? {rest : List Value} {action : ListAction} {v : Value}
    (h : read? rest = some action) (hv : action.stored? = some v) : v ∈ rest := by
  unfold read? at h
  split at h
  · obtain ⟨i, -, rfl⟩ := Option.map_eq_some_iff.1 h
    cases hv
  · cases h

/-- What a write puts into a list is an argument. -/
theorem mem_of_write? {rest : List Value} {action : ListAction} {v : Value}
    (h : write? rest = some action) (hv : action.stored? = some v) : v ∈ rest := by
  unfold write? at h
  split at h
  · obtain ⟨i, -, rfl⟩ := Option.map_eq_some_iff.1 h
    cases hv
    exact List.mem_cons_of_mem _ List.mem_cons_self
  · cases h

/-- What is put into a list is an argument. -/
theorem mem_of_stored? {binder : Binder} {args : List Value} {id : Nat} {action : ListAction}
    {v : Value} (h : of? binder args = some (id, action)) (hv : action.stored? = some v) :
    v ∈ args := by
  unfold of? at h
  split at h
  · next id' rest =>
    obtain ⟨action, haction, heq⟩ := Option.map_eq_some_iff.1 h
    cases heq
    apply List.mem_cons_of_mem
    unfold ofList? at haction
    split at haction
    · split at haction
      · exact mem_of_method? haction hv
      · cases haction
    · split at haction
      · exact mem_of_read? haction hv
      · cases haction
    · split at haction
      · exact mem_of_write? haction hv
      · cases haction
    · exact mem_of_read? haction hv
    · exact mem_of_write? haction hv
    · exact mem_of_method? haction hv
    · cases haction
  · cases h

/-- The list is an argument. -/
theorem mem_of_of? {binder : Binder} {args : List Value} {id : Nat} {action : ListAction}
    (h : of? binder args = some (id, action)) : .list id ∈ args := by
  unfold of? at h
  split at h
  · obtain ⟨action, -, heq⟩ := Option.map_eq_some_iff.1 h
    cases heq
    exact List.mem_cons_self
  · cases h

end ListAction

end DynamicBinding
