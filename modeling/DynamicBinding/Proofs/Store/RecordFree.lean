import DynamicBinding.Proofs.Resolution.Protocol
import DynamicBinding.Store
/-!
# Stores without records

Records come into the world by their literal only.  A program without that literal runs on a
store that no record is found in, and never meets one.

* `Expr.recordFree` and `Literal.recordFree` look for the literal.
* `Store.RecordFree` says that nothing that is read in the store is a record.  It is kept by every
  way of making a value and by the two ways of writing.
-/

namespace DynamicBinding

/-! ## Programs -/

mutual

/-- Whether an expression makes no record. -/
def Expr.recordFree : Expr → Bool
  | .const literal => literal.recordFree
  | .operate _ operands => Expr.allRecordFree operands
  | .atSite _ operands => Expr.allRecordFree operands
  | .sequence parts => Expr.allRecordFree parts
  | .choose condition yes no => condition.recordFree && yes.recordFree && no.recordFree
  | .arg _ | .args | .variable _ | .raise _ | .invalid _ => true

/-- Whether none of the expressions makes a record. -/
def Expr.allRecordFree : List Expr → Bool
  | [] => true
  | e :: rest => e.recordFree && Expr.allRecordFree rest

/-- Whether a literal makes no record, and no function that does. -/
def Literal.recordFree : Literal → Bool
  | .tuple items => Literal.allRecordFree items
  | .list items => Literal.allRecordFree items
  | .nest _ _ inner => inner.recordFree
  | .function _ _ _ body => body.recordFree
  | .newClass _ methods attributes =>
    Literal.methodsRecordFree methods && Literal.namedRecordFree attributes
  | .record .. => false
  | .nothing | .bool _ | .int _ | .float _ | .str _ | .variable _ | .times _ _ | .inert _ => true

/-- Whether none of the literals makes a record. -/
def Literal.allRecordFree : List Literal → Bool
  | [] => true
  | l :: rest => l.recordFree && Literal.allRecordFree rest

/-- Whether none of the named literals makes a record. -/
def Literal.namedRecordFree : List (String × Literal) → Bool
  | [] => true
  | (_, l) :: rest => l.recordFree && Literal.namedRecordFree rest

/-- Whether none of the methods makes a record. -/
def Literal.methodsRecordFree : List (String × Option Nat × Expr) → Bool
  | [] => true
  | (_, _, body) :: rest => body.recordFree && Literal.methodsRecordFree rest

end

/-! ## Member tables -/

/-- No value of the table is a record. -/
def MemberTable.RecordFree (t : MemberTable) : Prop := ∀ entry ∈ t.entries, entry.2.RecordFree

namespace MemberTable

variable {t : MemberTable} {name : String} {ignoreCase : Bool} {v : Value}

/-- An empty table holds nothing. -/
theorem RecordFree.empty : empty.RecordFree := by
  intro entry h
  simp [MemberTable.empty] at h

/-- What is found in the table is in it. -/
theorem RecordFree.get? (h : t.RecordFree) (hget : t.get? name ignoreCase = some v) :
    v.RecordFree := by
  unfold MemberTable.get? at hget
  obtain ⟨entry, hentry, rfl⟩ := Option.map_eq_some_iff.1 hget
  exact h entry (List.mem_of_find?_eq_some hentry)

/-- A value that is set is the only one that can be new in the table. -/
theorem RecordFree.set (h : t.RecordFree) (hv : v.RecordFree) :
    (t.set name ignoreCase v).RecordFree := by
  unfold MemberTable.set
  split
  · next i _ =>
    intro entry hentry
    obtain ⟨j, hj, rfl⟩ := List.getElem_of_mem hentry
    rw [List.getElem_modify]
    split
    · exact hv
    · exact h _ (List.getElem_mem _)
  · intro entry hentry
    rcases List.mem_append.1 hentry with hentry | hentry
    · exact h entry hentry
    · rw [List.mem_singleton.1 hentry]
      exact hv

/-- Removing an entry brings nothing in. -/
theorem RecordFree.remove? {u : MemberTable} (h : t.RecordFree)
    (hremove : t.remove? name ignoreCase = some u) : u.RecordFree := by
  unfold MemberTable.remove? at hremove
  obtain ⟨i, -, rfl⟩ := Option.map_eq_some_iff.1 hremove
  exact fun entry hentry => h entry (List.mem_of_mem_eraseIdx hentry)

/-- A table of given entries holds their values. -/
theorem RecordFree.ofEntries {entries : List (String × Value)}
    (h : ∀ entry ∈ entries, entry.2.RecordFree) : (ofEntries entries).RecordFree := by
  suffices ∀ t : MemberTable, t.RecordFree →
      (entries.foldl (fun t entry => t.set entry.1 false entry.2) t).RecordFree from
    this MemberTable.empty RecordFree.empty
  induction entries with
  | nil => exact fun t ht => ht
  | cons entry rest ih =>
    intro t ht
    exact ih (fun e he => h e (List.mem_cons_of_mem _ he)) _
      (ht.set (h entry List.mem_cons_self))

end MemberTable

/-! ## Stores -/

/-- No run of the function makes a record or meets one in the function itself. -/
def Body.RecordFree : Body → Prop
  | .expression e => e.recordFree = true
  | .bound _ receiver => receiver.RecordFree
  | .delegate _ _ target => target.RecordFree

/-- Nothing that is read in the store is a record. -/
structure Store.RecordFree (s : Store) : Prop where
  items : ∀ id, RecordFreeArgs (s.items id)
  body : ∀ f, (s.body f).RecordFree
  members : ∀ c, (s.members c).RecordFree
  fields : ∀ id, (s.fields id).RecordFree

/-- What holds of all that is read in an array still does with one more item. -/
theorem getD_push {α : Type} {p : α → Prop} {xs : Array α} {x default : α}
    (h : ∀ i, p (xs.getD i default)) (hx : p x) (i : Nat) : p ((xs.push x).getD i default) := by
  have hi := h i
  rw [Array.getD_eq_getD_getElem?] at hi ⊢
  rw [Array.getElem?_push]
  split
  · exact hx
  · exact hi

namespace Store

variable {s : Store}

/-- In a new store there is nothing. -/
theorem RecordFree.empty : ({} : Store).RecordFree where
  items id := by simp [RecordFreeArgs, Store.items, cell]
  body f := by simp [Store.body, Body.RecordFree, default, Expr.recordFree]
  members c := by simpa [Store.members] using MemberTable.RecordFree.empty
  fields id := by simpa [Store.fields] using MemberTable.RecordFree.empty

/-- What a cell holds is in the store. -/
theorem RecordFree.cell (h : s.RecordFree) (id : Nat) {v : Value} (hv : v ∈ s.cell id) :
    v.RecordFree :=
  h.items id v (by simpa [Store.items] using hv)

/-- Texts are kept by number alone. -/
theorem RecordFree.makeStr (h : s.RecordFree) (chars : String) : (s.makeStr chars).2.RecordFree :=
  ⟨h.items, h.body, h.members, h.fields⟩

/-- Inert objects are kept by number alone. -/
theorem RecordFree.makeInert (h : s.RecordFree) (typeName : String) :
    (s.makeInert typeName).2.RecordFree :=
  ⟨h.items, h.body, h.members, h.fields⟩

/-- A new cell of items that are no records. -/
theorem RecordFree.push_cells {items : List Value} (h : s.RecordFree)
    (hitems : RecordFreeArgs items) :
    ({ s with cells := s.cells.push items.toArray } : Store).RecordFree where
  items := getD_push (p := fun xs : Array Value => RecordFreeArgs xs.toList) h.items hitems
  body := h.body
  members := h.members
  fields := h.fields

/-- A function brings its body into the store. -/
theorem RecordFree.makeFunction (h : s.RecordFree) (name : String) (arity : Option Nat)
    (signature : Option Signature) {body : Body} (hbody : body.RecordFree) :
    (s.makeFunction name arity signature body).2.RecordFree where
  items := h.items
  body f := getD_push (p := Body.RecordFree) (fun i => h.body { f with id := i }) hbody f.id
  members := h.members
  fields := h.fields

/-- A class brings its members into the store. -/
theorem RecordFree.makeClass (h : s.RecordFree) (name : String) {members : MemberTable}
    (hmembers : members.RecordFree) : (s.makeClass name members).2.RecordFree where
  items := h.items
  body := h.body
  members c :=
    getD_push (p := MemberTable.RecordFree) (fun i => h.members { c with id := i }) hmembers c.id
  fields := h.fields

/-- An instance is made without fields. -/
theorem RecordFree.makeInstance (h : s.RecordFree) (c : ClassRef) :
    (s.makeInstance c).2.RecordFree where
  items := h.items
  body := h.body
  members := h.members
  fields := getD_push (p := MemberTable.RecordFree) h.fields MemberTable.RecordFree.empty

/-- A list that changes may hold whatever the change puts into it. -/
theorem RecordFree.modifyItems (h : s.RecordFree) (id : Nat) {change : Array Value → Array Value}
    (hchange : ∀ v ∈ change (s.cell id), v.RecordFree) : (s.modifyItems id change).RecordFree where
  items other := by
    by_cases hid : id < s.cells.size
    · by_cases hother : id = other
      · subst hother
        rw [items_modifyItems s hid]
        exact fun v hv => hchange v (by simpa using hv)
      · rw [items_modifyItems_of_ne s hother]
        exact h.items other
    · have hsame : s.modifyItems id change = s := by
        unfold Store.modifyItems
        congr
        apply Array.ext
        · simp
        · intro i hi hi'
          rw [Array.getElem_modify, if_neg]
          omega
      rw [hsame]
      exact h.items other
  body := h.body
  members := h.members
  fields := h.fields

/-- An instance may get any fields without records. -/
theorem RecordFree.setFields (h : s.RecordFree) (id : Nat) {fields : MemberTable}
    (hfields : fields.RecordFree) : (s.setFields id fields).RecordFree where
  items := h.items
  body := h.body
  members := h.members
  fields other := by
    by_cases hid : id < s.instances.size
    · by_cases hother : id = other
      · subst hother
        rwa [fields_setFields s hid]
      · rw [fields_setFields_of_ne s hother]
        exact h.fields other
    · have hsame : s.setFields id fields = s := by
        unfold Store.setFields
        rw [Array.setIfInBounds_eq_of_size_le (by omega)]
      rw [hsame]
      exact h.fields other

end Store

end DynamicBinding
