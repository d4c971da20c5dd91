import DynamicBinding.Proofs.Store.Keeps
import DynamicBinding.Proofs.Store.MemberTable
import DynamicBinding.Script.Sequence
import Mathlib.Logic.Relation
/-!
# What happens to a store

A store changes one thing at a time.  Either something is made, which gets the next handle of its
sort and leaves alone all that is there; or the items of a list or a field of an instance change.

* `Store.Makes` is the making of one thing, `Store.Extends` of any number.  A sequence is made of
  values that are known: they were given, or their cell was made before.  What is given is left
  open; with nothing given, the items of every sequence are there before it (`Store.Closed`).
* `Store.Changes` is any one change, `Store.Leads` any number.  The body of a function never
  changes (`Leads.body`), and the names of the fields of an instance stay apart
  (`Leads.fieldsApart`).
* `Effect.Makes` and `Effect.Leads` say of a computation that it does no more than that, with a
  rule for each way of putting computations together.
-/

namespace DynamicBinding

open Relation

variable {given : Value → Prop} {α β : Type}

/-- The cell of a tuple or list. -/
def Value.cell? : Value → Option Nat
  | .tuple id | .list id => some id
  | _ => none

namespace Store

variable {s t u : Store} {id : Nat} {v : Value}

/-- The value is given, or it is no sequence whose cell is still to be made. -/
def Knows (s : Store) (given : Value → Prop) (v : Value) : Prop :=
  given v ∨ ∀ id, v.cell? = some id → id < s.cells.size

/-- A value that is no sequence is known. -/
theorem knows_of_cell? (h : v.cell? = none) : s.Knows given v := by
  refine .inr fun id hid => ?_
  rw [h] at hid
  cases hid

/-- All items are known. -/
def Closed (s : Store) (given : Value → Prop) : Prop := ∀ id, ∀ v ∈ s.items id, s.Knows given v

/-- One thing is made. -/
inductive Makes (given : Value → Prop) (s : Store) : Store → Prop
  | str (chars : String) : Makes given s (s.makeStr chars).2
  | inert (typeName : String) : Makes given s (s.makeInert typeName).2
  | cell {items : List Value} (h : ∀ v ∈ items, s.Knows given v) :
    Makes given s { s with cells := s.cells.push items.toArray }
  | function (name : String) (arity : Option Nat) (signature : Option Signature) (body : Body) :
    Makes given s (s.makeFunction name arity signature body).2
  | newClass (name : String) (members : MemberTable) : Makes given s (s.makeClass name members).2
  | newInstance (c : ClassRef) : Makes given s (s.makeInstance c).2
  | record (typeName : String) (callable declinesByType : Bool)
    (members : List (MemberKey × Value)) (offers : List (Offer × Expr)) :
    Makes given s (s.makeRecord typeName callable declinesByType members offers).2

/-- Things are made, one after the other. -/
def Extends (given : Value → Prop) : Store → Store → Prop := ReflTransGen (Makes given)

/-- One thing is made or changes. -/
inductive Changes (s : Store) : Store → Prop
  | makes {t : Store} (h : s.Makes (fun _ => True) t) : Changes s t
  | items (id : Nat) (change : Array Value → Array Value) : Changes s (s.modifyItems id change)
  | set (id : Nat) (name : String) (ignoreCase : Bool) (v : Value) :
    Changes s (s.setFields id ((s.fields id).set name ignoreCase v))
  | remove {id : Nat} {name : String} {ignoreCase : Bool} {fields : MemberTable}
    (h : (s.fields id).remove? name ignoreCase = some fields) : Changes s (s.setFields id fields)

/-- Things are made and change, one after the other. -/
def Leads : Store → Store → Prop := ReflTransGen Changes

/-! ## Where things are only made -/

/-- What is given may be more. -/
theorem Makes.mono {more : Value → Prop} (hmore : ∀ v, given v → more v) (h : s.Makes given t) :
    s.Makes more t := by
  cases h with
  | str chars => exact .str chars
  | inert typeName => exact .inert typeName
  | cell h => exact .cell fun v hv => (h v hv).imp (hmore v) id
  | function name arity signature body => exact .function name arity signature body
  | newClass name members => exact .newClass name members
  | newInstance c => exact .newInstance c
  | record typeName callable declinesByType members offers =>
    exact .record typeName callable declinesByType members offers

/-- At most one cell is made at a time. -/
theorem Makes.cells (h : s.Makes given t) :
    t.cells = s.cells ∨
      ∃ items : List Value, (∀ v ∈ items, s.Knows given v) ∧
        t.cells = s.cells.push items.toArray := by
  cases h with
  | cell h => exact .inr ⟨_, h, rfl⟩
  | _ => exact .inl rfl

/-- What is made leaves all fields as they are; a new instance has none. -/
theorem Makes.fields (h : s.Makes given t) (id : Nat) : t.fields id = s.fields id := by
  cases h with
  | newInstance c =>
    simp only [makeInstance, Store.fields, Array.getD_eq_getD_getElem?, Array.getElem?_push]
    split
    · next hid => simp [hid]
    · rfl
  | _ => rfl

/-- A cell that is pushed is the last one, and the others stay. -/
theorem items_push {items : List Value} (h : t.cells = s.cells.push items.toArray) (id : Nat) :
    t.items id = if id = s.cells.size then items else s.items id := by
  simp only [Store.items, Store.cell, h, Array.getD_eq_getD_getElem?, Array.getElem?_push]
  split <;> rfl

/-- The items are told by the cells alone. -/
theorem items_congr (h : t.cells = s.cells) : t.items = s.items := by
  funext id
  simp only [items, cell, h]

namespace Extends

/-- Nothing has to be made. -/
theorem refl (s : Store) : s.Extends given s := ReflTransGen.refl

/-- What is made comes after what was made before. -/
theorem trans (h : s.Extends given t) (h' : t.Extends given u) : s.Extends given u :=
  ReflTransGen.trans h h'

/-- One thing is some thing. -/
theorem single (h : s.Makes given t) : s.Extends given t := ReflTransGen.single h

/-- No cell ever goes. -/
theorem size_le (h : s.Extends given t) : s.cells.size ≤ t.cells.size := by
  induction h with
  | refl => exact Nat.le_refl _
  | tail _ hstep ih =>
    rcases hstep.cells with hsame | ⟨items, -, hpush⟩
    · rwa [hsame]
    · rw [hpush, Array.size_push]
      exact Nat.le_succ_of_le ih

/-- Making things leaves all fields as they are. -/
theorem fields (h : s.Extends given t) (id : Nat) : t.fields id = s.fields id := by
  induction h with
  | refl => rfl
  | tail _ hstep ih => rw [hstep.fields, ih]

/-- The sequences that are there stay as they are. -/
theorem items (h : s.Extends given t) (hid : id < s.cells.size) : t.items id = s.items id := by
  induction h with
  | refl => rfl
  | tail hpath hstep ih =>
    rcases hstep.cells with hsame | ⟨items, -, hpush⟩
    · rw [items_congr hsame, ih]
    · have hne := Nat.ne_of_lt (Nat.lt_of_lt_of_le hid (size_le hpath))
      rw [items_push hpush, if_neg hne, ih]

/-- What is known stays known. -/
theorem knows (h : s.Extends given t) (hv : s.Knows given v) : t.Knows given v :=
  hv.imp id fun hmade id hid => Nat.lt_of_lt_of_le (hmade id hid) h.size_le

/-- A sequence that was made holds what is given and what was there before it. -/
theorem fresh (h : s.Extends given t) (hid : s.cells.size ≤ id) (hv : v ∈ t.items id) :
    v ∈ s.items id ∨ given v ∨ ∀ other, v.cell? = some other → other < id := by
  induction h with
  | refl => exact .inl hv
  | tail hpath hstep ih =>
    rcases hstep.cells with hsame | ⟨items, hknown, hpush⟩
    · rw [items_congr hsame] at hv
      exact ih hv
    · rw [items_push hpush] at hv
      split at hv
      · next heq =>
        subst heq
        exact .inr (hknown v hv)
      · exact ih hv

/-- A closed store stays closed, as only known values go into what is made. -/
theorem closed (h : s.Extends given t) (hs : s.Closed given) : t.Closed given := by
  induction h with
  | refl => exact hs
  | tail hpath hstep ih =>
    have hknows := fun v => knows (v := v) (single hstep)
    rcases hstep.cells with hsame | ⟨items, hknown, hpush⟩
    · intro id v hv
      rw [items_congr hsame] at hv
      exact hknows v (ih id v hv)
    · intro id v hv
      rw [items_push hpush] at hv
      split at hv
      · exact hknows v (hknown v hv)
      · exact hknows v (ih id v hv)

end Extends

/-! ## Any changes -/

namespace Leads

/-- Nothing has to happen. -/
theorem refl (s : Store) : s.Leads s := ReflTransGen.refl

/-- What happens goes on from what has happened. -/
theorem trans (h : s.Leads t) (h' : t.Leads u) : s.Leads u := ReflTransGen.trans h h'

/-- One change is some change. -/
theorem single (h : s.Changes t) : s.Leads t := ReflTransGen.single h

/-- Making things is a way to change a store. -/
theorem of_extends (h : s.Extends given t) : s.Leads t :=
  ReflTransGen.mono (fun _ _ hstep => Changes.makes (hstep.mono fun _ _ => trivial)) _ _ h

end Leads

/-- A function that is there keeps its body. -/
theorem Changes.body (h : s.Changes t) {f : FunctionRef} (hf : f.id < s.functions.size) :
    f.id < t.functions.size ∧ t.body f = s.body f := by
  cases h with
  | makes h =>
    cases h with
    | function name arity signature body =>
      refine ⟨by simpa [makeFunction] using Nat.lt_succ_of_lt hf, ?_⟩
      simp only [makeFunction, Store.body, Array.getD_eq_getD_getElem?, Array.getElem?_push,
        if_neg (Nat.ne_of_lt hf)]
    | _ => exact ⟨hf, rfl⟩
  | _ => exact ⟨hf, rfl⟩

/-- Functions never go, and keep their bodies. -/
theorem Leads.function (h : s.Leads t) {f : FunctionRef} (hf : f.id < s.functions.size) :
    f.id < t.functions.size ∧ t.body f = s.body f := by
  induction h with
  | refl => exact ⟨hf, rfl⟩
  | tail _ hstep ih =>
    obtain ⟨hlt, hbody⟩ := hstep.body ih.1
    exact ⟨hlt, hbody.trans ih.2⟩

/-- A function that is there keeps its body, whatever happens. -/
theorem Leads.body (h : s.Leads t) {f : FunctionRef} (hf : f.id < s.functions.size) :
    t.body f = s.body f :=
  (h.function hf).2

/-- Instances never go. -/
theorem Leads.size_instances_le (h : s.Leads t) : s.instances.size ≤ t.instances.size := by
  induction h with
  | refl => exact Nat.le_refl _
  | tail _ hstep ih =>
    refine Nat.le_trans ih ?_
    cases hstep with
    | makes h =>
      cases h with
      | newInstance c => simp [makeInstance]
      | _ => exact Nat.le_refl _
    | items id change => exact Nat.le_refl _
    | set id name ignoreCase v => simp [setFields]
    | remove h => simp [setFields]

/-- The fields of every instance have different names. -/
def FieldsApart (s : Store) : Prop := ∀ id, (s.fields id).Apart false

/-- In a new store there are no fields. -/
theorem fieldsApart_empty : ({} : Store).FieldsApart := by
  intro id
  simpa [Store.fields] using MemberTable.apart_empty false

/-- An instance may get any fields with different names. -/
theorem FieldsApart.setFields (h : s.FieldsApart) {fields : MemberTable}
    (hfields : fields.Apart false) (id : Nat) : (s.setFields id fields).FieldsApart := by
  intro other
  by_cases hne : id = other
  · subst hne
    by_cases hid : id < s.instances.size
    · rwa [fields_setFields s hid]
    · simpa [Store.setFields, Store.fields, hid] using MemberTable.apart_empty false
  · rw [fields_setFields_of_ne s hne]
    exact h other

/-- Setting and removing keep the names of the fields different. -/
theorem Changes.fieldsApart (h : s.Changes t) (hs : s.FieldsApart) : t.FieldsApart := by
  cases h with
  | makes h =>
    intro id
    rw [h.fields]
    exact hs id
  | items id change => exact hs
  | set id name ignoreCase v =>
    exact hs.setFields ((hs id).set (fun h => (nomatch h)) name v) id
  | remove h => exact hs.setFields ((hs _).remove? h) _

/-- However much happens, no instance gets two fields of one name. -/
theorem Leads.fieldsApart (h : s.Leads t) (hs : s.FieldsApart) : t.FieldsApart := by
  induction h with
  | refl => exact hs
  | tail _ hstep ih => exact hstep.fieldsApart ih

end Store

/-! ## Computations that only make things -/

variable {good : Store → α → Prop} {fine : Store → β → Prop} {s : Store}

/-- From the store on, the computation only makes things, and what it gives has the property. -/
def Effect.Makes (given : Value → Prop) (good : Store → α → Prop) (s : Store) (x : Effect α) :
    Prop :=
  s.Closed given →
    s.Extends given (x.run.run s).2 ∧ ∀ a, (x.run.run s).1 = .ok a → good (x.run.run s).2 a

namespace Effect.Makes

/-- Giving a value makes nothing. -/
theorem pure {a : α} (h : good s a) : Makes given good s (pure a) := by
  refine fun _ => ⟨.refl s, fun b hb => ?_⟩
  cases hb
  exact h

/-- Failing makes nothing. -/
theorem fail (e : RuntimeError) : Makes given good s (Effect.fail e) :=
  fun _ => ⟨.refl s, fun _ hb => (nomatch hb)⟩

/-- The second computation starts from the store that the first one extended. -/
theorem bind {x : Effect α} {f : α → Effect β} (hx : x.Makes given good s)
    (hf : ∀ a t, s.Extends given t → good t a → (f a).Makes given fine t) :
    (x >>= f).Makes given fine s := by
  intro hs
  obtain ⟨hextends, hgood⟩ := hx hs
  rw [run_bind]
  rcases h : x.run.run s with ⟨r, t⟩
  rw [h] at hextends hgood
  cases r with
  | ok a =>
    obtain ⟨hextends', hfine⟩ := hf a t hextends (hgood a rfl) (hextends.closed hs)
    exact ⟨hextends.trans hextends', hfine⟩
  | error e => exact ⟨hextends, fun b hb => (nomatch hb)⟩

/-- What is read in the store is known. -/
theorem get {f : Store → Effect β} (h : s.Closed given → (f s).Makes given fine s) :
    (MonadState.get >>= f).Makes given fine s :=
  fun hs => h hs hs

/-- A change of the store that makes one thing makes no more than that. -/
theorem modifyGet {f : Store → α × Store} (h : s.Makes given (f s).2)
    (hgood : good (f s).2 (f s).1) : Makes given good s (modifyGet f : Effect α) := by
  refine fun _ => ⟨.single h, fun a ha => ?_⟩
  cases ha
  exact hgood

/-- A stop for want of an answer makes nothing. -/
theorem require {o : Option α} (h : ∀ a, o = some a → good s a) :
    Makes given good s (Effect.require o) := by
  cases o with
  | some a => exact pure (h a rfl)
  | none => exact fun _ => ⟨.refl s, fun _ hb => (nomatch hb)⟩

/-- A result is lifted without anything being made. -/
theorem lift {r : Except RuntimeError α} (h : ∀ a, r = .ok a → good s a) :
    Makes given good s (Script.lift r) := by
  cases r with
  | ok a => exact pure (h a rfl)
  | error e => exact fail e

/-- A text is known as soon as it is made, as it has no cell. -/
theorem str (chars : String) :
    Makes given (fun t v => t.Knows given v) s (Effect.str chars) :=
  modifyGet (.str chars) (.inr fun _ hid => (nomatch hid))

/-- A list is made of known values, and then is known itself. -/
theorem list {items : List Value} (h : ∀ v ∈ items, s.Knows given v) :
    Makes given (fun t v => t.Knows given v) s (Effect.list items) := by
  refine modifyGet (.cell h) (.inr fun id hid => ?_)
  cases hid
  simp [Store.makeList]

/-- A tuple is made of known values, and then is known itself. -/
theorem tuple {items : List Value} (h : ∀ v ∈ items, s.Knows given v) :
    Makes given (fun t v => t.Knows given v) s (Effect.tuple items) := by
  refine modifyGet (.cell h) (.inr fun id hid => ?_)
  cases hid
  simp [Store.makeTuple]

end Effect.Makes

/-! ## Computations that change things -/

/-- The computation changes one thing after the other. -/
def Effect.Leads (x : Effect α) : Prop := ∀ s : Store, s.Leads (x.run.run s).2

namespace Effect.Leads

/-- With everything given, every store is closed. -/
theorem of_makes {x : Effect α} (h : ∀ s, x.Makes (fun _ => True) good s) : x.Leads :=
  fun s => .of_extends (h s fun _ _ _ => .inl trivial).1

/-- Giving a value changes nothing. -/
theorem pure (a : α) : Leads (pure a) := fun s => .refl s

/-- Failing changes nothing. -/
theorem fail (e : RuntimeError) : Leads (Effect.fail e : Effect α) := fun s => .refl s

/-- What the second computation changes comes after what the first one did. -/
theorem bind {x : Effect α} {f : α → Effect β} (hx : x.Leads) (hf : ∀ a, (f a).Leads) :
    (x >>= f).Leads := by
  intro s
  have hfirst := hx s
  rw [run_bind]
  rcases h : x.run.run s with ⟨r, t⟩
  rw [h] at hfirst
  cases r with
  | ok a => exact hfirst.trans (hf a t)
  | error e => exact hfirst

/-- Reading the store changes nothing. -/
theorem get : Leads (get : Effect Store) := fun s => .refl s

/-- What comes after a reading starts from the store that was read. -/
theorem get_at {f : Store → Effect β} (h : ∀ s : Store, s.Leads ((f s).run.run s).2) :
    (MonadState.get >>= f).Leads := h

/-- A result is lifted without a change. -/
theorem lift (r : Except RuntimeError α) : Leads (Script.lift r) := by
  cases r with
  | ok a => exact pure a
  | error e => exact fail e

end Effect.Leads

end DynamicBinding
