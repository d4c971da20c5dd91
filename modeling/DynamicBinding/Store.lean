import DynamicBinding.Error
import DynamicBinding.Language.Basic
import DynamicBinding.Program
import DynamicBinding.Value.MemberTable
/-!
# The store

What handles stand for.  The contents of tuples, functions, classes and records never change
after they are made; the contents of lists and the fields of instances do.  Handles are given out
in order, and reading a handle that was never given out finds an empty thing.

Only `modifyItems` and `setFields` change what is there already; `items_modifyItems_of_ne` and
`fields_setFields_of_ne` say that they leave everything else as it is.  A computation of type
`Effect` that stops keeps what it did to the store until then.
-/

namespace DynamicBinding

/-- What a function runs. -/
inductive Body where
  /-- An expression over the arguments. -/
  | expression (e : Expr)
  /-- Another function with a value put before the arguments. -/
  | bound (method : FunctionRef) (receiver : Value)
  /-- A call of the target with the conversions of a signature. -/
  | delegate (language : Language) (signature : Signature) (target : Value)

instance : Inhabited Body := ⟨.expression default⟩

/-- What a record holds: its members, and the body of each of its offers. -/
structure RecordBody where
  members : List (MemberKey × Value)
  bodies : List Expr
deriving Inhabited

/-- The contents of all handles. -/
structure Store where
  /-- How many texts were made. -/
  texts : Nat := 0
  /-- How many inert objects were made. -/
  inerts : Nat := 0
  /-- The items of lists and tuples. -/
  cells : Array (Array Value) := #[]
  functions : Array Body := #[]
  classes : Array MemberTable := #[]
  instances : Array MemberTable := #[]
  records : Array RecordBody := #[]
deriving Inhabited

/-- Why running something did not give a value. -/
inductive Stop where
  | error (e : RuntimeError)
  /-- It would go on without end, or longer than it was allowed to. -/
  | diverged
deriving DecidableEq, Inhabited

/-- Computations on the store.  What they did to the store stays when they stop. -/
abbrev Effect := ExceptT Stop (StateM Store)

/-- Stops with an error. -/
def Effect.fail {α : Type} (e : RuntimeError) : Effect α := throw (.error e)

/-- Stops if there is no answer. -/
def Effect.require {α : Type} : Option α → Effect α
  | some a => pure a
  | none => throw .diverged

namespace Store

/-! ## Making values -/

def makeStr (s : Store) (chars : String) : Value × Store :=
  (.str ⟨s.texts, chars⟩, { s with texts := s.texts + 1 })

def makeTuple (s : Store) (items : List Value) : Value × Store :=
  (.tuple s.cells.size, { s with cells := s.cells.push items.toArray })

def makeList (s : Store) (items : List Value) : Value × Store :=
  (.list s.cells.size, { s with cells := s.cells.push items.toArray })

def makeFunction (s : Store) (name : String) (arity : Option Nat) (signature : Option Signature)
    (body : Body) : FunctionRef × Store :=
  (⟨s.functions.size, name, arity, signature⟩, { s with functions := s.functions.push body })

/-- Completes a class. -/
def makeClass (s : Store) (name : String) (members : MemberTable) : ClassRef × Store :=
  (⟨s.classes.size, name, members.names⟩, { s with classes := s.classes.push members })

/-- Makes an instance without fields. -/
def makeInstance (s : Store) (c : ClassRef) : Value × Store :=
  (.object (.classInstance s.instances.size c),
    { s with instances := s.instances.push MemberTable.empty })

def makeRecord (s : Store) (typeName : String) (callable declinesByType : Bool)
    (members : List (MemberKey × Value)) (offers : List (Offer × Expr)) : Value × Store :=
  (.object (.record ⟨s.records.size, typeName, callable, declinesByType, offers.map Prod.fst⟩),
    { s with records := s.records.push ⟨members, offers.map Prod.snd⟩ })

def makeInert (s : Store) (typeName : String) : Value × Store :=
  (.object (.inert s.inerts typeName), { s with inerts := s.inerts + 1 })

/-! ## Reading -/

/-- The cell of a list or tuple. -/
def cell (s : Store) (id : Nat) : Array Value := s.cells.getD id #[]

/-- The items of the list or tuple in a cell. -/
def items (s : Store) (id : Nat) : List Value := (s.cell id).toList

def body (s : Store) (f : FunctionRef) : Body := s.functions.getD f.id default

def members (s : Store) (c : ClassRef) : MemberTable := s.classes.getD c.id MemberTable.empty

/-- The fields of the instance with the given number. -/
def fields (s : Store) (id : Nat) : MemberTable := s.instances.getD id MemberTable.empty

def record (s : Store) (r : RecordRef) : RecordBody := s.records.getD r.id default

/-! ## Writing -/

/-- Changes the items of a list. -/
def modifyItems (s : Store) (id : Nat) (change : Array Value → Array Value) : Store :=
  { s with cells := s.cells.modify id change }

/-- Replaces the fields of an instance. -/
def setFields (s : Store) (id : Nat) (fields : MemberTable) : Store :=
  { s with instances := s.instances.setIfInBounds id fields }

/-! ## What reading finds after making and writing -/

@[simp] theorem items_makeTuple (s : Store) (items : List Value) :
    (s.makeTuple items).2.items s.cells.size = items := by
  simp [makeTuple, Store.items, cell]

@[simp] theorem items_makeList (s : Store) (items : List Value) :
    (s.makeList items).2.items s.cells.size = items := by
  simp [makeList, Store.items, cell]

theorem items_modifyItems (s : Store) {id : Nat} (h : id < s.cells.size)
    (change : Array Value → Array Value) :
    (s.modifyItems id change).items id = (change (s.cell id)).toList := by
  simp [modifyItems, items, cell, Array.getElem_modify, h]

theorem items_modifyItems_of_ne (s : Store) {id other : Nat} (h : id ≠ other)
    (change : Array Value → Array Value) :
    (s.modifyItems id change).items other = s.items other := by
  simp [modifyItems, items, cell, Array.getElem?_modify, h]

theorem fields_setFields (s : Store) {id : Nat} (h : id < s.instances.size)
    (fields : MemberTable) : (s.setFields id fields).fields id = fields := by
  simp [setFields, Store.fields, h]

theorem fields_setFields_of_ne (s : Store) {id other : Nat} (h : id ≠ other)
    (fields : MemberTable) : (s.setFields id fields).fields other = s.fields other := by
  simp [setFields, Store.fields, h]

end Store

namespace Effect

def str (chars : String) : Effect Value := modifyGet (·.makeStr chars)

def tuple (items : List Value) : Effect Value := modifyGet (·.makeTuple items)

def list (items : List Value) : Effect Value := modifyGet (·.makeList items)

end Effect

end DynamicBinding
