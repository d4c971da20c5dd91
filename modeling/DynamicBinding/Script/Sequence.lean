import DynamicBinding.Script.Arithmetic
import DynamicBinding.Text.Case
import DynamicBinding.Text.Repeat
import DynamicBinding.Value.Equality
/-!
# Sequences

Texts, lists and tuples: concatenation, repetition, membership, indexing and the methods of the
script language.  A list changes only by `append`, `pop` and `setItem`; all other operations make
new values.
-/

namespace DynamicBinding.Script

/-- The items of a text: one new text for each character. -/
def characters : List Char → Effect (List Value)
  | [] => pure []
  | c :: rest => do
    let first ← Effect.str (String.singleton c)
    let others ← characters rest
    pure (first :: others)

/-- The items of a sequence. -/
def itemsOf (v : Value) : Effect (List Value) := do
  match v with
  | .list id | .tuple id => pure ((← get).items id)
  | .str text => characters text.chars.toList
  | v => Effect.fail (.mismatch "sequence" v)

/-- The sum of two sequences of one kind: the items of the first, then those of the second. -/
def concatenate (operator : Operator) (a b : Value) : Effect Value := do
  match a, b with
  | .str s, .str t => Effect.str (s.chars ++ t.chars)
  | .list i, .list j => do
    let s ← get
    Effect.list (s.items i ++ s.items j)
  | .tuple i, .tuple j => do
    let s ← get
    Effect.tuple (s.items i ++ s.items j)
  | a, b => Effect.fail (wrongOperands operator a b)

/-- The longest sequence that repetition makes, in bytes of a text or items. -/
def maxRepeatSize : Nat := 1 <<< 28

/-- A list of items one after the other `count` times. -/
def cycle {α : Type} (items : List α) (count : Nat) : List α :=
  if items.isEmpty then [] else (List.replicate count items).flatten

/-- Stops where a repetition would be too long. -/
def checkRepeatSize (operator : Operator) (size count : Nat) : Effect Unit :=
  if maxRepeatSize < size * count then Effect.fail (.overflow operator) else pure ()

/-- A sequence times a whole number, in either order.  Negative numbers count as zero. -/
def repetition (operator : Operator) (a b : Value) : Effect Value := do
  let ofSequence (sequence : Value) (n : Int64) : Effect Value := do
    let count := n.toInt.toNat
    match sequence with
    | .str text => do
      checkRepeatSize operator text.chars.utf8ByteSize count
      Effect.str (Text.repeated text.chars count)
    | .list id => do
      let items := (← get).items id
      checkRepeatSize operator items.length count
      Effect.list (cycle items count)
    | .tuple id => do
      let items := (← get).items id
      checkRepeatSize operator items.length count
      Effect.tuple (cycle items count)
    | _ => Effect.fail (wrongOperands operator a b)
  match a.asInt?, b.asInt? with
  | none, some n => ofSequence a n
  | some n, none => ofSequence b n
  | _, _ => Effect.fail (wrongOperands operator a b)

/-- Whether the item is in the container, or is not for the negated operator. -/
def membership (operator : Operator) (item container : Value) : Effect Value := do
  let answer (found : Bool) : Effect Value := pure (.bool (found != (operator == .notIn)))
  match container with
  | .str text =>
    match item with
    | .str needle => answer (Text.occursIn needle.chars.toList text.chars.toList)
    | item => Effect.fail (wrongOperands operator item container)
  | .list id | .tuple id => do
    let s ← get
    answer (← Effect.require (s.anyEqual item (s.items id)))
  | container => Effect.fail (wrongOperands operator item container)

/-- Structural equality, or its opposite for the negated operator. -/
def equality (operator : Operator) (a b : Value) : Effect Value := do
  let equal ← Effect.require ((← get).equals a b)
  pure (.bool (equal != (operator == .notEqual)))

/-- Identity, or its opposite for the negated operator. -/
def identity (operator : Operator) (a b : Value) : Effect Value :=
  pure (.bool (a.identical b != (operator == .isNotSame)))

/-! ## Indexing -/

/-- The position that an index addresses; negative indexes count from the end. -/
def position (index : Int) (length : Nat) : Except RuntimeError Nat :=
  let adjusted := if index < 0 then index + length else index
  if 0 ≤ adjusted ∧ adjusted < length then .ok adjusted.toNat
  else .error (.indexOutOfRange index length)

/-- Turns a result into a computation. -/
def lift {α : Type} : Except RuntimeError α → Effect α
  | .ok a => pure a
  | .error e => Effect.fail e

/-- The item at an index. -/
def getItem (receiver : Value) (index : Int) : Effect Value := do
  match receiver with
  | .list id | .tuple id => do
    let cell := (← get).cell id
    let i ← lift (position index cell.size)
    pure (cell.getD i .nothing)
  | .str text => do
    let chars := text.chars.toList
    let i ← lift (position index chars.length)
    Effect.str (String.singleton (chars.getD i default))
  | receiver => Effect.fail (.mismatch "sequence" receiver)

/-- Writes the item of a list at an index and gives the written value back. -/
def setItem (id : Nat) (index : Int) (v : Value) : Effect Value := do
  let i ← lift (position index ((← get).cell id).size)
  modify (·.modifyItems id (·.setIfInBounds i v))
  pure v

/-! ## Methods -/

/-- The methods of lists and texts. -/
inductive Method where
  | append
  | pop
  | length
  | upper
  | lower
deriving DecidableEq, Inhabited

namespace Method

/-- How many arguments the method takes after the receiver. -/
def argumentCount : Method → Nat
  | .append => 1
  | _ => 0

/-- The methods of a kind with their names, in the order of the look-up. -/
def table : Kind → List (String × Method)
  | .list => [("append", .append), ("pop", .pop), ("len", .length)]
  | .str => [("upper", .upper), ("lower", .lower), ("len", .length)]
  | _ => []

/-- Runs the method. -/
def run (m : Method) (receiver : Value) (args : List Value) : Effect Value := do
  match m with
  | .append =>
    match receiver, args with
    | .list id, [item] => do
      modify (·.modifyItems id (·.push item))
      pure .nothing
    | receiver, _ => Effect.fail (.mismatch "list" receiver)
  | .pop =>
    match receiver with
    | .list id => do
      match ((← get).cell id).back? with
      | some last => do
        modify (·.modifyItems id Array.pop)
        pure last
      | none => Effect.fail (.indexOutOfRange (-1) 0)
    | receiver => Effect.fail (.mismatch "list" receiver)
  | .length =>
    match receiver with
    | .str text => pure (.int (Int64.ofNat text.chars.length))
    | .list id | .tuple id => pure (.int (Int64.ofNat ((← get).cell id).size))
    | receiver => Effect.fail (.mismatch "sequence" receiver)
  | .upper =>
    match receiver with
    | .str text => Effect.str (Text.upper text.chars)
    | receiver => Effect.fail (.mismatch "str" receiver)
  | .lower =>
    match receiver with
    | .str text => Effect.str (Text.lower text.chars)
    | receiver => Effect.fail (.mismatch "str" receiver)

end Method

end DynamicBinding.Script
