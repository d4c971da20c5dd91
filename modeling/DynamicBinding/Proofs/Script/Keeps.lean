import DynamicBinding.Proofs.Store.Keeps
import DynamicBinding.Script.Implementation
/-!
# The script language makes no records

The operators, conversions and methods of the script language give no record and put none into the
store.  Arithmetic, order and bits give scalars only; the others follow by the rules of
`Effect.Keeps`.
-/

namespace DynamicBinding

variable {α : Type} {good : α → Prop}

/-! ## Results -/

/-- A result that is no record. -/
def RecordFreeResult (r : Except RuntimeError Value) : Prop := ∀ v, r = .ok v → v.RecordFree

/-- A value that is given has to be free of records itself. -/
@[simp] theorem recordFreeResult_ok (v : Value) : RecordFreeResult (.ok v) ↔ v.RecordFree := by
  simp [RecordFreeResult]

/-- An error gives nothing, so it gives no record. -/
@[simp] theorem recordFreeResult_error (e : RuntimeError) : RecordFreeResult (.error e) := by
  simp [RecordFreeResult]

namespace Script

/-- A result is lifted without a look at the store. -/
theorem keeps_lift {r : Except RuntimeError α} (h : ∀ a, r = .ok a → good a) :
    (lift r).Keeps good := by
  cases r with
  | ok v => exact .pure (h v rfl)
  | error e => exact .fail e

/-- A checked word is a number or an error. -/
@[simp] theorem recordFreeResult_checked (operator : Operator) (i : Option Int64) :
    RecordFreeResult (checked operator i) := by
  cases i with
  | some i => exact (recordFreeResult_ok _).2 rfl
  | none => exact recordFreeResult_error _

/-- A number that has to fit into a word is given exactly or not at all. -/
@[simp] theorem recordFreeResult_exactly (operator : Operator) (n : Int) :
    RecordFreeResult (exactly operator n) :=
  recordFreeResult_checked operator (word? n)

/-- A power of words is a word, or out of range. -/
theorem recordFreeResult_intPower (a b : Int64) : RecordFreeResult (intPower a b) := by
  unfold intPower
  split <;> simp

/-- Every arithmetic operator on words gives a word or a float. -/
theorem recordFreeResult_intArithmetic (operator : Operator) (a b : Int64) :
    RecordFreeResult (intArithmetic operator a b) := by
  have hfloat : ∀ x, (Value.float x).RecordFree := fun _ => rfl
  have hint : ∀ i, (Value.int i).RecordFree := fun _ => rfl
  unfold intArithmetic
  split
  · simp
  · simp
  · simp
  · split <;> simp
  · split <;> simp
  · split <;> simp [hfloat]
  · split <;> simp [hint]
  · split
    · split <;> simp [hfloat]
    · exact recordFreeResult_intPower a b
  · simp

/-- Arithmetic is done on floats or on words, whichever the operands come to, and gives the like. -/
theorem recordFreeResult_arithmetic (operator : Operator) (a b : Value) :
    RecordFreeResult (arithmetic operator a b) := by
  unfold arithmetic
  split
  · split
    · next x y _ _ =>
      cases floatArithmetic operator x y with
      | ok z => exact (recordFreeResult_ok _).2 rfl
      | error e => exact recordFreeResult_error _
    · simp
  · split
    · exact recordFreeResult_intArithmetic operator _ _
    · simp

/-- Operators on bits give words, and bools where both operands are bools. -/
theorem recordFreeResult_bitwise (operator : Operator) (a b : Value) :
    RecordFreeResult (bitwise operator a b) := by
  have hwords : ∀ i j, RecordFreeResult
      ((wordBits operator i j).getD (.error (wrongOperands operator a b))) := by
    intro i j
    have hint : ∀ k, (Value.int k).RecordFree := fun _ => rfl
    unfold wordBits
    split
    · simp [hint]
    · simp [hint]
    · simp [hint]
    · simp only [Option.getD_some]
      split
      · simp
      · split
        · simp [hint]
        · split <;> simp
    · simp only [Option.getD_some]
      split <;> simp [hint]
    · simp
  simp only [bitwise]
  split
  · split
    · exact (recordFreeResult_ok _).2 rfl
    · split
      · exact hwords _ _
      · simp
  · split
    · exact hwords _ _
    · simp

/-- A comparison gives a bool, or refuses its operands. -/
theorem recordFreeResult_compareValues (operator : Operator) (a b : Value) :
    RecordFreeResult (compareValues operator a b) := by
  have hbool : ∀ p, (Value.bool p).RecordFree := fun _ => rfl
  unfold compareValues
  split
  · simp
  · simp [hbool]
  · split <;> simp [hbool]

/-- The sign `+` gives a number back as a number. -/
theorem recordFreeResult_positive (v : Value) : RecordFreeResult (positive v) := by
  unfold positive
  split
  · exact (recordFreeResult_ok _).2 rfl
  · split
    · exact (recordFreeResult_ok _).2 rfl
    · simp

/-- The sign `-` gives a number. -/
theorem recordFreeResult_negative (v : Value) : RecordFreeResult (negative v) := by
  unfold negative
  split
  · exact (recordFreeResult_ok _).2 rfl
  · split <;> simp

/-- Inverting the bits of a word gives a word. -/
theorem recordFreeResult_invert (v : Value) : RecordFreeResult (invert v) := by
  unfold invert
  split
  · exact (recordFreeResult_ok _).2 rfl
  · simp

/-- What is converted to a word is a word. -/
theorem recordFreeResult_integerOf (v : Value) : RecordFreeResult (integerOf v) := by
  unfold integerOf
  split
  · exact (recordFreeResult_ok _).2 rfl
  · simp

/-- A float is cut to a word, if it is finite and in range. -/
theorem recordFreeResult_integerOfFloat (x : Binary64) : RecordFreeResult (integerOfFloat x) := by
  unfold integerOfFloat
  split
  · simp
  · split
    · exact (recordFreeResult_ok _).2 rfl
    · simp

/-! ## The script language -/

/-- The characters of a text are made as texts. -/
theorem keeps_characters (cs : List Char) : (characters cs).Keeps RecordFreeArgs := by
  induction cs with
  | nil => exact .pure RecordFreeArgs.nil
  | cons c rest ih =>
    unfold characters
    apply Effect.Keeps.bind (.str _)
    intro first hfirst
    apply Effect.Keeps.bind ih
    intro others hothers
    exact .pure (RecordFreeArgs.cons hfirst hothers)

/-- The items of a sequence are in the store, which is free of records, or are made as texts. -/
theorem keeps_itemsOf (v : Value) : (itemsOf v).Keeps RecordFreeArgs := by
  unfold itemsOf
  split
  · exact .bind .get fun s hs => .pure (hs.items _)
  · exact .bind .get fun s hs => .pure (hs.items _)
  · exact keeps_characters _
  · exact .fail _

/-- What two sequences hold together is what each of them holds. -/
theorem keeps_concatenate (operator : Operator) (a b : Value) :
    (concatenate operator a b).Keeps Value.RecordFree := by
  unfold concatenate
  split
  · exact .str _
  · exact .bind .get fun s hs => .list ((hs.items _).append (hs.items _))
  · exact .bind .get fun s hs => .tuple ((hs.items _).append (hs.items _))
  · exact .fail _

/-- Repetition adds no items of its own. -/
theorem recordFreeArgs_cycle {items : List Value} (h : RecordFreeArgs items) (count : Nat) :
    RecordFreeArgs (cycle items count) := by
  unfold cycle
  split
  · exact RecordFreeArgs.nil
  · intro v hv
    obtain ⟨xs, hxs, hv⟩ := List.mem_flatten.1 hv
    rw [List.eq_of_mem_replicate hxs] at hv
    exact h v hv

/-- The check of the size gives nothing but a way on. -/
theorem keeps_checkRepeatSize (operator : Operator) (size count : Nat) :
    (checkRepeatSize operator size count).Keeps fun _ => True := by
  unfold checkRepeatSize
  split
  · exact .fail _
  · exact .pure trivial

/-- A repeated sequence holds what the sequence holds, however often. -/
theorem keeps_repetition (operator : Operator) (a b : Value) :
    (repetition operator a b).Keeps Value.RecordFree := by
  have hsize := fun size count => keeps_checkRepeatSize operator size count
  unfold repetition
  split
  case h_3 => exact .fail _
  -- whichever operand is the sequence
  all_goals
    dsimp only
    split
    · exact .bind (hsize _ _) fun _ _ => .str _
    · apply Effect.Keeps.bind .get
      intro s hs
      exact .bind (hsize _ _) fun _ _ => .list (recordFreeArgs_cycle (hs.items _) _)
    · apply Effect.Keeps.bind .get
      intro s hs
      exact .bind (hsize _ _) fun _ _ => .tuple (recordFreeArgs_cycle (hs.items _) _)
    · exact .fail _

/-- Membership is answered with a bool, after comparisons that change nothing. -/
theorem keeps_membership (operator : Operator) (item container : Value) :
    (membership operator item container).Keeps Value.RecordFree := by
  have hanswer : ∀ s : Store, ∀ id, Effect.Keeps Value.RecordFree (do
      let found ← Effect.require (s.anyEqual item (s.items id))
      pure (.bool (found != (operator == .notIn)))) := by
    intro s id
    exact .bind (.require fun _ _ => trivial) fun found _ => .pure rfl
  unfold membership
  split
  · split
    · exact .pure rfl
    · exact .fail _
  · exact .bind .get fun s _ => hanswer s _
  · exact .bind .get fun s _ => hanswer s _
  · exact .fail _

/-- Equality is answered with a bool. -/
theorem keeps_equality (operator : Operator) (a b : Value) :
    (equality operator a b).Keeps Value.RecordFree := by
  apply Effect.Keeps.bind .get
  intro s _
  exact .bind (.require fun _ _ => trivial) fun equal _ => .pure rfl

/-- An item is in the store, and a character is made as a text. -/
theorem keeps_getItem (receiver : Value) (index : Int) :
    (getItem receiver index).Keeps Value.RecordFree := by
  have hcell : ∀ s : Store, s.RecordFree → ∀ id, Effect.Keeps Value.RecordFree (do
      let i ← lift (position index (s.cell id).size)
      pure ((s.cell id).getD i .nothing)) := by
    intro s hs id
    refine .bind (keeps_lift fun _ _ => trivial) fun i _ => .pure ?_
    rw [Array.getD_eq_getD_getElem?]
    exact RecordFreeArgs.getD fun v hv => hs.cell id (Array.mem_of_getElem? hv)
  unfold getItem
  split
  · exact .bind .get fun s hs => hcell s hs _
  · exact .bind .get fun s hs => hcell s hs _
  · exact .bind (keeps_lift fun _ _ => trivial) fun i _ => .str _
  · exact .fail _

/-- The value that goes into a list is no record, and is all that goes in. -/
theorem keeps_setItem (id : Nat) (index : Int) {v : Value} (hv : v.RecordFree) :
    (setItem id index v).Keeps Value.RecordFree := by
  have hset : ∀ i, ∀ s : Store, s.RecordFree →
      (s.modifyItems id (·.setIfInBounds i v)).RecordFree := by
    intro i s hs
    apply hs.modifyItems
    intro w hw
    rcases Array.mem_or_eq_of_mem_setIfInBounds hw with hw | rfl
    · exact hs.cell id hw
    · exact hv
  unfold setItem
  apply Effect.Keeps.bind .get
  intro s _
  apply Effect.Keeps.bind (keeps_lift fun _ _ => trivial)
  intro i _
  exact .bind (.modify (hset i)) fun _ _ => .pure hv

/-- Methods of builtin values write only their arguments, and give items, lengths or texts. -/
theorem keeps_method (m : Method) (receiver : Value) {args : List Value}
    (hargs : RecordFreeArgs args) : (m.run receiver args).Keeps Value.RecordFree := by
  unfold Method.run
  cases m with
  | append =>
    dsimp only
    split
    · next id item =>
      have hpush : ∀ s : Store, s.RecordFree → (s.modifyItems id (·.push item)).RecordFree := by
        intro s hs
        apply hs.modifyItems
        intro v hv
        rcases Array.mem_push.1 hv with hv | rfl
        · exact hs.cell id hv
        · exact hargs.head
      exact .bind (.modify hpush) fun _ _ => .pure rfl
    · exact .fail _
  | pop =>
    dsimp only
    split
    · next id =>
      have hpop : ∀ s : Store, s.RecordFree → (s.modifyItems id Array.pop).RecordFree := by
        intro s hs
        apply hs.modifyItems
        intro v hv
        rw [← Array.mem_toList_iff, Array.toList_pop] at hv
        exact hs.cell id (Array.mem_toList_iff.1 (List.dropLast_subset _ hv))
      apply Effect.Keeps.bind .get
      intro s hs
      split
      · next last hlast =>
        have hlast' := hs.cell id (Array.mem_of_back? hlast)
        exact .bind (.modify hpop) fun _ _ => .pure hlast'
      · exact .fail _
    · exact .fail _
  | length =>
    dsimp only
    split
    · exact .pure rfl
    · exact .bind .get fun _ _ => .pure rfl
    · exact .bind .get fun _ _ => .pure rfl
    · exact .fail _
  | upper | lower =>
    dsimp only
    split
    · exact .str _
    · exact .fail _

/-- A conversion gives the value back, or makes a scalar, a text or a sequence of its items. -/
theorem keeps_conversion (c : Conversion) {v : Value} (hv : v.RecordFree) :
    (c.run v).Keeps Value.RecordFree := by
  unfold Conversion.run
  cases c with
  | unchanged => exact .pure hv
  | truth => exact .bind .get fun _ _ => .pure rfl
  | integer => exact keeps_lift (recordFreeResult_integerOf v)
  | truncate =>
    dsimp only
    split
    · exact keeps_lift (recordFreeResult_integerOfFloat _)
    · exact keeps_lift (recordFreeResult_integerOf _)
  | parseInt | parseFloat =>
    dsimp only
    split
    · split
      · exact .pure rfl
      · exact .fail _
    · exact .fail _
  | widen =>
    dsimp only
    split
    · exact .pure rfl
    · exact .fail _
  | toList => exact .bind (keeps_itemsOf v) fun _ h => .list h
  | toTuple => exact .bind (keeps_itemsOf v) fun _ h => .tuple h

/-- **No binary operator makes a record,** whichever implementation it has. -/
theorem keeps_binary (i : BinaryImplementation) (operator : Operator) (a b : Value) :
    (i.run operator a b).Keeps Value.RecordFree := by
  cases i with
  | arithmetic => exact keeps_lift (recordFreeResult_arithmetic operator a b)
  | concatenate => exact keeps_concatenate operator a b
  | repetition => exact keeps_repetition operator a b
  | bitwise => exact keeps_lift (recordFreeResult_bitwise operator a b)
  | order => exact keeps_lift (recordFreeResult_compareValues operator a b)
  | equality => exact keeps_equality operator a b
  | identity => exact .pure rfl
  | membership => exact keeps_membership operator a b

/-- **No unary operator makes a record.** -/
theorem keeps_unary (i : UnaryImplementation) (v : Value) : (i.run v).Keeps Value.RecordFree := by
  unfold UnaryImplementation.run
  cases i with
  | not => exact .bind .get fun _ _ => .pure rfl
  | positive => exact keeps_lift (recordFreeResult_positive v)
  | negative => exact keeps_lift (recordFreeResult_negative v)
  | invert => exact keeps_lift (recordFreeResult_invert v)

end Script

end DynamicBinding
