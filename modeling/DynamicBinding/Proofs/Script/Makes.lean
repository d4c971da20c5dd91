import DynamicBinding.Proofs.Store.Changes
import DynamicBinding.Script.Implementation
/-!
# What the script language makes

All operators and conversions of the script language, and the methods and indexing that do not
write, only make things.  A list or tuple that they make holds items of sequences that were there,
or texts.  The three ways of writing a list, `append`, `pop` and `setItem`, change that list and
nothing else.
-/

namespace DynamicBinding

variable {given : Value → Prop} {s : Store}

/-- The computation only makes things, whatever it gives. -/
abbrev Effect.OnlyMakes (given : Value → Prop) (s : Store) (x : Effect Value) : Prop :=
  x.Makes given (fun _ _ => True) s

namespace Effect.Makes

/-- What a computation gives can be forgotten. -/
theorem any {α : Type} {good : Store → α → Prop} {x : Effect α} (h : x.Makes given good s) :
    x.Makes given (fun _ _ => True) s :=
  fun hs => ⟨(h hs).1, fun _ _ => trivial⟩

/-- Whatever the first computation gives, the second one only makes things. -/
theorem before {α : Type} {x : Effect α} {f : α → Effect Value}
    (hx : x.Makes given (fun _ _ => True) s)
    (hf : ∀ a t, s.Extends given t → (f a).OnlyMakes given t) : (x >>= f).OnlyMakes given s :=
  bind hx fun a t hextends _ => hf a t hextends

/-- What reads the store and gives an answer makes nothing. -/
theorem read {f : Store → Effect Value} (h : (f s).OnlyMakes given s) :
    (MonadState.get >>= f).OnlyMakes given s :=
  get fun _ => h

end Effect.Makes

open Effect

namespace Script

/-! ## Operators and conversions -/

/-- The characters of a text are new texts. -/
theorem characters_makes (cs : List Char) :
    (characters cs).Makes given (fun t vs => ∀ v ∈ vs, t.Knows given v) s := by
  induction cs generalizing s with
  | nil => exact .pure fun v hv => (nomatch hv)
  | cons c rest ih =>
    apply Makes.bind (.str _)
    intro first t _ hfirst
    apply Makes.bind ih
    intro others u hextends hothers
    exact .pure (List.forall_mem_cons.2 ⟨hextends.knows hfirst, hothers⟩)

/-- The items of a sequence are known because the store is closed, and characters are new. -/
theorem itemsOf_makes (v : Value) :
    (itemsOf v).Makes given (fun t vs => ∀ v ∈ vs, t.Knows given v) s := by
  unfold itemsOf
  split
  · exact .get fun hs => .pure (hs _)
  · exact .get fun hs => .pure (hs _)
  · exact characters_makes _
  · exact .fail _

/-- What two sequences hold together is known in the store that both are read from. -/
theorem concatenate_makes (operator : Operator) (a b : Value) :
    (concatenate operator a b).OnlyMakes given s := by
  have happend : s.Closed given → ∀ i j, ∀ v ∈ s.items i ++ s.items j, s.Knows given v := by
    intro hs i j v hv
    rcases List.mem_append.1 hv with hv | hv
    · exact hs i v hv
    · exact hs j v hv
  unfold concatenate
  split
  · exact (Makes.str _).any
  · exact .get fun hs => (Makes.list (happend hs _ _)).any
  · exact .get fun hs => (Makes.tuple (happend hs _ _)).any
  · exact .fail _

/-- Repeating items adds no other ones. -/
theorem mem_of_mem_cycle {α : Type} {items : List α} {count : Nat} {a : α}
    (h : a ∈ cycle items count) : a ∈ items := by
  unfold cycle at h
  split at h
  · cases h
  · obtain ⟨xs, hxs, ha⟩ := List.mem_flatten.1 h
    rwa [List.eq_of_mem_replicate hxs] at ha

/-- The check of the size makes nothing. -/
theorem checkRepeatSize_makes (operator : Operator) (size count : Nat) :
    (checkRepeatSize operator size count).Makes given (fun _ _ => True) s := by
  unfold checkRepeatSize
  split
  · exact .fail _
  · exact .pure trivial

/-- A repeated sequence holds the items of one that was there. -/
theorem repetition_makes (operator : Operator) (a b : Value) :
    (repetition operator a b).OnlyMakes given s := by
  have hcycle : ∀ t : Store, t.Closed given → ∀ id count,
      ∀ v ∈ cycle (t.items id) count, t.Knows given v :=
    fun t ht id _ v hv => ht id v (mem_of_mem_cycle hv)
  have hsize : ∀ size count,
      (checkRepeatSize operator size count).Makes given (fun _ _ => True) s :=
    fun size count => checkRepeatSize_makes operator size count
  unfold repetition
  split
  case h_3 => exact .fail _
  -- whichever operand is the sequence
  all_goals
    dsimp only
    split
    · exact .before (hsize _ _) fun _ _ _ => (Makes.str _).any
    · refine .get fun hs => .before (hsize _ _) fun _ t hextends => (Makes.list ?_).any
      exact fun v hv => hextends.knows (hcycle s hs _ _ v hv)
    · refine .get fun hs => .before (hsize _ _) fun _ t hextends => (Makes.tuple ?_).any
      exact fun v hv => hextends.knows (hcycle s hs _ _ v hv)
    · exact .fail _

/-- Membership is found out by comparisons, which make nothing. -/
theorem membership_makes (operator : Operator) (item container : Value) :
    (membership operator item container).OnlyMakes given s := by
  have hanswer : ∀ id, Effect.OnlyMakes given s (do
      let found ← Effect.require (s.anyEqual item (s.items id))
      pure (.bool (found != (operator == .notIn)))) :=
    fun id => .before (.require fun _ _ => trivial) fun _ _ _ => .pure trivial
  unfold membership
  split
  · split
    · exact .pure trivial
    · exact .fail _
  · exact .read (hanswer _)
  · exact .read (hanswer _)
  · exact .fail _

/-- Equality makes nothing. -/
theorem equality_makes (operator : Operator) (a b : Value) :
    (equality operator a b).OnlyMakes given s := by
  apply Makes.read
  exact .before (.require fun _ _ => trivial) fun _ _ _ => .pure trivial

/-- **Binary operators only make things,** whichever implementation they have. -/
theorem binary_makes (i : BinaryImplementation) (operator : Operator) (a b : Value) :
    (i.run operator a b).OnlyMakes given s := by
  cases i with
  | arithmetic | bitwise | order => exact .lift fun _ _ => trivial
  | concatenate => exact concatenate_makes operator a b
  | repetition => exact repetition_makes operator a b
  | equality => exact equality_makes operator a b
  | identity => exact .pure trivial
  | membership => exact membership_makes operator a b

/-- **Unary operators make nothing,** as they give scalars. -/
theorem unary_makes (i : UnaryImplementation) (v : Value) : (i.run v).OnlyMakes given s := by
  unfold UnaryImplementation.run
  cases i with
  | not => exact .read (.pure trivial)
  | _ => exact .lift fun _ _ => trivial

/-- **Conversions only make things:** sequences of items that are known, and texts. -/
theorem conversion_makes (c : Conversion) (v : Value) : (c.run v).OnlyMakes given s := by
  unfold Conversion.run
  cases c with
  | unchanged => exact .pure trivial
  | truth => exact .read (.pure trivial)
  | integer => exact .lift fun _ _ => trivial
  | truncate =>
    dsimp only
    split <;> exact .lift fun _ _ => trivial
  | parseInt | parseFloat =>
    dsimp only
    split
    · split
      · exact .pure trivial
      · exact .fail _
    · exact .fail _
  | widen =>
    dsimp only
    split
    · exact .pure trivial
    · exact .fail _
  | toList => exact .bind (itemsOf_makes v) fun _ _ _ h => (Makes.list h).any
  | toTuple => exact .bind (itemsOf_makes v) fun _ _ _ h => (Makes.tuple h).any

/-! ## Indexing and methods -/

/-- Indexing gives an item that is there, or makes the text of a character. -/
theorem getItem_makes (receiver : Value) (index : Int) :
    (getItem receiver index).OnlyMakes given s := by
  have hcell : ∀ id, Effect.OnlyMakes given s (do
      let i ← lift (position index (s.cell id).size)
      pure ((s.cell id).getD i .nothing)) :=
    fun id => .before (.lift fun _ _ => trivial) fun _ _ _ => .pure trivial
  unfold getItem
  split
  · exact .read (hcell _)
  · exact .read (hcell _)
  · exact .before (.lift fun _ _ => trivial) fun _ _ _ => (Makes.str _).any
  · exact .fail _

/-- The method changes its receiver. -/
def Method.writes : Method → Bool
  | .append | .pop => true
  | .length | .upper | .lower => false

/-- A method that does not write only makes texts. -/
theorem method_makes {m : Method} (h : m.writes = false) (receiver : Value) (args : List Value) :
    (m.run receiver args).OnlyMakes given s := by
  unfold Method.run
  cases m with
  | append | pop => cases h
  | length =>
    dsimp only
    split
    · exact .pure trivial
    · exact .read (.pure trivial)
    · exact .read (.pure trivial)
    · exact .fail _
  | upper | lower =>
    dsimp only
    split
    · exact (Makes.str _).any
    · exact .fail _

end Script

end DynamicBinding
