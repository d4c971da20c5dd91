import DynamicBinding.Proofs.Machine.Indexing
import DynamicBinding.Proofs.Store.Equality
/-!
# Membership

The operator of membership next to those of indexing, equality and sums, through any site with any
history.

* `Machine.Sound.computes_isIn` and `Machine.Sound.computes_equal`: both operators come down to the
  structural equality of the store, unless an object answers itself.  An item that is asked for
  equality answers itself if its class has a method for it.
* `Machine.Sound.membership_exists`: a value is in a list or tuple where some item equals it, in a
  sum where it is in one of the two summands, and one text is in another where it is a part of it.
-/

namespace DynamicBinding

open Script

variable {m n : Machine} {v w x y item : Value} {id : Nat} {b b₁ b₂ : Bool}

/-- The value is an instance of a class that has a method for equality. -/
def Value.answersEqual : Value → Bool
  | .object (.classInstance _ c) => c.has "__eq__"
  | _ => false

/-! ## Operators -/

namespace Script

variable {s : Store}

/-- Equality answers what the comparison says, and changes nothing. -/
theorem run_equality (heq : s.equals v w = some b) :
    (equality .equal v w).run.run s = (.ok (.bool b), s) := by
  simp only [equality, run_get_bind, heq]
  cases b <;> rfl

/-- In a list or tuple, membership searches the items. -/
theorem run_membership_of_cell (hy : y.cell? = some id) (heq : s.anyEqual x (s.items id) = some b) :
    (membership .isIn x y).run.run s = (.ok (.bool b), s) := by
  have hanswer : ∀ id, s.anyEqual x (s.items id) = some b →
      (membership .isIn x (.list id)).run.run s = (.ok (.bool b), s) := by
    intro id heq
    simp only [membership, run_get_bind, heq]
    cases b <;> rfl
  cases y <;> cases hy <;> exact hanswer id heq

/-- In a text, membership searches the parts. -/
theorem run_membership_str (needle text : Text) (s : Store) :
    (membership .isIn (.str needle) (.str text)).run.run s =
      (.ok (.bool (Text.occursIn needle.chars.toList text.chars.toList)), s) := by
  simp only [membership]
  cases Text.occursIn needle.chars.toList text.chars.toList <;> rfl

end Script

namespace Machine.Sound

/-- No item of a sequence is a record. -/
theorem recordFree (hm : m.Sound) (id : Nat) : RecordFreeArgs (m.store.items id) :=
  let ⟨_, hn⟩ := hm
  hn.store.items id

/-- Two values are compared by the language, unless the first is an object that answers itself. -/
theorem computes_equal (hm : m.Sound) (hv : v.RecordFree) (hw : w.RecordFree)
    (hanswers : v.answersEqual = false) (heq : m.store.equals v w = some b) :
    m.Computes (.binary .equal) [v, w] (.ok (.bool b)) := by
  have hselect : BinaryImplementation.select? .equal v.kind w.kind = some .equality := rfl
  refine hm.answers_binary (.cons hv (.cons hw .nil)) rfl ?_ rfl hselect (run_equality heq)
  rintro o rfl
  cases o with
  | classInstance id c =>
    have hhas : c.has "__eq__" = false := hanswers
    simp [Object.bind, ClassRef.bindInstance, Operator.method?, ClassRef.methodBinding?, hhas]
  | record r => cases hv
  | _ => rfl

/-- No object answers for a container that is a builtin value. -/
theorem computes_isIn (hm : m.Sound) (hx : x.RecordFree) (hy : y.isObject = false)
    (hselect : BinaryImplementation.select? .isIn x.kind y.kind = some .membership)
    (hrun : (membership .isIn x y).run.run m.store = (.ok (.bool b), m.store)) :
    m.Computes (.binary .isIn) [x, y] (.ok (.bool b)) := by
  refine hm.answers_binary (.cons hx (.cons (Value.recordFree_of_isObject hy) .nil)) rfl ?_ ?_
    hselect hrun
  · rintro o rfl
    cases o with
    | record r => cases hx
    | _ => rfl
  · rw [hy, Bool.and_false]

/-- Membership in a list or tuple goes by comparisons with the items. -/
theorem computes_isIn_of_cell (hm : m.Sound) (hx : x.RecordFree) (hy : y.cell? = some id)
    (heq : m.store.anyEqual x (m.store.items id) = some b) :
    m.Computes (.binary .isIn) [x, y] (.ok (.bool b)) := by
  refine hm.computes_isIn hx ?_ ?_ (run_membership_of_cell hy heq)
  · cases y <;> cases hy <;> rfl
  · cases y <;> cases hy <;> simp [BinaryImplementation.select?, Value.kind]

/-- Every item is read at some index, as long as words can count the items, and nothing else is. -/
theorem exists_computes_getIndex_iff (hm : m.Sound) (hy : y.cell? = some id)
    (hlength : (m.store.items id).length ≤ 2 ^ 63) :
    (∃ i : Int64, m.Computes (.getIndex 1) [y, .int i] (.ok item)) ↔ item ∈ m.store.items id := by
  obtain ⟨c, hc, -⟩ := Store.exists_sequence?_of_cell? (s := m.store) hy
  have hread : ∀ i : Int64, m.Computes (.getIndex 1) [y, .int i]
      ((ListAction.read i.toInt).perform (m.store.items id)).1 :=
    fun i => hm.answers_getIndex hc rfl (run_getItem_of_cell hy m.store i.toInt)
  constructor
  · rintro ⟨i, hi⟩
    obtain ⟨p, -, hp⟩ := ListAction.perform_read_eq_ok_iff.1 ((hread i).unique hi)
    exact List.mem_of_getElem? hp
  · intro hmem
    obtain ⟨p, hp, hitem⟩ := List.mem_iff_getElem.1 hmem
    refine ⟨Int64.ofNat p, ?_⟩
    have hi : (Int64.ofNat p).toInt = p := Int64.toInt_ofNat_of_lt (by omega)
    have hok := hread (Int64.ofNat p)
    rw [hi, ListAction.perform_read_eq_ok_iff.2
      ⟨p, ListAction.place?_natCast hp, by rw [List.getElem?_eq_getElem hp, hitem]⟩] at hok
    exact hok

/-- A value is in a sum of two lists or tuples where it is in one of them. -/
theorem computes_isIn_add (hm : m.Sound) (hsealed : m.store.Sealed) (hx : x.RecordFree)
    (hmade : m.store.Made x) {y₁ y₂ : Value} {i j : Nat} (hy₁ : y₁.cell? = some i)
    (hy₂ : y₂.cell? = some j) (hkind : y₁.kind = y₂.kind)
    (hfirst : m.store.anyEqual x (m.store.items i) = some b₁)
    (hsecond : m.store.anyEqual x (m.store.items j) = some b₂) :
    (∃ w n, m.Does (.binary .add) [y₁, y₂] w n) ∧
      ∀ w n, m.Does (.binary .add) [y₁, y₂] w n →
        n.Computes (.binary .isIn) [x, w] (.ok (.bool (b₁ || b₂))) := by
  obtain ⟨c, hc, hitems⟩ := Store.exists_sequence?_of_cell? (s := m.store) hy₁
  obtain ⟨d, hd, hitems'⟩ := Store.exists_sequence?_of_cell? (s := m.store) hy₂
  obtain ⟨e, he⟩ := (Store.exists_append?_iff hc hd).2 hkind
  have hgives := hm.gives_add hc hd he
  refine ⟨hgives.exists_does, fun w n hdoes => ?_⟩
  have hadds := hgives.adds hdoes
  obtain ⟨k, hw, hsum⟩ := Store.exists_cell?_of_sequence? hadds.sequence
    (Sequence.items?_append? he hitems hitems')
  refine hdoes.sound.computes_isIn_of_cell hx hw ?_
  rw [hsum]
  exact Store.anyEqual_append (hadds.extension.anyEqual hsealed hmade (hsealed i) hfirst)
    (hadds.extension.anyEqual hsealed hmade (hsealed j) hsecond)

/-- **Membership is existence.**  On a machine where no sequence reaches itself:

* a value is in a list or tuple just in case it equals what is read there at some index, as long as
  no item answers for equality itself.  Every item is read at some index, because no list has more
  items than words count;
* a value is in the sum of two lists, or of two tuples, just in case it is in one of them;
* a text is in another just in case the other is that text with something before and after it. -/
theorem membership_exists (hm : m.Sound) (hsealed : m.store.Sealed) (hacyclic : m.store.Acyclic)
    (hx : x.RecordFree) (hmade : m.store.Made x) :
    (∀ y id, y.cell? = some id → (m.store.items id).length ≤ 2 ^ 63 →
      (∀ item ∈ m.store.items id, item.answersEqual = false) →
      ∃ found, m.Computes (.binary .isIn) [x, y] (.ok (.bool found)) ∧
        (found = true ↔ ∃ (i : Int64) (item : Value),
          m.Computes (.getIndex 1) [y, .int i] (.ok item) ∧
            m.Computes (.binary .equal) [item, x] (.ok (.bool true)))) ∧
    (∀ y₁ y₂ i j, y₁.cell? = some i → y₂.cell? = some j → y₁.kind = y₂.kind →
      (∃ w n, m.Does (.binary .add) [y₁, y₂] w n) ∧
      ∀ w n, m.Does (.binary .add) [y₁, y₂] w n → ∃ b₁ b₂,
        m.Computes (.binary .isIn) [x, y₁] (.ok (.bool b₁)) ∧
        m.Computes (.binary .isIn) [x, y₂] (.ok (.bool b₂)) ∧
        n.Computes (.binary .isIn) [x, w] (.ok (.bool (b₁ || b₂)))) ∧
    ∀ needle text : Text, ∃ found,
      m.Computes (.binary .isIn) [.str needle, .str text] (.ok (.bool found)) ∧
        (found = true ↔ ∃ p q : String, text.chars = p ++ needle.chars ++ q) := by
  have hequal : ∀ id, ∀ item ∈ m.store.items id, (m.store.equals item x).isSome = true :=
    fun id item hitem =>
      Store.isSome_equals hsealed (.inl ⟨hsealed id item hitem, hacyclic.grounded item⟩)
  refine ⟨fun y id hy hlength hanswers => ?_, fun y₁ y₂ i j hy₁ hy₂ hkind => ?_,
    fun needle text => ?_⟩
  · obtain ⟨found, hfound, hiff⟩ := Store.anyEqual_eq_some x (hequal id)
    refine ⟨found, hm.computes_isIn_of_cell hx hy hfound, hiff.trans ⟨?_, ?_⟩⟩
    · rintro ⟨item, hitem, heq⟩
      obtain ⟨i, hi⟩ := (hm.exists_computes_getIndex_iff hy hlength).2 hitem
      exact ⟨i, item, hi, hm.computes_equal (hm.recordFree id item hitem) hx
        (hanswers item hitem) heq⟩
    · -- whatever is read is an item, and the comparison with an item has one answer
      rintro ⟨i, item, hi, htrue⟩
      have hitem := (hm.exists_computes_getIndex_iff hy hlength).1 ⟨i, hi⟩
      obtain ⟨b, hb⟩ := Option.isSome_iff_exists.1 (hequal id item hitem)
      have hcomputes := hm.computes_equal (hm.recordFree id item hitem) hx (hanswers item hitem) hb
      cases hcomputes.unique htrue
      exact ⟨item, hitem, hb⟩
  · obtain ⟨b₁, hfirst, -⟩ := Store.anyEqual_eq_some x (hequal i)
    obtain ⟨b₂, hsecond, -⟩ := Store.anyEqual_eq_some x (hequal j)
    obtain ⟨hexists, hall⟩ := hm.computes_isIn_add hsealed hx hmade hy₁ hy₂ hkind hfirst hsecond
    exact ⟨hexists, fun w n hdoes => ⟨b₁, b₂, hm.computes_isIn_of_cell hx hy₁ hfirst,
      hm.computes_isIn_of_cell hx hy₂ hsecond, hall w n hdoes⟩⟩
  · exact ⟨_, hm.computes_isIn rfl rfl rfl (run_membership_str needle text m.store),
      occursIn_iff_append needle.chars text.chars⟩

end Machine.Sound

/-- One is in the outer list, because it equals the bool, and so is one letter in a word. -/
theorem Machine.Sound.membership_exists_nested :
    let m := (Client.making (.list [.list [.int 1], .bool true])).left 4 default
    m.Computes (.binary .isIn) [.int 1, .list 1] (.ok (.bool true)) ∧
      m.Computes (.binary .isIn) [.str ⟨0, "é"⟩, .str ⟨1, "né"⟩] (.ok (.bool true)) := by
  intro m
  have hm : m.Sound := Client.sound_making rfl default 4
  have hlayered : m.store.Layered := by decide +kernel
  have hlength : (m.store.items 1).length ≤ 2 ^ 63 := by decide +kernel
  have hanswers : ∀ item ∈ m.store.items 1, item.answersEqual = false := by decide +kernel
  obtain ⟨hlist, -, htext⟩ := hm.membership_exists hlayered.sealed hlayered.acyclic
    (x := .int 1) rfl (by decide +kernel)
  constructor
  · obtain ⟨found, hfound, hiff⟩ := hlist (.list 1) 1 rfl hlength hanswers
    have hitem : .bool true ∈ m.store.items 1 := by decide +kernel
    have hequal : m.store.equals (.bool true) (.int 1) = some true := by decide +kernel
    obtain ⟨i, hi⟩ := (hm.exists_computes_getIndex_iff (y := .list 1) rfl hlength).2 hitem
    rwa [hiff.2 ⟨i, _, hi, hm.computes_equal rfl rfl rfl hequal⟩] at hfound
  · obtain ⟨found, hfound, hiff⟩ := htext ⟨0, "é"⟩ ⟨1, "né"⟩
    rwa [hiff.2 ⟨"n", "", rfl⟩] at hfound

end DynamicBinding
