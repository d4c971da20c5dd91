import DynamicBinding.Proofs.Machine.Repetition
/-!
# Indexing and conversion

A text, list or tuple can be read at an index, and it can be converted to a list or tuple of its
items.  Reading the sequence and reading what it was converted to come to the same, through any site
with any history.

* `Machine.Sound.does_convert`: the conversion always succeeds and holds the items.
* `Machine.Sound.answers_getIndex` and `Machine.Sound.computes_length`: reading and the length look
  at the items.
* `Machine.Sound.indexing_converted`: indexing commutes with conversion.
-/

namespace DynamicBinding

open Script

variable {m n : Machine} {v x y : Value} {c : Sequence} {items : List Value} {i : Int64}

namespace Script

/-- The targets to which a sequence is converted, with what is made there of the items. -/
def sequenceTargets : List (Target × (List Value → Sequence)) :=
  [(.list, .list), (.tuple, .tuple)]

variable {target : Target} {held : List Value → Sequence}

/-- What an explicit conversion gives holds the items, be it the sequence itself or a new one. -/
theorem conversion_holds {s : Store} (hx : s.sequence? x = some c)
    (htarget : (target, held) ∈ sequenceTargets) :
    ∃ conversion, Conversion.select? target x.kind true = some conversion ∧
      ∃ items v t, (conversion.run x).run.run s = (.ok v, t) ∧
        t.sequence? v = some (held items) ∧ c.Yields items := by
  rcases List.mem_pair.1 htarget with heq | heq <;> cases heq
  · obtain ⟨items, hitems, v, t, hrun, hadds⟩ := toList_builds hx
    cases x with
    | list id => exact ⟨.unchanged, rfl, _, _, s, rfl, rfl, by cases hx; rfl⟩
    | str text => exact ⟨.toList, rfl, items, v, t, hrun, hadds.sequence, hitems⟩
    | tuple id => exact ⟨.toList, rfl, items, v, t, hrun, hadds.sequence, hitems⟩
    | _ => cases hx
  · obtain ⟨items, hitems, v, t, hrun, hadds⟩ := toTuple_builds hx
    cases x with
    | tuple id => exact ⟨.unchanged, rfl, _, _, s, rfl, rfl, by cases hx; rfl⟩
    | str text => exact ⟨.toTuple, rfl, items, v, t, hrun, hadds.sequence, hitems⟩
    | list id => exact ⟨.toTuple, rfl, items, v, t, hrun, hadds.sequence, hitems⟩
    | _ => cases hx

/-- Reading what a sequence was converted to gives the item at the place, and makes nothing. -/
theorem run_getItem_held {s : Store} (htarget : (target, held) ∈ sequenceTargets)
    (hv : s.sequence? v = some (held items)) (i : Int) :
    (getItem v i).run.run s = (((ListAction.read i).perform items).1.mapError .error, s) := by
  have hitems : (held items).items? = some items := by
    rcases List.mem_pair.1 htarget with heq | heq <;> cases heq <;> rfl
  obtain ⟨id, hid, rfl⟩ := Store.exists_cell?_of_sequence? hv hitems
  exact run_getItem_of_cell hid s i

/-- Texts and lists have a method for their length. -/
theorem find?_table_len {k : Kind} (hk : k = .str ∨ k = .list) (ignoreCase : Bool) :
    (Method.table k).find? (fun entry => Text.namesMatch "len" entry.1 ignoreCase) =
      some ("len", .length) := by
  rcases hk with rfl | rfl <;> cases ignoreCase <;> rfl

/-! ### What the script language decides -/

theorem decides_getIndex (hx : x.kind.isSequence = true) (hy : y.asInt? = some i) :
    Decides (.getIndex 1) [x, y] .getItem where
  accepts := by
    rintro _ ⟨⟩
    rfl
  arity := rfl
  declines := by
    rintro o rest ⟨⟩
    cases hx
  bound l := by
    have hbind : bindGetIndex 1 [x, y] =
        some { guard := .forArguments [x, y], plan := .getItem } := by
      simp [bindGetIndex, hx, hy]
    exact ⟨_, hbind⟩

theorem decides_length (hkind : x.kind = .str ∨ x.kind = .list) (ignoreCase : Bool) :
    Decides (.invokeMember "len" ignoreCase 0) [x] (.builtinMethod .length) where
  accepts := by
    rintro _ ⟨⟩
    rfl
  arity := rfl
  declines := by
    rintro o rest ⟨⟩
    rcases hkind with h | h <;> cases h
  bound l := bindMethod_cons x [] (find?_table_len hkind ignoreCase)

end Script

namespace Machine.Sound

/-- A conversion to a list or tuple always succeeds, and holds the items. -/
theorem does_convert (hm : m.Sound) (hx : m.store.sequence? x = some c) {target : Target}
    {held : List Value → Sequence} (htarget : (target, held) ∈ sequenceTargets) :
    (∃ v n, m.Does (.convert target true) [x] v n) ∧
      ∀ v n, m.Does (.convert target true) [x] v n →
        ∃ items, n.store.sequence? v = some (held items) ∧ c.Yields items := by
  obtain ⟨conversion, hselect, items, v, t, hrun, hv, hitems⟩ := conversion_holds hx htarget
  have hfree : RecordFreeArgs [x] := .cons (Value.recordFree_of_sequence? hx) .nil
  have htable : (∀ s, target ≠ .delegate s) ∧
      (target == .str && true && x.kind != .str) = false := by
    rcases List.mem_pair.1 htarget with heq | heq <;> cases heq <;> exact ⟨nofun, rfl⟩
  have hanswers : m.Answers (.convert target true) [x] (.ok v) t :=
    hm.answers (decides_convert (Value.isObject_of_sequence? hx) htable.1 htable.2 hselect) hfree
      (fun _ => rfl) hrun
  obtain ⟨n, hdoes, rfl⟩ := hanswers.exists_does hm hfree
  refine ⟨⟨v, n, hdoes⟩, fun w o hother => ?_⟩
  obtain ⟨hvalue, hstore⟩ := hanswers.unique hother.answers
  cases hvalue
  exact ⟨items, hstore ▸ hv, hitems⟩

/-- Reading a sequence at an index gives what reading its items gives. -/
theorem answers_getIndex (hm : m.Sound) (hx : m.store.sequence? x = some c)
    (hy : y.asInt? = some i) {result : Except RuntimeError Value} {s : Store}
    (hrun : (getItem x i.toInt).run.run m.store = (result.mapError .error, s)) :
    m.Answers (.getIndex 1) [x, y] result s := by
  have hfree : RecordFreeArgs [x, y] :=
    .cons (Value.recordFree_of_sequence? hx) (.cons (Value.recordFree_of_asInt? hy) .nil)
  have hdecides := decides_getIndex (Value.isSequence_of_sequence? hx) hy
  refine hm.answers hdecides hfree (fun p => ?_) hrun
  simp only [execute, onTwo, lift_indexOf hy, pure_bind]

/-- The length of a text or list is how many items it has. -/
theorem computes_length (hm : m.Sound) (hx : m.store.sequence? x = some c)
    (hitems : c.Yields items) (hkind : x.kind ≠ .tuple) (ignoreCase : Bool) :
    m.Computes (.invokeMember "len" ignoreCase 0) [x]
      (.ok (.int (Int64.ofNat items.length))) := by
  have hkind : x.kind = .str ∨ x.kind = .list := by
    cases x with
    | str text => exact .inl rfl
    | list id => exact .inr rfl
    | tuple id => exact (hkind rfl).elim
    | _ => cases hx
  have hfree : RecordFreeArgs [x] := .cons (Value.recordFree_of_sequence? hx) .nil
  exact hm.answers (decides_length hkind ignoreCase) hfree (fun _ => rfl) (run_length hx hitems)

/-- **Indexing commutes with conversion.**  A text, list or tuple can always be converted to a list
and to a tuple, which then holds its items: those of the list or tuple, or one text for each
character, which give the text back one after the other.

* At every index, reading the sequence and reading what it was converted to come to the same, be it
  an item, a text of one character, or the error of an index out of range.
* The length of a text or list is the number of these items. -/
theorem indexing_converted (hm : m.Sound) (hx : m.store.sequence? x = some c) :
    ∀ target held, (target, held) ∈ sequenceTargets →
      (∃ v n, m.Does (.convert target true) [x] v n) ∧
      ∀ v n, m.Does (.convert target true) [x] v n →
        ∃ items, n.store.sequence? v = some (held items) ∧ c.Yields items ∧
          (∀ chars, c = .text chars → String.join (items.filterMap Value.asStr?) = chars) ∧
          (∀ y i, y.asInt? = some i → ∃ r s, m.Answers (.getIndex 1) [x, y] r s ∧
            n.Computes (.getIndex 1) [v, y] ((ListAction.read i.toInt).perform items).1 ∧
            c.ReadsAlike r ((ListAction.read i.toInt).perform items).1) ∧
          (x.kind ≠ .tuple → ∀ ignoreCase,
            m.Computes (.invokeMember "len" ignoreCase 0) [x]
              (.ok (.int (Int64.ofNat items.length)))) := by
  intro target held htarget
  obtain ⟨hexists, hall⟩ := hm.does_convert hx htarget
  refine ⟨hexists, fun v n hdoes => ?_⟩
  obtain ⟨items, hv, hitems⟩ := hall v n hdoes
  refine ⟨items, hv, hitems, ?_, fun y i hy => ?_, hm.computes_length hx hitems⟩
  · rintro chars rfl
    exact hitems.join
  · obtain ⟨r, s, hrun, halike⟩ := getItem_reads hx hitems i.toInt
    exact ⟨r, s, hm.answers_getIndex hx hy hrun,
      hdoes.sound.answers_getIndex hv hy (run_getItem_held htarget hv i.toInt), halike⟩

end Machine.Sound

/-- The last character of the text is the last item of its list. -/
theorem Machine.Sound.indexing_converted_last :
    let m := (Client.making (.str "né😀")).left 4 default
    (∃ v n w, m.Does (.convert .list true) [.str ⟨0, "né😀"⟩] v n ∧
        n.Computes (.getIndex 1) [v, .int (-1)] (.ok w) ∧ w.asStr? = some "😀") ∧
      m.Computes (.invokeMember "len" false 0) [.str ⟨0, "né😀"⟩] (.ok (.int 3)) := by
  intro m
  have hm : m.Sound := Client.sound_making rfl default 4
  have hx : m.store.sequence? (.str ⟨0, "né😀"⟩) = some (.text "né😀") := rfl
  obtain ⟨⟨v, n, hdoes⟩, hall⟩ := hm.indexing_converted hx .list .list (List.mem_pair.2 (.inl rfl))
  obtain ⟨items, -, hitems, -, hread, hlength⟩ := hall v n hdoes
  have htexts : items.map Value.asStr? = [some "n", some "é", some "😀"] := hitems
  obtain ⟨a, rest, rfl, -, htexts⟩ := List.map_eq_cons_iff.1 htexts
  obtain ⟨b, rest, rfl, -, htexts⟩ := List.map_eq_cons_iff.1 htexts
  obtain ⟨w, rest, rfl, hw, htexts⟩ := List.map_eq_cons_iff.1 htexts
  obtain rfl := List.map_eq_nil_iff.1 htexts
  obtain ⟨r, s, -, hlast, -⟩ := hread (.int (-1)) _ rfl
  exact ⟨⟨v, n, w, hdoes, hlast, hw⟩, hlength (by decide) false⟩

end DynamicBinding
