import DynamicBinding.Guard
/-!
# What guards let through

Each way of building a guard, with the argument lists that the built guard lets through.

* `passes_and` reads a conjunction of guards as a conjunction of what they say, although tests
  that are already there are not repeated.
* `passes_forArguments`: the guard of an argument list passes exactly on the lists with the same
  types, position by position, so it is a function of the types (`forArguments_congr`).
* `isObject_of_excludesObjects`: the test by test analysis never errs on the side of claiming too
  much.

Everything else about an argument list that a binding may depend on is read off the types:
`Value.kind_congr` and `Value.isObject_congr`.
-/

namespace DynamicBinding

/-! ## What the type of a value decides -/

namespace Value

/-- Values of one type have one kind. -/
theorem kind_congr {v w : Value} (h : v.runtimeType = w.runtimeType) : v.kind = w.kind := by
  cases v with
  | object o => cases w <;> cases o <;> simp_all [runtimeType, Object.runtimeType, kind]
  | _ => cases w with
    | object o => cases o <;> simp_all [runtimeType, Object.runtimeType, kind]
    | _ => simp_all [runtimeType, kind]

/-- Objects are told by their kind. -/
theorem isObject_iff_kind (v : Value) : v.isObject = true ↔ v.kind = .object := by
  cases v <;> simp [isObject, kind]

/-- Values of one type are both objects or both builtin. -/
theorem isObject_congr {v w : Value} (h : v.runtimeType = w.runtimeType) :
    v.isObject = w.isObject := by
  rw [Bool.eq_iff_iff, isObject_iff_kind, isObject_iff_kind, kind_congr h]

/-- The type of a builtin value is its kind. -/
theorem runtimeType_of_isObject_eq_false {v : Value} (h : v.isObject = false) :
    v.runtimeType = .builtin v.kind := by
  cases v <;> simp_all [isObject, runtimeType]

/-- A value has a builtin type only if it is no object. -/
theorem isObject_of_runtimeType_eq_builtin {v : Value} {k : Kind}
    (h : v.runtimeType = .builtin k) : v.isObject = false := by
  cases v with
  | object o => cases o <;> simp [runtimeType, Object.runtimeType] at h
  | _ => rfl

/-- Among instances the type is the class. -/
theorem eq_classInstance_of_runtimeType {v : Value} {c : ClassRef}
    (h : v.runtimeType = .instanceOf c) : ∃ id, v = .object (.classInstance id c) := by
  cases v with
  | object o => cases o <;> simp_all [runtimeType, Object.runtimeType]
  | _ => simp [runtimeType] at h

/-- An object is the value of one. -/
theorem exists_object {v : Value} (h : v.isObject = true) : ∃ o, v = .object o := by
  cases v with
  | object o => exact ⟨o, rfl⟩
  | _ => simp [isObject] at h

/-- Texts are told by their kind. -/
theorem exists_str {v : Value} (h : v.kind = .str) : ∃ t, v = .str t := by
  cases v with
  | str t => exact ⟨t, rfl⟩
  | _ => simp [kind] at h

/-- Lists are told by their kind. -/
theorem exists_list {v : Value} (h : v.kind = .list) : ∃ id, v = .list id := by
  cases v with
  | list id => exact ⟨id, rfl⟩
  | _ => simp [kind] at h

/-- Values of one type are both whole numbers or both not. -/
theorem isSome_asInt?_congr {v w : Value} (h : v.kind = w.kind) :
    v.asInt?.isSome = w.asInt?.isSome := by
  cases v <;> cases w <;> simp_all [kind, asInt?]

end Value

namespace Guard

variable (g h : Guard) (args : List Value)

/-! ## One test more -/

/-- The number of arguments is all that is asked for. -/
@[simp] theorem passes_arity (n : Nat) : (arity n).passes args = (args.length == n) := by
  simp [arity, GuardTest.passes]

/-- The kind of one argument is asked for besides. -/
@[simp] theorem passes_kind (i : Nat) (k : Kind) :
    (g.kind i k).passes args = (g.passes args && args[i]?.any fun v => v.kind == k) :=
  passes_add ..

/-- The exact type of one argument is asked for besides. -/
@[simp] theorem passes_exactType (i : Nat) (t : RuntimeType) :
    (g.exactType i t).passes args = (g.passes args && args[i]?.any fun v => v.runtimeType == t) :=
  passes_add ..

/-- One argument is asked to be the target itself. -/
@[simp] theorem passes_identity (i : Nat) (target : Value) :
    (g.identity i target).passes args =
      (g.passes args && args[i]?.any fun v => v.identical target) :=
  passes_add ..

/-- One argument is asked not to be callable. -/
@[simp] theorem passes_notCallable (i : Nat) :
    (g.notCallable i).passes args = (g.passes args && args[i]?.any fun v => !v.isCallable) :=
  passes_add ..

/-- One argument is asked to be no object. -/
@[simp] theorem passes_plain (i : Nat) :
    (g.plain i).passes args = (g.passes args && args[i]?.any fun v => !v.isObject) :=
  passes_add ..

/-! ## Conjunctions -/

/-- A guard lets through what all its tests let through. -/
theorem passes_iff : g.passes args = true ↔ ∀ t ∈ g.tests, t.passes args = true := by
  simp [passes]

/-- A test is among those of a conjunction if it is among those of either part. -/
theorem mem_tests_and (t : GuardTest) : t ∈ (g.and h).tests ↔ t ∈ g.tests ∨ t ∈ h.tests := by
  obtain ⟨ts⟩ := h
  simp only [Guard.and]
  generalize g.tests = gs
  induction ts generalizing gs with
  | nil => simp
  | cons s rest ih =>
    rw [List.foldl_cons, ih]
    by_cases hs : s ∈ gs
    · rw [if_pos (by simpa using hs)]
      constructor
      · rintro (ht | ht) <;> simp [ht]
      · rintro (ht | ht)
        · exact .inl ht
        · rcases List.mem_cons.1 ht with rfl | ht
          · exact .inl hs
          · exact .inr ht
    · rw [if_neg (by simpa using hs)]
      simp [or_assoc]

/-- A conjunction lets through what both parts let through. -/
@[simp] theorem passes_and :
    (g.and h).passes args = (g.passes args && h.passes args) := by
  rw [Bool.eq_iff_iff, Bool.and_eq_true]
  simp only [passes_iff, mem_tests_and]
  constructor
  · intro hall
    exact ⟨fun t ht => hall t (.inl ht), fun t ht => hall t (.inr ht)⟩
  · rintro ⟨hg, hh⟩ t (ht | ht)
    · exact hg t ht
    · exact hh t ht

/-! ## Classes of arguments -/

/-- The class of a value is its type. -/
@[simp] theorem passes_classified (i : Nat) (v : Value) :
    (g.classified i v).passes args =
      (g.passes args && args[i]?.any fun w => w.runtimeType == v.runtimeType) := by
  cases hv : v.isObject with
  | true =>
    obtain ⟨o, rfl⟩ := Value.exists_object hv
    exact passes_exactType ..
  | false =>
    have hadd : g.classified i v = g.kind i v.kind := by
      cases v <;> simp_all [classified, Value.isObject]
    have htype := Value.runtimeType_of_isObject_eq_false hv
    rw [hadd, passes_kind]
    congr 2
    funext w
    rw [Bool.eq_iff_iff, beq_iff_eq, beq_iff_eq, htype]
    constructor
    · intro hk
      rw [← hk]
      apply Value.runtimeType_of_isObject_eq_false
      rw [← Bool.not_eq_true, Value.isObject_iff_kind, hk, ← Value.isObject_iff_kind, hv]
      decide
    · intro hw
      exact Value.kind_congr (hw.trans htype.symm)

/-- The test that is made of an argument depends on its type only. -/
theorem classified_congr (i : Nat) {v w : Value} (h : v.runtimeType = w.runtimeType) :
    g.classified i v = g.classified i w := by
  have hk := Value.kind_congr h
  cases v with
  | object o => cases w <;> simp_all [classified, Value.runtimeType, Value.kind]
  | _ => cases w <;> simp_all [classified, Value.kind]

/-- So do the tests that are made of several arguments. -/
theorem classifiedFrom_congr (i : Nat) {vs ws : List Value}
    (h : vs.map Value.runtimeType = ws.map Value.runtimeType) :
    g.classifiedFrom i vs = g.classifiedFrom i ws := by
  induction vs generalizing g i ws with
  | nil => cases ws <;> simp_all
  | cons v vs ih =>
    cases ws with
    | nil => simp at h
    | cons w ws =>
      rw [List.map_cons, List.map_cons, List.cons.injEq] at h
      rw [classifiedFrom, classifiedFrom, classified_congr g i h.1]
      exact ih _ _ h.2

/-- The tests for several arguments ask for their types, place by place. -/
theorem passes_classifiedFrom (i : Nat) (vs : List Value) :
    (g.classifiedFrom i vs).passes args = true ↔
      g.passes args = true ∧
        ∀ j v, vs[j]? = some v → ∃ w, args[i + j]? = some w ∧ w.runtimeType = v.runtimeType := by
  induction vs generalizing g i with
  | nil => simp [classifiedFrom]
  | cons v vs ih =>
    rw [classifiedFrom, ih, passes_classified, Bool.and_eq_true, and_assoc]
    refine and_congr_right fun _ => ?_
    rw [Option.any_eq_true]
    constructor
    · rintro ⟨⟨w, hw, ht⟩, hrest⟩ j u hu
      cases j with
      | zero =>
        rw [List.getElem?_cons_zero, Option.some.injEq] at hu
        exact ⟨w, by simpa using hw, hu ▸ eq_of_beq ht⟩
      | succ j =>
        have := hrest j u (by simpa using hu)
        rwa [Nat.add_right_comm] at this
    · intro hall
      refine ⟨?_, fun j u hu => ?_⟩
      · obtain ⟨w, hw, ht⟩ := hall 0 v rfl
        exact ⟨w, by simpa using hw, by simpa using ht⟩
      · have := hall (j + 1) u (by simpa using hu)
        rwa [← Nat.add_assoc, Nat.add_right_comm] at this

/-- The guard of an argument list lets through the lists of the same types. -/
theorem passes_forArguments (vs : List Value) :
    (forArguments vs).passes args = true ↔
      args.map Value.runtimeType = vs.map Value.runtimeType := by
  rw [forArguments, passes_classifiedFrom, passes_arity, beq_iff_eq]
  constructor
  · rintro ⟨hlen, hall⟩
    apply List.ext_getElem (by simpa using hlen)
    intro j hj hj'
    rw [List.length_map] at hj hj'
    obtain ⟨w, hw, ht⟩ := hall j vs[j] (List.getElem?_eq_getElem hj')
    rw [Nat.zero_add, List.getElem?_eq_getElem hj, Option.some.injEq] at hw
    simpa [hw] using ht
  · intro heq
    refine ⟨by simpa using congrArg List.length heq, fun j v hv => ?_⟩
    have hj := congrArg (·[j]?) heq
    simp only [List.getElem?_map, hv, Option.map_some, Option.map_eq_some_iff] at hj
    rwa [Nat.zero_add]

/-- The guard of an argument list depends on the types only. -/
theorem forArguments_congr {vs ws : List Value}
    (h : vs.map Value.runtimeType = ws.map Value.runtimeType) :
    forArguments vs = forArguments ws := by
  have hlen : vs.length = ws.length := by simpa using congrArg List.length h
  rw [forArguments, forArguments, hlen]
  exact classifiedFrom_congr _ _ h

/-! ## Objects ruled out -/

/-- Where the analysis says that objects are excluded, no object gets through. -/
theorem isObject_of_excludesObjects {i : Nat} (hex : g.excludesObjects i = true)
    (hp : g.passes args = true) {v : Value} (hv : args[i]? = some v) : v.isObject = false := by
  obtain ⟨t, ht, hex⟩ := List.any_eq_true.1 hex
  have hpass := (passes_iff g args).1 hp t ht
  rw [← Bool.not_eq_true, Value.isObject_iff_kind]
  intro hobj
  cases t with
  | argumentCount n => simp at hex
  | kindIs j k =>
    simp only [Bool.and_eq_true, beq_iff_eq, bne_iff_ne] at hex
    obtain ⟨rfl, hk⟩ := hex
    simp only [GuardTest.passes, hv, Option.any_some, beq_iff_eq] at hpass
    exact hk (hpass.symm.trans hobj)
  | typeIs j t =>
    cases t with
    | builtin k =>
      simp only [Bool.and_eq_true, beq_iff_eq, bne_iff_ne] at hex
      obtain ⟨rfl, -⟩ := hex
      simp only [GuardTest.passes, hv, Option.any_some, beq_iff_eq] at hpass
      have := Value.isObject_of_runtimeType_eq_builtin hpass
      rw [← Bool.not_eq_true, Value.isObject_iff_kind] at this
      exact this hobj
    | instanceOf c => simp at hex
    | native t => simp at hex
  | identityIs j target =>
    simp only [Bool.and_eq_true, beq_iff_eq, Bool.not_eq_true'] at hex
    obtain ⟨rfl, htarget⟩ := hex
    simp only [GuardTest.passes, hv, Option.any_some, Value.identical_iff] at hpass
    rw [← hpass, ← Bool.not_eq_true, Value.isObject_iff_kind] at htarget
    exact htarget hobj
  | notCallable j => simp at hex
  | plain j =>
    simp only [beq_iff_eq] at hex
    subst hex
    simp only [GuardTest.passes, hv, Option.any_some, Bool.not_eq_true'] at hpass
    rw [← Bool.not_eq_true, Value.isObject_iff_kind] at hpass
    exact hpass hobj

/-! ## The receiver -/

variable {g args}

/-- A list whose first argument passes a test of it has that argument. -/
theorem exists_cons_of_any_head {p : Value → Bool} (h : args[0]?.any p = true) :
    ∃ v tail, args = v :: tail ∧ p v = true := by
  cases args with
  | nil => simp at h
  | cons v tail => exact ⟨v, tail, rfl, by simpa using h⟩

/-- A test of the receiver's identity leaves one receiver. -/
theorem passes_identity_head {target : Value} (h : (g.identity 0 target).passes args = true) :
    g.passes args = true ∧ ∃ tail, args = target :: tail := by
  rw [passes_identity, Bool.and_eq_true] at h
  obtain ⟨v, tail, rfl, hv⟩ := exists_cons_of_any_head h.2
  rw [Value.identical_iff] at hv
  subst hv
  exact ⟨h.1, tail, rfl⟩

/-- A test of the receiver's class leaves the instances of the class. -/
theorem passes_instanceOf_head {c : ClassRef}
    (h : (g.exactType 0 (.instanceOf c)).passes args = true) :
    g.passes args = true ∧ ∃ id tail, args = .object (.classInstance id c) :: tail := by
  rw [passes_exactType, Bool.and_eq_true] at h
  obtain ⟨v, tail, rfl, hv⟩ := exists_cons_of_any_head h.2
  obtain ⟨id, rfl⟩ := Value.eq_classInstance_of_runtimeType (eq_of_beq hv)
  exact ⟨h.1, id, tail, rfl⟩

/-- A test of the receiver's type leaves receivers of that type. -/
theorem passes_classified_head {v : Value} (h : (g.classified 0 v).passes args = true) :
    g.passes args = true ∧ ∃ w tail, args = w :: tail ∧ w.runtimeType = v.runtimeType := by
  rw [passes_classified, Bool.and_eq_true] at h
  obtain ⟨w, tail, rfl, hw⟩ := exists_cons_of_any_head h.2
  exact ⟨h.1, w, tail, rfl, eq_of_beq hw⟩

end Guard

end DynamicBinding
