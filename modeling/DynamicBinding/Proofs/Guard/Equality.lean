import DynamicBinding.Proofs.Site.Recency
/-!
# Equality of guards

A conjunction leaves out the tests that are there already, and a site replaces the binding that has
an equal guard.  Both go by the equality of tests.

* `GuardTest.same` and `Guard.same` spell out that equality form by form, with the identity of
  values where a test has a value for its target.  By `Guard.same_eq_beq` it is the equality that
  conjunctions and sites decide by.
* `Guard.passes_of_same`: equal guards let through the same argument lists.
* `Guard.algebra_lawful`: conjunctions and replacements widen nothing and lose nothing.
* `Guard.forArguments_classifies`: the guard of an argument list is a function of the exact types,
  and tells them apart.
-/

namespace DynamicBinding

/-! ## Tests -/

/-- Whether two tests are of one form and ask for the same at the same place.  Targets are compared
by identity. -/
def GuardTest.same : GuardTest → GuardTest → Bool
  | .argumentCount a, .argumentCount b => a == b
  | .kindIs i a, .kindIs j b => i == j && a == b
  | .typeIs i a, .typeIs j b => i == j && a == b
  | .identityIs i a, .identityIs j b => i == j && a.identical b
  | .notCallable i, .notCallable j => i == j
  | .plain i, .plain j => i == j
  | _, _ => false

/-- It is the equality that conjunctions decide by. -/
theorem GuardTest.same_eq_beq (t u : GuardTest) : t.same u = (t == u) := by
  rw [Bool.eq_iff_iff]
  cases t <;> cases u <;> simp [same]

/-- Floats are identical bit by bit, whatever they are as numbers. -/
theorem Value.identical_float (x y : Binary64) :
    (Value.float x).identical (.float y) = (x.bits == y.bits) := by
  rw [Bool.eq_iff_iff]
  cases x
  cases y
  simp

namespace Guard

variable {g h : Guard} {args : List Value}

/-! ## Guards -/

/-- Whether two guards have the same tests in the same order. -/
def same (g h : Guard) : Bool := g.tests.isEqv h.tests GuardTest.same

/-- It is the equality that sites decide by. -/
theorem same_eq_beq (g h : Guard) : g.same h = (g == h) := by
  obtain ⟨ts⟩ := g
  obtain ⟨us⟩ := h
  have htests : ts.isEqv us GuardTest.same = (ts == us) := by
    induction ts generalizing us with
    | nil => cases us <;> rfl
    | cons t ts ih =>
      cases us with
      | nil => rfl
      | cons u us => rw [List.isEqv, List.cons_beq_cons, GuardTest.same_eq_beq, ih]
  rw [same, htests, Bool.eq_iff_iff, beq_iff_eq, beq_iff_eq, Guard.mk.injEq]

/-- Guards with the same tests in the same order are equal. -/
theorem same_iff_eq : g.same h = true ↔ g = h := by
  rw [same_eq_beq, beq_iff_eq]

/-- Being equal test by test is an equivalence. -/
theorem equivalence_same : Equivalence fun g h : Guard => g.same h = true where
  refl _ := same_iff_eq.2 rfl
  symm hsame := same_iff_eq.2 (same_iff_eq.1 hsame).symm
  trans hsame hsame' := same_iff_eq.2 ((same_iff_eq.1 hsame).trans (same_iff_eq.1 hsame'))

/-- Equal guards let through the same argument lists. -/
theorem passes_of_same (hsame : g.same h = true) (args : List Value) :
    g.passes args = h.passes args := by
  rw [same_iff_eq.1 hsame]

/-! ## Conjunctions -/

/-- No two tests of the guard are equal. -/
def Distinct (g : Guard) : Prop := g.tests.Pairwise fun t u => t.same u = false

/-- No two tests are equal where none occurs twice. -/
theorem distinct_iff_nodup : g.Distinct ↔ g.tests.Nodup := by
  unfold Distinct List.Nodup
  simp only [GuardTest.same_eq_beq, beq_eq_false_iff_ne]

/-- A conjunction with one test more takes it in unless it is there. -/
theorem and_cons (g : Guard) (t : GuardTest) (ts : List GuardTest) :
    g.and ⟨t :: ts⟩ = (if t ∈ g.tests then g else g.add t).and ⟨ts⟩ := by
  by_cases ht : t ∈ g.tests <;> simp [Guard.and, add, ht]

/-- The tests of the first part stay where they are. -/
theorem prefix_tests_and (g h : Guard) : g.tests <+: (g.and h).tests := by
  obtain ⟨ts⟩ := h
  -- each test of the second part goes into the first part, or is left out
  induction ts generalizing g with
  | nil => exact List.prefix_refl _
  | cons t ts ih =>
    rw [and_cons]
    split
    · exact ih g
    · exact (List.prefix_append g.tests [t]).trans (ih (g.add t))

/-- A conjunction takes no test in twice. -/
theorem nodup_tests_and (hg : g.tests.Nodup) (h : Guard) : (g.and h).tests.Nodup := by
  obtain ⟨ts⟩ := h
  induction ts generalizing g with
  | nil => exact hg
  | cons t ts ih =>
    rw [and_cons]
    split
    · exact ih hg
    · next hnew =>
      apply ih
      rw [add, ← List.concat_eq_append]
      exact hg.concat hnew

/-! ## What the algebra is worth -/

/-- **Conjunctions and replacements are lawful.**

* A conjunction lets through what both parts let through.  It begins with the tests of the first
  part, and has no two equal tests if the first part has none.
* Equality of guards, form by form and with targets compared by identity, is an equivalence.  It is
  what conjunctions and sites decide by, and it tells floats apart by their bits.
* Equal guards let through the same argument lists.  So a site that replaces a binding by one with
  an equal guard has a binding for the same argument lists as before. -/
theorem algebra_lawful :
    (∀ (g h : Guard) (args : List Value),
      (g.and h).passes args = (g.passes args && h.passes args)) ∧
    (∀ g h : Guard, g.tests <+: (g.and h).tests ∧ (g.Distinct → (g.and h).Distinct)) ∧
    Equivalence (fun g h : Guard => g.same h = true) ∧
    (∀ g h : Guard, g.same h = (g == h)) ∧
    (∀ x y : Binary64, (Value.float x).identical (.float y) = (x.bits == y.bits)) ∧
    (∀ g h : Guard, g.same h = true → ∀ args, g.passes args = h.passes args) ∧
    ∀ (s : Site) (β γ : Binding), γ ∈ s.bindings → γ.guard.same β.guard = true →
      s.bindings.length ≤ s.capacity → ∀ args,
        ((s.install β).lookup? args).isSome = (s.lookup? args).isSome := by
  refine ⟨passes_and, fun g h => ⟨prefix_tests_and g h, fun hg => ?_⟩, equivalence_same, same_eq_beq,
    Value.identical_float, fun g h => passes_of_same, fun s β γ hγ hsame hfits args => ?_⟩
  · rw [distinct_iff_nodup] at hg ⊢
    exact nodup_tests_and hg h
  · have hkept : β.guard ∈ s.guards := by
      rw [← same_iff_eq.1 hsame]
      exact List.mem_map_of_mem hγ
    exact Site.isSome_lookup?_congr (Site.perm_guards_install hkept hfits) args

/-- A site with room for one binding keeps one for a certain NaN, and replaces it.  The NaN of the
other sign is another value. -/
theorem algebra_lawful_nan :
    let nan (negative : Bool) : Value := .float (.nan negative)
    let g := (arity 1).identity 0 (nan false)
    let h := always.identity 0 (nan true)
    let kept : Binding := { guard := g, plan := .receiver }
    let other : Binding := { guard := g, plan := .constant .nothing }
    let s := (Site.withCapacity ⟨.unary .not, default⟩ 1).install kept
    (g.and h).Distinct ∧ (g.and h).passes [nan false] = false ∧ g.same h = false ∧
      ((s.install other).lookup? [nan false]).isSome = true ∧
      ((s.install other).lookup? [nan true]).isSome = false := by
  intro nan g h kept other s
  obtain ⟨hand, htests, -, hequal, -, hpasses, hreplaced⟩ := algebra_lawful
  have hreplaced := hreplaced s other kept (.head _) (by decide) (Nat.le_refl 1)
  refine ⟨(htests g h).2 ?_, ?_, ?_, ?_, ?_⟩
  · exact List.Pairwise.cons (by decide) (List.pairwise_singleton _ _)
  · rw [hand]
    decide
  · rw [hequal]
    decide
  · rw [hreplaced]
    decide
  · rw [hreplaced]
    decide

/-! ## Classes of arguments -/

/-- **The guard of an argument list classifies by exact type.**  It lets through the lists of the
same length with the same types, position by position, and it equals the guard of another list in
just that case.  Builtin values are tested by their kind and objects by their type; no object has
the type of a builtin value, so neither test lets through what the other is for. -/
theorem forArguments_classifies (a b : List Value) :
    ((forArguments a).passes b = true ↔
        List.Forall₂ (fun v w => v.runtimeType = w.runtimeType) a b) ∧
      ((forArguments a).same (forArguments b) = true ↔
        List.Forall₂ (fun v w => v.runtimeType = w.runtimeType) a b) := by
  have htypes : List.Forall₂ (fun v w => v.runtimeType = w.runtimeType) a b ↔
      b.map Value.runtimeType = a.map Value.runtimeType := by
    rw [eq_comm, ← List.forall₂_eq_eq_eq, List.forall₂_map_left_iff, List.forall₂_map_right_iff]
  have hpasses : (forArguments a).passes b = true ↔ _ := passes_forArguments b a
  rw [htypes]
  refine ⟨hpasses, fun hsame => ?_, fun heq => same_iff_eq.2 (forArguments_congr heq.symm)⟩
  rw [← hpasses, passes_of_same hsame, passes_forArguments]

end Guard

end DynamicBinding
