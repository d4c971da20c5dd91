import DynamicBinding.Proofs.Machine.Conversion
import DynamicBinding.Proofs.Machine.Membership
/-!
# Negated operators

Three operators have a negated form: membership, identity and equality.  Each form is resolved and
run by itself, and gives the opposite of the other.

* `Opposes` says of two computations that the second gives the opposite of the bool that the first
  gives, and stops as it does.  There is a rule for each way of putting computations together.
* `Script.opposes_run` says it of what implements the operators, and `Script.opposes_through` of the
  plans that ask an object whether it contains a value.
* `Machine.Sound.opposite_of_plans` takes it from plans to calls of sites, whatever they have kept.
* `Machine.Sound.negations_opposite`: the negated forms are opposite for all values, unless an
  object answers for equality itself.
-/

namespace DynamicBinding

open Exec Script

variable {m n : Machine} {l : Language} {operator negated : Operator} {args : List Value}
  {x y v : Value} {s : Store} {α σ : Type}

/-! ## Opposite computations -/

/-- The opposite of a bool.  Other values stay what they are. -/
def Value.opposite : Value → Value
  | .bool b => .bool !b
  | v => v

/-- The answer with the opposite of its value.  Errors stay what they are. -/
def Answer.opposite : Answer → Answer := Except.map Value.opposite

/-- The opposite of the opposite is the value itself. -/
theorem Value.involutive_opposite : Function.Involutive Value.opposite := by
  intro v
  cases v with
  | bool b => cases b <;> rfl
  | _ => rfl

/-- The opposite of the opposite is the answer itself. -/
theorem Answer.involutive_opposite : Function.Involutive Answer.opposite := by
  intro answer
  cases answer with
  | error stop => rfl
  | ok v => exact congrArg Except.ok (Value.involutive_opposite v)

/-- The second computation gives the opposite of the bool that the first gives, stops as it does,
and leaves what it leaves. -/
structure Opposes (x y : ExceptT Stop (StateM σ) Value) : Prop where
  isBool : Gives (·.kind = .bool) x
  opposed : ∀ s, y.run.run s = (Answer.opposite (x.run.run s).1, (x.run.run s).2)

namespace Opposes

/-- Comparing a bool with `false` and with `true` gives opposite answers. -/
theorem pure (b : Bool) :
    Opposes (pure (.bool (b != false)) : ExceptT Stop (StateM σ) Value)
      (pure (.bool (b != true))) where
  isBool := .pure rfl
  opposed s := by cases b <;> rfl

/-- Opposite computations may begin with the same one. -/
theorem bind {x : ExceptT Stop (StateM σ) α} {f g : α → ExceptT Stop (StateM σ) Value}
    (h : ∀ a, Opposes (f a) (g a)) : Opposes (x >>= f) (x >>= g) where
  isBool := .bind fun a => (h a).isBool
  opposed s := by
    rw [run_bind, run_bind]
    rcases x.run.run s with ⟨answer, t⟩
    cases answer with
    | error stop => rfl
    | ok a => exact (h a).opposed t

/-- Opposite computations on the store are opposite on the machine. -/
theorem onStore {x y : Effect Value} (h : Opposes x y) : Opposes (onStore x) (Exec.onStore y) where
  isBool := .onStore h.isBool
  opposed m := by rw [run_onStore, h.opposed, run_onStore]

end Opposes

/-! ## Opposite calls -/

/-- On the machine, the second task succeeds where the first one does, with the opposite bool and
the same store, and fails where it fails. -/
structure Task.Opposite (m : Machine) (t u : Task) : Prop where
  isBool : ∀ v s, t.ComesTo .kept m (.ok v) s → v.kind = .bool
  succeeds : ∀ v s, t.ComesTo .kept m (.ok v) s ↔ u.ComesTo .kept m (.ok v.opposite) s
  fails : ∀ s, (∃ e, t.ComesTo .kept m (.error (.error e)) s) ↔
    ∃ e, u.ComesTo .kept m (.error (.error e)) s

/-- On the machine, both tasks fail with the same errors and leave the same store. -/
def Task.FailsAlike (m : Machine) (t u : Task) : Prop :=
  ∀ e s, t.ComesTo .kept m (.error (.error e)) s ↔ u.ComesTo .kept m (.error (.error e)) s

/-- Where the second task gives the opposite of the first, a number of steps later, so it does with
what the tasks come to. -/
theorem Task.comesTo_opposite {t u : Task} {answer : Answer} (later : Nat)
    (h : ∀ depth, (run .fresh (depth + later) u).run.run n =
      (Answer.opposite ((run .fresh depth t).run.run n).1, ((run .fresh depth t).run.run n).2)) :
    t.ComesTo .fresh n answer s ↔ u.ComesTo .fresh n (Answer.opposite answer) s := by
  have hdiverged : ∀ answer : Answer,
      Answer.opposite answer ≠ .error .diverged ↔ answer ≠ .error .diverged := by
    intro answer
    cases answer with
    | error stop => rfl
    | ok v => exact iff_of_true nofun nofun
  constructor
  · rintro ⟨hanswer, depth, rfl, rfl⟩
    exact ⟨(hdiverged _).2 hanswer, depth + later, by rw [h], by rw [h]⟩
  · rintro ⟨hanswer, depth, hgiven, rfl⟩
    -- the second task is given more steps, so that the first is given as many as it needs
    have hmore := run_below_of_le .fresh (Nat.le_add_right depth later) u n (hgiven ▸ hanswer)
    rw [h] at hmore
    have hsame : Answer.opposite ((run .fresh depth t).run.run n).1 = Answer.opposite answer :=
      (congrArg Prod.fst hmore).trans hgiven
    exact ⟨(hdiverged _).1 hanswer, depth, Answer.involutive_opposite.injective hsame,
      congrArg (·.2.store) hmore⟩

/-- Tasks that only fail are opposite. -/
theorem Task.Opposite.of_fails {t u : Task} {e e' : RuntimeError}
    (ht : t.ComesTo .kept m (.error (.error e)) s) (hu : u.ComesTo .kept m (.error (.error e')) s) :
    Task.Opposite m t u where
  isBool v s' hcomes := by cases (hcomes.unique ht).1
  succeeds v s' :=
    iff_of_false (fun hcomes => by cases (hcomes.unique ht).1) fun hcomes => by
      cases (hcomes.unique hu).1
  fails s' := by
    constructor
    · rintro ⟨e, hcomes⟩
      exact ⟨e', (hcomes.unique ht).2 ▸ hu⟩
    · rintro ⟨e', hcomes⟩
      exact ⟨e, (hcomes.unique hu).2 ▸ ht⟩

section Calls

variable {b b' : Binder} (haccepts : b.operation.Accepts args)
  (haccepts' : b'.operation.Accepts args)
  (h : ∀ p, Opposes (execute p (b.resolve args).plan args) (execute p (b'.resolve args).plan args))

include haccepts haccepts' h

/-- Where nothing is kept, the runs of both calls come to their plans in one step. -/
theorem run_invoke_opposite (n : Machine) (depth : Nat) :
    (run .fresh depth (.invoke b' none args)).run.run n =
      (Answer.opposite ((run .fresh depth (.invoke b none args)).run.run n).1,
        ((run .fresh depth (.invoke b none args)).run.run n).2) := by
  match depth with
  | 0 => rfl
  | 1 =>
    rw [run_invoke_none haccepts, run_invoke_none haccepts']
    rfl
  | depth + 2 =>
    rw [run_invoke_none haccepts, run_invoke_none haccepts']
    exact (h (run .fresh depth)).opposed n

omit haccepts' in
/-- A call with an opposite succeeds with a bool only. -/
theorem isBool_of_comesTo (hcomes : (Task.invoke b none args).ComesTo .fresh n (.ok v) s) :
    v.kind = .bool := by
  obtain ⟨-, depth, hanswer, -⟩ := hcomes
  match depth with
  | 0 => cases hanswer
  | 1 =>
    rw [run_invoke_none haccepts] at hanswer
    cases hanswer
  | depth + 2 =>
    rw [run_invoke_none haccepts] at hanswer
    exact (h (run .fresh depth)).isBool n v hanswer

/-- **Opposite plans make opposite calls**, through sites with any history. -/
theorem Machine.Sound.opposite_of_plans (hm : m.Sound) {site site' : Option Nat}
    (hsite : m.Admits site b) (hsite' : m.Admits site' b') (hargs : RecordFreeArgs args) :
    Task.Opposite m (.invoke b site args) (.invoke b' site' args) ∧
      Task.FailsAlike m (.invoke b site args) (.invoke b' site' args) := by
  obtain ⟨n, hn⟩ := hm
  -- what sites have kept makes no difference, so both calls are compared where nothing is kept
  have hopposite : ∀ answer s, (Task.invoke b site args).ComesTo .kept m answer s ↔
      (Task.invoke b' site' args).ComesTo .kept m (Answer.opposite answer) s := by
    intro answer s
    rw [Task.comesTo_kept_iff hn (.invoke none hsite hargs),
      Task.comesTo_kept_iff hn (.invoke none hsite' hargs)]
    exact Task.comesTo_opposite 0 (run_invoke_opposite haccepts haccepts' h n)
  have hfails : ∀ e s, (Task.invoke b site args).ComesTo .kept m (.error (.error e)) s ↔
      (Task.invoke b' site' args).ComesTo .kept m (.error (.error e)) s :=
    fun e s => hopposite (.error (.error e)) s
  refine ⟨⟨fun v s hcomes => ?_, fun v s => hopposite (.ok v) s,
    fun s => exists_congr fun e => hfails e s⟩, hfails⟩
  rw [Task.comesTo_kept_iff hn (.invoke none hsite hargs)] at hcomes
  exact isBool_of_comesTo haccepts h hcomes

end Calls

/-! ## The three operators -/

/-- The operators that have a negated form, with that form. -/
def negations : List (Operator × Operator) :=
  [(.isIn, .notIn), (.isSame, .isNotSame), (.equal, .notEqual)]

/-- There are three operators with a negated form. -/
theorem mem_negations : (operator, negated) ∈ negations ↔
    (operator = .isIn ∧ negated = .notIn) ∨ (operator = .isSame ∧ negated = .isNotSame) ∨
      (operator = .equal ∧ negated = .notEqual) := by
  simp [negations]

/-- The value is an instance of a class that has a method for equality or for its opposite. -/
def Value.answersEquality : Value → Bool
  | .object (.classInstance _ c) => c.has "__eq__" || c.has "__ne__"
  | _ => false

namespace Script

/-- Membership is implemented for lists, tuples and pairs of texts. -/
theorem opposes_membership {implementation : BinaryImplementation}
    (h : BinaryImplementation.select? .isIn x.kind y.kind = some implementation) :
    Opposes (implementation.run .isIn x y) (implementation.run .notIn x y) := by
  cases y with
  | list id | tuple id =>
    cases h
    exact .bind fun s => .bind fun found => .pure found
  | str text =>
    cases x with
    | str needle =>
      cases h
      exact .pure _
    | _ => cases h
  | _ => cases x <;> cases h

/-- Both forms have one implementation, which gives a bool and its opposite. -/
theorem opposes_run {implementation : BinaryImplementation}
    (hnegated : (operator, negated) ∈ negations)
    (hselect : BinaryImplementation.select? operator x.kind y.kind = some implementation) :
    BinaryImplementation.select? negated x.kind y.kind = some implementation ∧
      Opposes (implementation.run operator x y) (implementation.run negated x y) := by
  rcases mem_negations.1 hnegated with ⟨rfl, rfl⟩ | ⟨rfl, rfl⟩ | ⟨rfl, rfl⟩
  · exact ⟨hselect, opposes_membership hselect⟩
  · cases hselect
    exact ⟨rfl, .pure _⟩
  · cases hselect
    exact ⟨rfl, .bind fun s => .bind fun equal => .pure equal⟩

/-- An object is asked whether it contains the value, for both forms. -/
theorem opposes_through (p : Perform) (inner : Binder) (x y : Value) :
    Opposes (execute p (.through inner none (.membership false)) [x, y])
      (execute p (.through inner none (.membership true)) [x, y]) :=
  .bind fun found => .bind fun m => .pure (m.store.isTruthy found)

/-! ### What the forms are resolved to -/

/-- No object in front answers for either form, unless it answers for equality. -/
theorem declines_negations (hnegated : (operator, negated) ∈ negations) (hx : x.RecordFree)
    (hequal : operator = .equal → x.answersEquality = false) (y : Value) :
    ∀ o, x = .object o →
      o.bind (.binary operator) [x, y] = none ∧ o.bind (.binary negated) [x, y] = none := by
  rintro o rfl
  cases o with
  | record r => cases hx
  | classObject c => exact ⟨rfl, rfl⟩
  | inert id name => exact ⟨rfl, rfl⟩
  | classInstance id c =>
    rcases mem_negations.1 hnegated with ⟨rfl, rfl⟩ | ⟨rfl, rfl⟩ | ⟨rfl, rfl⟩
    · exact ⟨rfl, rfl⟩
    · exact ⟨rfl, rfl⟩
    · have hmethods : c.has "__eq__" = false ∧ c.has "__ne__" = false := by
        simpa [Value.answersEquality] using hequal rfl
      simp [Object.bind, ClassRef.bindInstance, Operator.method?, ClassRef.methodBinding?, hmethods]

section Resolution

variable (hl : l.Scripts) (harity : operator.arity = .binary)
  (hdeclines : ∀ o, x = .object o → o.bind (.binary operator) [x, y] = none)

include hl harity hdeclines

/-- The plan is what the script language selects, or the failure of the fallback. -/
theorem plan_resolve_binary :
    (Binder.resolve ⟨.binary operator, l⟩ [x, y]).plan =
      match bindBinary ⟨.binary operator, l⟩ operator [x, y] with
      | some binding => binding.plan
      | none => .fail (.unsupported (.binary operator) x.typeName) := by
  have hmismatch : (Operation.binary operator).arityMismatch? = none := if_pos harity
  refine plan_resolve hl hmismatch ?_
  rintro o rest ⟨⟩
  exact hdeclines o rfl

/-- Membership in an object is asked of the object. -/
theorem plan_resolve_member (hoperator : operator = .isIn ∨ operator = .notIn)
    (hy : y.isObject = true) :
    (Binder.resolve ⟨.binary operator, l⟩ [x, y]).plan =
      .through ⟨.invokeMember "__contains__" false 1, l⟩ none
        (.membership (operator == .notIn)) := by
  rw [plan_resolve_binary hl harity hdeclines]
  rcases hoperator with rfl | rfl <;> simp [bindBinary, hy, Binder.rebind]

/-- Otherwise the language has an implementation for the kinds or declines. -/
theorem plan_resolve_select
    (hcontainer : ((operator == .isIn || operator == .notIn) && y.isObject) = false) :
    (Binder.resolve ⟨.binary operator, l⟩ [x, y]).plan =
      match BinaryImplementation.select? operator x.kind y.kind with
      | some implementation => .binary implementation operator
      | none => .fail (.unsupported (.binary operator) x.typeName) := by
  rw [plan_resolve_binary hl harity hdeclines]
  simp only [bindBinary, hcontainer, Bool.false_eq_true, if_false]
  cases BinaryImplementation.select? operator x.kind y.kind <;> rfl

end Resolution

end Script

namespace Machine.Sound

/-- Where nothing is kept, the object is asked in the second step, and the truth of what it gives is
the answer. -/
theorem run_member (hl : l.Scripts) (hx : x.RecordFree) (hobject : y.isObject = true) (n : Machine)
    (depth : Nat) :
    (run .fresh (depth + 2) (.invoke ⟨.binary .isIn, l⟩ none [x, y])).run.run n =
      let asked := (run .fresh depth
        (.invoke ⟨.invokeMember "__contains__" false 1, l⟩ none [y, x])).run.run n
      (asked.1.map fun v => .bool (asked.2.store.isTruthy v), asked.2) := by
  have hdeclines := declines_negations (.head _) hx (fun h => by cases h) y
  rw [run_invoke_none (Operation.accepts_binary .isIn x y),
    plan_resolve_member hl rfl (fun o ho => (hdeclines o ho).1) (.inl rfl) hobject]
  show (run .fresh depth (.invoke ⟨.invokeMember "__contains__" false 1, l⟩ none [y, x]) >>=
    _).run.run n = _
  rw [run_bind]
  rcases (run .fresh depth (.invoke ⟨.invokeMember "__contains__" false 1, l⟩ none
    [y, x])).run.run n with ⟨found, left⟩
  cases found with
  | error stop => rfl
  | ok v =>
    show (Except.ok (Value.bool (left.store.isTruthy v != false)), left) = _
    rw [Bool.bne_false]
    rfl

/-- What membership in an object comes to is the truth of what the object gives when it is asked, at
the time when it has given it. -/
theorem comesTo_member_iff (hm : m.Sound) (hl : l.Scripts) (hx : x.RecordFree) (hy : y.RecordFree)
    (hobject : y.isObject = true) {site callSite : Option Nat}
    (hsite : m.Admits site ⟨.binary .isIn, l⟩)
    (hcall : m.Admits callSite ⟨.invokeMember "__contains__" false 1, l⟩) {answer : Answer} :
    (Task.invoke ⟨.binary .isIn, l⟩ site [x, y]).ComesTo .kept m answer s ↔
      ∃ found : Answer, (Task.invoke ⟨.invokeMember "__contains__" false 1, l⟩ callSite
          [y, x]).ComesTo .kept m found s ∧
        answer = found.map fun v => .bool (s.isTruthy v) := by
  obtain ⟨n, hn⟩ := hm
  rw [Task.comesTo_kept_iff hn (.invoke none hsite (.cons hx (.cons hy .nil)))]
  simp only [Task.comesTo_kept_iff hn (.invoke none hcall (.cons hy (.cons hx .nil)))]
  have hrun := run_member hl hx hobject n
  -- asking takes two steps more than what is asked; less than that gives no answer
  constructor
  · rintro ⟨hanswer, depth, rfl, rfl⟩
    match depth with
    | 0 => exact (hanswer rfl).elim
    | 1 =>
      rw [run_invoke_none (Operation.accepts_binary .isIn x y)] at hanswer
      exact (hanswer rfl).elim
    | depth + 2 =>
      rw [hrun] at hanswer ⊢
      refine ⟨_, ⟨fun hfound => hanswer ?_, depth, rfl, rfl⟩, rfl⟩
      simp only [hfound]
      rfl
  · rintro ⟨found, ⟨hfound, depth, rfl, rfl⟩, rfl⟩
    refine ⟨fun hanswer => hfound ?_, depth + 2, by rw [hrun], by rw [hrun]⟩
    cases hasked : ((run .fresh depth (.invoke ⟨.invokeMember "__contains__" false 1, l⟩ none
      [y, x])).run.run n).1 with
    | error stop =>
      rw [hasked] at hanswer
      exact hanswer
    | ok v =>
      rw [hasked] at hanswer
      cases hanswer

/-- Both forms of membership in an object. -/
theorem opposite_member (hm : m.Sound) (hl : l.Scripts) (hx : x.RecordFree) (hy : y.RecordFree)
    (hobject : y.isObject = true) {site negatedSite : Option Nat}
    (hsite : m.Admits site ⟨.binary .isIn, l⟩)
    (hnegatedSite : m.Admits negatedSite ⟨.binary .notIn, l⟩) :
    Task.Opposite m (.invoke ⟨.binary .isIn, l⟩ site [x, y])
        (.invoke ⟨.binary .notIn, l⟩ negatedSite [x, y]) ∧
      Task.FailsAlike m (.invoke ⟨.binary .isIn, l⟩ site [x, y])
        (.invoke ⟨.binary .notIn, l⟩ negatedSite [x, y]) := by
  have hdeclines := declines_negations (.head _) hx (fun h => by cases h) y
  refine hm.opposite_of_plans (Operation.accepts_binary .isIn x y)
    (Operation.accepts_binary .notIn x y) (fun p => ?_)
    hsite hnegatedSite (.cons hx (.cons hy .nil))
  rw [plan_resolve_member hl rfl (fun o ho => (hdeclines o ho).1) (.inl rfl) hobject,
    plan_resolve_member hl rfl (fun o ho => (hdeclines o ho).2) (.inr rfl) hobject]
  exact opposes_through p _ x y

/-- Both forms where no object is asked.  If the language has no implementation for the kinds, each
form fails by itself. -/
theorem opposite_builtin (hm : m.Sound) (hl : l.Scripts) (hx : x.RecordFree) (hy : y.RecordFree)
    (hnegated : (operator, negated) ∈ negations)
    (hequal : operator = .equal → x.answersEquality = false)
    (hcontainer : operator = .isIn → y.isObject = false) {site negatedSite : Option Nat}
    (hsite : m.Admits site ⟨.binary operator, l⟩)
    (hnegatedSite : m.Admits negatedSite ⟨.binary negated, l⟩) :
    Task.Opposite m (.invoke ⟨.binary operator, l⟩ site [x, y])
      (.invoke ⟨.binary negated, l⟩ negatedSite [x, y]) := by
  have hargs : RecordFreeArgs [x, y] := .cons hx (.cons hy .nil)
  have hdeclines := declines_negations hnegated hx hequal y
  have hforms : (operator.arity = .binary ∧ negated.arity = .binary) ∧
      ((operator == .isIn || operator == .notIn) && y.isObject) = false ∧
      ((negated == .isIn || negated == .notIn) && y.isObject) = false := by
    rcases mem_negations.1 hnegated with ⟨rfl, rfl⟩ | ⟨rfl, rfl⟩ | ⟨rfl, rfl⟩
    · rw [hcontainer rfl]
      exact ⟨⟨rfl, rfl⟩, rfl, rfl⟩
    · exact ⟨⟨rfl, rfl⟩, rfl, rfl⟩
    · exact ⟨⟨rfl, rfl⟩, rfl, rfl⟩
  have hplan := plan_resolve_select hl hforms.1.1 (fun o ho => (hdeclines o ho).1) hforms.2.1
  have hplan' := plan_resolve_select hl hforms.1.2 (fun o ho => (hdeclines o ho).2) hforms.2.2
  cases hselect : BinaryImplementation.select? operator x.kind y.kind with
  | some implementation =>
    obtain ⟨hselect', hopposes⟩ := opposes_run hnegated hselect
    refine (hm.opposite_of_plans (Operation.accepts_binary operator x y)
      (Operation.accepts_binary negated x y)
      (fun p => ?_) hsite hnegatedSite hargs).1
    rw [hplan, hplan', hselect, hselect']
    exact .onStore hopposes
  | none =>
    have hselect' : BinaryImplementation.select? negated x.kind y.kind = none := by
      rw [← hselect]
      rcases mem_negations.1 hnegated with ⟨rfl, rfl⟩ | ⟨rfl, rfl⟩ | ⟨rfl, rfl⟩ <;> rfl
    rw [hselect] at hplan
    rw [hselect'] at hplan'
    refine .of_fails
      (hm.comesTo_of_execute (.error (.unsupported (.binary operator) x.typeName))
        (Operation.accepts_binary operator x y) hsite hargs (s := m.store) fun p n hn => ?_)
      (hm.comesTo_of_execute (.error (.unsupported (.binary negated) x.typeName))
        (Operation.accepts_binary negated x y) hnegatedSite hargs fun p n hn => ?_)
    · rw [hplan, ← hn]
      rfl
    · rw [hplan', ← hn]
      rfl

/-- **The negated operators are exact complements**, through sites with any history.

* Where membership, identity or equality succeeds, the negated form succeeds with the opposite bool,
  and the other way round; where one fails, so does the other.  For equality the first operand must
  not be an instance that answers for equality or its opposite itself.
* Membership in an object is the truth of what the object gives when it is asked, whatever that is,
  and fails as the object fails.  The negated form fails with the same error. -/
theorem negations_opposite (hm : m.Sound) (hl : l.Scripts) (hx : x.RecordFree) (hy : y.RecordFree) :
    (∀ operator negated, (operator, negated) ∈ negations →
      (operator = .equal → x.answersEquality = false) → ∀ site negatedSite : Option Nat,
        m.Admits site ⟨.binary operator, l⟩ → m.Admits negatedSite ⟨.binary negated, l⟩ →
          Task.Opposite m (.invoke ⟨.binary operator, l⟩ site [x, y])
            (.invoke ⟨.binary negated, l⟩ negatedSite [x, y])) ∧
    (y.isObject = true → ∀ site negatedSite callSite : Option Nat,
      m.Admits site ⟨.binary .isIn, l⟩ → m.Admits negatedSite ⟨.binary .notIn, l⟩ →
      m.Admits callSite ⟨.invokeMember "__contains__" false 1, l⟩ →
        Task.FailsAlike m (.invoke ⟨.binary .isIn, l⟩ site [x, y])
            (.invoke ⟨.binary .notIn, l⟩ negatedSite [x, y]) ∧
          ∀ answer s, (Task.invoke ⟨.binary .isIn, l⟩ site [x, y]).ComesTo .kept m answer s ↔
            ∃ found : Answer, (Task.invoke ⟨.invokeMember "__contains__" false 1, l⟩ callSite
                [y, x]).ComesTo .kept m found s ∧
              answer = found.map fun v => .bool (s.isTruthy v)) := by
  constructor
  · intro operator negated hnegated hequal site negatedSite hsite hnegatedSite
    by_cases hcontainer : operator = .isIn → y.isObject = false
    · exact hm.opposite_builtin hl hx hy hnegated hequal hcontainer hsite hnegatedSite
    · obtain ⟨rfl, hobject⟩ : operator = .isIn ∧ y.isObject = true := by simpa using hcontainer
      obtain rfl : negated = .notIn := by simpa [mem_negations] using hnegated
      exact (hm.opposite_member hl hx hy hobject hsite hnegatedSite).1
  · intro hobject site negatedSite callSite hsite hnegatedSite hcall
    exact ⟨(hm.opposite_member hl hx hy hobject hsite hnegatedSite).2,
      fun answer s => hm.comesTo_member_iff hl hx hy hobject hsite hcall⟩

end Machine.Sound

namespace Client

/-- A user who makes an instance of a class with the methods. -/
def makingInstanceWith (methods : List (String × Option Nat × Expr)) : Client :=
  .ask (.openSite "new" ⟨.createInstance 0, default⟩ 4) fun _ =>
    .ask (.make (.newClass "C" methods [])) fun made =>
      match made with
      | .ok c => .ask (.call "new" [c]) fun _ => .done
      | .error _ => .done

/-- The machine with the instance is sound. -/
theorem sound_makingInstanceWith {methods : List (String × Option Nat × Expr)}
    (h : (Literal.newClass "C" methods []).recordFree = true) (main : Language) (depth : Nat) :
    ((makingInstanceWith methods).left depth main).Sound := by
  have hclient : (makingInstanceWith methods).RecordFree := by
    refine ⟨trivial, fun _ _ => ⟨h, fun made hmade => ?_⟩⟩
    cases made with
    | error stop => trivial
    | ok c => exact ⟨RecordFreeArgs.cons (hmade c rfl) RecordFreeArgs.nil, fun _ _ => trivial⟩
  exact sound_left hclient main depth

end Client

/-- A container that gives back what it is asked for: five is in it, as five counts as true. -/
theorem Machine.Sound.negations_opposite_container :
    let m := (Client.makingInstanceWith [("__contains__", some 2, .arg 1)]).left 9 default
    let y := Value.object (.classInstance 0 ⟨0, "C", ["__contains__"]⟩)
    ∃ s, (Task.invoke ⟨.binary .isIn, default⟩ none [.int 5, y]).ComesTo .kept m
        (.ok (.bool true)) s ∧
      (Task.invoke ⟨.binary .notIn, default⟩ none [.int 5, y]).ComesTo .kept m
        (.ok (.bool false)) s := by
  intro m y
  have hm : m.Sound := Client.sound_makingInstanceWith rfl default 9
  have hfound : (Task.invoke ⟨.invokeMember "__contains__" false 1, default⟩ none
      [y, .int 5]).ComesTo .kept m (.ok (.int 5)) _ := ⟨nofun, 9, rfl, rfl⟩
  obtain ⟨hopposite, hmember⟩ :=
    hm.negations_opposite (l := default) (.inl rfl) (x := .int 5) (y := y) rfl rfl
  have hin := ((hmember rfl none none none (m.admits_none _) (m.admits_none _)
    (m.admits_none _)).2 (.ok (.bool true)) _).2 ⟨_, hfound, rfl⟩
  have hnotIn := ((hopposite .isIn .notIn (.head _) nofun none none (m.admits_none _)
    (m.admits_none _)).succeeds (.bool true) _).1 hin
  exact ⟨_, hin, hnotIn⟩

end DynamicBinding
