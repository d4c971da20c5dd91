import DynamicBinding.Proofs.Machine.Implicit
import DynamicBinding.Proofs.Machine.Negation
/-!
# Truth and its negation

The truth of a value is what it is explicitly converted to as a bool, and the operator `not` gives
its opposite.  For builtin values both look at the value.  For an object the operator performs the
conversion inside its plan, through a site of its own, and the conversion may run a method of the
class.

* `Script.opposes_truth` compares the two plans of a builtin value.
* `Machine.Sound.run_not_object`: for an object the operator is two steps behind the conversion.
* `Machine.Sound.not_opposes_truth`: both come to an end together, with opposite bools or with the
  same error, whatever the sites have kept.
-/

namespace DynamicBinding

open Exec Script

variable {m : Machine} {l : Language} {v w : Value} {s : Store}

/-- The opposite of a value is of the same kind. -/
theorem Value.kind_opposite (v : Value) : v.opposite.kind = v.kind := by
  cases v <;> rfl

namespace Script

/-- `Not` takes one operand. -/
theorem accepts_not (v : Value) : (Operation.unary .not).Accepts [v] := by
  rintro _ ⟨⟩
  rfl

/-- No object answers for its negation. -/
theorem declines_not (hv : v.RecordFree) :
    ∀ o rest, [v] = .object o :: rest → o.bind (.unary .not) [v] = none := by
  rintro o rest ⟨⟩
  cases o with
  | record r => cases hv
  | _ => rfl

/-- `Not` of an object asks for its truth and takes the opposite. -/
theorem plan_resolve_not_object (hl : l.Scripts) (hv : v.RecordFree) (hobject : v.isObject = true) :
    (Binder.resolve ⟨.unary .not, l⟩ [v]).plan =
      .through ⟨.convert .bool true, l⟩ none .negatedTruth := by
  rw [plan_resolve hl rfl (declines_not hv)]
  simp [Operation.redirected, Script.bind, bindUnary, hobject, Binder.rebind]

/-- Of a builtin value, the plan of the operator gives the opposite of what that of the conversion
gives. -/
theorem opposes_truth (hl : l.Scripts) (hv : v.isObject = false) (p : Perform) :
    Opposes (execute p (Binder.resolve ⟨.convert .bool true, l⟩ [v]).plan [v])
      (execute p (Binder.resolve ⟨.unary .not, l⟩ [v]).plan [v]) := by
  have htruth : (Binder.resolve ⟨.convert .bool true, l⟩ [v]).plan = .convert .truth := by
    have hselect : Conversion.select? .bool v.kind true = some .truth := by
      cases v <;> rfl
    have hdecides : Decides (.convert .bool true) [v] (.convert .truth) :=
      decides_convert hv nofun rfl hselect
    exact hdecides.plan_resolve hl
  have hnot : (Binder.resolve ⟨.unary .not, l⟩ [v]).plan = .unary .not := by
    rw [plan_resolve hl rfl (Value.declines_of_isObject hv _ _)]
    simp [Operation.redirected, Script.bind, bindUnary, hv, UnaryImplementation.select?]
  have hopposes : Opposes (Conversion.truth.run v) (UnaryImplementation.not.run v) := by
    refine .bind fun s => ?_
    have hpure := Opposes.pure (σ := Store) (s.isTruthy v)
    rwa [Bool.bne_false, Bool.bne_true] at hpure
  rw [htruth, hnot]
  exact .onStore hopposes

end Script

/-- Answered afresh, the conversion gives bools. -/
theorem gives_truth (l : Language) (hv : v.RecordFree) (depth : Nat) :
    Gives (fun w => Target.bool.accepts w = true)
      (run .fresh depth (.invoke ⟨.convert .bool true, l⟩ none [v])) := by
  have hoperation : Binder.operation ⟨.convert .bool true, l⟩ = .convert .bool true := rfl
  exact Binder.gives_convert hoperation hv (fun hmethod => nomatch hmethod.1) depth

namespace Machine.Sound

/-- What a conversion to a bool comes to is a bool, if it is a value. -/
theorem kind_of_comesTo_truth (hm : m.Sound) (hv : v.RecordFree) {site : Option Nat}
    (hsite : m.Admits site ⟨.convert .bool true, l⟩)
    (h : (Task.invoke ⟨.convert .bool true, l⟩ site [v]).ComesTo .kept m (.ok w) s) :
    w.kind = .bool := by
  obtain ⟨n, hn⟩ := hm
  rw [Task.comesTo_kept_iff hn (.invoke none hsite (.cons hv .nil))] at h
  obtain ⟨-, depth, hgiven, -⟩ := h
  exact eq_of_beq (gives_truth l hv depth n w hgiven)

/-- Where nothing is kept, the truth of an object is asked for in the second step, and its opposite
is the answer. -/
theorem run_not_object (hl : l.Scripts) (hv : v.RecordFree) (hobject : v.isObject = true)
    (n : Machine) (depth : Nat) :
    (run .fresh (depth + 2) (.invoke ⟨.unary .not, l⟩ none [v])).run.run n =
      let asked := (run .fresh depth (.invoke ⟨.convert .bool true, l⟩ none [v])).run.run n
      (Answer.opposite asked.1, asked.2) := by
  rw [run_invoke_none (accepts_not v), plan_resolve_not_object hl hv hobject]
  show (run .fresh depth (.invoke ⟨.convert .bool true, l⟩ none [v]) >>= _).run.run n = _
  have hbool := gives_truth l hv depth n
  rw [run_bind]
  rcases hrun : (run .fresh depth (.invoke ⟨.convert .bool true, l⟩ none [v])).run.run n with
    ⟨truth, left⟩
  rw [hrun] at hbool
  cases truth with
  | error stop => rfl
  | ok w =>
    -- the plan negates the truth of what it is given, and that is a bool already
    have hkind := hbool w rfl
    cases w <;> cases hkind
    rfl

/-- Through any two sites, the operator comes to the opposite of what the conversion comes to. -/
theorem comesTo_not_iff (hm : m.Sound) (hl : l.Scripts) (hv : v.RecordFree)
    {site truthSite : Option Nat} (hsite : m.Admits site ⟨.unary .not, l⟩)
    (htruthSite : m.Admits truthSite ⟨.convert .bool true, l⟩) (answer : Answer) (s : Store) :
    (Task.invoke ⟨.convert .bool true, l⟩ truthSite [v]).ComesTo .kept m answer s ↔
      (Task.invoke ⟨.unary .not, l⟩ site [v]).ComesTo .kept m (Answer.opposite answer) s := by
  obtain ⟨n, hn⟩ := hm
  rw [Task.comesTo_kept_iff hn (.invoke none hsite (.cons hv .nil)),
    Task.comesTo_kept_iff hn (.invoke none htruthSite (.cons hv .nil))]
  cases hobject : v.isObject with
  | true => exact Task.comesTo_opposite 2 (run_not_object hl hv hobject n)
  | false =>
    exact Task.comesTo_opposite 0 (run_invoke_opposite (Operation.accepts_convert .bool true v)
      (accepts_not v) (opposes_truth hl hobject) n)

/-- **The operator `not` gives the opposite of truth.**  It succeeds with a bool just if the explicit
conversion to a bool succeeds with the opposite one, and fails just if that fails, with the same
error; the store that is left is the same.  Neither gives anything but bools. -/
theorem not_opposes_truth (hm : m.Sound) (hl : l.Scripts) (hv : v.RecordFree)
    {site truthSite : Option Nat} (hsite : m.Admits site ⟨.unary .not, l⟩)
    (htruthSite : m.Admits truthSite ⟨.convert .bool true, l⟩) :
    (∀ b s, (Task.invoke ⟨.unary .not, l⟩ site [v]).ComesTo .kept m (.ok (.bool b)) s ↔
      (Task.invoke ⟨.convert .bool true, l⟩ truthSite [v]).ComesTo .kept m (.ok (.bool !b)) s) ∧
    (∀ e s, (Task.invoke ⟨.unary .not, l⟩ site [v]).ComesTo .kept m (.error (.error e)) s ↔
      (Task.invoke ⟨.convert .bool true, l⟩ truthSite [v]).ComesTo .kept m (.error (.error e)) s) ∧
    ∀ w s, (Task.invoke ⟨.unary .not, l⟩ site [v]).ComesTo .kept m (.ok w) s ∨
      (Task.invoke ⟨.convert .bool true, l⟩ truthSite [v]).ComesTo .kept m (.ok w) s →
        w.kind = .bool := by
  have hiff := hm.comesTo_not_iff hl hv hsite htruthSite
  refine ⟨fun b s => ?_, fun e s => (hiff (.error (.error e)) s).symm, fun w s => ?_⟩
  · have hback : Answer.opposite (.ok (.bool b)) = .ok (.bool !b) := rfl
    rw [← hback, hiff, Answer.involutive_opposite]
  · rintro (hnot | htruth)
    · rw [← Answer.involutive_opposite (.ok w), ← hiff] at hnot
      exact w.kind_opposite.symm.trans (hm.kind_of_comesTo_truth hv htruthSite hnot)
    · exact hm.kind_of_comesTo_truth hv htruthSite htruth

/-- The truth method of the class is asked, and its opposite is given.  If it gives no bool, the
operator fails as the conversion does. -/
theorem not_opposes_truth_method :
    let left (truth : Literal) : Machine :=
      (Client.makingInstanceWith [("__bool__", some 1, .const truth)]).left 9 default
    let v := Value.object (.classInstance 0 ⟨0, "C", ["__bool__"]⟩)
    (∃ s, (Task.invoke ⟨.unary .not, default⟩ none [v]).ComesTo .kept (left (.bool false))
        (.ok (.bool true)) s) ∧
      ∃ s, (Task.invoke ⟨.unary .not, default⟩ none [v]).ComesTo .kept (left (.int 5))
        (.error (.error (.typeMismatch "bool" "int"))) s := by
  intro left v
  constructor
  · have hm : (left (.bool false)).Sound := Client.sound_makingInstanceWith rfl default 9
    obtain ⟨hbools, -, -⟩ := hm.not_opposes_truth (l := default) (.inl rfl) (v := v) rfl
      (Machine.admits_none _ _) (Machine.admits_none _ _)
    exact ⟨_, (hbools true _).2 ⟨nofun, 9, rfl, rfl⟩⟩
  · have hm : (left (.int 5)).Sound := Client.sound_makingInstanceWith rfl default 9
    obtain ⟨-, herrors, -⟩ := hm.not_opposes_truth (l := default) (.inl rfl) (v := v) rfl
      (Machine.admits_none _ _) (Machine.admits_none _ _)
    exact ⟨_, (herrors _ _).2 ⟨nofun, 9, rfl, rfl⟩⟩

end Machine.Sound

end DynamicBinding
