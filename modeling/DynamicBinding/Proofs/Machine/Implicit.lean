import DynamicBinding.Proofs.Machine.Conversion
import DynamicBinding.Proofs.Machine.Numbers
/-!
# Implicit conversions

A conversion is asked for with the explicit flag or without it.  Without the flag it only widens, as
the shapes of delegates do.

* `Binder.plan_resolve_implicit`: without the flag, a conversion is resolved to a failure or to the
  plan it has with the flag.
* `Plan.GivesBack` says of a plan that it gives back the value it runs on.  The plan of every
  conversion does if the value satisfies the target, be it made by the script language
  (`Script.givesBack_bindConvert`) or by the fallback (`LanguageStep.givesBack_resolve`).
* `Machine.Sound.implicit_restricts` says both of sites with any history.
* `Machine.Sound.coerce_converts`: a value is fitted to the shape of a parameter as it is converted
  implicitly to the kind of the shape.
-/

namespace DynamicBinding

open Exec Script

variable {target : Target} {k : Kind} {explicit : Bool} {v w : Value} {l : Language} {m : Machine}
  {β : Binding} {step : LanguageStep}

/-- The plan gives back the value it runs on and does nothing else, whoever performs tasks. -/
def Plan.GivesBack (v : Value) (plan : Plan) : Prop :=
  ∀ (p : Perform) (m : Machine), (execute p plan [v]).run.run m = (.ok v, m)

/-! ## The table of the script language -/

namespace Script

theorem Conversion.select?_explicit {c : Conversion} (h : select? target k false = some c) :
    select? target k true = some c := by
  cases target <;> cases k <;> cases h <;> rfl

/-- Only texts are converted to texts without the flag. -/
theorem Conversion.kind_of_select?_str {c : Conversion} (h : select? .str k false = some c) :
    k = .str := by
  cases k <;> cases h
  rfl

/-- A value that satisfies the target is in the table, whatever the flag. -/
theorem Conversion.exists_select? (h : target.accepts v = true) (explicit : Bool) :
    (∃ s, target = .delegate s) ∨ ∃ c, select? target v.kind explicit = some c := by
  cases target with
  | delegate s => exact .inl ⟨s, rfl⟩
  | _ =>
    right
    cases v <;> cases h
    exact ⟨_, rfl⟩

/-- Such a value is what its conversion gives. -/
theorem Conversion.run_of_accepts {c : Conversion}
    (hselect : select? target v.kind explicit = some c) (haccepts : target.accepts v = true)
    (s : Store) : (c.run v).run.run s = (.ok v, s) := by
  cases target with
  | delegate signature => cases v <;> cases hselect
  | _ =>
    cases v <;> cases haccepts
    cases hselect
    rfl

theorem bindConvert_implicit (b : Binder) (htarget : ∀ s, target ≠ .delegate s) (v : Value) :
    bindConvert b target false [v] =
      (Conversion.select? target v.kind false).map fun c =>
        { guard := .forArguments [v], plan := .convert c } :=
  bindConvert_of_table b htarget (by rw [Bool.and_false, Bool.false_and])

/-- For delegates the flag makes no difference. -/
theorem bindConvert_delegate {b b' : Binder} (hlanguage : b'.language = b.language)
    (htarget : ¬ ∀ s, target ≠ .delegate s) (v : Value) :
    bindConvert b' target true [v] = bindConvert b target false [v] := by
  obtain ⟨s, rfl⟩ : ∃ s, target = .delegate s := by simpa using htarget
  simp only [bindConvert, hlanguage]

/-- What the language converts without the flag it converts alike with it. -/
theorem bindConvert_explicit {b b' : Binder} (hlanguage : b'.language = b.language)
    (h : bindConvert b target false [v] = some β) :
    ∃ β', bindConvert b' target true [v] = some β' ∧ β'.plan = β.plan := by
  by_cases htarget : ∀ s, target ≠ .delegate s
  · rw [bindConvert_implicit b htarget] at h
    obtain ⟨c, hselect, rfl⟩ := Option.map_eq_some_iff.1 h
    have htext : (target == .str && true && v.kind != .str) = false := by
      cases target with
      | str => simp [Conversion.kind_of_select?_str hselect]
      | _ => rfl
    rw [bindConvert_of_table b' htarget htext, Conversion.select?_explicit hselect]
    exact ⟨_, rfl, rfl⟩
  · exact ⟨β, by rw [bindConvert_delegate hlanguage htarget, h], rfl⟩

/-- What the language declines without the flag, but not with it, does not satisfy the target. -/
theorem bindConvert_declines {b b' : Binder} (hlanguage : b'.language = b.language)
    (h : bindConvert b target false [v] = none) :
    bindConvert b' target true [v] = none ∨ target.accepts v = false := by
  by_cases htarget : ∀ s, target ≠ .delegate s
  · right
    rw [bindConvert_implicit b htarget, Option.map_eq_none_iff] at h
    by_contra haccepts
    rcases Conversion.exists_select? (Bool.eq_true_of_not_eq_false haccepts) false with
      ⟨s, hs⟩ | ⟨c, hc⟩
    · exact htarget s hs
    · rw [h] at hc
      cases hc
  · exact .inl (by rw [bindConvert_delegate hlanguage htarget, h])

/-- A function that has the signature is its own delegate. -/
theorem delegate_of_accepts {s : Signature} (l : Language)
    (h : (Target.delegate s).accepts v = true) : l.delegate v s = pure v := by
  cases v with
  | function f =>
    have hsignature : f.signature = some s := by simpa [Target.accepts] using h
    simp [Language.delegate, Language.delegateRefusal?, Target.accepts, hsignature]
  | _ => cases h

/-- The script language gives back what satisfies the target. -/
theorem givesBack_bindConvert {b : Binder} (haccepts : target.accepts v = true)
    (h : bindConvert b target explicit [v] = some β) : β.plan.GivesBack v := by
  by_cases htarget : ∀ s, target ≠ .delegate s
  · have htext : (target == .str && explicit && v.kind != .str) = false := by
      cases target with
      | str => simp [eq_of_beq haccepts]
      | _ => rfl
    rw [bindConvert_of_table b htarget htext] at h
    obtain ⟨c, hselect, rfl⟩ := Option.map_eq_some_iff.1 h
    intro p m
    show (Exec.onStore (c.run v)).run.run m = _
    rw [run_onStore, Conversion.run_of_accepts hselect haccepts]
  · obtain ⟨s, rfl⟩ : ∃ s, target = .delegate s := by simpa using htarget
    simp only [bindConvert] at h
    split at h
    · cases h
      intro p m
      show (b.language.delegate v s).run.run m = _
      rw [delegate_of_accepts b.language haccepts]
      rfl
    · cases h

end Script

/-! ## Resolution -/

/-- What an object answers by itself it answers alike with the flag and without it. -/
theorem Object.bind_convert (o : Object) (target : Target) (explicit : Bool) (args : List Value) :
    o.bind (.convert target explicit) args = o.bind (.convert target true) args := by
  cases o with
  | classInstance id c => cases target <;> rfl
  | _ => rfl

namespace LanguageStep

theorem resolve_convert (step : LanguageStep) (target : Target) (explicit : Bool) (v : Value) :
    step.resolve (.convert target explicit) [v] =
      step.resolveTyped (.convert target explicit) [v] :=
  rfl

/-- Where the language converts alike with the flag and without it, so does the chain, or it fails
without the flag.  What the language declines without the flag only must not satisfy the target. -/
theorem plan_resolve_implicit (step : LanguageStep)
    (halike : ∀ β, step (.convert target false) [v] = some β →
      ∃ β', step (.convert target true) [v] = some β' ∧ β'.plan = β.plan)
    (hdeclines : step (.convert target false) [v] = none →
      step (.convert target true) [v] = none ∨ target.accepts v = false) :
    (∃ e, (step.resolve (.convert target false) [v]).plan = .fail e) ∨
      (step.resolve (.convert target false) [v]).plan =
        (step.resolve (.convert target true) [v]).plan := by
  have hpast : (∃ e, (step.bindPastProtocol (.convert target false) [v]).plan = .fail e) ∨
      (step.bindPastProtocol (.convert target false) [v]).plan =
        (step.bindPastProtocol (.convert target true) [v]).plan := by
    unfold bindPastProtocol
    cases hstep : step (.convert target false) [v] with
    | some β =>
      obtain ⟨β', hβ', hplan⟩ := halike β hstep
      right
      simp only [hβ', Binding.withSource, hplan]
    | none =>
      rcases hdeclines hstep with hnone | hrefuses
      · right
        simp only [hnone]
        rfl
      · left
        simp [Fallback.bind, Fallback.convert, hrefuses, Binding.failure, Binding.withSource]
  rw [resolve_convert, resolve_convert]
  -- an object that answers by itself does not see the flag
  by_cases hbind : ∃ o β, v = .object o ∧ o.bind (.convert target true) [v] = some β
  · obtain ⟨o, β, rfl, hβ⟩ := hbind
    right
    rw [resolveTyped_of_bind hβ, resolveTyped_of_bind (by rw [Object.bind_convert, hβ])]
  · have hnone : ∀ explicit o rest, [v] = .object o :: rest →
        o.bind (.convert target explicit) [v] = none := by
      rintro explicit o rest ⟨⟩
      rw [Object.bind_convert]
      exact Option.eq_none_iff_forall_ne_some.2 fun β hβ => hbind ⟨o, β, rfl, hβ⟩
    rw [plan_resolveTyped_of_decline (hnone false), plan_resolveTyped_of_decline (hnone true)]
    exact hpast

/-- What satisfies the target is given back, by the language or by the fallback. -/
theorem givesBack_resolve (haccepts : target.accepts v = true)
    (hstep : ∀ β, step (.convert target explicit) [v] = some β → β.plan.GivesBack v) :
    (step.resolve (.convert target explicit) [v]).plan.GivesBack v := by
  have hdeclines : ∀ o rest, [v] = .object o :: rest →
      o.bind (.convert target explicit) [v] = none := by
    rintro o rest ⟨⟩
    cases target <;> cases haccepts
  rw [resolve_convert, plan_resolveTyped_of_decline hdeclines, bindPastProtocol]
  cases hbound : step (.convert target explicit) [v] with
  | some β => exact hstep β hbound
  | none =>
    intro p m
    simp only [Fallback.bind, Fallback.convert, haccepts, if_true, Binding.withSource]
    rfl

end LanguageStep

namespace Binder

/-- A language converts as the script language does, or leaves conversions alone. -/
theorem languageStep_convert (b : Binder) (target : Target) (v : Value) :
    (∀ explicit, b.languageStep (.convert target explicit) [v] =
      bindConvert (b.rebind (.convert target explicit)) target explicit [v]) ∨
      ∀ explicit, b.languageStep (.convert target explicit) [v] = none := by
  cases hkind : b.language.kind with
  | script | loud =>
    left
    intro explicit
    simp only [languageStep, bindInLanguage, rebind, hkind, Script.bind]
  | silent | loose =>
    right
    intro explicit
    simp only [languageStep, bindInLanguage, rebind, hkind, Loose.bind]

/-- Without the flag, a conversion is resolved to a failure or to the plan it has with the flag. -/
theorem plan_resolve_implicit (l : Language) (target : Target) (v : Value) :
    (∃ e, (resolve ⟨.convert target false, l⟩ [v]).plan = .fail e) ∨
      (resolve ⟨.convert target false, l⟩ [v]).plan =
        (resolve ⟨.convert target true, l⟩ [v]).plan := by
  rcases languageStep_convert ⟨.convert target true, l⟩ target v with hstep | hstep
  · exact LanguageStep.plan_resolve_implicit (languageStep ⟨.convert target true, l⟩)
      (fun β hβ => by
        rw [hstep] at hβ ⊢
        exact bindConvert_explicit rfl hβ)
      fun hnone => by
        rw [hstep] at hnone ⊢
        exact bindConvert_declines rfl hnone
  · refine LanguageStep.plan_resolve_implicit (languageStep ⟨.convert target true, l⟩)
      (fun β hβ => ?_) fun _ => .inl (hstep true)
    rw [hstep] at hβ
    cases hβ

/-- Whatever the language, a conversion gives back what satisfies its target. -/
theorem givesBack_resolve (l : Language) (explicit : Bool) (haccepts : target.accepts v = true) :
    (resolve ⟨.convert target explicit, l⟩ [v]).plan.GivesBack v := by
  refine LanguageStep.givesBack_resolve haccepts fun β hβ => ?_
  rcases languageStep_convert ⟨.convert target explicit, l⟩ target v with hstep | hstep
  · rw [hstep] at hβ
    exact givesBack_bindConvert haccepts hβ
  · rw [hstep] at hβ
    cases hβ

end Binder

/-! ## Fitting values to shapes -/

namespace Script

/-- The targets that ask for one kind only, with the kind. -/
def kindTargets : List (Target × Kind) :=
  [(.int, .int), (.float, .float), (.str, .str), (.list, .list), (.tuple, .tuple)]

theorem mem_kindTargets : (target, k) ∈ kindTargets ↔
    (target = .int ∧ k = .int) ∨ (target = .float ∧ k = .float) ∨ (target = .str ∧ k = .str) ∨
      (target = .list ∧ k = .list) ∨ (target = .tuple ∧ k = .tuple) := by
  simp [kindTargets]

/-- What is in the table without the flag is what the shape makes of the value. -/
theorem Conversion.run_eq_coerce {c : Conversion} (hk : (target, k) ∈ kindTargets)
    (h : select? target v.kind false = some c) :
    ∃ w, (Shape.kind k).coerce v = .ok w ∧ c.run v = pure w := by
  rcases mem_kindTargets.1 hk with
      ⟨rfl, rfl⟩ | ⟨rfl, rfl⟩ | ⟨rfl, rfl⟩ | ⟨rfl, rfl⟩ | ⟨rfl, rfl⟩ <;>
    cases v <;> cases h <;> exact ⟨_, rfl, rfl⟩

/-- What is not in the table does not fit the shape. -/
theorem coerce_of_select?_eq_none (hk : (target, k) ∈ kindTargets)
    (h : Conversion.select? target v.kind false = none) :
    target.accepts v = false ∧ (Shape.kind k).coerce v = .error (.mismatch target.text v) := by
  rcases mem_kindTargets.1 hk with
      ⟨rfl, rfl⟩ | ⟨rfl, rfl⟩ | ⟨rfl, rfl⟩ | ⟨rfl, rfl⟩ | ⟨rfl, rfl⟩ <;>
    cases v <;> cases h <;> exact ⟨rfl, rfl⟩

/-- A shape of sequences makes nothing new. -/
theorem eq_of_coerce (hk : k.isSequence = true) (h : (Shape.kind k).coerce v = .ok w) : w = v := by
  cases k <;> cases hk <;> cases v <;> cases h <;> rfl

/-- Without the flag, a builtin value is converted by the table or refused by the fallback. -/
theorem plan_resolve_implicit (hl : l.Scripts) (htarget : ∀ s, target ≠ .delegate s)
    (hv : v.isObject = false) :
    (Binder.resolve ⟨.convert target false, l⟩ [v]).plan =
      match Conversion.select? target v.kind false with
      | some c => .convert c
      | none => (Fallback.bind (.convert target false) [v]).plan := by
  have hbind : Script.bind ⟨.convert target false, l⟩ [v] = _ := bindConvert_implicit _ htarget v
  rw [Script.plan_resolve hl rfl (Value.declines_of_isObject hv _ _)]
  simp only [Operation.redirected, hbind]
  cases Conversion.select? target v.kind false <;> rfl

end Script

/-! ## Conversions through sites -/

namespace Machine.Sound

/-- **An implicit conversion is an explicit one that does less.**  In every language, where a value
is converted without the flag, it is converted alike with the flag: to the same value, leaving the
same store.  What satisfies the target already comes back as it is, with the flag and without it,
and nothing changes.  This is so also in a language that there is not, as long as it leaves the
conversion to the fallback. -/
theorem implicit_restricts (hm : m.Sound) (l : Language) (target : Target) (hv : v.RecordFree) :
    (∀ site explicitSite : Option Nat, m.Admits site ⟨.convert target false, l⟩ →
      m.Admits explicitSite ⟨.convert target true, l⟩ → ∀ w s,
        (Task.invoke ⟨.convert target false, l⟩ site [v]).ComesTo .kept m (.ok w) s →
        (Task.invoke ⟨.convert target true, l⟩ explicitSite [v]).ComesTo .kept m (.ok w) s) ∧
    (target.accepts v = true → ∀ explicit : Bool,
      (∀ site : Option Nat, m.Admits site ⟨.convert target explicit, l⟩ →
        (Task.invoke ⟨.convert target explicit, l⟩ site [v]).ComesTo .kept m (.ok v) m.store) ∧
      ∀ step : LanguageStep, step (.convert target explicit) [v] = none →
        (step.resolve (.convert target explicit) [v]).plan.GivesBack v) := by
  have hargs : RecordFreeArgs [v] := .cons hv .nil
  refine ⟨fun site explicitSite hsite hexplicit w s hcomes => ?_, fun haccepts explicit => ⟨?_, ?_⟩⟩
  · rcases Binder.plan_resolve_implicit l target v with ⟨e, hfail⟩ | hsame
    · have hfails := hm.comesTo_of_execute (.error e) (b := ⟨.convert target false, l⟩)
        (Operation.accepts_convert target false v) hsite hargs (s := m.store) fun p n hn => by
          rw [hfail, ← hn]
          rfl
      cases (hcomes.unique hfails).1
    · obtain ⟨n, hn⟩ := hm
      have himplicit :=
        Task.alike_invoke ⟨.convert target false, l⟩ (Operation.accepts_convert target false v) n
      have halike :=
        Task.alike_invoke ⟨.convert target true, l⟩ (Operation.accepts_convert target true v) n
      rw [hsame] at himplicit
      exact ((himplicit.trans halike.symm).sameOutcome hn (.invoke none hsite hargs) hn
        (.invoke none hexplicit hargs) (.ok w) s).1 hcomes
  · intro site hsite
    have hgives := Binder.givesBack_resolve l explicit haccepts
    refine hm.comesTo_of_execute (.ok v) (b := ⟨.convert target explicit, l⟩)
      (Operation.accepts_convert target explicit v) hsite hargs fun p n hn => ?_
    rw [hgives, ← hn]
    rfl
  · intro step hnone
    refine LanguageStep.givesBack_resolve haccepts fun β hβ => ?_
    rw [hnone] at hβ
    cases hβ

/-- An instance with a method for its text that gives a whole number: with the flag as without it,
the number is what the conversion gives.  A float stays what it is. -/
theorem implicit_restricts_made :
    let m := (Client.instantiating .str).left 9 default
    (∃ s, (Task.invoke ⟨.convert .str true, default⟩ none [Client.made]).ComesTo .kept m
        (.ok (.int 5)) s) ∧
      (Task.invoke ⟨.convert .float true, default⟩ none [.float (.ofInt 5)]).ComesTo .kept m
        (.ok (.float (.ofInt 5))) m.store := by
  intro m
  have hm : m.Sound := Client.sound_left (Client.recordFree_instantiating .str) default 9
  have hosts : m.Admits (some 0) ⟨.convert .str false, default⟩ := by
    rintro _ ⟨⟩
    exact ⟨_, rfl, rfl⟩
  have himplicit : (Task.invoke ⟨.convert .str false, default⟩ (some 0) [Client.made]).ComesTo .kept
      m (.ok (.int 5)) _ := ⟨nofun, 9, rfl, rfl⟩
  obtain ⟨hrestricts, -⟩ := hm.implicit_restricts default .str (v := Client.made) rfl
  obtain ⟨-, hback⟩ := hm.implicit_restricts default .float (v := .float (.ofInt 5)) rfl
  exact ⟨⟨_, hrestricts (some 0) none hosts (m.admits_none _) _ _ himplicit⟩,
    (hback rfl true).1 none (m.admits_none _)⟩

/-- **Values are fitted to shapes as they are converted implicitly.**  For a builtin value and a
kind that has a target of its own, both succeed with the same value, which is the value itself if
the kind is one of sequences, or both fail as the value is of another type. -/
theorem coerce_converts (hm : m.Sound) (hk : (target, k) ∈ kindTargets) (hv : v.isObject = false) :
    target.text = k.name ∧
      m.Computes (.convert target false) [v] ((Shape.kind k).coerce v) ∧
      ((∃ w, (Shape.kind k).coerce v = .ok w ∧ (k.isSequence = true → w = v)) ∨
        (Shape.kind k).coerce v = .error (.typeMismatch k.name v.typeName)) := by
  have htext : target.text = k.name ∧ ∀ s, target ≠ .delegate s := by
    rcases mem_kindTargets.1 hk with
        ⟨rfl, rfl⟩ | ⟨rfl, rfl⟩ | ⟨rfl, rfl⟩ | ⟨rfl, rfl⟩ | ⟨rfl, rfl⟩ <;>
      exact ⟨rfl, nofun⟩
  have hcomputes : ∀ result, (∀ l : Language, l.Scripts → ∀ p n,
      (execute p (Binder.resolve ⟨.convert target false, l⟩ [v]).plan [v]).run.run n =
        (result.mapError .error, n)) → m.Computes (.convert target false) [v] result := by
    intro result hexecute l site hl hsite
    refine hm.comesTo_of_execute result (Operation.accepts_convert target false v) hsite
      (.cons (Value.recordFree_of_isObject hv) .nil) fun p n hn => ?_
    rw [hexecute l hl, ← hn]
  refine ⟨htext.1, ?_⟩
  cases hselect : Conversion.select? target v.kind false with
  | some c =>
    obtain ⟨w, hcoerce, hrun⟩ := Conversion.run_eq_coerce hk hselect
    rw [hcoerce]
    refine ⟨hcomputes _ fun l hl p n => ?_, .inl ⟨w, rfl, fun hk => eq_of_coerce hk hcoerce⟩⟩
    rw [plan_resolve_implicit hl htext.2 hv, hselect]
    show (Exec.onStore (c.run v)).run.run n = _
    rw [hrun]
    rfl
  | none =>
    obtain ⟨hrefuses, hcoerce⟩ := coerce_of_select?_eq_none hk hselect
    rw [hcoerce]
    refine ⟨hcomputes _ fun l hl p n => ?_, .inr (by rw [htext.1]; rfl)⟩
    rw [plan_resolve_implicit hl htext.2 hv, hselect]
    simp only [Fallback.bind, Fallback.convert, hrefuses, Bool.false_eq_true, if_false,
      Binding.failure, Binding.withSource]
    rfl

/-- A bool is widened to a float, and a float is not cut to an int. -/
theorem coerce_converts_bool :
    let m : Machine := { main := default }
    m.Computes (.convert .float false) [.bool true] (.ok (.float (.ofInt 1))) ∧
      m.Computes (.convert .int false) [.float (.ofInt 1)]
        (.error (.typeMismatch "int" "float")) := by
  intro m
  have hm : m.Sound := .new default
  exact ⟨(hm.coerce_converts (k := .float) (by decide) (v := .bool true) rfl).2.1,
    (hm.coerce_converts (k := .int) (by decide) (v := .float (.ofInt 1)) rfl).2.1⟩

end Machine.Sound

end DynamicBinding
