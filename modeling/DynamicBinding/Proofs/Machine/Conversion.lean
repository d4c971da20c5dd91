import DynamicBinding.Proofs.Machine.Client
/-!
# What conversions give

Three parties answer a conversion: the methods of an instance, the language, and the fallback.  A
conversion that succeeds gives what its target asks for, except that the text method of an instance is
taken at its word.

* `Gives` says that a computation gives nothing but values with a property, with a rule for each way
  of putting computations together.
* `Binder.fits_resolve`: the plan that resolution makes for a conversion fits the target, or calls the
  text method; and a plan that fits gives accepted values (`Plan.Fits.gives`).
* `Client.convert_accepts` says it of any site on any machine that users leave, whatever the site
  keeps; in `Client.convert_not_accepts` a text method gives a whole number.
-/

namespace DynamicBinding

open Exec

variable {σ α β : Type} {good : α → Prop} {fine : β → Prop}

/-! ## What computations give -/

/-- Every value that the computation gives has the property. -/
def Gives (good : α → Prop) (x : ExceptT Stop (StateM σ) α) : Prop :=
  ∀ s a, (x.run.run s).1 = .ok a → good a

namespace Gives

/-- A value that is given has to have the property. -/
theorem pure {a : α} (h : good a) : Gives good (pure a : ExceptT Stop (StateM σ) α) := by
  intro s b hb
  cases hb
  exact h

/-- A stop gives nothing. -/
theorem stop (stop : Stop) : Gives good (throw stop : ExceptT Stop (StateM σ) α) := by
  intro s b hb
  cases hb

/-- Whatever comes first, the last computation gives the value. -/
theorem bind {x : ExceptT Stop (StateM σ) α} {f : α → ExceptT Stop (StateM σ) β}
    (hf : ∀ a, Gives fine (f a)) : Gives fine (x >>= f) := by
  intro s b hb
  rw [run_bind] at hb
  rcases hx : x.run.run s with ⟨⟨e⟩ | ⟨a⟩, t⟩ <;> rw [hx] at hb
  · cases hb
  · exact hf a t b hb

/-- A change of the state gives what it says. -/
theorem modifyGet {f : σ → α × σ} (h : ∀ s, good (f s).1) :
    Gives good (modifyGet f : ExceptT Stop (StateM σ) α) := by
  intro s a ha
  cases ha
  exact h s

/-- A failure gives nothing. -/
theorem fail (e : RuntimeError) : Gives good (fail e : Exec α) := stop (.error e)

/-- What a computation on the store gives is what it gives on the machine. -/
theorem onStore {x : Effect α} (h : Gives good x) : Gives good (onStore x) :=
  fun m a ha => h m.store a ha

/-- What a result gives is what it is. -/
theorem lift {r : Except RuntimeError α} (h : ∀ a, r = .ok a → good a) :
    Gives good (Script.lift r) := by
  cases r with
  | ok a => exact pure (h a rfl)
  | error e => exact stop (.error e)

end Gives

/-! ## The conversions of the script language -/

namespace Script

/-- The kind of what a conversion gives for a value of a kind. -/
def Conversion.givenKind (c : Conversion) (kind : Kind) : Kind :=
  match c with
  | .unchanged => kind
  | .truth => .bool
  | .integer | .truncate | .parseInt => .int
  | .widen | .parseFloat => .float
  | .toList => .list
  | .toTuple => .tuple

/-- What is converted to a whole number is a whole number. -/
theorem gives_integerOf (v : Value) : Gives (·.kind = .int) (lift (integerOf v)) := by
  apply Gives.lift
  intro w hw
  unfold integerOf at hw
  split at hw
  · cases hw
    rfl
  · cases hw

/-- A float that is cut is a whole number. -/
theorem gives_integerOfFloat (x : Binary64) : Gives (·.kind = .int) (lift (integerOfFloat x)) := by
  apply Gives.lift
  intro w hw
  unfold integerOfFloat at hw
  split at hw
  · cases hw
  · split at hw
    · cases hw
      rfl
    · cases hw

/-- A conversion gives values of its kind. -/
theorem Conversion.gives_run (c : Conversion) (v : Value) :
    Gives (·.kind = c.givenKind v.kind) (c.run v) := by
  cases c with
  | unchanged => exact .pure rfl
  | truth => exact .bind fun s => .pure rfl
  | integer => exact gives_integerOf v
  | truncate =>
    cases v with
    | float x => exact gives_integerOfFloat x
    | _ => exact gives_integerOf _
  | parseInt =>
    cases v with
    | str text =>
      simp only [run]
      split
      · exact .pure rfl
      · exact .stop _
    | _ => exact .stop _
  | widen =>
    simp only [run]
    split
    · exact .pure rfl
    · exact .stop _
  | parseFloat =>
    cases v with
    | str text =>
      simp only [run]
      split
      · exact .pure rfl
      · exact .stop _
    | _ => exact .stop _
  | toList => exact .bind fun items => .modifyGet fun s => rfl
  | toTuple => exact .bind fun items => .modifyGet fun s => rfl

/-- A conversion is selected for a target that asks for its kind. -/
theorem Conversion.accepts_of_select? {target : Target} {kind : Kind} {explicit : Bool}
    {c : Conversion} (h : select? target kind explicit = some c) {w : Value}
    (hw : w.kind = c.givenKind kind) : target.accepts w = true := by
  have hkind : ∀ k : Kind, c.givenKind kind = k → (w.kind == k) = true := by
    intro k hk
    rw [hw, hk]
    exact beq_self_eq_true k
  cases target with
  | delegate s => cases kind <;> cases h
  | _ => cases kind <;> cases explicit <;> cases h <;> exact hkind _ rfl

end Script

/-! ## Plans that fit -/

/-- The plan gives what the target asks for, on the value at hand. -/
inductive Plan.Fits (target : Target) (v : Value) : Plan → Prop
  | fail (e : RuntimeError) : Fits target v (.fail e)
  | receiver (h : target.accepts v = true) : Fits target v .receiver
  | truthMethod (c : ClassRef) (h : target = .bool) : Fits target v (.truthMethod c)
  | format (l : Language) (h : target = .str) : Fits target v (.format l)
  | delegate (l : Language) {s : Signature} (h : target = .delegate s) :
    Fits target v (.delegate l s)
  | convert {c : Script.Conversion} {explicit : Bool}
    (h : Script.Conversion.select? target v.kind explicit = some c) : Fits target v (.convert c)

/-- A delegate has the signature that was asked for. -/
theorem Language.gives_delegate (l : Language) (v : Value) (s : Signature) :
    Gives (fun w => (Target.delegate s).accepts w = true) (l.delegate v s) := by
  unfold Language.delegate
  split
  · exact .fail _
  · split
    · next haccepts => exact .pure haccepts
    · apply Gives.bind
      intro _
      apply Gives.bind
      intro _ m w hw
      cases hw
      exact beq_self_eq_true (some s)

/-- A plan that fits gives accepted values, whoever performs the tasks. -/
theorem Plan.Fits.gives {target : Target} {v : Value} {plan : Plan} (h : plan.Fits target v)
    (p : Perform) : Gives (fun w => target.accepts w = true) (execute p plan [v]) := by
  cases h with
  | fail e => exact .fail e
  | receiver h => exact .pure h
  | truthMethod c htarget =>
    subst htarget
    apply Gives.bind
    intro answer
    split
    · exact .pure rfl
    · exact .fail _
  | format l htarget =>
    subst htarget
    apply Gives.bind
    intro m
    apply Gives.bind
    intro text
    exact .onStore (.modifyGet fun s => rfl)
  | delegate l htarget =>
    subst htarget
    exact l.gives_delegate v _
  | @convert c explicit hselect =>
    apply Gives.onStore
    intro s w hw
    exact Script.Conversion.accepts_of_select? hselect (c.gives_run v s w hw)

/-! ## Resolution -/

/-- An instance whose class has a method for its text. -/
def Value.HasTextMethod : Value → Prop
  | .object (.classInstance _ c) => c.has "__str__" = true
  | _ => False

/-- A class object leaves conversions to others, and an instance has methods for two of them. -/
theorem Object.fits_bind {o : Object} (ho : (Value.object o).RecordFree) {target : Target}
    {explicit : Bool} {β : Binding} (h : o.bind (.convert target explicit) [.object o] = some β) :
    β.plan.Fits target (.object o) ∨ target = .str ∧ (Value.object o).HasTextMethod := by
  cases o with
  | classObject c => cases h
  | classInstance id c =>
    cases target with
    | str =>
      simp only [bind, ClassRef.bindInstance, ClassRef.methodBinding?] at h
      split at h
      · next hmethod => exact .inr ⟨rfl, hmethod⟩
      · cases h
    | bool =>
      simp only [bind, ClassRef.bindInstance, ClassRef.methodBinding?] at h
      split at h
      · cases h
        exact .inl (.truthMethod c rfl)
      · cases h
    | _ => cases h
  | record r => cases ho
  | inert id name => cases h

/-- The conversions of the script language fit their targets. -/
theorem Script.fits_bindConvert {b : Binder} {target : Target} {explicit : Bool} {v : Value}
    {β : Binding} (h : bindConvert b target explicit [v] = some β) : β.plan.Fits target v := by
  have hformat : (target == .str && explicit && v.kind != .str) = true → target = .str := by
    intro hcond
    simp only [Bool.and_eq_true, beq_iff_eq] at hcond
    exact hcond.1.1
  unfold bindConvert at h
  cases target with
  | delegate s =>
    dsimp only at h
    split at h
    · cases h
      exact .delegate b.language rfl
    · cases h
  | _ =>
    dsimp only at h
    split at h
    · next hcond =>
      cases h
      exact .format b.language (hformat hcond)
    · obtain ⟨c, hselect, rfl⟩ := Option.map_eq_some_iff.1 h
      exact .convert hselect

/-- So do those of every language that a binder may have. -/
theorem Binder.fits_bindInLanguage {b : Binder} {target : Target} {explicit : Bool} {v : Value}
    {β : Binding} (h : b.languageStep (.convert target explicit) [v] = some β) :
    β.plan.Fits target v := by
  simp only [languageStep, bindInLanguage] at h
  split at h
  · exact Script.fits_bindConvert h
  · exact Script.fits_bindConvert h
  · cases h
  · cases h

/-- The fallback gives a value back only if the target accepts it. -/
theorem Fallback.fits_convert (target : Target) (v : Value) :
    (Fallback.convert target [v]).plan.Fits target v := by
  simp only [Fallback.convert]
  split
  · next haccepts => exact .receiver haccepts
  · exact .fail _

/-- The plan of a conversion fits its target, unless it is the text method of an instance. -/
theorem Binder.fits_resolve {b : Binder} {target : Target} {explicit : Bool} {v : Value}
    (hb : b.operation = .convert target explicit) (hv : v.RecordFree) :
    (b.resolve [v]).plan.Fits target v ∨ target = .str ∧ v.HasTextMethod := by
  have hpast : (b.languageStep.bindPastProtocol (.convert target explicit) [v]).plan.Fits target v := by
    unfold LanguageStep.bindPastProtocol
    split
    · next β hβ =>
      have hfits : β.plan.Fits target v := Binder.fits_bindInLanguage hβ
      exact hfits
    · exact Fallback.fits_convert target v
  have hresolve : b.resolve [v] = b.languageStep.resolveTyped (.convert target explicit) [v] := by
    rw [resolve, hb]
    rfl
  rw [hresolve]
  cases v with
  | object o =>
    simp only [LanguageStep.resolveTyped]
    split
    · next β hβ =>
      have hfits : β.plan.Fits target (.object o) ∨ target = .str ∧ (Value.object o).HasTextMethod :=
        Object.fits_bind hv hβ
      exact hfits
    · exact .inl hpast
  | _ =>
    left
    simp only [LanguageStep.resolveTyped, Binding.pastProtocol]
    split <;> exact hpast

/-! ## Sites of conversions -/

/-- Answered afresh, a conversion gives what its target asks for, the text method apart. -/
theorem Binder.gives_convert {b : Binder} {target : Target} {explicit : Bool} {v : Value}
    (hb : b.operation = .convert target explicit) (hv : v.RecordFree)
    (hmethod : ¬ (target = .str ∧ v.HasTextMethod)) (depth : Nat) :
    Gives (fun w => target.accepts w = true) (run .fresh depth (.invoke b none [v])) := by
  have hfits := (Binder.fits_resolve hb hv).resolve_right hmethod
  have haccepts : b.operation.Accepts [v] := by
    intro n hn
    rw [hb] at hn
    exact Option.some.inj hn
  have hexecute : ∀ depth, Gives (fun w => target.accepts w = true)
      (run .fresh depth (.execute (b.resolve [v]).plan [v])) := by
    intro depth
    cases depth with
    | zero => exact .stop .diverged
    | succ depth => exact hfits.gives (run .fresh depth)
  cases depth with
  | zero => exact .stop .diverged
  | succ depth =>
    simp only [run, step, invoke_of_accepts haccepts]
    exact hexecute depth

/-- **A conversion gives what its target asks for**, whatever the site keeps and whatever users did
before.  Only the text method of an instance may give something else. -/
theorem Client.convert_accepts {before : Client} (hbefore : before.RecordFree) (main : Language)
    (depth : Nat) {id : Nat} {b : Binder} (hosts : (before.left depth main).Hosts id b)
    {target : Target} {explicit : Bool} (hb : b.operation = .convert target explicit) {v : Value}
    (hv : v.RecordFree) (height : Nat) {w : Value}
    (hw : ((DynamicBinding.run .kept height (.invoke b (some id) [v])).run.run (before.left depth main)).1 =
      .ok w) :
    target.accepts w = true ∨ target = .str ∧ v.HasTextMethod := by
  by_cases hmethod : target = .str ∧ v.HasTextMethod
  · exact .inr hmethod
  · left
    -- the site may have kept the plan of another value: look at the run that keeps nothing
    obtain ⟨n, htracks⟩ := Client.exists_tracks_left hbefore main depth
    have hsite : ∀ i, some id = some i → (before.left depth main).Hosts i b := by
      rintro i ⟨⟩
      exact hosts
    have hargs : RecordFreeArgs [v] := RecordFreeArgs.cons hv RecordFreeArgs.nil
    have hagree := DynamicBinding.run_agree height htracks (.invoke none hsite hargs)
    rw [hagree.same] at hw
    exact Binder.gives_convert hb hv hmethod height n w hw

/-! ### An instance with a method for its text and one for its truth -/

namespace Client

/-- A user who opens a site of conversions and makes an instance.  Its text method gives `5`, and
its truth method gives `true`. -/
def instantiating (target : Target) : Client :=
  let text : String × Option Nat × Expr := ("__str__", some 1, .const (.int 5))
  let truth : String × Option Nat × Expr := ("__bool__", some 1, .const (.bool true))
  .ask (.openSite "convert" ⟨.convert target false, default⟩ 4) fun _ =>
    .ask (.openSite "new" ⟨.createInstance 0, default⟩ 4) fun _ =>
      .ask (.make (.newClass "C" [text, truth] [])) fun made =>
        match made with
        | .ok c => .ask (.call "new" [c]) fun _ => .done
        | .error _ => .done

/-- The instance that is made. -/
def made : Value := .object (.classInstance 0 ⟨0, "C", ["__str__", "__bool__"]⟩)

/-- The user makes a class and an instance, and no record. -/
theorem recordFree_instantiating (target : Target) : (instantiating target).RecordFree := by
  refine ⟨trivial, fun _ _ => ⟨trivial, fun _ _ => ⟨rfl, fun made hmade => ?_⟩⟩⟩
  cases made with
  | error stop => trivial
  | ok c => exact ⟨RecordFreeArgs.cons (hmade c rfl) RecordFreeArgs.nil, fun _ _ => trivial⟩

/-- The truth method is asked, and its answer is what the target asks for. -/
theorem convert_accepts_truth :
    ∃ w, ((DynamicBinding.run .kept 9 (.invoke ⟨.convert .bool false, default⟩ (some 0)
        [made])).run.run ((instantiating .bool).left 9 default)).1 = .ok w ∧
      Target.bool.accepts w = true := by
  have hosts : ((instantiating .bool).left 9 default).Hosts 0 ⟨.convert .bool false, default⟩ :=
    ⟨_, rfl, rfl⟩
  have hanswer : ((DynamicBinding.run .kept 9 (.invoke ⟨.convert .bool false, default⟩ (some 0)
      [made])).run.run ((instantiating .bool).left 9 default)).1 = .ok (.bool true) := rfl
  have hmade : made.RecordFree := rfl
  have haccepts :=
    convert_accepts (recordFree_instantiating .bool) default 9 hosts rfl hmade 9 hanswer
  rcases haccepts with haccepts | ⟨htarget, -⟩
  · exact ⟨_, hanswer, haccepts⟩
  · cases htarget

/-- The text method is asked, and a whole number is what the conversion to a text gives. -/
theorem convert_not_accepts :
    ((instantiating .str).transcript .kept 9 default).getLast?.map Prod.fst = some (.ok made) ∧
      ((instantiating .str).left 9 default).Hosts 0 ⟨.convert .str false, default⟩ ∧
      ((DynamicBinding.run .kept 9 (.invoke ⟨.convert .str false, default⟩ (some 0)
        [made])).run.run ((instantiating .str).left 9 default)).1 = .ok (.int 5) ∧
      Target.str.accepts (.int 5) = false := by
  exact ⟨rfl, ⟨_, rfl, rfl⟩, rfl, rfl⟩

end Client

end DynamicBinding
