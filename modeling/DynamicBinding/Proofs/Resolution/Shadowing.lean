import DynamicBinding.Proofs.Resolution.Stability
/-!
# What a cached failure hides

The fallback picks the guards of its failures without a look at the language.  A language that
decides by the types of the arguments could bind an argument list that such a guard lets through;
a site that keeps the failure would then never ask the language.

* Outside of calls this does not happen: the guard pins the types of all arguments.
* A call fails for all builtin receivers alike that cannot be called, whatever the other arguments
  are.  `Value.calleeClass` is what the guard of the failure still tells apart among receivers.  So
  a language must not look at more when it decides whether to bind a call;
  `fallback_hides_calls_of_texts` is what happens to one that does.

The failure is picked before it is known which languages there are, so the exception among calls is
as narrow as it can be: each call in it is bound by some language that decides by types and has the
same failure (`callsIf`, `resolve_congr`).
-/

namespace DynamicBinding

variable {step : LanguageStep} {operation : Operation} {a b : List Value}

/-! ## What a failure knows of the language -/

namespace LanguageStep

/-- Whether the language binds is settled by the operation and the types of the arguments. -/
def DecidesByTypes (step : LanguageStep) : Prop :=
  ∀ operation (a b : List Value), b.map Value.runtimeType = a.map Value.runtimeType →
    (step operation b).isSome = (step operation a).isSome

/-- A binding that is not the protocol's is one from past the protocol, narrowed. -/
theorem resolveTyped_of_source_ne (h : (step.resolveTyped operation a).source ≠ .protocol) :
    ∃ declined, step.resolveTyped operation a =
      (step.bindPastProtocol operation a).pastProtocol declined a := by
  cases a with
  | nil => exact ⟨none, rfl⟩
  | cons v rest =>
    cases v with
    | object o =>
      cases hbind : o.bind operation (.object o :: rest) with
      | some β =>
        rw [resolveTyped_of_bind hbind] at h
        exact absurd rfl h
      | none => exact ⟨some (o.declineGuard (.object o :: rest)), resolveTyped_of_decline hbind⟩
    | _ => exact ⟨none, rfl⟩

end LanguageStep

theorem Binding.source_pastProtocol (β : Binding) (declined : Option Guard) (args : List Value) :
    (β.pastProtocol declined args).source = β.source := by
  unfold pastProtocol
  split
  · rfl
  · split <;> rfl

/-- Narrowing lets nothing more through. -/
theorem Binding.passes_of_pastProtocol {β : Binding} {declined : Option Guard}
    {args : List Value} (h : (β.pastProtocol declined args).guard.passes b = true) :
    β.guard.passes b = true := by
  unfold pastProtocol at h
  split at h
  · simp_all [guardedBy]
  · split at h <;> simp_all [guardedBy]

namespace LanguageStep

/-- A binding of the fallback comes from a refusal of the language, and lets through only what the
fallback's own guard lets through. -/
theorem resolve_of_source_fallback (hmismatch : operation.arityMismatch? = none)
    (hsource : (step.resolve operation a).source = .fallback) :
    step (operation.redirected a) a = none ∧
      ∀ {b}, (step.resolve operation a).guard.passes b = true →
        (Fallback.bind (operation.redirected a) a).guard.passes b = true := by
  have hresolve : step.resolve operation a = step.resolveTyped (operation.redirected a) a := by
    simp only [resolve, hmismatch]
  rw [hresolve] at hsource ⊢
  obtain ⟨declined, heq⟩ : ∃ declined, step.resolveTyped (operation.redirected a) a =
      (step.bindPastProtocol (operation.redirected a) a).pastProtocol declined a :=
    resolveTyped_of_source_ne (by simp [hsource])
  rw [heq, Binding.source_pastProtocol] at hsource
  rw [heq]
  cases hstep : step (operation.redirected a) a with
  | some β => simp [bindPastProtocol, hstep, Binding.withSource] at hsource
  | none =>
    have hpast : step.bindPastProtocol (operation.redirected a) a =
        Fallback.bind (operation.redirected a) a := by
      simp only [bindPastProtocol, hstep]
    rw [hpast]
    exact ⟨rfl, Binding.passes_of_pastProtocol⟩

end LanguageStep

/-! ## Calls -/

/-- What the failure of a call tells apart among receivers: the type of those that are objects or
can be called.  All other values are one class. -/
def Value.calleeClass (v : Value) : Option RuntimeType :=
  if v.isObject || v.isCallable then some v.runtimeType else none

/-- The guard of a failed call lets through what has as many arguments and a receiver of the same
class. -/
theorem Fallback.passes_guard_invoke_cons (n : Nat) (v : Value) (rest b : List Value) :
    (bind (.invoke n) (v :: rest)).guard.passes b = true ↔
      b.length = rest.length + 1 ∧ b.head?.map Value.calleeClass = some v.calleeClass := by
  cases b with
  | nil =>
    rw [guard_invoke_cons]
    split <;> simp
  | cons w tail =>
    rw [guard_invoke_cons]
    by_cases hv : v.isObject || v.isCallable
    · rw [if_pos hv]
      constructor
      · intro hp
        rw [Guard.passes_classified, Guard.passes_arity, Bool.and_eq_true, beq_iff_eq] at hp
        have htype : w.runtimeType = v.runtimeType := by simpa using hp.2
        refine ⟨hp.1, ?_⟩
        simp only [List.head?_cons, Option.map_some, Value.calleeClass,
          isObject_or_isCallable_congr htype, htype]
      · rintro ⟨hlen, hclass⟩
        simp only [List.head?_cons, Option.map_some, Value.calleeClass, if_pos hv,
          Option.some.injEq] at hclass
        split at hclass
        · simp_all
        · cases hclass
    · rw [if_neg hv]
      simp only [Guard.passes_notCallable, Guard.passes_plain, Guard.passes_arity,
        Value.calleeClass, if_neg hv, List.head?_cons, Option.map_some, Option.some.injEq,
        ite_eq_right_iff, reduceCtorEq, imp_false, List.getElem?_cons_zero, Option.any_some]
      simp [and_assoc]

/-! ## The law and its limit -/

/-- The operation has a type and an operator of the right arity, if it has one at all. -/
def Operation.IsTyped (operation : Operation) : Prop :=
  operation.arityMismatch? = none ∧ ∀ name, operation ≠ .named name

/-- Whether the language binds a call is settled by the number of arguments and by what the
failure of a call tells apart among receivers. -/
def LanguageStep.DecidesCallsByCallee (step : LanguageStep) : Prop :=
  ∀ n (a b : List Value), b.length = a.length →
    b.head?.map Value.calleeClass = a.head?.map Value.calleeClass →
      (step (.invoke n) b).isSome = (step (.invoke n) a).isSome

/-- A typed operation is performed as it is. -/
theorem Operation.IsTyped.redirected_eq (h : operation.IsTyped) (args : List Value) :
    operation.redirected args = operation := by
  cases operation with
  | named name => exact absurd rfl (h.2 name)
  | _ => rfl

namespace LanguageStep

/-- A language that binds the calls with argument lists of certain types, and nothing else. -/
def callsIf (p : List RuntimeType → Bool) : LanguageStep := fun operation args =>
  match operation with
  | .invoke _ =>
    if p (args.map Value.runtimeType) then some { guard := .forArguments args, plan := .receiver }
    else none
  | _ => none

theorem decidesByTypes_callsIf (p : List RuntimeType → Bool) : (callsIf p).DecidesByTypes := by
  intro operation a b htypes
  cases operation with
  | invoke n =>
    simp only [callsIf, htypes]
    split <;> rfl
  | _ => rfl

/-- A language that binds the calls in which a text takes part. -/
def callsTexts : LanguageStep := callsIf (·.contains (.builtin .str))

/-- Languages that agree on the arguments resolve them alike. -/
theorem resolve_congr {other : LanguageStep}
    (h : other (operation.redirected a) a = step (operation.redirected a) a) :
    other.resolve operation a = step.resolve operation a := by
  have hpast : other.bindPastProtocol (operation.redirected a) a =
      step.bindPastProtocol (operation.redirected a) a := by
    simp only [bindPastProtocol, h]
  unfold resolve resolveTyped
  split
  · rfl
  · split <;> simp only [hpast]

/-- Of two calls with arguments of different types, a language can bind the second one alone. -/
theorem exists_binds_alike {n : Nat} (hnone : step (.invoke n) a = none)
    (htypes : b.map Value.runtimeType ≠ a.map Value.runtimeType) :
    ∃ other : LanguageStep, other.DecidesByTypes ∧
      other.resolve (.invoke n) a = step.resolve (.invoke n) a ∧
        (other (.invoke n) b).isSome = true := by
  refine ⟨callsIf (· == b.map Value.runtimeType), decidesByTypes_callsIf _, resolve_congr ?_, ?_⟩
  · simp only [Operation.redirected, hnone, callsIf]
    exact if_neg (by simpa using htypes.symm)
  · simp [callsIf]

/-- **A cached failure hides no binding of the language**, except among calls.  The failure of a
call is used for all calls with as many arguments and a receiver of the same class.  Where these
have arguments of the same types, or the language does not look at more than that class, it hides
nothing either.  Every other call that it is used for is hidden in some language. -/
theorem declines_of_source_fallback (hstep : step.DecidesByTypes) (htyped : operation.IsTyped)
    (hacc : operation.Accepts a) (hsource : (step.resolve operation a).source = .fallback)
    (hp : (step.resolve operation a).guard.passes b = true) :
    step operation b = none ∨
      ∃ n, operation = .invoke n ∧ b.length = a.length ∧
        b.head?.map Value.calleeClass = a.head?.map Value.calleeClass ∧
        b.map Value.runtimeType ≠ a.map Value.runtimeType ∧
        (step.DecidesCallsByCallee → step operation b = none) ∧
        ∃ other : LanguageStep, other.DecidesByTypes ∧
          other.resolve operation a = step.resolve operation a ∧
            (other operation b).isSome = true := by
  obtain ⟨hnone, hpast⟩ := resolve_of_source_fallback htyped.1 hsource
  replace hpast := hpast hp
  rw [htyped.redirected_eq] at hnone hpast
  have hdecline : ∀ {c : List Value}, (step operation c).isSome = (step operation a).isSome →
      step operation c = none := by
    intro c h
    simpa [hnone] using h
  obtain ⟨n, v, rest, rfl, rfl⟩ | ⟨signature, explicit, f, rest, rfl, rfl⟩ | ⟨hguard, -⟩ :=
    Fallback.bind_cases operation a
  · -- calls: the guard knows the callee only
    rw [Fallback.passes_guard_invoke_cons] at hpast
    obtain ⟨hlen, hclass⟩ := hpast
    by_cases htypes : b.map Value.runtimeType = (v :: rest).map Value.runtimeType
    · exact .inl (hdecline (hstep _ _ _ htypes))
    · exact .inr ⟨n, rfl, hlen, hclass, htypes, fun h => hdecline (h n _ _ hlen hclass),
        exists_binds_alike hnone htypes⟩
  · -- a function to a delegate: the guard pins the function, and there are no other arguments
    left
    apply hdecline
    rw [Fallback.guard_convert_function] at hpast
    obtain ⟨hlen, tail, rfl⟩ := Guard.passes_identity_head hpast
    rw [Guard.passes_arity, beq_iff_eq] at hlen
    have hrest : rest = [] := by simpa using hacc 1 rfl
    subst hrest
    rw [List.length_eq_zero_iff.1 (Nat.succ.inj hlen)]
  · left
    rw [hguard, Guard.passes_forArguments] at hpast
    exact hdecline (hstep operation a b hpast)

/-- A missing member of a number is a missing member of every number. -/
theorem callsTexts_declines_member :
    (callsTexts.resolve (.getMember "x" false) [.int 1]).source = .fallback ∧
      (callsTexts.resolve (.getMember "x" false) [.int 1]).guard.passes [.int 2] = true ∧
      callsTexts (.getMember "x" false) [.int 2] = none := by
  have hsource : (callsTexts.resolve (.getMember "x" false) [.int 1]).source = .fallback := by
    decide
  have hp : (callsTexts.resolve (.getMember "x" false) [.int 1]).guard.passes [.int 2] = true := by
    decide
  have htyped : (Operation.getMember "x" false).IsTyped := ⟨rfl, nofun⟩
  have hacc : (Operation.getMember "x" false).Accepts [.int 1] := fun _ h => Option.some.inj h
  refine ⟨hsource, hp, ?_⟩
  rcases declines_of_source_fallback (decidesByTypes_callsIf _) htyped hacc hsource hp with
    h | ⟨n, h, -⟩
  · exact h
  · cases h

/-- The failed call of a number hides the call of a text, and the failed call of a function with a
number its call with a text. -/
theorem fallback_hides_calls_of_texts :
    let f : Value := .function ⟨0, "f", none, none⟩
    let text : Value := .str ⟨0, "a"⟩
    ¬ (∀ (step : LanguageStep) (operation : Operation) (a b : List Value),
        step.DecidesByTypes → operation.IsTyped → operation.Accepts a →
          (step.resolve operation a).source = .fallback →
            (step.resolve operation a).guard.passes b = true → step operation b = none) ∧
      (callsTexts.resolve (.invoke 0) [.int 1]).source = .fallback ∧
      (callsTexts.resolve (.invoke 0) [.int 1]).guard.passes [text] = true ∧
      (callsTexts (.invoke 0) [text]).isSome = true ∧
      (callsTexts.resolve (.invoke 1) [f, .int 1]).source = .fallback ∧
      (callsTexts.resolve (.invoke 1) [f, .int 1]).guard.passes [f, text] = true ∧
      (callsTexts (.invoke 1) [f, text]).isSome = true := by
  intro f text
  refine ⟨fun h => ?_, by decide, by decide, by decide, by decide, by decide, by decide⟩
  have hnone := h callsTexts (.invoke 0) [.int 1] [text] (decidesByTypes_callsIf _)
    ⟨rfl, nofun⟩ (fun _ h => Option.some.inj h) (by decide) (by decide)
  exact absurd hnone (by decide)

end LanguageStep

end DynamicBinding
