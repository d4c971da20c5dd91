import DynamicBinding.Proofs.Resolution.Protocol
/-!
# Resolution is stable under its own guards

A binding is resolved for one argument list and used for every list that its guard lets through.
The chain is right to allow that if resolving such a list anew gives the very same binding: the
same guard, the same plan, the same source.

* `LanguageStep.Stable` is what a language has to contribute.  Its bindings have to come back for
  what they let through, and where it declines it has to decline for all that the fallback's
  guard lets through.
* `LanguageStep.Stable.resolve_eq` is the law of the whole chain, and `resolve_applies` says that
  a binding fits the arguments it was made for.
-/

namespace DynamicBinding

/-! ## The fallback -/

namespace Fallback

variable {operation : Operation} {a b : List Value}

/-- The fallback's binding under the name of its step. -/
theorem bind_eq (operation : Operation) (args : List Value) :
    bind operation args =
      (match operation with
        | .invoke _ => notCallable args
        | .convert target _ => convert target args
        | operation => unsupported operation args).withSource .fallback :=
  rfl

/-- Whether a call fails by the class of the receiver or for want of a callable. -/
theorem isObject_or_isCallable_congr {v w : Value} (h : v.runtimeType = w.runtimeType) :
    (v.isObject || v.isCallable) = (w.isObject || w.isCallable) := by
  have hobject := Value.isObject_congr h
  cases v with
  | object o => simp_all [Value.isObject]
  | _ => cases w <;> simp_all [Value.isObject, Value.isCallable, Value.runtimeType, Value.kind]

/-- The guard of a failed call tests the class of the receiver if it is an object or can be
called, and otherwise only that it is neither. -/
theorem guard_invoke_cons (n : Nat) (v : Value) (rest : List Value) :
    (bind (.invoke n) (v :: rest)).guard =
      if v.isObject || v.isCallable then (Guard.arity (rest.length + 1)).classified 0 v
      else ((Guard.arity (rest.length + 1)).plain 0).notCallable 0 := by
  simp only [bind_eq, notCallable, Binding.withSource, List.length_cons]
  split <;> rfl

/-- The plan of a failed call names no value. -/
theorem bind_invoke_cons (n : Nat) (v : Value) (rest : List Value) :
    bind (.invoke n) (v :: rest) =
      { guard := (bind (.invoke n) (v :: rest)).guard
        plan := .notCallable
        source := .fallback } := by
  simp only [bind_eq, notCallable, Binding.withSource]
  split <;> rfl

/-- The guard of a conversion of a function to a delegate pins the function. -/
theorem guard_convert_function (signature : Signature) (explicit : Bool) (f : FunctionRef)
    (rest : List Value) :
    (bind (.convert (.delegate signature) explicit) (.function f :: rest)).guard =
      (Guard.arity (rest.length + 1)).identity 0 (.function f) := by
  simp only [bind_eq, convert, Binding.withSource]
  split <;> rfl

/-- The binding of a conversion depends on the type of the value and its name only, unless a
function meets a signature. -/
theorem convert_congr (target : Target) (explicit : Bool) {v w : Value} {rest tail : List Value}
    (hdelegate : ∀ signature f, target = .delegate signature → v ≠ .function f)
    (htypes : (w :: tail).map Value.runtimeType = (v :: rest).map Value.runtimeType)
    (hname : w.typeName = v.typeName) :
    (bind (.convert target explicit) (v :: rest)).guard = .forArguments (v :: rest) ∧
      bind (.convert target explicit) (w :: tail) =
        bind (.convert target explicit) (v :: rest) := by
  have hkind : w.kind = v.kind := Value.kind_congr (by simpa using (List.cons.inj htypes).1)
  have hargs := Guard.forArguments_congr htypes
  cases target with
  | delegate signature =>
    cases v with
    | function f => exact absurd rfl (hdelegate signature f rfl)
    | _ =>
      cases w <;>
        simp_all [bind_eq, convert, Target.accepts, Binding.withSource, Binding.failure, Value.kind,
          RuntimeError.mismatch]
  | _ =>
    simp only [bind_eq, convert, Target.accepts, hkind, hargs, RuntimeError.mismatch, hname]
    exact ⟨by simp [apply_ite Binding.guard, Binding.withSource, Binding.failure], rfl⟩

theorem isResolved_bind (operation : Operation) (args : List Value) :
    (bind operation args).plan.IsResolved := by
  rw [bind_eq]
  cases operation with
  | invoke n =>
    simp only [notCallable, Binding.withSource]
    split
    · trivial
    · split <;> trivial
  | convert target explicit =>
    simp only [convert, Binding.withSource]
    split
    · trivial
    · split <;> trivial
  | _ => trivial

/-- What the fallback looks at.  A call looks at the receiver, a conversion of a function to a
delegate at the very function; all else at the types and at the name of the receiver's type. -/
theorem bind_cases (operation : Operation) (a : List Value) :
    (∃ n v rest, operation = .invoke n ∧ a = v :: rest) ∨
    (∃ signature explicit f rest,
      operation = .convert (.delegate signature) explicit ∧ a = .function f :: rest) ∨
    ((bind operation a).guard = .forArguments a ∧
      ∀ b : List Value, b.map Value.runtimeType = a.map Value.runtimeType →
        typeNameOf b = typeNameOf a → bind operation b = bind operation a) := by
  have hnil : a = [] → ∀ b : List Value, b.map Value.runtimeType = a.map Value.runtimeType →
      bind operation b = bind operation a := by
    rintro rfl b htypes
    rw [List.map_nil, List.map_eq_nil_iff] at htypes
    rw [htypes]
  cases operation with
  | invoke n =>
    cases a with
    | nil => exact .inr (.inr ⟨rfl, fun b htypes _ => hnil rfl b htypes⟩)
    | cons v rest => exact .inl ⟨n, v, rest, rfl, rfl⟩
  | convert target explicit =>
    cases a with
    | nil => exact .inr (.inr ⟨rfl, fun b htypes _ => hnil rfl b htypes⟩)
    | cons v rest =>
      by_cases hdelegate : ∃ signature f, target = .delegate signature ∧ v = .function f
      · obtain ⟨signature, f, rfl, rfl⟩ := hdelegate
        exact .inr (.inl ⟨signature, explicit, f, rest, rfl, rfl⟩)
      · have hnot : ∀ signature f, target = .delegate signature → v ≠ .function f :=
          fun signature f h h' => hdelegate ⟨signature, f, h, h'⟩
        refine .inr (.inr ⟨(convert_congr target explicit hnot rfl rfl).1, ?_⟩)
        intro b htypes hname
        cases b with
        | nil => simp at htypes
        | cons w tail =>
          exact (convert_congr target explicit hnot htypes (by simpa [typeNameOf] using hname)).2
  | _ =>
    refine .inr (.inr ⟨rfl, fun b htypes hname => ?_⟩)
    simp only [bind_eq, unsupported, hname, Guard.forArguments_congr htypes]

/-- The fallback's binding fits the arguments it was made for. -/
theorem bind_applies (operation : Operation) (a : List Value) :
    (bind operation a).guard.passes a = true := by
  obtain ⟨n, v, rest, rfl, rfl⟩ | ⟨signature, explicit, f, rest, rfl, rfl⟩ | ⟨hguard, -⟩ :=
    bind_cases operation a
  · rw [guard_invoke_cons]
    split <;> simp_all
  · rw [guard_convert_function]
    simp
  · rw [hguard, Guard.passes_forArguments]

/-- The fallback's binding comes back for all that its guard lets through, if the type of the
receiver tells its name. -/
theorem bind_eq_of_passes (hp : (bind operation a).guard.passes b = true)
    (hname : b.map Value.runtimeType = a.map Value.runtimeType → typeNameOf b = typeNameOf a) :
    b.length = a.length ∧ bind operation b = bind operation a := by
  obtain ⟨n, v, rest, rfl, rfl⟩ | ⟨signature, explicit, f, rest, rfl, rfl⟩ | ⟨hguard, hcongr⟩ :=
    bind_cases operation a
  · rw [guard_invoke_cons] at hp
    split at hp
    · next hv =>
      obtain ⟨hlen, w, tail, rfl, htype⟩ := Guard.passes_classified_head hp
      rw [Guard.passes_arity, beq_iff_eq] at hlen
      refine ⟨hlen, ?_⟩
      rw [bind_invoke_cons n w, bind_invoke_cons n v, guard_invoke_cons, guard_invoke_cons,
        isObject_or_isCallable_congr htype, Guard.classified_congr _ 0 htype, Nat.succ.inj hlen]
    · next hv =>
      rw [Guard.passes_notCallable, Guard.passes_plain, Guard.passes_arity, Bool.and_eq_true,
        Bool.and_eq_true, beq_iff_eq] at hp
      obtain ⟨w, tail, rfl, hw⟩ := Guard.exists_cons_of_any_head hp.2
      have hw' : ¬(w.isObject || w.isCallable) = true := by simp_all
      refine ⟨hp.1.1, ?_⟩
      simp only [List.length_cons, Nat.add_right_cancel_iff] at hp
      rw [bind_invoke_cons n w, bind_invoke_cons n v, guard_invoke_cons, guard_invoke_cons,
        if_neg hv, if_neg hw', hp.1.1]
  · rw [guard_convert_function] at hp
    obtain ⟨hlen, tail, rfl⟩ := Guard.passes_identity_head hp
    rw [Guard.passes_arity, beq_iff_eq] at hlen
    refine ⟨hlen, ?_⟩
    simp only [bind_eq, convert, List.length_cons, Nat.succ.inj hlen]
  · rw [hguard, Guard.passes_forArguments] at hp
    exact ⟨by simpa using congrArg List.length hp, hcongr b hp (hname hp)⟩

end Fallback

/-! ## The chain -/

namespace LanguageStep

variable {step : LanguageStep} {operation : Operation} {a b : List Value}

/-- A language whose bindings can be used for all that their guards let through, and whose refusals
hold for all that the fallback's guard lets through. -/
structure Stable (step : LanguageStep) : Prop where
  /-- A binding fits the arguments it was made for. -/
  applies : ∀ {operation a β}, operation.Accepts a → step operation a = some β →
    β.guard.passes a = true
  /-- A binding comes back for all that its guard lets through. -/
  bound : ∀ {operation a b β}, RecordFreeArgs a → RecordFreeArgs b → operation.Accepts a →
    step operation a = some β → β.guard.passes b = true →
      b.length = a.length ∧ step operation b = some β
  /-- A plan holds no more than the chain may find in one. -/
  resolved : ∀ {operation a β}, step operation a = some β → β.plan.IsResolved
  /-- A refusal holds for all that fail alike. -/
  declined : ∀ {operation a b}, RecordFreeArgs a → RecordFreeArgs b → step operation a = none →
    (Fallback.bind operation a).guard.passes b = true → step operation b = none

/-- A receiver that binds settles the matter. -/
theorem resolveTyped_of_bind {o : Object} {rest : List Value} {β : Binding}
    (h : o.bind operation (.object o :: rest) = some β) :
    step.resolveTyped operation (.object o :: rest) = β.withSource .protocol := by
  simp only [resolveTyped, h]

/-- A receiver that declines leaves its guard on what comes after. -/
theorem resolveTyped_of_decline {o : Object} {rest : List Value}
    (h : o.bind operation (.object o :: rest) = none) :
    step.resolveTyped operation (.object o :: rest) =
      (step.bindPastProtocol operation (.object o :: rest)).guardedBy
        (o.declineGuard (.object o :: rest)) := by
  simp only [resolveTyped, h, Binding.pastProtocol]

theorem resolveTyped_nil (operation : Operation) :
    step.resolveTyped operation [] = step.bindPastProtocol operation [] :=
  rfl

/-- Without a protocol objects are ruled out, unless they are already. -/
theorem resolveTyped_of_builtin {v : Value} {rest : List Value} (h : v.isObject = false) :
    step.resolveTyped operation (v :: rest) =
      if (step.bindPastProtocol operation (v :: rest)).guard.excludesObjects 0 then
        step.bindPastProtocol operation (v :: rest)
      else (step.bindPastProtocol operation (v :: rest)).guardedBy (Guard.always.plain 0) := by
  cases v <;> first | rfl | simp [Value.isObject] at h

/-- What is narrowed keeps its plan. -/
theorem plan_resolveTyped_of_decline {args : List Value}
    (h : ∀ o rest, args = .object o :: rest → o.bind operation args = none) :
    (step.resolveTyped operation args).plan = (step.bindPastProtocol operation args).plan := by
  unfold resolveTyped
  split
  · next o rest => simp only [h o rest rfl, Binding.pastProtocol, Binding.guardedBy]
  · unfold Binding.pastProtocol
    split
    · rfl
    · split <;> rfl

namespace Stable

/-- Past the protocol a binding fits the arguments it was made for. -/
theorem bindPastProtocol_applies (hstep : step.Stable) (hacc : operation.Accepts a) :
    (step.bindPastProtocol operation a).guard.passes a = true := by
  unfold bindPastProtocol
  cases hbind : step operation a with
  | none => exact Fallback.bind_applies operation a
  | some β =>
    have := hstep.applies hacc hbind
    exact this

/-- Past the protocol a binding comes back for all that its guard lets through, if the type of the
receiver tells its name. -/
theorem bindPastProtocol_eq (hstep : step.Stable) (ha : RecordFreeArgs a) (hb : RecordFreeArgs b)
    (hacc : operation.Accepts a)
    (hp : (step.bindPastProtocol operation a).guard.passes b = true)
    (hname : b.map Value.runtimeType = a.map Value.runtimeType →
      Fallback.typeNameOf b = Fallback.typeNameOf a) :
    b.length = a.length ∧
      step.bindPastProtocol operation b = step.bindPastProtocol operation a := by
  unfold bindPastProtocol at hp ⊢
  cases hbind : step operation a with
  | none =>
    rw [hbind] at hp
    rw [hstep.declined ha hb hbind hp]
    exact Fallback.bind_eq_of_passes hp hname
  | some β =>
    rw [hbind] at hp
    obtain ⟨hlen, hbind'⟩ := hstep.bound ha hb hacc hbind hp
    exact ⟨hlen, by rw [hbind']⟩

/-- The binding of the chain for an operation without redirection fits its arguments. -/
theorem resolveTyped_applies (hstep : step.Stable) (ha : RecordFreeArgs a)
    (hacc : operation.Accepts a) : (step.resolveTyped operation a).guard.passes a = true := by
  have hpast := hstep.bindPastProtocol_applies hacc
  cases a with
  | nil => rwa [resolveTyped_nil]
  | cons v rest =>
    cases hv : v.isObject with
    | true =>
      obtain ⟨o, rfl⟩ := Value.exists_object hv
      cases hbind : o.bind operation (.object o :: rest) with
      | some β =>
        rw [resolveTyped_of_bind hbind]
        have := Object.bind_applies ha.head hacc hbind
        exact this
      | none =>
        rw [resolveTyped_of_decline hbind]
        simp only [Binding.guardedBy, Guard.passes_and, hpast,
          Object.declineGuard_applies ha.head, Bool.and_self]
    | false =>
      rw [resolveTyped_of_builtin hv]
      split
      · exact hpast
      · simp [Binding.guardedBy, hpast, hv]

/-- The binding of the chain for an operation without redirection comes back for all that its
guard lets through. -/
theorem resolveTyped_eq (hstep : step.Stable) (ha : RecordFreeArgs a) (hb : RecordFreeArgs b)
    (hacc : operation.Accepts a) (hp : (step.resolveTyped operation a).guard.passes b = true) :
    b.length = a.length ∧ step.resolveTyped operation b = step.resolveTyped operation a := by
  cases a with
  | nil =>
    rw [resolveTyped_nil] at hp ⊢
    have hname : b.map Value.runtimeType = [].map Value.runtimeType →
        Fallback.typeNameOf b = Fallback.typeNameOf [] := by
      intro htypes
      rw [List.map_nil, List.map_eq_nil_iff] at htypes
      rw [htypes]
    obtain ⟨hlen, -⟩ := hstep.bindPastProtocol_eq ha hb hacc hp hname
    rw [List.length_eq_zero_iff.1 hlen]
    exact ⟨rfl, rfl⟩
  | cons v rest =>
    cases hv : v.isObject with
    | true =>
      obtain ⟨o, rfl⟩ := Value.exists_object hv
      cases hbind : o.bind operation (.object o :: rest) with
      | some β =>
        rw [resolveTyped_of_bind hbind] at hp ⊢
        obtain ⟨hlen, o', tail, rfl, hbind'⟩ :=
          Object.bind_eq_of_passes ha.head hacc hbind hp
        exact ⟨hlen, resolveTyped_of_bind hbind'⟩
      | none =>
        rw [resolveTyped_of_decline hbind] at hp ⊢
        simp only [Binding.guardedBy, Guard.passes_and, Bool.and_eq_true] at hp
        have hname : b.map Value.runtimeType = (Value.object o :: rest).map Value.runtimeType →
            Fallback.typeNameOf b = Fallback.typeNameOf (.object o :: rest) := by
          intro htypes
          have hlen : b.length = rest.length + 1 := by simpa using congrArg List.length htypes
          obtain ⟨o', tail, rfl, -, -, hname⟩ := Object.decline_of_passes ha.head hbind hlen hp.2
          exact hname
        obtain ⟨hlen, hpast⟩ := hstep.bindPastProtocol_eq ha hb hacc hp.1 hname
        obtain ⟨o', tail, rfl, hbind', hdecline, -⟩ :=
          Object.decline_of_passes ha.head hbind hlen hp.2
        refine ⟨hlen, ?_⟩
        rw [resolveTyped_of_decline hbind', hpast, hdecline]
    | false =>
      -- the guard tests the kind of the receiver or that it is plain, so the receiver is builtin
      have hpast : (step.bindPastProtocol operation (v :: rest)).guard.passes b = true ∧
          ∀ w, b[0]? = some w → w.isObject = false := by
        rw [resolveTyped_of_builtin hv] at hp
        split at hp
        · next hex => exact ⟨hp, fun w hw => Guard.isObject_of_excludesObjects _ b hex hp hw⟩
        · simp only [Binding.guardedBy, Guard.passes_and, Bool.and_eq_true] at hp
          refine ⟨hp.1, fun w hw => ?_⟩
          simpa [hw] using hp.2
      have hname : b.map Value.runtimeType = (v :: rest).map Value.runtimeType →
          Fallback.typeNameOf b = Fallback.typeNameOf (v :: rest) := by
        intro htypes
        cases b with
        | nil => simp at htypes
        | cons w tail =>
          have hw := hpast.2 w rfl
          have hkind := Value.kind_congr (List.cons.inj htypes).1
          simp [Fallback.typeNameOf, Value.typeName_of_isObject_eq_false, hv, hw, hkind]
      obtain ⟨hlen, heq⟩ := hstep.bindPastProtocol_eq ha hb hacc hpast.1 hname
      cases b with
      | nil => simp at hlen
      | cons w tail =>
        refine ⟨hlen, ?_⟩
        rw [resolveTyped_of_builtin hv, resolveTyped_of_builtin (hpast.2 w rfl), heq]

/-- **The plan of a resolved binding** has no site, and holds neither code nor a value. -/
theorem isResolved_resolve (hstep : step.Stable) (operation : Operation) (ha : RecordFreeArgs a) :
    (step.resolve operation a).plan.IsResolved := by
  have hpast : ∀ operation, (step.bindPastProtocol operation a).plan.IsResolved := by
    intro operation
    unfold bindPastProtocol
    split
    · next β hβ => exact (hstep.resolved hβ :)
    · exact Fallback.isResolved_bind operation a
  have htyped : ∀ operation, (step.resolveTyped operation a).plan.IsResolved := by
    intro operation
    unfold resolveTyped
    split
    · split
      · next β hβ => exact (Object.isResolved_bind ha.head hβ :)
      · exact hpast operation
    · simp only [Binding.pastProtocol]
      split
      · exact hpast operation
      · exact hpast operation
  unfold resolve
  split
  · trivial
  · exact htyped _

/-- **A binding fits the arguments it was made for.** -/
theorem resolve_applies (hstep : step.Stable) (ha : RecordFreeArgs a)
    (hacc : operation.Accepts a) : (step.resolve operation a).guard.passes a = true := by
  unfold resolve
  cases operation.arityMismatch? with
  | some mismatch => simp [Binding.withSource, Binding.failure]
  | none => exact hstep.resolveTyped_applies ha hacc.redirected

/-- **Resolution is stable**: what the guard of a binding lets through resolves to the very same
binding, and has the same number of arguments. -/
theorem resolve_eq (hstep : step.Stable) (ha : RecordFreeArgs a) (hb : RecordFreeArgs b)
    (hacc : operation.Accepts a) (hp : (step.resolve operation a).guard.passes b = true) :
    b.length = a.length ∧ step.resolve operation b = step.resolve operation a := by
  unfold resolve at hp ⊢
  cases hmismatch : operation.arityMismatch? with
  | some mismatch =>
    simp only [hmismatch, Binding.withSource, Binding.failure, Guard.passes_arity, beq_iff_eq] at hp
    exact ⟨hp, by rw [hp]⟩
  | none =>
    rw [hmismatch] at hp
    obtain ⟨hlen, heq⟩ := hstep.resolveTyped_eq ha hb hacc.redirected hp
    refine ⟨hlen, ?_⟩
    rw [← heq, operation.redirected_congr hlen]

end Stable

end LanguageStep

end DynamicBinding
