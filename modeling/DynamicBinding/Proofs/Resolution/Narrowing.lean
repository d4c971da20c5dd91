import DynamicBinding.Proofs.Resolution.Shadowing
/-!
# Past the protocol no protocol is shadowed

What a language or the fallback returns may have any guard, even one that lets everything through.
The chain narrows it, so that it is never used for a receiver whose protocol takes the operation
on.

* `Binding.Narrowed` lists what narrowing gives: nothing but the guard changes, the arguments at
  hand are still let through, and whatever else is let through has a receiver that is builtin, or
  one to which the refusal of the first receiver applies.
* `Binding.narrowed_pastProtocol` proves it of every binding under every refusal.  For a builtin
  receiver the test for builtin values may be left out where the guard has it in another form
  already; that is sound because `Guard.excludesObjects` never claims too much.
* `Object.declines_of_declineGuard` says what refusals are worth: they hold again for all that
  they let through.  The exception are records that refuse in the name of all records.
-/

namespace DynamicBinding

variable {step : LanguageStep} {operation : Operation} {args : List Value}

/-! ## Refusals -/

/-- Under which guard the protocol of a receiver refuses.  Builtin values have no protocol. -/
def Value.refusal? (receiver : Value) (args : List Value) : Option Guard :=
  match receiver with
  | .object o => some (o.declineGuard args)
  | _ => none

theorem Value.refusal?_eq_none {receiver : Value} (h : receiver.isObject = false) :
    receiver.refusal? args = none := by
  cases receiver with
  | object o => simp [isObject] at h
  | _ => rfl

/-- The object speaks for more receivers than it can know. -/
def Object.RefusesForOthers : Object → Prop
  | .record r => r.declinesByType = true
  | _ => False

/-- Whether an instance binds is up to its class and the operation. -/
theorem ClassRef.isSome_bindInstance (c : ClassRef) (operation : Operation) (a b : List Value) :
    (c.bindInstance operation a).isSome = (c.bindInstance operation b).isSome := by
  have hmethod : ∀ name plan, (c.methodBinding? name plan a).isSome =
      (c.methodBinding? name plan b).isSome := by
    intro name plan
    unfold methodBinding?
    split <;> rfl
  cases operation with
  | invoke | getIndex | setIndex => exact hmethod _ _
  | convert target explicit =>
    cases target with
    | str | bool => exact hmethod _ _
    | _ => rfl
  | unary operator | binary operator =>
    simp only [bindInstance]
    split
    · rfl
    · rfl
    · cases operator.method? with
      | none => rfl
      | some name => exact hmethod name _
  | _ => rfl

/-- Whether a record binds is up to its offers and the operation. -/
theorem RecordRef.isSome_bind (r : RecordRef) (operation : Operation) (a b : List Value) :
    (r.bind operation a).isSome = (r.bind operation b).isSome := by
  simp only [bind, Option.bind_eq_bind, Option.isSome_bind]
  rfl

/-- A refusal holds again for every receiver that its guard lets through, with whatever other
arguments. -/
theorem Object.declines_of_declineGuard {o p : Object} {rest tail : List Value}
    (ho : ¬ o.RefusesForOthers) (hdeclines : o.bind operation (.object o :: rest) = none)
    (hp : (o.declineGuard (.object o :: rest)).passes (.object p :: tail) = true) :
    p.bind operation (.object p :: tail) = none := by
  have hsame : (Guard.always.identity 0 (.object o)).passes (.object p :: tail) = true → p = o := by
    intro hp
    simpa using hp
  cases o with
  | classObject c =>
    obtain rfl := hsame hp
    rw [← hdeclines]
    exact ClassRef.bindClass_congr c operation rfl
  | classInstance id c =>
    obtain ⟨-, id', tail', heq⟩ := Guard.passes_instanceOf_head hp
    obtain ⟨rfl, -⟩ : p = .classInstance id' c ∧ tail = tail' := by simpa using heq
    have hsome := c.isSome_bindInstance operation (.object (.classInstance id' c) :: tail)
      (.object (.classInstance id c) :: rest)
    rw [← Option.not_isSome_iff_eq_none] at hdeclines ⊢
    exact fun h => hdeclines (hsome ▸ h)
  | record r =>
    have htype : r.declinesByType = false := by simpa [RefusesForOthers] using ho
    simp only [declineGuard, htype] at hp
    obtain rfl := hsame hp
    have hsome := r.isSome_bind operation (.object (.record r) :: tail) (.object (.record r) :: rest)
    rw [← Option.not_isSome_iff_eq_none] at hdeclines ⊢
    exact fun h => hdeclines (hsome ▸ h)
  | inert id name =>
    obtain rfl := hsame hp
    rfl

/-! ## Narrowing -/

/-- What becomes of a binding that was offered past the protocol, given the guard under which the
receiver's protocol refused, if it has one. -/
structure Binding.Narrowed (β offered : Binding) (refusal : Option Guard) (args : List Value) :
    Prop where
  plan_eq : β.plan = offered.plan
  source_eq : β.source = offered.source
  /-- The arguments at hand are let through if the offer and the refusal let them through. -/
  applies : offered.guard.passes args = true → (∀ g, refusal = some g → g.passes args = true) →
    (refusal = none → ∀ v ∈ args.head?, v.isObject = false) → β.guard.passes args = true
  /-- Nothing more is let through. -/
  offered_of_passes : ∀ {b}, β.guard.passes b = true → offered.guard.passes b = true
  /-- Without a refusal the receiver was builtin, and no object gets through. -/
  isObject_of_passes : refusal = none → ∀ {v rest}, β.guard.passes (v :: rest) = true →
    v.isObject = false
  /-- Only what the refusal is about is let through. -/
  refusal_of_passes : ∀ {g}, refusal = some g → ∀ {b}, β.guard.passes b = true →
    g.passes b = true

/-- Narrowing does to every binding with a receiver what it is there for. -/
theorem Binding.narrowed_pastProtocol (offered : Binding) (refusal : Option Guard)
    (receiver : Value) (rest : List Value) :
    (offered.pastProtocol refusal (receiver :: rest)).Narrowed offered refusal
      (receiver :: rest) := by
  cases refusal with
  | some g =>
    have hguard : ∀ b, (offered.pastProtocol (some g) (receiver :: rest)).guard.passes b =
        (offered.guard.passes b && g.passes b) := by
      intro b
      simp only [pastProtocol, guardedBy, Guard.passes_and]
    refine ⟨rfl, rfl, fun hoffered hrefusal _ => ?_, fun hp => ?_,
      (fun h => by cases h), fun hg b hp => ?_⟩
    · rw [hguard, hoffered, hrefusal g rfl]
      rfl
    · rw [hguard, Bool.and_eq_true] at hp
      exact hp.1
    · obtain rfl := Option.some.inj hg
      rw [hguard, Bool.and_eq_true] at hp
      exact hp.2
  | none =>
    by_cases hex : offered.guard.excludesObjects 0 = true
    · -- the guard rules objects out by itself, and stays as it is
      have heq : offered.pastProtocol none (receiver :: rest) = offered := by
        simp [pastProtocol, hex]
      rw [heq]
      refine ⟨rfl, rfl, fun hoffered _ _ => hoffered, fun hp => hp, fun _ v rest hp => ?_,
        fun h => by cases h⟩
      exact Guard.isObject_of_excludesObjects _ _ hex hp rfl
    · have heq : offered.pastProtocol none (receiver :: rest) =
          offered.guardedBy (Guard.always.plain 0) := by
        simp [pastProtocol, hex]
      have hguard : ∀ b, (offered.guardedBy (Guard.always.plain 0)).guard.passes b =
          (offered.guard.passes b && b[0]?.any fun v => !v.isObject) := by
        intro b
        simp [guardedBy]
      rw [heq]
      refine ⟨rfl, rfl, fun hoffered _ hplain => ?_, fun hp => ?_, fun _ v rest hp => ?_,
        fun h => by cases h⟩
      · have hreceiver := hplain rfl receiver rfl
        rw [hguard, hoffered]
        simpa using hreceiver
      · rw [hguard, Bool.and_eq_true] at hp
        exact hp.1
      · rw [hguard, Bool.and_eq_true] at hp
        simpa using hp.2

/-! ## The chain -/

/-- The chain gets past the protocol: the operation has no operator of the wrong arity, and the
receiver declines it if it has a protocol. -/
structure Operation.GoesPast (operation : Operation) (receiver : Value) (rest : List Value) :
    Prop where
  matched : operation.arityMismatch? = none
  declined : ∀ o, receiver = .object o →
    o.bind (operation.redirected (receiver :: rest)) (receiver :: rest) = none

/-- Past the protocol the chain narrows what the language or the fallback offers. -/
theorem LanguageStep.resolve_of_goesPast {receiver : Value} {rest : List Value}
    (h : operation.GoesPast receiver rest) :
    step.resolve operation (receiver :: rest) =
      (step.bindPastProtocol (operation.redirected (receiver :: rest))
        (receiver :: rest)).pastProtocol (receiver.refusal? (receiver :: rest))
          (receiver :: rest) := by
  simp only [resolve, h.matched]
  cases receiver with
  | object o => simp only [resolveTyped, h.declined o rfl, Value.refusal?]
  | _ => rfl

/-- **No binding from past the protocol is used for a receiver whose protocol binds.**  Whatever a
language or the fallback offers, the chain changes its guard only.  It is narrowed to builtin
receivers if the receiver is builtin, and to what the receiver's refusal is about otherwise; the
arguments at hand are not lost.  So none of the objects that get through takes the operation on,
unless the receiver is a record that refuses in the name of others. -/
theorem LanguageStep.resolve_narrowed (step : LanguageStep) {operation : Operation}
    {receiver : Value} {rest : List Value} (hpast : operation.GoesPast receiver rest) :
    let args := receiver :: rest
    let typed := operation.redirected args
    (∀ (offered : Binding) (refusal : Option Guard),
      (offered.pastProtocol refusal args).Narrowed offered refusal args) ∧
    (step.resolve operation args).Narrowed (step.bindPastProtocol typed args)
      (receiver.refusal? args) args ∧
    ((step.bindPastProtocol typed args).guard.passes args = true →
      (∀ o, receiver = .object o → (o.declineGuard args).passes args = true) →
        (step.resolve operation args).guard.passes args = true) ∧
    ((∀ o, receiver = .object o → ¬ o.RefusesForOthers) →
      ∀ p tail, (step.resolve operation args).guard.passes (.object p :: tail) = true →
        p.bind typed (.object p :: tail) = none) := by
  intro args typed
  have hnarrowed : (step.resolve operation args).Narrowed (step.bindPastProtocol typed args)
      (receiver.refusal? args) args := by
    rw [resolve_of_goesPast hpast]
    exact Binding.narrowed_pastProtocol _ _ receiver rest
  refine ⟨fun offered refusal => Binding.narrowed_pastProtocol offered refusal receiver rest,
    hnarrowed, fun hoffered hrefusal => ?_, fun hothers p tail hp => ?_⟩
  · cases hreceiver : receiver.isObject with
    | false =>
      have hnone : receiver.refusal? args = none := Value.refusal?_eq_none hreceiver
      refine hnarrowed.applies hoffered (fun g hg => ?_) fun _ v hv => ?_
      · rw [hnone] at hg
        cases hg
      · obtain rfl : receiver = v := by simpa [args] using hv
        exact hreceiver
    | true =>
      obtain ⟨o, rfl⟩ := Value.exists_object hreceiver
      refine hnarrowed.applies hoffered (fun g hg => ?_) nofun
      obtain rfl := Option.some.inj hg
      exact hrefusal o rfl
  · cases hreceiver : receiver.isObject with
    | false =>
      -- the receiver was builtin, so no object gets through
      have hobject := hnarrowed.isObject_of_passes (Value.refusal?_eq_none hreceiver) hp
      simp [Value.isObject] at hobject
    | true =>
      obtain ⟨o, rfl⟩ := Value.exists_object hreceiver
      have hrefused := hnarrowed.refusal_of_passes rfl hp
      exact Object.declines_of_declineGuard (hothers o rfl) (hpast.declined o rfl) hrefused

/-- A language that indexes everything, whatever it is, indexes an instance that cannot do it
itself.  The binding is used for instances of the same class, and for no instance that can. -/
theorem LanguageStep.resolve_narrowed_getIndex :
    let step : LanguageStep := fun _ _ => some { guard := .always, plan := .receiver }
    let bare (id : Nat) : Object := .classInstance id ⟨0, "Bare", []⟩
    let indexed : Object := .classInstance 2 ⟨1, "Indexed", ["__getitem__"]⟩
    let args : List Value := [.object (bare 0), .int 7]
    Operation.GoesPast (.getIndex 1) (.object (bare 0)) [.int 7] ∧
      (step.resolve (.getIndex 1) args).guard.passes args = true ∧
      (step.resolve (.getIndex 1) args).guard.passes [.object (bare 1), .int 8] = true ∧
      (bare 1).bind (.getIndex 1) [.object (bare 1), .int 8] = none ∧
      (step.resolve (.getIndex 1) args).guard.passes [.object indexed, .int 7] = false := by
  intro step bare indexed args
  have hpast : Operation.GoesPast (.getIndex 1) (.object (bare 0)) [.int 7] := by
    refine ⟨rfl, fun o ho => ?_⟩
    obtain rfl := Value.object.inj ho
    rfl
  have hothers : ∀ o, Value.object (bare 0) = .object o → ¬ o.RefusesForOthers := by
    intro o ho
    obtain rfl := Value.object.inj ho
    exact id
  have hp : (step.resolve (.getIndex 1) args).guard.passes [.object (bare 1), .int 8] = true := by
    decide
  obtain ⟨-, -, happlies, hdeclines⟩ := resolve_narrowed step hpast
  refine ⟨hpast, happlies rfl fun o ho => ?_, hp, hdeclines hothers _ _ hp, by decide⟩
  obtain rfl := Value.object.inj ho
  decide

end DynamicBinding
