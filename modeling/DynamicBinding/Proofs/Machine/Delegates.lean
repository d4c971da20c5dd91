import DynamicBinding.Proofs.Machine.Stages
/-!
# The contract of delegates

A delegate checks the number of its arguments, then fits the arguments to the parameters from left
to right, and only then calls what it wraps.  The call goes through a site that all delegates of one
language and number of parameters share, whose history is anyone's.

* `Signature.Receives` says what the target is given, and `Signature.Misfits` which argument is the
  first that fits no longer, and with which error.
* `Signature.call_contract` is the contract relative to the way in which the target is called.
* `Language.delegate_contract`: a delegate that was made at any time keeps the contract at any later
  time.  What is called in between, through the shared site or elsewhere, makes no difference,
  because a call through the shared site gives what a call through a new site gives.
-/

namespace DynamicBinding

open Exec

/-! ## Shapes -/

/-- The value is of the shape: of its kind, or nothing where the shape has no value. -/
def Shape.Fits : Shape → Value → Prop
  | .any, _ => True
  | .void, v => v = .nothing
  | .kind k, v => v.kind = k

namespace Shape

variable {shape : Shape} {v w : Value}

/-- What is coerced to a shape is of the shape. -/
theorem fits_of_coerce (h : shape.coerce v = .ok w) : shape.Fits w := by
  unfold coerce at h
  split at h
  · trivial
  · exact (Except.ok.inj h).symm
  · cases h
    rfl
  · cases h
    rfl
  · cases h
    rfl
  · split at h
    · next hkind =>
      cases h
      exact hkind
    · cases h

/-- Only a value of the wrong kind does not fit. -/
theorem coerce_error {e : RuntimeError} (h : shape.coerce v = .error e) :
    ∃ k, shape = .kind k ∧ e = .typeMismatch k.name v.typeName := by
  unfold coerce at h
  split at h
  · cases h
  · cases h
  · cases h
  · cases h
  · cases h
  · split at h
    · cases h
    · cases h
      exact ⟨_, rfl, rfl⟩

end Shape

/-! ## Arguments -/

namespace Signature

variable {shapes : List Shape} {args coerced : List Value} {e : RuntimeError}

/-- Every argument fits its parameter, as the value that is received. -/
inductive Receives : List Shape → List Value → List Value → Prop
  | nil : Receives [] [] []
  | cons {shape : Shape} {shapes : List Shape} {v w : Value} {vs ws : List Value}
    (h : shape.coerce v = .ok w) (rest : Receives shapes vs ws) :
    Receives (shape :: shapes) (v :: vs) (w :: ws)

/-- Some argument does not fit its parameter; the error is that of the first one. -/
inductive Misfits : List Shape → List Value → RuntimeError → Prop
  | here {k : Kind} {v : Value} (h : ∀ w, (Shape.kind k).coerce v ≠ .ok w) (shapes : List Shape)
    (vs : List Value) : Misfits (.kind k :: shapes) (v :: vs) (.typeMismatch k.name v.typeName)
  | later {shape : Shape} {shapes : List Shape} {v w : Value} {vs : List Value} {e : RuntimeError}
    (h : shape.coerce v = .ok w) (rest : Misfits shapes vs e) :
    Misfits (shape :: shapes) (v :: vs) e

/-- What is received has the kinds of the parameters. -/
theorem Receives.fits (h : Receives shapes args coerced) :
    List.Forall₂ Shape.Fits shapes coerced := by
  induction h with
  | nil => exact .nil
  | cons h _ ih => exact .cons (Shape.fits_of_coerce h) ih

/-- What is received for arguments without records has none. -/
theorem Receives.recordFree (h : Receives shapes args coerced) (hargs : RecordFreeArgs args) :
    RecordFreeArgs coerced := by
  induction h with
  | nil => exact RecordFreeArgs.nil
  | cons h _ ih =>
    exact RecordFreeArgs.cons (recordFreeResult_coerce _ hargs.head _ h) (ih hargs.tail)

/-- The arguments are received, or one of them is the first that does not fit. -/
theorem coerceAll_cases (h : args.length = shapes.length) :
    (∃ coerced, Receives shapes args coerced ∧ coerceAll shapes args = .ok coerced) ∨
      ∃ e, Misfits shapes args e ∧ coerceAll shapes args = .error e := by
  induction shapes generalizing args with
  | nil =>
    obtain rfl := List.length_eq_zero_iff.1 h
    exact .inl ⟨[], .nil, rfl⟩
  | cons shape shapes ih =>
    obtain ⟨v, vs, rfl⟩ := List.exists_cons_of_length_eq_add_one h
    cases hv : shape.coerce v with
    | error e =>
      obtain ⟨k, rfl, rfl⟩ := Shape.coerce_error hv
      have hne : ∀ w, (Shape.kind k).coerce v ≠ .ok w := by
        intro w
        rw [hv]
        exact nofun
      exact .inr ⟨_, .here hne shapes vs, by simp [coerceAll, hv, bind, Except.bind]⟩
    | ok w =>
      rcases ih (Nat.succ.inj h) with ⟨ws, hws, hall⟩ | ⟨e, he, hall⟩
      · exact .inl ⟨w :: ws, .cons hv hws, by
          simp [coerceAll, hv, hall, bind, Except.bind, pure, Except.pure]⟩
      · exact .inr ⟨e, .later hv he, by simp [coerceAll, hv, hall, bind, Except.bind]⟩

/-! ## Calls -/

/-- What comes of a call: the result, and the machine that is left. -/
abbrev Outcome := Except Stop Value × Machine

/-- The answer of the target fitted to the result of a signature.  Its error is passed on. -/
def fitAnswer (s : Signature) (answer : Except Stop Value) : Except Stop Value := do
  (s.result.coerce (← answer)).mapError .error

/-- What a call gives is of the shape of the result. -/
theorem fits_of_fitAnswer {s : Signature} {answer : Except Stop Value} {v : Value}
    (h : s.fitAnswer answer = .ok v) : s.result.Fits v := by
  cases answer with
  | error stop => cases h
  | ok w =>
    simp only [fitAnswer, bind, Except.bind] at h
    cases hw : s.result.coerce w with
    | error e =>
      rw [hw] at h
      cases h
    | ok u =>
      rw [hw] at h
      cases h
      exact Shape.fits_of_coerce hw

/-- Coercing the answer fits it, and leaves the machine as the call left it. -/
theorem run_fitAnswer (s : Signature) (x : Exec Value) (m : Machine) :
    (x >>= fun answer => Exec.lift (s.result.coerce answer)).run.run m =
      (s.fitAnswer (x.run.run m).1, (x.run.run m).2) := by
  rw [run_bind]
  rcases x.run.run m with ⟨answer, n⟩
  cases answer with
  | error stop => rfl
  | ok answer =>
    simp only [fitAnswer, bind, Except.bind]
    cases s.result.coerce answer <;> rfl

/-- The outcome of a call of a delegate, given the outcomes of calling what it wraps.  Nothing at
all changes where the arguments are refused, and otherwise the store changes as the target changes
it. -/
inductive Contract (s : Signature) (args : List Value) (m : Machine)
    (called : List Value → Outcome) : Outcome → Prop
  | miscounted (h : args.length ≠ s.params.length) :
    Contract s args m called
      (.error (.error
        (.signatureMismatch s ("call with " ++ toString args.length ++ " arguments"))), m)
  | misfits {e : RuntimeError} (hlen : args.length = s.params.length)
    (h : Misfits s.params args e) : Contract s args m called (.error (.error e), m)
  | passes {coerced : List Value} {n : Machine} (h : Receives s.params args coerced)
    (hfits : List.Forall₂ Shape.Fits s.params coerced)
    (hstore : n.store = (called coerced).2.store) :
    Contract s args m called (s.fitAnswer (called coerced).1, n)

/-- An answer under a signature is of the shape of its result. -/
theorem Contract.fits {s : Signature} {m : Machine} {called : List Value → Outcome}
    {outcome : Outcome} (h : s.Contract args m called outcome) {v : Value}
    (hv : outcome.1 = .ok v) : s.result.Fits v := by
  cases h with
  | miscounted h => cases hv
  | misfits hlen h => cases hv
  | passes h hfits hstore => exact fits_of_fitAnswer hv

/-- What counts is how the target is called on the arguments that are received. -/
theorem Contract.congr {s : Signature} {m : Machine} {called called' : List Value → Outcome}
    {outcome : Outcome} (h : s.Contract args m called outcome)
    (hsame : ∀ coerced, Receives s.params args coerced → called coerced = called' coerced) :
    s.Contract args m called' outcome := by
  cases h with
  | miscounted h => exact .miscounted h
  | misfits hlen h => exact .misfits hlen h
  | passes h hfits hstore =>
    rw [hsame _ h] at hstore ⊢
    exact .passes h hfits hstore

/-- **The contract of a call under a signature**, for any way of calling the target that is as good
as the one that the call uses. -/
theorem call_contract (s : Signature) (invoke : List Value → Exec Value) (target : Value)
    (m : Machine) {called : List Value → Outcome}
    (hcalled : ∀ coerced, Receives s.params args coerced →
      ((invoke (target :: coerced)).run.run m).1 = (called coerced).1 ∧
        ((invoke (target :: coerced)).run.run m).2.store = (called coerced).2.store) :
    s.Contract args m called ((s.call invoke target args).run.run m) := by
  unfold call
  by_cases hlen : args.length = s.params.length
  · rw [if_neg (not_not_intro hlen)]
    rcases coerceAll_cases hlen with ⟨coerced, hreceives, hall⟩ | ⟨e, hmisfits, hall⟩
    · obtain ⟨hanswer, hstore⟩ := hcalled coerced hreceives
      rw [hall]
      show s.Contract args m called
        ((invoke (target :: coerced) >>= fun answer =>
          Exec.lift (s.result.coerce answer)).run.run m)
      rw [run_fitAnswer, hanswer]
      exact .passes hreceives hreceives.fits hstore
    · rw [hall]
      exact .misfits hlen hmisfits
  · rw [if_pos hlen]
    exact .miscounted hlen

end Signature

/-! ## Delegates -/

variable {m n made : Machine} {l : Language} {s : Signature} {target : Value} {f : FunctionRef}
  {args : List Value}

/-- A delegate that is new takes any number of arguments as a function, and its body is the call of
what it wraps. -/
theorem Language.delegate_eq_ok
    (h : (l.delegate target s).run.run m = (.ok (.function f), made))
    (hnew : .function f ≠ target) :
    f.arity = none ∧ f.id < made.store.functions.size ∧
      made.store.body f = .delegate l s target := by
  unfold delegate at h
  split at h
  · cases h
  · split at h
    · cases h
      exact (hnew rfl).elim
    · cases h
      exact ⟨rfl, by simp, by simp [Store.body]⟩

/-- It makes no difference through which site of its binder a call goes, or whether through one at
all. -/
theorem run_invoke_alike (htracks : m.Tracks n) (hargs : RecordFreeArgs args) (depth : Nat)
    {binder : Binder} {site other : Option Nat} (hsite : ∀ id, site = some id → m.Hosts id binder)
    (hother : ∀ id, other = some id → m.Hosts id binder) :
    ((run .kept depth (.invoke binder site args)).run.run m).1 =
        ((run .kept depth (.invoke binder other args)).run.run m).1 ∧
      ((run .kept depth (.invoke binder site args)).run.run m).2.store =
        ((run .kept depth (.invoke binder other args)).run.run m).2.store := by
  -- either call gives what a machine gives that keeps nothing
  have h := run_agree depth htracks (.invoke none hsite hargs)
  have h' := run_agree depth htracks (.invoke none hother hargs)
  exact ⟨h.same.trans h'.same.symm, by rw [← h.tracks.store_eq, ← h'.tracks.store_eq]⟩

/-- The contract holds on every machine on which the delegate has the body that it was made with.
The target may be called through any site, or through none in particular. -/
theorem callFunction_delegate (htracks : m.Tracks n) (harity : f.arity = none)
    (hbody : m.store.body f = .delegate l s target) (hargs : RecordFreeArgs args) (depth : Nat)
    {site : Option Nat}
    (hsite : ∀ id, site = some id → m.Hosts id ⟨.invoke s.params.length, l⟩) :
    s.Contract args m
      (fun coerced => (run .kept depth
        (.invoke ⟨.invoke s.params.length, l⟩ site (target :: coerced))).run.run m)
      ((run .kept (depth + 1) (.callFunction f args)).run.run m) := by
  have htarget : target.RecordFree := by
    have h := htracks.store.body f
    rwa [hbody] at h
  have hrun : (run .kept (depth + 1) (.callFunction f args)).run.run m =
      (s.call (fun all => run .kept depth (.invoke (l.delegateBinder s)
        (m.shared.get? (l.delegateBinder s)) all)) target args).run.run m := by
    show (callFunction (run .kept depth) f args).run.run m = _
    simp only [callFunction, harity, callFunction.run, run_get_bind, hbody]
  rw [hrun]
  apply s.call_contract
  intro coerced hcoerced
  exact run_invoke_alike htracks (RecordFreeArgs.cons htarget (hcoerced.recordFree hargs)) depth
    (fun _ hid => htracks.sites.shared hid) hsite

/-- **Delegates keep their contract.**  A delegate is made after anything that a user did, and
called after anything that was done since.  The call is refused for the number of its arguments, or
else for the first argument that does not fit its parameter, and then nothing at all has changed.
Otherwise it gives what calling the target on the fitted arguments gives at that moment, fitted to
the result, and changes the store alike.  Every answer is of the shape of the result. -/
theorem Language.delegate_contract (before after : Client) (hbefore : before.RecordFree)
    (hafter : after.RecordFree) (main : Language) (height : Nat) (htarget : target.RecordFree)
    (hmade : (l.delegate target s).run.run (before.left height main) = (.ok (.function f), made))
    (hnew : .function f ≠ target) (hm : (after.run .kept height made).2 = m)
    (hargs : RecordFreeArgs args) (depth : Nat) :
    (∀ site : Option Nat, (∀ id, site = some id → m.Hosts id ⟨.invoke s.params.length, l⟩) →
      s.Contract args m
        (fun coerced => (run .kept depth
          (.invoke ⟨.invoke s.params.length, l⟩ site (target :: coerced))).run.run m)
        ((run .kept (depth + 1) (.callFunction f args)).run.run m)) ∧
      ∀ v, ((run .kept (depth + 1) (.callFunction f args)).run.run m).1 = .ok v →
        s.result.Fits v := by
  obtain ⟨n₀, htracks₀⟩ := Client.exists_tracks_left hbefore main height
  obtain ⟨harity, hid, hbody⟩ := Language.delegate_eq_ok hmade hnew
  have htracks := (l.delegate_agree s htracks₀ htarget).tracks
  rw [hmade] at htracks
  obtain ⟨n, htracks⟩ := Client.exists_tracks_run hafter height htracks
  have hleads := after.run_leads .kept height made
  rw [hm] at htracks hleads
  have hcontract : ∀ site : Option Nat,
      (∀ id, site = some id → m.Hosts id ⟨.invoke s.params.length, l⟩) → _ :=
    fun site hsite =>
      callFunction_delegate htracks harity ((hleads.body hid).trans hbody) hargs depth hsite
  exact ⟨hcontract, fun v hv => (hcontract none fun id h => by cases h).fits hv⟩

/-- From int to float. -/
def Signature.widening : Signature := ⟨.kind .float, [.kind .int]⟩

/-- A user who makes a function. -/
def Client.makingOne : Client :=
  .ask (.make (.function "f" (some 1) none (.arg 0))) fun _ => .done

/-- A user who has another function wrapped under the same signature, and calls it. -/
def Client.wrappingAnother : Client :=
  .ask (.openSite "wrap" ⟨.convert (.delegate .widening) true, default⟩ 4) fun _ =>
    .ask (.openSite "call" ⟨.invoke 1, default⟩ 4) fun _ =>
      .ask (.make (.function "g" none none (.const (.int 7)))) fun made =>
        match made with
        | .ok g =>
          .ask (.call "wrap" [g]) fun wrapped =>
            match wrapped with
            | .ok d => .ask (.call "call" [d, .int 3]) fun _ => .done
            | .error _ => .done
        | .error _ => .done

/-- The user brings in no record. -/
theorem Client.recordFree_wrappingAnother : wrappingAnother.RecordFree := by
  refine ⟨trivial, fun _ _ => ⟨trivial, fun _ _ => ⟨rfl, fun made hmade => ?_⟩⟩⟩
  cases made with
  | error stop => trivial
  | ok g =>
    refine ⟨RecordFreeArgs.cons (hmade g rfl) RecordFreeArgs.nil, fun wrapped hwrapped => ?_⟩
    cases wrapped with
    | error stop => trivial
    | ok d =>
      have hargs : RecordFreeArgs [d, .int 3] :=
        RecordFreeArgs.cons (hwrapped d rfl) (RecordFreeArgs.cons rfl RecordFreeArgs.nil)
      exact ⟨hargs, fun _ _ => trivial⟩

/-- The function of `Client.makingOne`, and the delegate around it. -/
def Language.wrapOne : Except Stop Value × Machine :=
  ((default : Language).delegate (.function ⟨0, "f", some 1, none⟩) .widening).run.run
    (Client.makingOne.left 20 default)

/-- The delegate that was made before takes a bool for a whole number, and gives a float. -/
theorem Language.delegate_contract_widening :
    let m := (Client.wrappingAnother.run .kept 20 wrapOne.2).2
    Signature.widening.Contract [.bool true] m
      (fun coerced => (run .kept 20
        (.invoke ⟨.invoke 1, default⟩ none
          (.function ⟨0, "f", some 1, none⟩ :: coerced))).run.run m)
      ((run .kept 21
        (.callFunction ⟨1, "delegate f", none, some .widening⟩ [.bool true])).run.run m) := by
  have hmade : wrapOne =
      (.ok (.function ⟨1, "delegate f", none, some .widening⟩), wrapOne.2) := rfl
  have hmaking : Client.makingOne.RecordFree := ⟨rfl, fun _ _ => trivial⟩
  have htarget : (Value.function ⟨0, "f", some 1, none⟩).RecordFree := rfl
  have hargs : RecordFreeArgs [.bool true] := RecordFreeArgs.cons rfl RecordFreeArgs.nil
  exact (Language.delegate_contract Client.makingOne Client.wrappingAnother hmaking
    Client.recordFree_wrappingAnother default 20 htarget hmade (by decide) rfl hargs 20).1 none
    fun id h => by cases h

example :
    ((run .kept 21 (.callFunction ⟨1, "delegate f", none, some .widening⟩ [.bool true])).run.run
      (Client.wrappingAnother.run .kept 20 Language.wrapOne.2).2).1 = .ok (.float (.ofInt 1)) := by
  rfl

end DynamicBinding
