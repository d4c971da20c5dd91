import DynamicBinding.Proofs.Machine.Callees
import DynamicBinding.Proofs.Machine.Delegates
/-!
# Delegates of bound methods

A method that is bound to an instance is a function around another one, with the instance put before
the arguments.  It insists on one argument less, but never on less than none, and binding may be
repeated.  A delegate is made after a comparison of its parameters with the number that the
outermost function insists on; all functions inside check again.

* `Store.BoundTo` is the chain of functions, down to the one that was bound first.  Binding makes it
  longer (`Store.BoundTo.bindReceiver`).
* `Store.BoundTo.run_callFunction`: where there is room for the receivers, a call with the number of
  arguments that is left passes every check.  `run_callFunction_of_crowded`: where there is none,
  the outermost check wants no arguments, and the next one fails.
* `Language.delegate_reaches`: so a delegate reaches the innermost body, unless more receivers were
  bound than the function takes arguments.
-/

namespace DynamicBinding

open Exec

/-- The function takes at least so many arguments. -/
def FunctionRef.HasRoomFor (f : FunctionRef) (count : Nat) : Prop :=
  ∀ n, f.arity = some n → count ≤ n

/-! ## Chains of bound methods -/

/-- The last function was made from the native one by putting the receivers before the arguments,
one binding after the other. -/
inductive Store.BoundTo (s : Store) (native : FunctionRef) : List Value → FunctionRef → Prop
  | native : BoundTo s native [] native
  | bind {receivers : List Value} {method f : FunctionRef} {receiver : Value}
    (h : BoundTo s native receivers method) (hid : f.id < s.functions.size)
    (hbody : s.body f = .bound method receiver) (harity : f.arity = method.arity.map (· - 1)) :
    BoundTo s native (receivers ++ [receiver]) f

section Chains

variable {native method f : FunctionRef} {receivers args : List Value} {s t : Store} {m : Machine}

/-- A call with a number of arguments that the function takes runs the body. -/
theorem callFunction_eq_run (p : Perform) (h : ∀ n, f.arity = some n → args.length = n) :
    callFunction p f args = callFunction.run p f args := by
  unfold callFunction
  split
  · next n hn => rw [if_neg (not_not_intro (h n hn))]
  · rfl

/-- The body of a bound method is a call of the method. -/
theorem run_callFunction_bound (p : Perform) {receiver : Value}
    (hbody : m.store.body f = .bound method receiver) :
    (callFunction.run p f args).run.run m =
      (p (.callFunction method (receiver :: args))).run.run m := by
  simp only [callFunction.run, run_get_bind, hbody]

namespace Store.BoundTo

theorem leads (h : s.BoundTo native receivers f) (hleads : s.Leads t) :
    t.BoundTo native receivers f := by
  induction h with
  | native => exact .native
  | bind _ hid hbody harity ih =>
    obtain ⟨hid', hbody'⟩ := hleads.function hid
    exact .bind ih hid' (hbody'.trans hbody) harity

/-- Binding a receiver makes the chain longer. -/
theorem bindReceiver (h : s.BoundTo native receivers method) (receiver : Value) :
    ∃ f t, (bindReceiver method receiver).run.run s = (.ok (.function f), t) ∧
      f.signature = none ∧ t.BoundTo native (receivers ++ [receiver]) f := by
  let made := s.makeFunction method.name (method.arity.map (· - 1)) none (.bound method receiver)
  have hleads : s.Leads made.2 := .single (.makes (.function _ _ _ _))
  have hbody : made.2.body made.1 = .bound method receiver := by
    simp [made, makeFunction, Store.body]
  exact ⟨made.1, made.2, rfl, rfl, .bind (h.leads hleads) (by simp [made, makeFunction]) hbody rfl⟩

/-- The outermost function wants the arguments that the receivers leave over. -/
theorem arity_eq (h : s.BoundTo native receivers f) :
    f.arity = native.arity.map (· - receivers.length) := by
  induction h with
  | native => simp
  | bind _ _ _ harity ih =>
    rw [harity, ih, Option.map_map, List.length_append, List.length_singleton]
    rfl

/-- **With room for the receivers**, a call reaches the body of the native function. -/
theorem run_callFunction (h : m.store.BoundTo native receivers f) (caching : Caching) (depth : Nat)
    (hargs : ∀ n, native.arity = some n → receivers.length + args.length = n) :
    (run caching (depth + receivers.length + 1) (.callFunction f args)).run.run m =
      (callFunction.run (run caching depth) native (receivers ++ args)).run.run m := by
  induction h generalizing args with
  | native =>
    have hcount : ∀ n, native.arity = some n → args.length = n := by simpa using hargs
    show (callFunction (run caching depth) native args).run.run m = _
    rw [callFunction_eq_run _ hcount]
    rfl
  | @bind receivers method f receiver hmethod hid hbody harity ih =>
    have hmore : ∀ n, native.arity = some n → receivers.length + (receiver :: args).length = n := by
      intro n hn
      have := hargs n hn
      simp only [List.length_append, List.length_cons, List.length_nil] at this ⊢
      omega
    have hcount : ∀ n, f.arity = some n → args.length = n := by
      intro k hk
      rw [(hmethod.bind hid hbody harity).arity_eq, Option.map_eq_some_iff] at hk
      obtain ⟨n, hn, rfl⟩ := hk
      have := hargs n hn
      omega
    calc (run caching (depth + (receivers ++ [receiver]).length + 1)
            (.callFunction f args)).run.run m
        = (callFunction (run caching (depth + receivers.length + 1)) f args).run.run m := by
          rw [List.length_append, List.length_singleton]
          rfl
      _ = (run caching (depth + receivers.length + 1)
            (.callFunction method (receiver :: args))).run.run m := by
          rw [callFunction_eq_run _ hcount, run_callFunction_bound _ hbody]
      _ = (callFunction.run (run caching depth) native (receivers ++ receiver :: args)).run.run m :=
          ih hmore
      _ = _ := by rw [List.append_assoc, List.singleton_append]

/-- **Without room for the receivers**, the outermost function wants no arguments, and fails because
the one inside is given its receiver. -/
theorem run_callFunction_of_crowded (h : m.store.BoundTo native receivers f)
    (hcrowded : ¬ native.HasRoomFor receivers.length) (caching : Caching) (depth : Nat) :
    f.arity = some 0 ∧
      (run caching (depth + receivers.length + 1) (.callFunction f [])).run.run m =
        (.error (.error (.argumentCount 0 1)), m) := by
  simp only [FunctionRef.HasRoomFor, not_forall, Nat.not_le] at hcrowded
  obtain ⟨n, hn, hcrowded⟩ := hcrowded
  cases h with
  | native => exact absurd hcrowded n.not_lt_zero
  | @bind receivers method _ receiver hmethod hid hbody harity =>
    rw [List.length_append, List.length_singleton] at hcrowded ⊢
    have hmethodArity : method.arity = some 0 := by
      rw [hmethod.arity_eq, hn, Option.map_some, Nat.sub_eq_zero_of_le (by omega)]
    have hfArity : f.arity = some 0 := by rw [harity, hmethodArity, Option.map_some]
    have hcount : ∀ k, f.arity = some k → ([] : List Value).length = k := by simp [hfArity]
    refine ⟨hfArity, ?_⟩
    show (callFunction (run caching (depth + receivers.length + 1)) f []).run.run m = _
    rw [callFunction_eq_run _ hcount, run_callFunction_bound _ hbody]
    show (callFunction (run caching (depth + receivers.length)) method [receiver]).run.run m = _
    simp only [callFunction, hmethodArity]
    rfl

end Store.BoundTo

end Chains

/-! ## Calls of functions -/

variable {l : Language} {native f d : FunctionRef} {receivers args : List Value} {s : Signature}
  {m₀ made m : Machine}

/-- Other languages than the script language leave calls of functions to the fallback. -/
theorem Binder.plan_resolve_invoke_of_not_scripts (hl : ¬ l.Scripts) (f : FunctionRef)
    (args : List Value) :
    (resolve ⟨.invoke args.length, l⟩ (.function f :: args)).plan = .notCallable := by
  have hdeclines : languageStep ⟨.invoke args.length, l⟩ (.invoke args.length)
      (.function f :: args) = none := by
    simp only [Language.Scripts, not_or] at hl
    cases hkind : l.kind with
    | script => exact (hl.1 hkind).elim
    | loud => exact (hl.2 hkind).elim
    | loose | silent => simp only [languageStep, bindInLanguage, rebind, hkind, Loose.bind]
  have hpast : ((languageStep ⟨.invoke args.length, l⟩).bindPastProtocol (.invoke args.length)
      (.function f :: args)).plan = .notCallable := by
    unfold LanguageStep.bindPastProtocol
    rw [hdeclines]
    exact Fallback.plan_bind_invoke args.length _ args
  exact (LanguageStep.plan_resolveTyped_of_decline fun o rest h => by cases h).trans hpast

/-- A call of a function through no site in particular is a call of the function, two steps later,
in a language that has functions. -/
theorem run_invoke_function (caching : Caching) (depth : Nat) (f : FunctionRef)
    (args : List Value) :
    (l.Scripts →
      run caching (depth + 2) (.invoke ⟨.invoke args.length, l⟩ none (.function f :: args)) =
        run caching depth (.callFunction f args)) ∧
      (¬ l.Scripts →
        run caching (depth + 2) (.invoke ⟨.invoke args.length, l⟩ none (.function f :: args)) =
          Exec.fail (.notCallable "function")) := by
  have haccepts := Operation.accepts_invoke (.function f) args
  constructor
  · intro hl
    rw [run_invoke_none haccepts, Binder.plan_resolve_invoke hl]
    rfl
  · intro hl
    rw [run_invoke_none haccepts, Binder.plan_resolve_invoke_of_not_scripts hl]
    rfl

/-! ## Delegates -/

/-- A function without a signature becomes a new delegate, and only of a signature with as many
parameters as the function wants arguments. -/
theorem Language.delegate_function {v : Value} (hunsigned : f.signature = none)
    (hmade : (l.delegate (.function f) s).run.run m = (.ok v, made)) :
    (∀ n, f.arity = some n → n = s.params.length) ∧ v ≠ .function f := by
  have haccepts : (Target.delegate s).accepts (.function f) = false := by
    simp [Target.accepts, hunsigned]
  unfold delegate at hmade
  rw [haccepts] at hmade
  split at hmade
  · cases hmade
  · next hnone =>
    constructor
    · intro n hn
      simpa [delegateRefusal?, hunsigned, hn] using hnone
    · -- the delegate has the signature
      rintro rfl
      have hf := Value.function.inj (Except.ok.inj (Prod.mk.inj hmade).1)
      rw [← hf] at hunsigned
      cases hunsigned

theorem Signature.Receives.length_eq {coerced : List Value}
    (h : Receives s.params args coerced) : s.params.length = coerced.length :=
  h.fits.length_eq

/-- When the delegate is called, the chain is still there, and the contract holds of calling the
function as a value. -/
theorem Language.delegate_function_contract (hm₀ : m₀.Sound)
    (hbound : m₀.store.BoundTo native receivers f) (hunsigned : f.signature = none)
    (hmade : (l.delegate (.function f) s).run.run m₀ = (.ok (.function d), made))
    {after : Client} (hafter : after.RecordFree) {height : Nat}
    (hm : (after.run .kept height made).2 = m) (hargs : RecordFreeArgs args) (depth : Nat) :
    m.store.BoundTo native receivers f ∧
      s.Contract args m
        (fun coerced => (run .kept depth
          (.invoke ⟨.invoke coerced.length, l⟩ none (.function f :: coerced))).run.run m)
        ((run .kept (depth + 1) (.callFunction d args)).run.run m) := by
  obtain ⟨n₀, htracks₀⟩ := hm₀
  obtain ⟨harity, hid, hbody⟩ :=
    Language.delegate_eq_ok hmade (Language.delegate_function hunsigned hmade).2
  have hleads := after.run_leads .kept height made
  have hmaking := (l.delegate_evolves (.function f) s m₀).leads
  have hf : (Value.function f).RecordFree := rfl
  have htracks := (l.delegate_agree s htracks₀ hf).tracks
  rw [hmade] at hmaking htracks
  obtain ⟨n, htracks⟩ := Client.exists_tracks_run hafter height htracks
  rw [hm] at htracks hleads
  have hcontract := callFunction_delegate htracks harity ((hleads.body hid).trans hbody) hargs depth
    (m.admits_none _)
  refine ⟨hbound.leads (hmaking.trans hleads), hcontract.congr fun coerced hcoerced => ?_⟩
  rw [hcoerced.length_eq]

/-- **Delegates of functions reach the innermost body.**  A function that may have been bound to any
number of receivers becomes a delegate, and the delegate is called at any later time.  With
arguments that fit, the body of the native function runs on the receivers and those arguments, so no
check of the number of arguments refuses the call.

There is one exception.  If more receivers were bound than the native function takes arguments, then
the delegate has no parameters, and every call of it fails with a wrong number of arguments.  In a
language that has no calls of functions, no call gets so far as a check. -/
theorem Language.delegate_reaches (hm₀ : m₀.Sound) (hbound : m₀.store.BoundTo native receivers f)
    (hunsigned : f.signature = none)
    (hmade : (l.delegate (.function f) s).run.run m₀ = (.ok (.function d), made))
    (after : Client) (hafter : after.RecordFree) (height : Nat)
    (hm : (after.run .kept height made).2 = m) (hargs : RecordFreeArgs args) (depth : Nat) :
    let outcome := (run .kept (depth + receivers.length + 4) (.callFunction d args)).run.run m
    (l.Scripts → native.HasRoomFor receivers.length →
        s.Contract args m (fun coerced =>
          (callFunction.run (run .kept depth) native (receivers ++ coerced)).run.run m) outcome) ∧
      (l.Scripts → ¬ native.HasRoomFor receivers.length →
        s.params = [] ∧
          s.Contract args m (fun _ => (.error (.error (.argumentCount 0 1)), m)) outcome) ∧
      (¬ l.Scripts →
        s.Contract args m (fun _ => (.error (.error (.notCallable "function")), m)) outcome) := by
  intro outcome
  have hwants := (Language.delegate_function hunsigned hmade).1
  obtain ⟨hbound, hcontract⟩ := Language.delegate_function_contract hm₀ hbound hunsigned hmade
    hafter hm hargs (depth + receivers.length + 3)
  refine ⟨fun hl hroom => ?_, fun hl hcrowded => ?_, fun hl => ?_⟩
  · refine hcontract.congr fun coerced hcoerced => ?_
    -- what the receivers leave over is what the delegate passes on
    have hcount : ∀ n, native.arity = some n → receivers.length + coerced.length = n := by
      intro n hn
      have hleft := hwants (n - receivers.length) (by rw [hbound.arity_eq, hn, Option.map_some])
      have hfits := hroom n hn
      have hpassed := hcoerced.length_eq
      omega
    rw [(run_invoke_function _ _ f coerced).1 hl]
    exact hbound.run_callFunction .kept depth hcount
  · obtain ⟨hnone, hcall⟩ := hbound.run_callFunction_of_crowded hcrowded .kept depth
    have hparams : s.params = [] := List.length_eq_zero_iff.1 (hwants 0 hnone).symm
    refine ⟨hparams, hcontract.congr fun coerced hcoerced => ?_⟩
    rw [hparams] at hcoerced
    cases hcoerced
    rw [(run_invoke_function _ _ f []).1 hl, hcall]
  · refine hcontract.congr fun coerced _ => ?_
    rw [(run_invoke_function _ _ f coerced).2 hl]
    rfl

/-- A user who makes an instance of a class with one method, and reads the method. -/
def Client.readingMethod (arity : Option Nat) (body : Expr) : Client :=
  .ask (.openSite "new" ⟨.createInstance 0, default⟩ 4) fun _ =>
    .ask (.openSite "read" ⟨.getMember "m" false, default⟩ 4) fun _ =>
      .ask (.make (.newClass "C" [("m", arity, body)] [])) fun made =>
        match made with
        | .ok c =>
          .ask (.call "new" [c]) fun answer =>
            match answer with
            | .ok o => .ask (.call "read" [o]) fun _ => .done
            | .error _ => .done
        | .error _ => .done

theorem Client.recordFree_readingMethod (arity : Option Nat) (body : Expr)
    (h : (Literal.newClass "C" [("m", arity, body)] []).recordFree = true) :
    (readingMethod arity body).RecordFree := by
  refine ⟨trivial, fun _ _ => ⟨trivial, fun _ _ => ⟨h, fun made hmade => ?_⟩⟩⟩
  cases made with
  | error stop => trivial
  | ok c =>
    refine ⟨RecordFreeArgs.cons (hmade c rfl) RecordFreeArgs.nil, fun answer hanswer => ?_⟩
    cases answer with
    | error stop => trivial
    | ok o => exact ⟨RecordFreeArgs.cons (hanswer o rfl) RecordFreeArgs.nil, fun _ _ => trivial⟩

/-- A method of two arguments, bound to one receiver. -/
theorem Language.delegate_reaches_widening :
    let m₀ := (Client.readingMethod (some 2) (.arg 1)).left 9 default
    let m := (((default : Language).delegate (.function ⟨1, "m", some 1, none⟩)
      .widening).run.run m₀).2
    Signature.widening.Contract [.bool true] m
      (fun coerced => (callFunction.run (run .kept 9) ⟨0, "m", some 2, none⟩
        (Client.receiver :: coerced)).run.run m)
      ((run .kept 14
        (.callFunction ⟨2, "delegate m", none, some .widening⟩ [.bool true])).run.run m) := by
  intro m₀ m
  have hm₀ : m₀.Sound :=
    Client.sound_left (Client.recordFree_readingMethod (some 2) (.arg 1) rfl) default 9
  have hbound : m₀.store.BoundTo ⟨0, "m", some 2, none⟩ [Client.receiver]
      ⟨1, "m", some 1, none⟩ := .bind .native (by decide) rfl rfl
  have hroom : FunctionRef.HasRoomFor ⟨0, "m", some 2, none⟩ 1 := by
    rintro n ⟨⟩
    decide
  have hargs : RecordFreeArgs [.bool true] := RecordFreeArgs.cons rfl RecordFreeArgs.nil
  exact (Language.delegate_reaches hm₀ hbound rfl rfl .done trivial 9 rfl hargs 9).1 (.inl rfl)
    hroom

example :
    let m₀ := (Client.readingMethod (some 2) (.arg 1)).left 9 default
    let m := (((default : Language).delegate (.function ⟨1, "m", some 1, none⟩)
      .widening).run.run m₀).2
    ((run .kept 14 (.callFunction ⟨2, "delegate m", none, some .widening⟩ [.bool true])).run.run
      m).1 = .ok (.float (.ofInt 1)) := by
  rfl

/-- A method of no arguments, bound to one receiver.  It becomes a delegate of no parameters, and no
arguments fit, but the call is refused. -/
theorem Language.delegate_refuses_crowded :
    let m₀ := (Client.readingMethod (some 0) (.const (.int 5))).left 9 default
    let s : Signature := ⟨.any, []⟩
    let made := ((default : Language).delegate (.function ⟨1, "m", some 0, none⟩) s).run.run m₀
    m₀.store.BoundTo ⟨0, "m", some 0, none⟩ [Client.receiver] ⟨1, "m", some 0, none⟩ ∧
      made.1 = .ok (.function ⟨2, "delegate m", none, some s⟩) ∧
      Signature.Receives s.params [] [] ∧
      ((run .kept 14 (.callFunction ⟨2, "delegate m", none, some s⟩ [])).run.run made.2).1 =
        .error (.error (.argumentCount 0 1)) := by
  intro m₀ s made
  exact ⟨.bind .native (by decide) rfl rfl, rfl, .nil, rfl⟩

end DynamicBinding
