import DynamicBinding.Proofs.Machine.Depth
/-!
# Two ways to call a value

A value is called directly by methods, operators and initialisers, and through a site by everything
else.  The first asks the value alone; the second goes through resolution, the kept bindings of the
site, and the plan.  In the script language both come to the same.

* `Value.callPlan` is the plan that a call of the value runs.  A direct call is like running it
  (`alike_callValue`), and so is a call through a site (`plan_resolve_invoke`).
* `Machine.Sound.calls_agree`: the two ways of calling agree, and so a method call agrees with
  reading the member and then calling it.
-/

namespace DynamicBinding

open Exec

/-! ## The plan of a call -/

/-- The plan that a call of the value runs on the value and the arguments. -/
def Value.callPlan (callee : Value) (args : List Value) : Plan :=
  match callee with
  | .function _ => .callFunction
  | .object o =>
    match o.bind (.invoke args.length) (callee :: args) with
    | some binding => binding.plan
    | none => .notCallable
  | _ => .notCallable

/-- A direct call runs the plan. -/
theorem alike_callValue (callee : Value) (args : List Value) (m : Machine) :
    Task.Alike m (.callValue callee args) m (.execute (callee.callPlan args) (callee :: args)) := by
  cases callee with
  | function f => exact ⟨1, 1, fun _ => rfl⟩
  | object o =>
    cases hbind : o.bind (.invoke args.length) (.object o :: args) with
    | some binding =>
      have hplan : (Value.object o).callPlan args = binding.plan := by
        simp only [Value.callPlan, hbind]
      have hrun : ∀ depth, run .fresh (depth + 1) (.callValue (.object o) args) =
          run .fresh depth (.execute binding.plan (.object o :: args)) := by
        intro depth
        simp only [run, step, callValue, hbind]
      rw [hplan]
      exact ⟨1, 0, fun depth => by rw [hrun, Nat.add_zero]⟩
    | none =>
      have hplan : (Value.object o).callPlan args = .notCallable := by
        simp only [Value.callPlan, hbind]
      have hrun : ∀ depth, run .fresh (depth + 1) (.callValue (.object o) args) =
          run .fresh (depth + 1) (.execute .notCallable (.object o :: args)) := by
        intro depth
        simp only [run, step, callValue, hbind, execute]
      rw [hplan]
      exact ⟨1, 1, fun depth => by rw [hrun]⟩
  | _ => exact ⟨1, 1, fun _ => rfl⟩

/-- The language binds builtin values as the script language does. -/
def Language.Scripts (l : Language) : Prop := l.kind = .script ∨ l.kind = .loud

/-- The fallback of a call is that the value cannot be called. -/
theorem Fallback.plan_bind_invoke (n : Nat) (callee : Value) (args : List Value) :
    (Fallback.bind (.invoke n) (callee :: args)).plan = .notCallable := by
  simp only [Fallback.bind, Fallback.notCallable, Binding.withSource]
  split <;> rfl

/-- Only functions are bound by the script language itself. -/
theorem Script.plan_bindPastProtocol_invoke {l : Language} (hl : l.Scripts) (callee : Value)
    (args : List Value) :
    ((Binder.languageStep ⟨.invoke args.length, l⟩).bindPastProtocol (.invoke args.length)
      (callee :: args)).plan =
        match callee with
        | .function _ => .callFunction
        | _ => .notCallable := by
  have hstep : (Binder.languageStep ⟨.invoke args.length, l⟩) (.invoke args.length)
      (callee :: args) = bindInvoke (callee :: args) := by
    rcases hl with hl | hl <;>
      simp only [Binder.languageStep, Binder.bindInLanguage, Binder.rebind, hl, bind]
  unfold LanguageStep.bindPastProtocol
  rw [hstep]
  cases callee with
  | function f => rfl
  | _ => exact Fallback.plan_bind_invoke _ _ args

/-- Resolution finds the plan as well: for an object by its protocol, for other values by the
language or the fallback. -/
theorem Binder.plan_resolve_invoke {l : Language} (hl : l.Scripts) (callee : Value)
    (args : List Value) :
    (resolve ⟨.invoke args.length, l⟩ (callee :: args)).plan = callee.callPlan args := by
  show ((languageStep ⟨.invoke args.length, l⟩).resolveTyped (.invoke args.length)
    (callee :: args)).plan = _
  have hpast := Script.plan_bindPastProtocol_invoke hl callee args
  cases callee with
  | object o =>
    cases hbind : o.bind (.invoke args.length) (.object o :: args) with
    | some binding =>
      rw [LanguageStep.resolveTyped_of_bind hbind]
      simp only [Value.callPlan, hbind, Binding.withSource]
    | none =>
      have hdecline : ∀ o' rest, Value.object o :: args = .object o' :: rest →
          o'.bind (.invoke args.length) (.object o :: args) = none := by
        rintro o' rest heq
        cases heq
        exact hbind
      rw [LanguageStep.plan_resolveTyped_of_decline hdecline, hpast]
      simp only [Value.callPlan, hbind]
  | _ => exact (LanguageStep.plan_resolveTyped_of_decline fun o rest h => by cases h).trans hpast

/-- A call with as many arguments as its operation says is well formed. -/
theorem Operation.accepts_invoke (callee : Value) (args : List Value) :
    (Operation.invoke args.length).Accepts (callee :: args) := by
  rintro n ⟨⟩
  rfl

/-- Calling a value and an `Invoke` on it have the same plan, and do the same. -/
theorem alike_callValue_invoke {l : Language} (hl : l.Scripts) (callee : Value)
    (args : List Value) (m : Machine) :
    Task.Alike m (.callValue callee args) m
      (.invoke ⟨.invoke args.length, l⟩ none (callee :: args)) := by
  have haccepts := Operation.accepts_invoke callee args
  have hinvoke := Task.alike_invoke ⟨.invoke args.length, l⟩ haccepts m
  rw [Binder.plan_resolve_invoke hl] at hinvoke
  exact (alike_callValue callee args m).trans hinvoke.symm

/-! ## Members -/

/-- A computation on the store leaves the rest of the machine as it is. -/
theorem run_onStore {α : Type} (x : Effect α) (m : Machine) :
    (Exec.onStore x).run.run m =
      ((x.run.run m.store).1, { m with store := (x.run.run m.store).2 }) := rfl

section Members

variable {id count : Nat} {c : ClassRef} {name : String} {ignoreCase : Bool} {args : List Value}
  {member : Value} {s t : Store}

/-- Reading an attribute gives what is looked up, and fails if there is none. -/
theorem run_readAttribute_eq (operation : Operation) :
    (readAttribute operation name ignoreCase (.object (.classInstance id c) :: args)).run.run s =
      match (attribute? (.object (.classInstance id c)) id c name ignoreCase).run.run s with
      | (.ok (some v), t) => (.ok v, t)
      | (.ok none, t) =>
        (.error (.error (.unsupportedOn operation (.object (.classInstance id c)))), t)
      | (.error stop, t) => (.error stop, t) := by
  show (attribute? (.object (.classInstance id c)) id c name ignoreCase >>= _).run.run s = _
  rw [run_bind]
  rcases (attribute? (.object (.classInstance id c)) id c name ignoreCase).run.run s with
    ⟨found, u⟩
  cases found with
  | error stop => rfl
  | ok found => cases found <;> rfl

/-- An attribute that is found is found for every operation, whatever the other arguments are. -/
theorem run_readAttribute_congr {operation : Operation} (other : Operation) (more : List Value)
    (h : (readAttribute operation name ignoreCase
      (.object (.classInstance id c) :: args)).run.run s = (.ok member, t)) :
    (readAttribute other name ignoreCase
      (.object (.classInstance id c) :: more)).run.run s = (.ok member, t) := by
  rw [run_readAttribute_eq] at h ⊢
  rcases hfound : (attribute? (.object (.classInstance id c)) id c name ignoreCase).run.run s with
    ⟨found, u⟩
  rw [hfound] at h
  cases found with
  | error stop => cases h
  | ok found =>
    cases found with
    | some v => exact h
    | none => cases h

/-- Where nothing is kept, the member that is read is the attribute of the instance. -/
theorem run_getMember {reader : Language} {depth : Nat} {m n : Machine}
    (h : (run .fresh depth (.invoke ⟨.getMember name ignoreCase, reader⟩ none
      [.object (.classInstance id c)])).run.run m = (.ok member, n)) :
    (readAttribute (.getMember name ignoreCase) name ignoreCase
        [.object (.classInstance id c)]).run.run m.store = (.ok member, n.store) ∧
      n = { m with store := n.store } := by
  match depth with
  | 0 => cases h
  | 1 => cases h
  | depth + 2 =>
    obtain ⟨hanswer, hleft⟩ := Prod.mk.inj h
    subst hleft
    exact ⟨Prod.ext hanswer rfl, rfl⟩

/-- After the member was read, a method call is the direct call of the member. -/
theorem alike_invokeMember (reader caller : Language) (args : List Value) {depth : Nat}
    {m n : Machine} (h : (run .fresh depth (.invoke ⟨.getMember name ignoreCase, reader⟩ none
      [.object (.classInstance id c)])).run.run m = (.ok member, n)) :
    Task.Alike m (.invoke ⟨.invokeMember name ignoreCase args.length, caller⟩ none
      (.object (.classInstance id c) :: args)) n (.callValue member args) := by
  obtain ⟨hread, hleft⟩ := run_getMember h
  have hattribute := run_readAttribute_congr (.invokeMember name ignoreCase args.length) args hread
  have haccepts : (Operation.invokeMember name ignoreCase args.length).Accepts
      (.object (.classInstance id c) :: args) := by
    rintro n ⟨⟩
    rfl
  have hcall : Task.Alike m (.execute (.callMember name ignoreCase args.length)
      (.object (.classInstance id c) :: args)) n (.callValue member args) := by
    refine ⟨1, 0, fun depth => ?_⟩
    show (Exec.onStore (readAttribute (.invokeMember name ignoreCase args.length) name ignoreCase
      (.object (.classInstance id c) :: args)) >>= fun callee =>
        run .fresh depth (.callValue callee args)).run.run m = _
    have hrun : (Exec.onStore (readAttribute (.invokeMember name ignoreCase args.length) name
        ignoreCase (.object (.classInstance id c) :: args))).run.run m = (.ok member, n) := by
      rw [run_onStore, hattribute, hleft]
    rw [run_bind, hrun]
    rfl
  exact (Task.alike_invoke ⟨_, caller⟩ haccepts m).trans hcall

end Members

/-! ## Agreement -/

/-- **Calling a value directly and calling it through a site of the script language come to the
same**: the same answer or error, and the same store.  The site may have any history.

So, where reading a member of an instance succeeds, the method call of that name comes to what the
call of the member comes to afterwards. -/
theorem Machine.Sound.calls_agree {m : Machine} (hm : m.Sound) {l : Language}
    (hl : l.kind = .script) :
    (∀ (callee : Value) (args : List Value) (site : Option Nat), callee.RecordFree →
      RecordFreeArgs args → m.Admits site ⟨.invoke args.length, l⟩ →
        Task.SameOutcome m (.callValue callee args)
          m (.invoke ⟨.invoke args.length, l⟩ site (callee :: args))) ∧
      ∀ (id : Nat) (c : ClassRef) (name : String) (ignoreCase : Bool) (args : List Value)
        (reader caller : Language) (readSite memberSite callSite : Option Nat) (depth : Nat)
        (member : Value) (n : Machine),
        RecordFreeArgs args →
        m.Admits readSite ⟨.getMember name ignoreCase, reader⟩ →
        m.Admits memberSite ⟨.invokeMember name ignoreCase args.length, caller⟩ →
        n.Admits callSite ⟨.invoke args.length, l⟩ →
        (run .kept depth (.invoke ⟨.getMember name ignoreCase, reader⟩ readSite
          [.object (.classInstance id c)])).run.run m = (.ok member, n) →
        Task.SameOutcome
          m (.invoke ⟨.invokeMember name ignoreCase args.length, caller⟩ memberSite
            (.object (.classInstance id c) :: args))
          n (.invoke ⟨.invoke args.length, l⟩ callSite (member :: args)) := by
  obtain ⟨m', hm'⟩ := hm
  constructor
  · intro callee args site hcallee hargs hsite
    have hall := RecordFreeArgs.cons hcallee hargs
    exact (alike_callValue_invoke (.inl hl) callee args m').sameOutcome hm'
      (.callValue hcallee hargs) hm' (.invoke none hsite hall)
  · intro id c name ignoreCase args reader caller readSite memberSite callSite depth member n
      hargs hreadSite hmemberSite hcallSite hread
    have hinstance : (Value.object (.classInstance id c)).RecordFree := rfl
    have hone := RecordFreeArgs.cons hinstance RecordFreeArgs.nil
    -- the member is the same where nothing is kept
    obtain ⟨hsame, hgood, hn', -⟩ := run_agree depth hm' (.invoke none hreadSite hone)
    rcases hread' : (run .fresh depth (.invoke ⟨.getMember name ignoreCase, reader⟩ none
      [.object (.classInstance id c)])).run.run m' with ⟨answer, n'⟩
    rw [hread, hread'] at hsame hn'
    rw [hread] at hgood
    obtain rfl : .ok member = answer := hsame
    have hcalled := alike_invokeMember reader caller args hread'
    have hmatches := Task.Matches.invoke none hmemberSite (RecordFreeArgs.cons hinstance hargs)
    have hmatches' := Task.Matches.invoke none hcallSite (RecordFreeArgs.cons (hgood rfl) hargs)
    have hcall := hcalled.trans (alike_callValue_invoke (.inl hl) member args n')
    exact hcall.sameOutcome hm' hmatches hn' hmatches'

namespace Client

/-- A user who makes an instance of a class with one method. -/
def makingReceiver (arity : Option Nat) (body : Expr) : Client :=
  .ask (.openSite "new" ⟨.createInstance 0, default⟩ 4) fun _ =>
    .ask (.make (.newClass "C" [("m", arity, body)] [])) fun made =>
      match made with
      | .ok c => .ask (.call "new" [c]) fun _ => .done
      | .error _ => .done

/-- The user brings in no record if the body of the method has none. -/
theorem recordFree_makingReceiver (arity : Option Nat) (body : Expr)
    (h : (Literal.newClass "C" [("m", arity, body)] []).recordFree = true) :
    (makingReceiver arity body).RecordFree := by
  refine ⟨trivial, fun _ _ => ⟨h, fun made hmade => ?_⟩⟩
  cases made with
  | error stop => trivial
  | ok c => exact ⟨RecordFreeArgs.cons (hmade c rfl) RecordFreeArgs.nil, fun _ _ => trivial⟩

/-- The instance that is made. -/
def receiver : Value := .object (.classInstance 0 ⟨0, "C", ["m"]⟩)

end Client

/-- The instance itself cannot be called, and its method gives its argument. -/
theorem Machine.Sound.calls_agree_receiver :
    let m := (Client.makingReceiver (some 2) (.arg 1)).left 9 default
    (Task.callValue Client.receiver []).ComesTo .kept m (.error (.error (.notCallable "C")))
        m.store ∧
      ∃ s, (Task.invoke ⟨.invokeMember "m" false 1, default⟩ none
        [Client.receiver, .int 5]).ComesTo .kept m (.ok (.int 5)) s := by
  intro m
  have hm : m.Sound :=
    Client.sound_left (Client.recordFree_makingReceiver (some 2) (.arg 1) rfl) default 9
  have hargs : RecordFreeArgs [.int 5] := RecordFreeArgs.cons rfl RecordFreeArgs.nil
  obtain ⟨hdirect, hmember⟩ := Machine.Sound.calls_agree hm (l := default) rfl
  constructor
  · have hcall := hdirect Client.receiver [] none rfl RecordFreeArgs.nil (m.admits_none _)
    exact (hcall _ _).2 ⟨nofun, 9, rfl, rfl⟩
  · let bound : Value := .function ⟨1, "m", some 1, none⟩
    let n := ((run .kept 9 (.invoke ⟨.getMember "m" false, default⟩ none
      [Client.receiver])).run.run m).2
    have hcall := hmember 0 ⟨0, "C", ["m"]⟩ "m" false [.int 5] default default none none none 9
      bound n hargs (m.admits_none _) (m.admits_none _) (n.admits_none _) rfl
    exact ⟨n.store, (hcall _ _).2 ⟨nofun, 9, rfl, rfl⟩⟩

end DynamicBinding
