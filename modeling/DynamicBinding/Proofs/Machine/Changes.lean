import DynamicBinding.Proofs.Machine.Makes
import DynamicBinding.Proofs.Machine.Sites
/-!
# What a run does to the machine

Whatever is performed, the machine changes by the steps of `Machine.Changes` only: the store changes
by those of `Store.Changes`, sites are added or change without a change of their binder, and what is
shared is made on its first request.  So what those steps preserve holds after every run.

* `run_evolves`: every task, at every depth, leads from one machine to another by such steps.
* `run_leads` is what that says of the store.
-/

namespace DynamicBinding

open Relation

variable {given : Value → Prop} {α β : Type} {m n : Machine}

/-! ## Machines -/

namespace Machine

/-- One thing of a machine changes. -/
inductive Changes (m : Machine) : Machine → Prop
  | store {s : Store} (h : m.store.Changes s) : Changes m { m with store := s }
  | site (id : Nat) {change : Site → Site}
    (h : (change (m.site id)).binder = (m.site id).binder) : Changes m (m.modifySite id change)
  | addSite (s : Site) : Changes m (m.addSite s).2
  | sharedSite (binder : Binder) : Changes m (m.sharedSite binder).2
  | stub (signature : Signature) : Changes m (m.stub signature).2

/-- Things of a machine change, one after the other. -/
def Evolves : Machine → Machine → Prop := ReflTransGen Changes

namespace Evolves

/-- Nothing has to happen. -/
theorem refl (m : Machine) : m.Evolves m := ReflTransGen.refl

/-- What happens goes on from what has happened. -/
theorem trans {o : Machine} (h : m.Evolves n) (h' : n.Evolves o) : m.Evolves o :=
  ReflTransGen.trans h h'

/-- One change is some change. -/
theorem single (h : m.Changes n) : m.Evolves n := ReflTransGen.single h

/-- What happens to the store happens to the machine. -/
theorem store {s : Store} (h : m.store.Leads s) : m.Evolves { m with store := s } := by
  induction h with
  | refl => exact .refl m
  | tail _ hstep ih => exact ih.trans (.single (.store hstep))

/-- A binding may get a site of its own, and nothing else happens. -/
theorem anchor (m : Machine) (β : Binding) : m.Evolves (m.anchor β).2 := by
  unfold Machine.anchor
  split
  · exact .single (.addSite _)
  · exact .refl m

end Evolves

/-- What is shared is no part of the store. -/
theorem Changes.leads (h : m.Changes n) : m.store.Leads n.store := by
  cases h with
  | store h => exact .single h
  | site id h => exact .refl m.store
  | addSite s => exact .refl m.store
  | sharedSite binder =>
    obtain ⟨sites, shared, heq⟩ := m.frame_sharedSite binder
    rw [heq]
    exact .refl m.store
  | stub signature =>
    obtain ⟨stubs, heq⟩ := m.frame_stub signature
    rw [heq]
    exact .refl m.store

/-- Any number of changes lead from one store to the other. -/
theorem Evolves.leads (h : m.Evolves n) : m.store.Leads n.store := by
  induction h with
  | refl => exact .refl m.store
  | tail _ hstep ih => exact ih.trans hstep.leads

/-- The names of sites stand for the same positions. -/
theorem Changes.siteNames_eq (h : m.Changes n) : n.siteNames = m.siteNames := by
  cases h with
  | sharedSite binder =>
    obtain ⟨sites, shared, heq⟩ := m.frame_sharedSite binder
    rw [heq]
  | stub signature =>
    obtain ⟨stubs, heq⟩ := m.frame_stub signature
    rw [heq]
  | _ => rfl

/-- The names of sites are settled before anything is performed. -/
theorem Evolves.siteNames_eq (h : m.Evolves n) : n.siteNames = m.siteNames := by
  induction h with
  | refl => rfl
  | tail _ hstep ih => exact hstep.siteNames_eq.trans ih

/-- The sites at those positions stay, and keep their binders. -/
theorem Changes.grows (h : m.Changes n) : m.Grows n := by
  cases h with
  | store h => exact fun _ _ hosts => hosts
  | site id h =>
    by_cases hid : id < m.sites.size
    · have hs : m.sites[id]? = some (m.site id) := by simp [Machine.site, hid]
      exact grows_modifySite hs h
    · -- there is no site to be changed
      rintro i binder ⟨s, hs, hbinder⟩
      have hi : i ≠ id := fun heq => hid (heq ▸ (Array.getElem?_eq_some_iff.1 hs).1)
      exact ⟨s, by rwa [getElem?_sites_modifySite, if_neg hi.symm], hbinder⟩
  | addSite s => exact grows_addSite m s
  | sharedSite binder => exact m.grows_sharedSite binder
  | stub signature => exact m.grows_stub signature

/-- Sites are never removed, and keep their binders. -/
theorem Evolves.grows (h : m.Evolves n) : m.Grows n := by
  induction h with
  | refl => exact Grows.refl m
  | tail _ hstep ih => exact ih.trans hstep.grows

end Machine

/-! ## Computations that change things -/

namespace Exec

/-- The computation changes the machine one thing after the other. -/
def Evolves (x : Exec α) : Prop := ∀ m : Machine, m.Evolves (x.run.run m).2

namespace Evolves

/-- With everything given, every machine is closed. -/
theorem of_makes {good : Store → α → Prop} {x : Exec α}
    (h : ∀ m, x.Makes (fun _ => True) good m) : Evolves x := by
  intro m
  obtain ⟨s, hleft, hextends, -⟩ := h m m.closed_true
  rw [hleft]
  exact .store (.of_extends hextends)

/-- Giving a value changes nothing. -/
theorem pure (a : α) : Evolves (pure a) := fun m => .refl m

/-- Stopping changes nothing. -/
theorem stop (stop : Stop) : Evolves (throw stop : Exec α) := fun m => .refl m

/-- Failing changes nothing. -/
theorem fail (e : RuntimeError) : Evolves (fail e : Exec α) := stop (.error e)

/-- Reading the machine changes nothing. -/
theorem get : Evolves (get : Exec Machine) := fun m => .refl m

/-- A result is lifted without a change. -/
theorem lift (r : Except RuntimeError α) : Evolves (lift r) := by
  cases r with
  | ok a => exact pure a
  | error e => exact fail e

/-- A stop for want of an answer changes nothing. -/
theorem require (o : Option α) : Evolves (require o) := by
  cases o with
  | some a => exact pure a
  | none => exact stop .diverged

/-- A change of the machine is allowed if it consists of such steps on every machine. -/
theorem modifyGet {f : Machine → α × Machine} (h : ∀ m : Machine, m.Evolves (f m).2) :
    Evolves (modifyGet f : Exec α) := h

/-- A computation on the store changes the machine by what it does there. -/
theorem onStore {x : Effect α} (h : x.Leads) : Evolves (onStore x) := fun m => .store (h m.store)

/-- Making a text changes the store alone. -/
theorem str (chars : String) : Evolves (Exec.onStore (Effect.str chars)) :=
  onStore (.of_makes fun s => @Effect.Makes.str (fun _ => True) s chars)

/-- What the second computation changes comes after what the first one did. -/
theorem bind {x : Exec α} {f : α → Exec β} (hx : x.Evolves) (hf : ∀ a, (f a).Evolves) :
    (x >>= f).Evolves := by
  intro m
  have hfirst := hx m
  rw [run_bind]
  rcases h : x.run.run m with ⟨r, n⟩
  rw [h] at hfirst
  cases r with
  | ok a => exact hfirst.trans (hf a n)
  | error e => exact hfirst

/-- What comes after a reading starts from the machine that was read. -/
theorem get_at {f : Machine → Exec β} (h : ∀ m : Machine, m.Evolves ((f m).run.run m).2) :
    (MonadState.get >>= f).Evolves := h

/-- What is done afterwards is done also where the computation stops. -/
theorem afterwards {x : Exec α} {change : Machine → Machine} (hx : x.Evolves)
    (hchange : ∀ m : Machine, m.Evolves (change m)) : (afterwards x change).Evolves :=
  fun m => (hx m).trans (hchange _)

end Evolves

end Exec

open Exec

/-! ### Effects -/

namespace Effect.Leads

/-- The methods of builtin values change one list, or make things. -/
theorem method (m : Script.Method) (receiver : Value) (args : List Value) :
    (m.run receiver args).Leads := by
  cases m with
  | append =>
    unfold Script.Method.run
    dsimp only
    split
    · exact .bind (fun s => .single (.items _ _)) fun _ => .pure _
    · exact .fail _
  | pop =>
    unfold Script.Method.run
    dsimp only
    split
    · apply bind .get
      intro s
      split
      · exact .bind (fun s => .single (.items _ _)) fun _ => .pure _
      · exact .fail _
    · exact .fail _
  | length | upper | lower => exact .of_makes fun s => Script.method_makes rfl receiver args

/-- Writing an item changes one list. -/
theorem setItem (id : Nat) (index : Int) (v : Value) : (Script.setItem id index v).Leads := by
  apply bind .get
  intro s
  apply bind (.lift _)
  intro i
  exact .bind (fun s => .single (.items _ _)) fun _ => .pure _

/-- The instance that is asked is read from the arguments. -/
theorem receiverInstance (args : List Value) : (DynamicBinding.receiverInstance args).Leads :=
  of_makes fun s => receiverInstance_makes s args

/-- Reading an attribute may make a bound method. -/
theorem readAttribute (operation : Operation) (name : String) (ignoreCase : Bool)
    (args : List Value) : (readAttribute operation name ignoreCase args).Leads :=
  of_makes fun s => readAttribute_makes s operation name ignoreCase args

/-- Assigning a field sets it in the fields of one instance. -/
theorem assignField (name : String) (ignoreCase : Bool) (args : List Value) :
    (assignField name ignoreCase args).Leads := by
  apply bind (receiverInstance args)
  intro found
  exact .bind (fun s => .single (.set _ name ignoreCase _)) fun _ => .pure _

/-- The table that is written is the one that was read, less the entry that is removed. -/
theorem deleteField (name : String) (ignoreCase : Bool) (args : List Value) :
    (deleteField name ignoreCase args).Leads := by
  apply bind (receiverInstance args)
  intro found
  apply get_at
  intro s
  split
  · next fields hfields => exact .single (.remove hfields)
  · exact .refl s

end Effect.Leads

/-! ### Tasks -/

/-- Wrapping a value for a signature asks for a stub, for a shared site and for a function. -/
theorem Language.delegate_evolves (l : Language) (v : Value) (s : Signature) :
    (l.delegate v s).Evolves := by
  have hmake : Effect.Leads
      (modifyGet (·.makeFunction (delegateName v) none (some s) (.delegate l s v))) :=
    fun t => .single (.makes (.function (delegateName v) none (some s) (.delegate l s v)))
  unfold Language.delegate
  split
  · exact .fail _
  · split
    · exact .pure v
    · apply Evolves.bind (.modifyGet fun m => .single (.stub s))
      intro _
      apply Evolves.bind (.modifyGet fun m => .single (.sharedSite (l.delegateBinder s)))
      intro _
      exact .bind (.onStore hmake) fun f => .pure _

/-- Whatever is performed changes the machine one thing after the other. -/
def Perform.Evolves (p : Perform) : Prop := ∀ task, (p task).Evolves

variable {p : Perform}

mutual

/-- Evaluating an expression changes what its invocations change, and makes things in between. -/
theorem Expr.eval_evolves (hp : p.Evolves) (args : List Value) (e : Expr) :
    (e.eval (fun binder site args => p (.invoke binder site args)) args).Evolves := by
  match e with
  | .arg i =>
    simp only [Expr.eval]
    split
    · exact .pure _
    · exact .fail _
  | .args => exact .onStore (.of_makes fun s => Effect.Makes.tuple fun _ _ => .inl trivial)
  | .const literal => exact .of_makes fun m => literal.make_makes m
  | .variable name => exact .of_makes fun m => Exec.variable_makes m name
  | .operate operation operands =>
    apply Evolves.bind (Expr.evalAll_evolves hp args operands)
    intro vs
    exact .bind .get fun m => hp _
  | .atSite name operands =>
    apply Evolves.bind (Expr.evalAll_evolves hp args operands)
    intro vs
    apply Evolves.bind .get
    intro m
    split
    · exact hp _
    · exact .fail _
  | .sequence parts => exact .bind (Expr.evalAll_evolves hp args parts) fun vs => .pure _
  | .choose condition yes no =>
    apply Evolves.bind (Expr.eval_evolves hp args condition)
    intro v
    apply Evolves.bind .get
    intro m
    split
    · exact Expr.eval_evolves hp args yes
    · exact Expr.eval_evolves hp args no
  | .raise _ => exact .fail _
  | .invalid _ => exact .fail _

/-- Expressions are evaluated one after the other. -/
theorem Expr.evalAll_evolves (hp : p.Evolves) (args : List Value) (es : List Expr) :
    (Expr.evalAll (fun binder site args => p (.invoke binder site args)) args es).Evolves := by
  match es with
  | [] => exact .pure _
  | e :: rest =>
    apply Evolves.bind (Expr.eval_evolves hp args e)
    intro v
    exact .bind (Expr.evalAll_evolves hp args rest) fun _ => .pure _

end

/-- A call with a signature changes what the call inside it changes. -/
theorem Signature.call_evolves (s : Signature) {invoke : List Value → Exec Value}
    (hinvoke : ∀ all, (invoke all).Evolves) (target : Value) (args : List Value) :
    (s.call invoke target args).Evolves := by
  unfold call
  split
  · exact .fail _
  · apply Evolves.bind (.lift _)
    intro coerced
    exact .bind (hinvoke _) fun _ => .lift _

/-- A function changes what its body changes. -/
theorem callFunction_evolves (hp : p.Evolves) (f : FunctionRef) (args : List Value) :
    (callFunction p f args).Evolves := by
  have hrun : (callFunction.run p f args).Evolves := by
    apply Evolves.bind .get
    intro m
    split
    · exact Expr.eval_evolves hp args _
    · exact hp _
    · exact Signature.call_evolves _ (fun all => hp _) _ args
  unfold callFunction
  split
  · split
    · exact .fail _
    · exact hrun
  · exact hrun

/-- Calling a value changes what the call of its function or its method changes. -/
theorem callValue_evolves (hp : p.Evolves) (callee : Value) (args : List Value) :
    (callValue p callee args).Evolves := by
  unfold callValue
  split
  · exact hp _
  · dsimp only
    split
    · exact hp _
    · exact .fail _
  · exact .fail _

/-- An instance is made before its initialiser is called. -/
theorem instantiate_evolves (hp : p.Evolves) (c : ClassRef) (args : List Value) :
    (instantiate p c args).Evolves := by
  apply Evolves.bind (.onStore fun s => .single (.makes (.newInstance c)))
  intro made
  apply Evolves.bind .get
  intro m
  split
  · apply Evolves.bind (hp _)
    intro answer
    split
    · exact .pure _
    · exact .fail _
  · split
    · exact .pure _
    · exact .fail _

/-- A method is looked up without a change. -/
theorem callMethod_evolves (hp : p.Evolves) (c : ClassRef) (method : String) (args : List Value) :
    (callMethod p c method args).Evolves := by
  apply Evolves.bind .get
  intro m
  split
  · exact hp _
  · exact .fail _

/-- A plan for two operands changes what it changes for any two. -/
theorem onTwo_evolves {f : Value → Value → Exec Value} (args : List Value)
    (hf : ∀ v w, (f v w).Evolves) : (onTwo args f).Evolves := by
  unfold onTwo
  split
  · exact hf _ _
  · exact .fail _

/-- A nested operation changes what it changes by itself; its use changes nothing. -/
theorem executeNested_evolves (hp : p.Evolves) (inner : Binder) (site : Option Nat)
    (use : NestedUse) (args : List Value) : (executeNested p inner site use args).Evolves := by
  cases use with
  | answer => exact hp _
  | membership negated =>
    apply onTwo_evolves args
    intro item container
    exact .bind (hp _) fun found => .bind .get fun m => .pure _
  | negatedTruth => exact .bind (hp _) fun truth => .bind .get fun m => .pure _

/-- A plan for one operand changes what it changes for any operand. -/
theorem onOne_evolves {f : Value → Exec Value} (args : List Value)
    (hf : ∀ v, (f v).Evolves) : (onOne args f).Evolves := by
  unfold onOne
  split
  · exact hf _
  · exact .fail _

/-- **Every plan changes the machine by such steps only,** if the tasks inside it do. -/
theorem execute_evolves (hp : p.Evolves) (plan : Plan) (args : List Value) :
    (execute p plan args).Evolves := by
  cases plan with
  | fail e => exact .fail e
  | notCallable =>
    cases args with
    | nil => exact .fail _
    | cons v rest => exact .fail _
  | constant v => exact .pure v
  | receiver => exact .pure _
  | body e => exact Expr.eval_evolves hp args e
  | offer r index => exact .bind .get fun m => Expr.eval_evolves hp args _
  | instantiate c => exact hp _
  | classMember c name =>
    apply Evolves.bind .get
    intro m
    split
    · exact .pure _
    · exact .fail _
  | readMember name ignoreCase => exact .onStore (.readAttribute _ name ignoreCase args)
  | assignMember name ignoreCase => exact .onStore (.assignField name ignoreCase args)
  | deleteMember name ignoreCase => exact .onStore (.deleteField name ignoreCase args)
  | callMember name ignoreCase count =>
    exact .bind (.onStore (.readAttribute _ name ignoreCase args)) fun callee => hp _
  | callMethod c method => exact callMethod_evolves hp c method args
  | truthMethod c =>
    apply Evolves.bind (callMethod_evolves hp c _ args)
    intro answer
    split
    · exact .pure _
    · exact .fail _
  | storeMethod c => exact .bind (callMethod_evolves hp c _ args) fun _ => .pure _
  | callFunction =>
    simp only [execute]
    split
    · exact hp _
    · exact .fail _
    · exact .fail _
  | builtinMethod m =>
    cases args with
    | nil => exact .fail _
    | cons v rest => exact .onStore (.method m v rest)
  | getItem =>
    apply onTwo_evolves args
    intro receiver index
    exact .bind (.lift _) fun i => .onStore (.of_makes fun s => Script.getItem_makes receiver i)
  | setItem =>
    simp only [execute]
    split
    · exact .bind (.lift _) fun i => .onStore (.setItem _ i _)
    · exact .fail _
  | binary i operator =>
    exact onTwo_evolves args fun v w =>
      .onStore (.of_makes fun s => Script.binary_makes i operator v w)
  | unary i =>
    exact onOne_evolves args fun v => .onStore (.of_makes fun s => Script.unary_makes i v)
  | convert c =>
    exact onOne_evolves args fun v => .onStore (.of_makes fun s => Script.conversion_makes c v)
  | format language =>
    exact onOne_evolves args fun v => .bind .get fun m => .bind (.require _) fun text => .str _
  | delegate language signature =>
    exact onOne_evolves args fun v => language.delegate_evolves v signature
  | through inner site use => exact executeNested_evolves hp inner site use args
  | negationText => exact .bind .get fun m => .bind (.require _) fun text => .str _
  | joinedText => exact .bind .get fun m => .bind (.require _) fun texts => .str _

/-- A call through a site changes that site twice, and neither change is one of its binder. -/
theorem invokeSite_evolves (hp : p.Evolves) (id : Nat) (args : List Value) :
    (invokeSite p id args).Evolves := by
  apply Evolves.get_at
  intro m
  dsimp only
  split
  · next binding t hlookup =>
    have hbinder : t.binder = (m.site id).binder := (Site.lookup?_eq_some hlookup).2.2.1
    exact (Machine.Evolves.single (.site id hbinder)).trans (hp (.execute binding.plan args) _)
  · apply Evolves.bind (.modifyGet fun n => .single (.site id rfl))
    intro _
    apply Evolves.bind (.modifyGet fun n => .anchor n _)
    intro binding
    exact .afterwards (hp _) fun n => .single (.site id rfl)

/-- Invoking a binder resolves it or asks its site, and executes the plan. -/
theorem invoke_evolves (hp : p.Evolves) (caching : Caching) (binder : Binder) (site : Option Nat)
    (args : List Value) : (invoke caching p binder site args).Evolves := by
  have hanswer : (invoke.answer caching p binder site args).Evolves := by
    unfold invoke.answer
    split
    · exact invokeSite_evolves hp _ args
    · exact hp _
  unfold invoke
  split
  · split
    · exact .fail _
    · exact hanswer
  · exact hanswer

/-- One task changes the machine one thing after the other if its parts do. -/
theorem step_evolves (hp : p.Evolves) (caching : Caching) : Perform.Evolves (step caching p) := by
  intro task
  cases task with
  | invoke binder site args => exact invoke_evolves hp caching binder site args
  | execute plan args => exact execute_evolves hp plan args
  | callValue callee args => exact callValue_evolves hp callee args
  | callFunction f args => exact callFunction_evolves hp f args
  | instantiate c args => exact instantiate_evolves hp c args

/-- **Every run changes the machine one thing after the other.** -/
theorem run_evolves (caching : Caching) (depth : Nat) : Perform.Evolves (run caching depth) := by
  induction depth with
  | zero => exact fun task => .stop .diverged
  | succ depth ih => exact step_evolves ih caching

/-- **Every run leads from store to store**, one change after the other. -/
theorem run_leads (caching : Caching) (depth : Nat) (task : Task) (m : Machine) :
    m.store.Leads ((run caching depth task).run.run m).2.store :=
  (run_evolves caching depth task m).leads

end DynamicBinding
