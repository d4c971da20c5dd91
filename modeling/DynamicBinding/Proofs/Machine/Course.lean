import DynamicBinding.Machine.Evaluation
import DynamicBinding.Proofs.Machine.Sites
import DynamicBinding.Proofs.Store.Keeps
/-!
# The course of a task

A task is performed in turns: it does something of its own, has another task performed, goes on with
the answer, and so on.  `Course` writes that down as a tree.  What a task does of its own leaves
alone the sites that are there; it may add new ones.

* `HasCourse` says of a computation that takes the performing of tasks as a parameter that it does
  what a course says, whoever performs the tasks.  There is a rule for each way of putting
  computations together.
* `Task.hasCourse`: every task has a course, apart from calls through a site.  So no site changes
  but by the calls through it.
-/

namespace DynamicBinding

variable {α β : Type}

/-! ## Leaving sites alone -/

/-- All sites of the first machine are in the second one as they were. -/
def Machine.Spares (m n : Machine) : Prop :=
  ∀ ⦃id : Nat⦄ ⦃s : Site⦄, m.sites[id]? = some s → n.sites[id]? = some s

/-- A site that is added comes after all others. -/
theorem Machine.spares_addSite (m : Machine) (s : Site) : m.Spares (m.addSite s).2 := by
  intro id t ht
  obtain ⟨hid, -⟩ := Array.getElem?_eq_some_iff.1 ht
  simp only [addSite, Array.getElem?_push, if_neg (Nat.ne_of_lt hid)]
  exact ht

/-- A shared site is there already, or is added. -/
theorem Machine.spares_sharedSite (m : Machine) (binder : Binder) :
    m.Spares (m.sharedSite binder).2 := by
  unfold sharedSite
  split
  · exact fun _ _ h => h
  · exact m.spares_addSite (.ofBinder binder)

/-- The site inside a binding is added, and comes after all others. -/
theorem Machine.spares_anchor (m : Machine) (β : Binding) : m.Spares (m.anchor β).2 := by
  unfold anchor
  split
  · next inner use _ => exact m.spares_addSite (.ofBinder inner)
  · exact fun _ _ h => h

namespace Exec

/-- The computation leaves all sites alone that are there. -/
def SparesSites (x : Exec α) : Prop := ∀ m : Machine, m.Spares (x.run.run m).2

namespace SparesSites

/-- Giving a value changes no site. -/
theorem pure (a : α) : SparesSites (pure a) := fun _ _ _ h => h

/-- Stopping changes no site. -/
theorem stop (stop : Stop) : SparesSites (throw stop : Exec α) := fun _ _ _ h => h

/-- Failing changes no site. -/
theorem fail (e : RuntimeError) : SparesSites (fail e : Exec α) := stop (.error e)

/-- Reading the machine changes no site. -/
theorem get : SparesSites (get : Exec Machine) := fun _ _ _ h => h

/-- A change of the machine spares the sites if it does so on every machine. -/
theorem modifyGet {f : Machine → α × Machine} (h : ∀ m : Machine, m.Spares (f m).2) :
    SparesSites (modifyGet f : Exec α) := h

/-- What happens to the store happens to no site. -/
theorem onStore (x : Effect α) : SparesSites (onStore x) := fun _ _ _ h => h

/-- A result is lifted without a look at the machine. -/
theorem lift (r : Except RuntimeError α) : SparesSites (lift r) := by
  cases r with
  | ok a => exact pure a
  | error e => exact fail e

/-- A stop for want of an answer changes no site. -/
theorem require (o : Option α) : SparesSites (require o) := by
  cases o with
  | some a => exact pure a
  | none => exact stop .diverged

/-- Neither of two computations that spare the sites changes any. -/
theorem bind {x : Exec α} {f : α → Exec β} (hx : x.SparesSites)
    (hf : ∀ a, (f a).SparesSites) : (x >>= f).SparesSites := by
  intro m id s hs
  have hfirst := hx m hs
  rw [run_bind]
  rcases h : x.run.run m with ⟨r, n⟩
  rw [h] at hfirst
  cases r with
  | ok a => exact hf a n hfirst
  | error e => exact hfirst

/-- A computation for each item of a list spares the sites if each one does. -/
theorem mapM {xs : List α} {f : α → Exec β} (hf : ∀ a, (f a).SparesSites) :
    (xs.mapM f).SparesSites := by
  induction xs with
  | nil => exact pure []
  | cons a rest ih =>
    rw [List.mapM_cons]
    exact bind (hf a) fun b => bind ih fun bs => pure (b :: bs)

end SparesSites

/-- A variable is looked up in the machine, which stays as it is. -/
theorem variable_sparesSites (name : String) : (Exec.variable name).SparesSites := by
  apply SparesSites.bind .get
  intro m
  split
  · exact .pure _
  · exact .fail _

end Exec

open Exec

mutual

/-- Making what a literal stands for changes no site.  Classes and functions hold no site. -/
theorem Literal.make_sparesSites (l : Literal) : l.make.SparesSites := by
  match l with
  | .nothing => exact .pure _
  | .bool _ => exact .pure _
  | .int _ => exact .pure _
  | .float _ => exact .pure _
  | .str _ => exact .onStore _
  | .tuple items => exact .bind (Literal.makeAll_sparesSites items) fun _ => .onStore _
  | .list items => exact .bind (Literal.makeAll_sparesSites items) fun _ => .onStore _
  | .variable name => exact variable_sparesSites name
  | .nest _ _ inner => exact .bind (Literal.make_sparesSites inner) fun _ => .onStore _
  | .times _ _ => exact .onStore _
  | .function _ _ _ _ => exact .onStore _
  | .newClass _ methods attributes =>
    have hmethods : Exec.SparesSites
        (methods.mapM fun (method, arity, body) => do
          let f ← Exec.onStore (modifyGet (·.makeFunction method arity none (.expression body)))
          pure (method, Value.function f)) :=
      .mapM fun _ => .bind (.onStore _) fun _ => .pure _
    apply SparesSites.bind hmethods
    intro functions
    apply SparesSites.bind (Literal.makeNamed_sparesSites attributes)
    intro values
    exact .bind (.onStore _) fun _ => .pure _
  | .record _ _ _ members _ => exact .bind (Literal.makeKeyed_sparesSites members) fun _ => .onStore _
  | .inert _ => exact .onStore _

/-- Making a list of things changes no site either. -/
theorem Literal.makeAll_sparesSites (ls : List Literal) : (Literal.makeAll ls).SparesSites := by
  match ls with
  | [] => exact .pure _
  | l :: rest =>
    apply SparesSites.bind (Literal.make_sparesSites l)
    intro v
    exact .bind (Literal.makeAll_sparesSites rest) fun _ => .pure _

/-- Nor does making named things, as the attributes of a class are. -/
theorem Literal.makeNamed_sparesSites (ls : List (String × Literal)) :
    (Literal.makeNamed ls).SparesSites := by
  match ls with
  | [] => exact .pure _
  | (_, l) :: rest =>
    apply SparesSites.bind (Literal.make_sparesSites l)
    intro v
    exact .bind (Literal.makeNamed_sparesSites rest) fun _ => .pure _

/-- Nor does making things under keys, as the members of a record are. -/
theorem Literal.makeKeyed_sparesSites (ls : List (MemberKey × Literal)) :
    (Literal.makeKeyed ls).SparesSites := by
  match ls with
  | [] => exact .pure _
  | (_, l) :: rest =>
    apply SparesSites.bind (Literal.make_sparesSites l)
    intro v
    exact .bind (Literal.makeKeyed_sparesSites rest) fun _ => .pure _

end

/-- A delegate comes with a stub and a shared site, which leave the sites that are there alone. -/
theorem Language.delegate_sparesSites (l : Language) (v : Value) (s : Signature) :
    (l.delegate v s).SparesSites := by
  have hstub : ∀ m : Machine, m.Spares (m.stub s).2 := by
    intro m
    obtain ⟨stubs, heq⟩ := m.frame_stub s
    rw [heq]
    exact fun _ _ h => h
  unfold Language.delegate
  split
  · exact .fail _
  · split
    · exact .pure v
    · apply SparesSites.bind (.modifyGet hstub)
      intro _
      apply SparesSites.bind (.modifyGet fun m => m.spares_sharedSite _)
      intro _
      exact .bind (.onStore _) fun _ => .pure _

/-! ## Courses -/

/-- What a computation does of its own, and which tasks it has performed in between. -/
inductive Course (α : Type) : Type 1 where
  | done (a : α)
  | act {β : Type} (x : Exec β) (hx : x.SparesSites) (next : β → Course α)
  | perform (task : Task) (next : Value → Course α)

namespace Course

/-- The computation, given who performs the tasks. -/
def run (p : Perform) : Course α → Exec α
  | .done a => pure a
  | .act x _ next => x >>= fun b => (next b).run p
  | .perform task next => p task >>= fun v => (next v).run p

/-- One course after the other. -/
def bind (course : Course α) (f : α → Course β) : Course β :=
  match course with
  | .done a => f a
  | .act x hx next => .act x hx fun b => (next b).bind f
  | .perform task next => .perform task fun v => (next v).bind f

/-- A course in two parts is run part after part. -/
theorem run_bind (p : Perform) (course : Course α) (f : α → Course β) :
    (course.bind f).run p = course.run p >>= fun a => (f a).run p := by
  induction course with
  | done a => simp only [bind, run, pure_bind]
  | act x hx next ih => simp only [bind, run, bind_assoc, ih]
  | perform task next ih => simp only [bind, run, bind_assoc, ih]

end Course

/-- The computation does what a course says, whoever performs the tasks. -/
def HasCourse (F : Perform → Exec α) : Prop := ∃ course : Course α, ∀ p, F p = course.run p

namespace HasCourse

/-- What spares the sites is one act of a course. -/
theorem act {x : Exec α} (hx : x.SparesSites) : HasCourse fun _ => x :=
  ⟨.act x hx .done, fun _ => (bind_pure x).symm⟩

/-- A task is one step of a course, whatever performs it. -/
theorem perform (task : Task) : HasCourse fun p => p task :=
  ⟨.perform task .done, fun p => (bind_pure (p task)).symm⟩

/-- The course of two computations is that of the first, and then of the second for what it gave. -/
theorem bind {F : Perform → Exec α} {G : Perform → α → Exec β} (hF : HasCourse F)
    (hG : ∀ a, HasCourse fun p => G p a) : HasCourse fun p => F p >>= G p := by
  obtain ⟨course, hcourse⟩ := hF
  choose next hnext using hG
  refine ⟨course.bind next, fun p => ?_⟩
  have hrest : G p = fun a => (next a).run p := funext fun a => hnext a p
  show F p >>= G p = (course.bind next).run p
  rw [Course.run_bind, hcourse, hrest]

/-- A reading is an act, and the course goes on from the machine that was read. -/
theorem get {G : Perform → Machine → Exec β} (hG : ∀ m, HasCourse fun p => G p m) :
    HasCourse fun p => MonadState.get >>= G p :=
  bind (act SparesSites.get) hG

/-- Giving a value is an act. -/
theorem pure (a : α) : HasCourse fun _ => Pure.pure a := act (.pure a)

/-- Failing is an act. -/
theorem fail (e : RuntimeError) : HasCourse fun _ => (Exec.fail e : Exec α) := act (.fail e)

end HasCourse

/-! ## Tasks -/

mutual

/-- An expression invokes sites, in the order of its evaluation, and acts in between. -/
theorem Expr.eval_hasCourse (args : List Value) (e : Expr) :
    HasCourse fun p => e.eval (fun binder site args => p (.invoke binder site args)) args := by
  match e with
  | .arg i =>
    simp only [Expr.eval]
    split
    · exact .pure _
    · exact .fail _
  | .args => exact .act (.onStore (Effect.tuple args))
  | .const literal => exact .act literal.make_sparesSites
  | .variable name => exact .act (variable_sparesSites name)
  | .operate operation operands =>
    apply HasCourse.bind (Expr.evalAll_hasCourse args operands)
    intro vs
    exact .get fun m => .perform _
  | .atSite name operands =>
    apply HasCourse.bind (Expr.evalAll_hasCourse args operands)
    intro vs
    apply HasCourse.get
    intro m
    cases m.siteNames.lookup name with
    | some id => exact .perform _
    | none => exact .fail _
  | .sequence parts => exact .bind (Expr.evalAll_hasCourse args parts) fun vs => .pure _
  | .choose condition yes no =>
    apply HasCourse.bind (Expr.eval_hasCourse args condition)
    intro v
    apply HasCourse.get
    intro m
    cases m.store.isTruthy v with
    | true => exact Expr.eval_hasCourse args yes
    | false => exact Expr.eval_hasCourse args no
  | .raise _ => exact .fail _
  | .invalid _ => exact .fail _

/-- Expressions are evaluated one after the other. -/
theorem Expr.evalAll_hasCourse (args : List Value) (es : List Expr) :
    HasCourse fun p =>
      Expr.evalAll (fun binder site args => p (.invoke binder site args)) args es := by
  match es with
  | [] => exact .pure _
  | e :: rest =>
    apply HasCourse.bind (Expr.eval_hasCourse args e)
    intro v
    exact .bind (Expr.evalAll_hasCourse args rest) fun _ => .pure _

end

/-- A call with a signature coerces the arguments, performs one task and coerces the answer. -/
theorem Signature.call_hasCourse (s : Signature) (binder : Binder) (site : Option Nat)
    (target : Value) (args : List Value) :
    HasCourse fun p => s.call (fun all => p (.invoke binder site all)) target args := by
  by_cases hlen : args.length ≠ s.params.length
  · simp only [call, if_pos hlen]
    exact .fail _
  · simp only [call, if_neg hlen]
    apply HasCourse.bind (.act (.lift _))
    intro coerced
    apply HasCourse.bind (.perform _)
    intro answer
    exact .act (.lift _)

/-- A function is called by its body: an expression, a bound function or a delegate. -/
theorem callFunction_hasCourse (f : FunctionRef) (args : List Value) :
    HasCourse fun p => callFunction p f args := by
  have hrun : HasCourse fun p => callFunction.run p f args := by
    apply HasCourse.get
    intro m
    cases m.store.body f with
    | expression e => exact Expr.eval_hasCourse args e
    | bound method receiver => exact .perform _
    | delegate language signature target => exact signature.call_hasCourse _ _ target args
  simp only [callFunction]
  cases f.arity with
  | none => exact hrun
  | some expected =>
    by_cases hlen : args.length ≠ expected
    · simp only [if_pos hlen]
      exact .fail _
    · simp only [if_neg hlen]
      exact hrun

/-- What a call of a value does depends on what the value is, and not on what performs it. -/
theorem callValue_hasCourse (callee : Value) (args : List Value) :
    HasCourse fun p => callValue p callee args := by
  cases callee with
  | function f => exact .perform _
  | object o =>
    simp only [callValue]
    cases o.bind (.invoke args.length) (.object o :: args) with
    | some binding => exact .perform _
    | none => exact .fail _
  | _ => exact .fail _

/-- An instance is made, and its initialiser is called if there is one. -/
theorem instantiate_hasCourse (c : ClassRef) (args : List Value) :
    HasCourse fun p => instantiate p c args := by
  apply HasCourse.bind (.act (.onStore _))
  intro made
  apply HasCourse.get
  intro m
  cases (m.store.members c).get? "__init__" false with
  | some init =>
    apply HasCourse.bind (.perform _)
    intro answer
    cases answer with
    | nothing => exact .pure made
    | _ => exact .fail _
  | none =>
    cases args.isEmpty with
    | true => exact .pure made
    | false => exact .fail _

/-- A method is looked up, and called as a value. -/
theorem callMethod_hasCourse (c : ClassRef) (method : String) (args : List Value) :
    HasCourse fun p => callMethod p c method args := by
  apply HasCourse.get
  intro m
  cases (m.store.members c).get? method false with
  | some function => exact .perform _
  | none => exact .fail _

/-- A plan for one operand has a course if it has one for every operand. -/
theorem onOne_hasCourse {F : Perform → Value → Exec Value} (args : List Value)
    (hF : ∀ v, HasCourse fun p => F p v) : HasCourse fun p => onOne args (F p) := by
  unfold onOne
  split
  · exact hF _
  · exact .fail _

/-- A plan for two operands has a course if it has one for every pair. -/
theorem onTwo_hasCourse {F : Perform → Value → Value → Exec Value} (args : List Value)
    (hF : ∀ v w, HasCourse fun p => F p v w) : HasCourse fun p => onTwo args (F p) := by
  unfold onTwo
  split
  · exact hF _ _
  · exact .fail _

/-- A nested operation is one task, and what is made of its answer is an act. -/
theorem executeNested_hasCourse (inner : Binder) (site : Option Nat) (use : NestedUse)
    (args : List Value) : HasCourse fun p => executeNested p inner site use args := by
  cases use with
  | answer => exact .perform _
  | membership negated =>
    apply onTwo_hasCourse args
    intro item container
    exact .bind (.perform _) fun found => .get fun m => .pure _
  | negatedTruth => exact .bind (.perform _) fun truth => .get fun m => .pure _

/-- **Every plan has a course,** so what it does is settled by what its tasks give. -/
theorem execute_hasCourse (plan : Plan) (args : List Value) :
    HasCourse fun p => execute p plan args := by
  cases plan with
  | fail e => exact .fail e
  | notCallable =>
    cases args with
    | nil => exact .fail _
    | cons v rest => exact .fail _
  | constant v => exact .pure v
  | receiver => exact .pure _
  | body e => exact Expr.eval_hasCourse args e
  | offer r index => exact .get fun m => Expr.eval_hasCourse args _
  | instantiate c => exact .perform _
  | classMember c name =>
    apply HasCourse.get
    intro m
    cases (m.store.members c).get? name false with
    | some v => exact .pure v
    | none => exact .fail _
  | readMember name ignoreCase =>
    exact .act (.onStore (readAttribute (.getMember name ignoreCase) name ignoreCase args))
  | assignMember name ignoreCase => exact .act (.onStore (assignField name ignoreCase args))
  | deleteMember name ignoreCase => exact .act (.onStore (deleteField name ignoreCase args))
  | callMember name ignoreCase count =>
    have hread := SparesSites.onStore
      (readAttribute (.invokeMember name ignoreCase count) name ignoreCase args)
    exact .bind (.act hread) fun callee => .perform _
  | callMethod c method => exact callMethod_hasCourse c method args
  | truthMethod c =>
    apply HasCourse.bind (callMethod_hasCourse c _ args)
    intro answer
    cases answer with
    | bool b => exact .pure _
    | _ => exact .fail _
  | storeMethod c => exact .bind (callMethod_hasCourse c _ args) fun _ => .pure _
  | callFunction =>
    cases args with
    | nil => exact .fail _
    | cons v rest =>
      cases v with
      | function f => exact .perform _
      | _ => exact .fail _
  | builtinMethod m =>
    cases args with
    | nil => exact .fail _
    | cons v rest => exact .act (.onStore _)
  | getItem =>
    apply onTwo_hasCourse args
    intro receiver index
    exact .bind (.act (.lift _)) fun i => .act (.onStore _)
  | setItem =>
    simp only [execute]
    split
    · exact .bind (.act (.lift _)) fun i => .act (.onStore _)
    · exact .fail _
  | binary i operator => exact onTwo_hasCourse args fun v w => .act (.onStore _)
  | unary i => exact onOne_hasCourse args fun v => .act (.onStore _)
  | convert c => exact onOne_hasCourse args fun v => .act (.onStore _)
  | format language =>
    apply onOne_hasCourse args
    intro v
    apply HasCourse.get
    intro m
    exact .bind (.act (.require _)) fun text => .act (.onStore _)
  | delegate language signature =>
    exact onOne_hasCourse args fun v => .act (language.delegate_sparesSites v signature)
  | through inner site use => exact executeNested_hasCourse inner site use args
  | negationText =>
    apply HasCourse.get
    intro m
    exact .bind (.act (.require _)) fun text => .act (.onStore _)
  | joinedText =>
    apply HasCourse.get
    intro m
    exact .bind (.act (.require _)) fun texts => .act (.onStore _)

/-- A call that is answered through a site. -/
def Task.ThroughSite : Task → Prop
  | .invoke _ (some _) _ => True
  | _ => False

/-- **Every task has a course**, whatever it is, as long as it is not a call through a site. -/
theorem Task.hasCourse {task : Task} (h : ¬ task.ThroughSite) :
    HasCourse fun p => step .kept p task := by
  cases task with
  | invoke binder site args =>
    cases site with
    | some id => exact (h trivial).elim
    | none =>
      by_cases hacc : binder.operation.Accepts args
      · simp only [step, invoke_of_accepts hacc]
        exact .perform _
      · obtain ⟨expected, -, -, hrefused⟩ := invoke_of_not_accepts hacc
        simp only [step, hrefused]
        exact .fail _
  | execute plan args => exact execute_hasCourse plan args
  | callValue callee args => exact callValue_hasCourse callee args
  | callFunction f args => exact callFunction_hasCourse f args
  | instantiate c args => exact instantiate_hasCourse c args

end DynamicBinding
