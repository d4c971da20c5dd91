import DynamicBinding.Machine.Evaluation
import DynamicBinding.Proofs.Script.Makes
/-!
# What is made

Most of what a machine does only makes things, which get the next handle of their sort and leave
alone all that is there.

* `Literal.make_makes`: making the value of a literal only makes things, and the value is known
  wherever all items and variables are.
* `Plan.OnlyMakes` are the plans that only make things, whoever performs what is inside them.
-/

namespace DynamicBinding

variable {given : Value → Prop} {α β : Type} {m : Machine}

/-- All items and all variables are known. -/
structure Machine.Closed (m : Machine) (given : Value → Prop) : Prop where
  store : m.store.Closed given
  globals : ∀ {name v}, m.globals.lookup name = some v → m.store.Knows given v

/-- What a literal says itself is not given; with everything given, every machine is closed. -/
theorem Machine.closed_true (m : Machine) : m.Closed fun _ => True :=
  ⟨fun _ _ _ => .inl trivial, fun _ => .inl trivial⟩

namespace Exec

/-! ## Computations on a closed machine -/

/-- From the machine on, the computation only makes things, touches nothing else of the machine,
and what it gives has the property. -/
def Makes (given : Value → Prop) (good : Store → α → Prop) (m : Machine) (x : Exec α) : Prop :=
  m.Closed given →
    ∃ s, (x.run.run m).2 = { m with store := s } ∧ m.store.Extends given s ∧
      ∀ a, (x.run.run m).1 = .ok a → good s a

namespace Makes

variable {good : Store → α → Prop} {fine : Store → β → Prop}

/-- A value is given without anything being made. -/
theorem pure {a : α} (h : good m.store a) : Makes given good m (pure a) := by
  refine fun _ => ⟨m.store, rfl, .refl _, fun b hb => ?_⟩
  cases hb
  exact h

/-- A failure makes nothing. -/
theorem fail (e : RuntimeError) : Makes given good m (fail e) :=
  fun _ => ⟨m.store, rfl, .refl _, fun _ hb => (nomatch hb)⟩

/-- What a computation on the store makes is made on the machine. -/
theorem onStore {x : Effect α} (h : x.Makes given good m.store) :
    Makes given good m (onStore x) := by
  intro hm
  obtain ⟨hextends, hgood⟩ := h hm.store
  exact ⟨(x.run.run m.store).2, rfl, hextends, hgood⟩

/-- The second computation starts on the machine that has the store of the first one. -/
theorem bind {x : Exec α} {f : α → Exec β} (hx : x.Makes given good m)
    (hf : ∀ a s, m.store.Extends given s → good s a →
      (f a).Makes given fine { m with store := s }) :
    (x >>= f).Makes given fine m := by
  intro hm
  obtain ⟨s, hleft, hextends, hgood⟩ := hx hm
  rw [run_bind]
  rcases h : x.run.run m with ⟨r, n⟩
  rw [h] at hleft hgood
  obtain rfl : n = { m with store := s } := hleft
  cases r with
  | ok a =>
    have hclosed : Machine.Closed { m with store := s } given :=
      ⟨hextends.closed hm.store, fun hv => hextends.knows (hm.globals hv)⟩
    obtain ⟨t, hleft', hextends', hfine⟩ := hf a s hextends (hgood a rfl) hclosed
    exact ⟨t, hleft', hextends.trans hextends', hfine⟩
  | error e => exact ⟨s, rfl, hextends, fun b hb => (nomatch hb)⟩

/-- What is read of the machine is known. -/
theorem get {f : Machine → Exec β} (h : m.Closed given → (f m).Makes given fine m) :
    (MonadState.get >>= f).Makes given fine m :=
  fun hm => h hm hm

/-- With a property that does not depend on the store, each element is worked on by itself. -/
theorem mapM {xs : List α} {f : α → Exec β}
    (h : ∀ a (n : Machine), (f a).Makes given (fun _ _ => True) n) :
    (xs.mapM f).Makes given (fun _ _ => True) m := by
  induction xs generalizing m with
  | nil => exact pure trivial
  | cons a rest ih =>
    rw [List.mapM_cons]
    apply bind (h a m)
    intro b s _ _
    apply bind ih
    intro bs t _ _
    exact pure trivial

end Makes

/-- What a variable has is known on a closed machine. -/
theorem variable_makes (m : Machine) (name : String) :
    (Exec.variable name).Makes given (fun s v => s.Knows given v) m := by
  apply Makes.get
  intro hm
  split
  · next v hv => exact .pure (hm.globals hv)
  · exact .fail _

end Exec

/-! ## Literals -/

/-- Each nesting puts the last sequence into a new one, so what is put in is known. -/
theorem nest_makes {s : Store} {v : Value} (hv : s.Knows given v) (inLists : Bool) (depth : Nat) :
    Effect.Makes given (fun t w => t.Knows given w) s
      (depth.fold (fun _ _ made =>
        made >>= fun w => if inLists then Effect.list [w] else Effect.tuple [w]) (pure v)) := by
  induction depth with
  | zero => exact .pure hv
  | succ depth ih =>
    rw [Nat.fold_succ]
    apply Effect.Makes.bind ih
    intro w t _ hw
    have hsingle : ∀ x ∈ [w], t.Knows given x := by simpa using hw
    split
    · exact .list hsingle
    · exact .tuple hsingle

/-- A new function. -/
theorem function_makes (s : Store) (name : String) (arity : Option Nat)
    (signature : Option Signature) (e : Expr) :
    Effect.Makes given (fun _ _ => True) s
      (modifyGet (·.makeFunction name arity signature (.expression e))) :=
  .modifyGet (.function name arity signature _) trivial

/-- A new class. -/
theorem class_makes (s : Store) (name : String) (members : MemberTable) :
    Effect.Makes given (fun _ _ => True) s (modifyGet (·.makeClass name members)) :=
  .modifyGet (.newClass name members) trivial

mutual

/-- Making the value of a literal only makes things, and the value is known. -/
theorem Literal.make_makes (m : Machine) (l : Literal) :
    l.make.Makes given (fun s v => s.Knows given v) m := by
  match l with
  | .nothing => exact .pure (Store.knows_of_cell? rfl)
  | .bool _ => exact .pure (Store.knows_of_cell? rfl)
  | .int _ => exact .pure (Store.knows_of_cell? rfl)
  | .float _ => exact .pure (Store.knows_of_cell? rfl)
  | .str _ => exact .onStore (.str _)
  | .tuple items =>
    exact .bind (Literal.makeAll_makes m items) fun _ _ _ hvs => .onStore (.tuple hvs)
  | .list items =>
    exact .bind (Literal.makeAll_makes m items) fun _ _ _ hvs => .onStore (.list hvs)
  | .variable name => exact Exec.variable_makes m name
  | .nest inLists depth inner =>
    exact .bind (Literal.make_makes m inner) fun _ _ _ hv => .onStore (nest_makes hv inLists depth)
  | .times _ _ => exact .onStore (.str _)
  | .function name arity signature body =>
    apply Exec.Makes.onStore
    apply Effect.Makes.bind (function_makes _ name arity signature body)
    intro f s _ _
    exact .pure (Store.knows_of_cell? rfl)
  | .newClass name methods attributes =>
    have hmethods : Exec.Makes given (fun _ _ => True) m
        (methods.mapM fun (method, arity, body) => do
          let f ← Exec.onStore (modifyGet (·.makeFunction method arity none (.expression body)))
          pure (method, Value.function f)) := by
      apply Exec.Makes.mapM
      intro method n
      exact .bind (.onStore (function_makes _ _ _ _ _)) fun _ _ _ _ => .pure trivial
    apply Exec.Makes.bind hmethods
    intro functions s _ _
    apply Exec.Makes.bind (Literal.makeNamed_makes _ attributes)
    intro values t _ _
    apply Exec.Makes.bind (.onStore (class_makes _ name _))
    intro c u _ _
    exact .pure (Store.knows_of_cell? rfl)
  | .record typeName callable declinesByType members offers =>
    apply Exec.Makes.bind (Literal.makeKeyed_makes m members)
    intro values s _ _
    exact .onStore (.modifyGet (.record typeName callable declinesByType values offers)
      (Store.knows_of_cell? rfl))
  | .inert typeName =>
    exact .onStore (.modifyGet (.inert typeName) (Store.knows_of_cell? rfl))

/-- What a list of literals says is made one by one. -/
theorem Literal.makeAll_makes (m : Machine) (ls : List Literal) :
    (Literal.makeAll ls).Makes given (fun s vs => ∀ v ∈ vs, s.Knows given v) m := by
  match ls with
  | [] => exact .pure fun v hv => (nomatch hv)
  | l :: rest =>
    apply Exec.Makes.bind (Literal.make_makes m l)
    intro v s _ hv
    apply Exec.Makes.bind (Literal.makeAll_makes _ rest)
    intro vs t hextends hvs
    exact .pure (List.forall_mem_cons.2 ⟨hextends.knows hv, hvs⟩)

/-- Named things are made one by one. -/
theorem Literal.makeNamed_makes (m : Machine) (ls : List (String × Literal)) :
    (Literal.makeNamed ls).Makes given (fun _ _ => True) m := by
  match ls with
  | [] => exact .pure trivial
  | (_, l) :: rest =>
    apply Exec.Makes.bind (Literal.make_makes m l)
    intro v s _ _
    exact .bind (Literal.makeNamed_makes _ rest) fun _ _ _ _ => .pure trivial

/-- Things under keys are made one by one. -/
theorem Literal.makeKeyed_makes (m : Machine) (ls : List (MemberKey × Literal)) :
    (Literal.makeKeyed ls).Makes given (fun _ _ => True) m := by
  match ls with
  | [] => exact .pure trivial
  | (_, l) :: rest =>
    apply Exec.Makes.bind (Literal.make_makes m l)
    intro v s _ _
    exact .bind (Literal.makeKeyed_makes _ rest) fun _ _ _ _ => .pure trivial

end

/-! ## Computations that only make things -/

namespace Exec

/-- On any machine, the computation makes things in the store and changes no variable. -/
def OnlyMakes (x : Exec α) : Prop :=
  ∀ (n : Machine) (given : Value → Prop), n.store.Closed given →
    n.store.Extends given (x.run.run n).2.store ∧ (x.run.run n).2.globals = n.globals

namespace OnlyMakes

/-- Giving a value makes nothing. -/
theorem pure (a : α) : OnlyMakes (pure a) := fun n _ _ => ⟨.refl n.store, rfl⟩

/-- Stopping makes nothing. -/
theorem stop (stop : Stop) : OnlyMakes (throw stop : Exec α) := fun n _ _ => ⟨.refl n.store, rfl⟩

/-- Failing makes nothing. -/
theorem fail (e : RuntimeError) : OnlyMakes (fail e : Exec α) := stop (.error e)

/-- Reading the machine makes nothing. -/
theorem get : OnlyMakes (get : Exec Machine) := fun n _ _ => ⟨.refl n.store, rfl⟩

/-- A stop for want of an answer makes nothing. -/
theorem require (o : Option α) : OnlyMakes (require o) := by
  cases o with
  | some a => exact pure a
  | none => exact stop .diverged

/-- A result is lifted without anything being made. -/
theorem lift (r : Except RuntimeError α) : OnlyMakes (lift r) := by
  cases r with
  | ok a => exact pure a
  | error e => exact fail e

/-- A computation that only makes things in the store changes no variable. -/
theorem onStore {good : (Value → Prop) → Store → α → Prop} {x : Effect α}
    (h : ∀ given s, x.Makes given (good given) s) : OnlyMakes (onStore x) :=
  fun n given hclosed => ⟨(h given n.store hclosed).1, rfl⟩

/-- What changes other parts of the machine than the store and the variables. -/
theorem modifyGet {f : Machine → α × Machine}
    (h : ∀ m : Machine, (f m).2.store = m.store ∧ (f m).2.globals = m.globals) :
    OnlyMakes (modifyGet f : Exec α) := by
  intro n given _
  show n.store.Extends given (f n).2.store ∧ (f n).2.globals = n.globals
  rw [(h n).1, (h n).2]
  exact ⟨.refl n.store, rfl⟩

/-- Two computations that only make things do so one after the other. -/
theorem bind {x : Exec α} {f : α → Exec β} (hx : x.OnlyMakes) (hf : ∀ a, (f a).OnlyMakes) :
    (x >>= f).OnlyMakes := by
  intro n given hclosed
  obtain ⟨hextends, hglobals⟩ := hx n given hclosed
  rw [run_bind]
  rcases h : x.run.run n with ⟨r, o⟩
  rw [h] at hextends hglobals
  cases r with
  | ok a =>
    obtain ⟨hextends', hglobals'⟩ := hf a o given (hextends.closed hclosed)
    exact ⟨hextends.trans hextends', hglobals'.trans hglobals⟩
  | error e => exact ⟨hextends, hglobals⟩

/-- A text that is made of what is read. -/
theorem text (text : Machine → Option String) (shown : String → String) :
    OnlyMakes (do
      let m ← MonadState.get
      let found ← Exec.require (text m)
      Exec.onStore (Effect.str (shown found))) :=
  .bind .get fun _ => .bind (.require _) fun _ => .onStore fun _ _ => .str _

end OnlyMakes

end Exec

open Exec

/-! ### Members and delegates -/

/-- The instance that is asked is read from the arguments. -/
theorem receiverInstance_makes (s : Store) (args : List Value) :
    (receiverInstance args).Makes given (fun _ _ => True) s := by
  unfold receiverInstance
  split
  · exact .fail _
  · split
    · exact .pure trivial
    · exact .fail _

/-- Reading an attribute makes a function at most. -/
theorem readAttribute_makes (s : Store) (operation : Operation) (name : String)
    (ignoreCase : Bool) (args : List Value) :
    (readAttribute operation name ignoreCase args).OnlyMakes given s := by
  have hbound : ∀ (t : Store) (method : FunctionRef) (receiver : Value),
      (bindReceiver method receiver).OnlyMakes given t :=
    fun t method receiver => .before (.modifyGet (.function _ _ _ _) trivial) fun _ _ _ =>
      .pure trivial
  have hattribute : ∀ (t : Store) (receiver : Value) (id : Nat) (c : ClassRef),
      (attribute? receiver id c name ignoreCase).Makes given (fun _ _ => True) t := by
    intro t receiver id c
    apply Effect.Makes.get
    intro _
    split
    · exact .pure trivial
    · split
      · exact .bind (hbound _ _ _) fun _ _ _ _ => .pure trivial
      · exact .pure trivial
  apply Effect.Makes.bind (receiverInstance_makes s args)
  intro found t _ _
  apply Effect.Makes.before (hattribute _ _ _ _)
  intro member u _
  split
  · exact .pure trivial
  · exact .fail _

/-- Wrapping a value for a signature makes a function in the store. -/
theorem Language.delegate_onlyMakes (l : Language) (v : Value) (s : Signature) :
    (l.delegate v s).OnlyMakes := by
  have hstub : ∀ m : Machine, (m.stub s).2.store = m.store ∧ (m.stub s).2.globals = m.globals := by
    intro m
    obtain ⟨stubs, heq⟩ := m.frame_stub s
    rw [heq]
    exact ⟨rfl, rfl⟩
  have hshared : ∀ m : Machine, (m.sharedSite (l.delegateBinder s)).2.store = m.store ∧
      (m.sharedSite (l.delegateBinder s)).2.globals = m.globals := by
    intro m
    obtain ⟨sites, shared, heq⟩ := m.frame_sharedSite (l.delegateBinder s)
    rw [heq]
    exact ⟨rfl, rfl⟩
  have hfunction : ∀ given t, Effect.Makes given (fun _ _ => True) t
      (modifyGet (·.makeFunction (delegateName v) none (some s) (.delegate l s v))) :=
    fun given t => .modifyGet (.function _ _ _ _) trivial
  unfold Language.delegate
  split
  · exact .fail _
  · split
    · exact .pure v
    · apply OnlyMakes.bind (.modifyGet hstub)
      intro _
      apply OnlyMakes.bind (.modifyGet hshared)
      intro _
      exact .bind (.onStore hfunction) fun f => .pure _

/-! ### Plans -/

/-- A plan for one operand only makes things if it does so for every operand. -/
theorem onOne_onlyMakes {f : Value → Exec Value} (args : List Value)
    (hf : ∀ v, (f v).OnlyMakes) : (onOne args f).OnlyMakes := by
  unfold onOne
  split
  · exact hf _
  · exact .fail _

/-- A plan for two operands only makes things if it does so for every two. -/
theorem onTwo_onlyMakes {f : Value → Value → Exec Value} (args : List Value)
    (hf : ∀ v w, (f v w).OnlyMakes) : (onTwo args f).OnlyMakes := by
  unfold onTwo
  split
  · exact hf _ _
  · exact .fail _

/-- The plans that only make things.  They leave nothing to others to perform. -/
inductive Plan.OnlyMakes : Plan → Prop
  | fail (e : RuntimeError) : OnlyMakes (.fail e)
  | notCallable : OnlyMakes .notCallable
  | constant (v : Value) : OnlyMakes (.constant v)
  | receiver : OnlyMakes .receiver
  | classMember (c : ClassRef) (name : String) : OnlyMakes (.classMember c name)
  | readMember (name : String) (ignoreCase : Bool) : OnlyMakes (.readMember name ignoreCase)
  | builtinMethod {m : Script.Method} (h : m.writes = false) : OnlyMakes (.builtinMethod m)
  | getItem : OnlyMakes .getItem
  | binary (i : Script.BinaryImplementation) (operator : Operator) : OnlyMakes (.binary i operator)
  | unary (i : Script.UnaryImplementation) : OnlyMakes (.unary i)
  | convert (c : Script.Conversion) : OnlyMakes (.convert c)
  | format (language : Language) : OnlyMakes (.format language)
  | delegate (language : Language) (signature : Signature) :
    OnlyMakes (.delegate language signature)
  | negationText : OnlyMakes .negationText
  | joinedText : OnlyMakes .joinedText

/-- Such a plan only makes things, whoever performs what is inside it. -/
theorem Plan.OnlyMakes.execute {plan : Plan} (h : plan.OnlyMakes) (p : Perform)
    (args : List Value) : (execute p plan args).OnlyMakes := by
  cases h with
  | fail e => exact .fail e
  | notCallable =>
    cases args with
    | nil => exact .fail _
    | cons v rest => exact .fail _
  | constant v => exact .pure v
  | receiver => exact .pure _
  | classMember c name =>
    apply Exec.OnlyMakes.bind .get
    intro m
    split
    · exact .pure _
    · exact .fail _
  | readMember name ignoreCase =>
    exact .onStore fun given s => readAttribute_makes s _ name ignoreCase args
  | @builtinMethod m h =>
    cases args with
    | nil => exact .fail _
    | cons v rest => exact .onStore fun _ _ => Script.method_makes h v rest
  | getItem =>
    apply onTwo_onlyMakes args
    intro receiver index
    exact .bind (.lift _) fun i => .onStore fun _ _ => Script.getItem_makes receiver i
  | binary i operator =>
    exact onTwo_onlyMakes args fun v w => .onStore fun _ _ => Script.binary_makes i operator v w
  | unary i => exact onOne_onlyMakes args fun v => .onStore fun _ _ => Script.unary_makes i v
  | convert c => exact onOne_onlyMakes args fun v => .onStore fun _ _ => Script.conversion_makes c v
  | format language => exact onOne_onlyMakes args fun v => .text _ id
  | delegate language signature =>
    exact onOne_onlyMakes args fun v => language.delegate_onlyMakes v signature
  | negationText => exact .text _ fun text => "-(" ++ text ++ ")"
  | joinedText =>
    apply Exec.OnlyMakes.bind .get
    intro m
    exact .bind (.require _) fun texts => .onStore fun _ _ => Effect.Makes.str _

end DynamicBinding
