import DynamicBinding.Proofs.Machine.Evaluation
/-!
# Whole runs agree

The plans one by one, then one task, then runs of any depth: `run_agree` says that a run that keeps
bindings and a run that resolves every call afresh give the same and leave the same store.
-/

namespace DynamicBinding

open Exec

variable {p₁ p₂ : Perform} {m₁ m₂ : Machine} {args : List Value}

/-! ## Members of instances -/

/-- A bound method is a function, whose body holds the receiver. -/
theorem keeps_bindReceiver (method : FunctionRef) {receiver : Value} (h : receiver.RecordFree) :
    (bindReceiver method receiver).Keeps Value.RecordFree := by
  have hmake : Effect.Keeps (fun _ => True)
      (modifyGet (·.makeFunction method.name (method.arity.map (· - 1)) none
        (.bound method receiver))) :=
    .modifyGet fun _ hs => ⟨trivial, hs.makeFunction _ _ _ h⟩
  exact .bind hmake fun f _ => .pure rfl

/-- The instance that is asked is the first argument. -/
theorem keeps_receiverInstance (hargs : RecordFreeArgs args) :
    (receiverInstance args).Keeps fun found => found.1.RecordFree := by
  unfold receiverInstance
  split
  · exact .fail _
  · split
    · exact .pure hargs.head
    · exact .fail _

/-- An attribute is a field, a member or a bound method. -/
theorem keeps_attribute? {receiver : Value} (h : receiver.RecordFree) (id : Nat) (c : ClassRef)
    (name : String) (ignoreCase : Bool) :
    (attribute? receiver id c name ignoreCase).Keeps fun o => ∀ v, o = some v → v.RecordFree := by
  apply Effect.Keeps.bind .get
  intro s hs
  split
  · next v hv =>
    have hfield := (hs.fields id).get? hv
    apply Effect.Keeps.pure
    rintro w ⟨⟩
    exact hfield
  · split
    · apply Effect.Keeps.bind (keeps_bindReceiver _ h)
      intro bound hbound
      apply Effect.Keeps.pure
      rintro w ⟨⟩
      exact hbound
    · exact .pure fun v hv => (hs.members c).get? hv

/-- Reading an attribute gives what it is, or fails. -/
theorem keeps_readAttribute (operation : Operation) (name : String) (ignoreCase : Bool)
    (hargs : RecordFreeArgs args) :
    (readAttribute operation name ignoreCase args).Keeps Value.RecordFree := by
  apply Effect.Keeps.bind (keeps_receiverInstance hargs)
  intro found hfound
  apply Effect.Keeps.bind (keeps_attribute? hfound _ _ name ignoreCase)
  intro o ho
  split
  · next v => exact .pure (ho v rfl)
  · exact .fail _

/-- A field gets the second argument. -/
theorem keeps_assignField (name : String) (ignoreCase : Bool) (hargs : RecordFreeArgs args) :
    (assignField name ignoreCase args).Keeps Value.RecordFree := by
  have hv : ((args[1]?).getD Value.nothing).RecordFree :=
    RecordFreeArgs.getD fun v hv => hargs v (List.mem_of_getElem? hv)
  apply Effect.Keeps.bind (keeps_receiverInstance hargs)
  intro found _
  have hset : ∀ s : Store, s.RecordFree →
      (s.setFields found.2.1 ((s.fields found.2.1).set name ignoreCase
        ((args[1]?).getD .nothing))).RecordFree :=
    fun s hs => hs.setFields _ ((hs.fields _).set hv)
  exact .bind (.modify hset) fun _ _ => .pure hv

/-- Deleting a field brings nothing in. -/
theorem keeps_deleteField (name : String) (ignoreCase : Bool) (hargs : RecordFreeArgs args) :
    (deleteField name ignoreCase args).Keeps Value.RecordFree := by
  apply Effect.Keeps.bind (keeps_receiverInstance hargs)
  intro found _
  apply Effect.Keeps.bind .get
  intro s hs
  split
  · next fields hfields =>
    have hrest := (hs.fields _).remove? hfields
    exact .bind (.modify fun t ht => ht.setFields _ hrest) fun _ _ => .pure rfl
  · exact .fail _

/-! ## Plans -/

/-- A plan for one operand agrees if it does on every operand. -/
theorem onOne_agree {f₁ f₂ : Value → Exec Value} (htracks : m₁.Tracks m₂)
    (hargs : RecordFreeArgs args)
    (hf : ∀ v : Value, v.RecordFree → Agree Value.RecordFree m₁ m₂ (f₁ v) (f₂ v)) :
    Agree Value.RecordFree m₁ m₂ (onOne args f₁) (onOne args f₂) := by
  unfold onOne
  split
  · exact hf _ hargs.head
  · exact .fail htracks _

/-- A plan for two operands agrees if it does on every pair. -/
theorem onTwo_agree {f₁ f₂ : Value → Value → Exec Value} (htracks : m₁.Tracks m₂)
    (hargs : RecordFreeArgs args)
    (hf : ∀ v w : Value, v.RecordFree → w.RecordFree →
      Agree Value.RecordFree m₁ m₂ (f₁ v w) (f₂ v w)) :
    Agree Value.RecordFree m₁ m₂ (onTwo args f₁) (onTwo args f₂) := by
  unfold onTwo
  split
  · exact hf _ _ hargs.head hargs.tail.head
  · exact .fail htracks _

/-- The operation inside a plan, through the site of the plan or afresh. -/
theorem executeNested_agree (hp : Perform.Agree p₁ p₂) (htracks : m₁.Tracks m₂) {inner : Binder}
    {site₁ : Option Nat} (site₂ : Option Nat) (use : NestedUse)
    (hsite : ∀ id, site₁ = some id → m₁.Hosts id inner) (hargs : RecordFreeArgs args) :
    Agree Value.RecordFree m₁ m₂ (executeNested p₁ inner site₁ use args)
      (executeNested p₂ inner site₂ use args) := by
  cases use with
  | answer => exact hp htracks (.invoke site₂ hsite hargs)
  | membership negated =>
    apply onTwo_agree htracks hargs
    intro item container hitem hcontainer
    have hpair := RecordFreeArgs.cons hcontainer (RecordFreeArgs.cons hitem RecordFreeArgs.nil)
    apply Agree.bind (hp htracks (.invoke site₂ hsite hpair))
    intro found n₁ n₂ _ hn
    apply Agree.get
    rw [hn.store_eq]
    exact .pure hn rfl
  | negatedTruth =>
    apply Agree.bind (hp htracks (.invoke site₂ hsite hargs))
    intro truth n₁ n₂ _ hn
    apply Agree.get
    rw [hn.store_eq]
    exact .pure hn rfl

/-- A plan does what the same plan without a site does. -/
theorem execute_agree (hp : Perform.Agree p₁ p₂) (htracks : m₁.Tracks m₂) {plan : Plan}
    (hplan : plan.siteless.IsResolved) (hplaces : m₁.Places plan) (hargs : RecordFreeArgs args) :
    Agree Value.RecordFree m₁ m₂ (execute p₁ plan args) (execute p₂ plan.siteless args) := by
  cases plan with
  | fail e => exact .fail htracks e
  | notCallable =>
    cases args with
    | nil => exact .fail htracks _
    | cons v rest => exact .fail htracks _
  | constant | body | offer => exact hplan.elim
  | receiver => exact .pure htracks (RecordFreeArgs.getD fun v hv => hargs v (List.mem_of_head? hv))
  | instantiate c =>
    exact hp htracks (.instantiate c fun v hv => hargs v (List.mem_of_mem_drop hv))
  | classMember c name =>
    apply Agree.get
    rw [htracks.store_eq]
    split
    · next v hv => exact .pure htracks ((htracks.store.members c).get? hv)
    · exact .fail htracks _
  | readMember name ignoreCase => exact .onStore htracks (keeps_readAttribute _ _ _ hargs)
  | assignMember name ignoreCase => exact .onStore htracks (keeps_assignField _ _ hargs)
  | deleteMember name ignoreCase => exact .onStore htracks (keeps_deleteField _ _ hargs)
  | callMember name ignoreCase count =>
    have hrest : RecordFreeArgs (args.drop 1) := fun v hv => hargs v (List.mem_of_mem_drop hv)
    apply Agree.bind (.onStore htracks (keeps_readAttribute _ _ _ hargs))
    intro callee n₁ n₂ hcallee hn
    exact hp hn (.callValue hcallee hrest)
  | callMethod c method => exact callMethod_agree hp htracks c method hargs
  | truthMethod c =>
    apply Agree.bind (callMethod_agree hp htracks c _ hargs)
    intro answer n₁ n₂ _ hn
    split
    · exact .pure hn rfl
    · exact .fail hn _
  | storeMethod c =>
    have hlast : (args.getLast?.getD Value.nothing).RecordFree :=
      RecordFreeArgs.getD fun v hv => hargs v (List.mem_of_getLast? hv)
    apply Agree.bind (callMethod_agree hp htracks c _ hargs)
    intro _ n₁ n₂ _ hn
    exact .pure hn hlast
  | callFunction =>
    cases args with
    | nil => exact .fail htracks _
    | cons v rest =>
      cases v with
      | function f => exact hp htracks (.callFunction f hargs.tail)
      | _ => exact .fail htracks _
  | builtinMethod m =>
    cases args with
    | nil => exact .fail htracks _
    | cons v rest => exact .onStore htracks (Script.keeps_method m v hargs.tail)
  | getItem =>
    apply onTwo_agree htracks hargs
    intro receiver index _ _
    exact .lift_bind htracks fun i _ => .onStore htracks (Script.keeps_getItem receiver i)
  | setItem =>
    simp only [execute, Plan.siteless]
    split
    · next id index v =>
      have hv : v.RecordFree := hargs v (by simp)
      exact .lift_bind htracks fun i _ => .onStore htracks (Script.keeps_setItem id i hv)
    · exact .fail htracks _
  | binary i operator =>
    exact onTwo_agree htracks hargs fun a b _ _ =>
      .onStore htracks (Script.keeps_binary i operator a b)
  | unary i =>
    exact onOne_agree htracks hargs fun v _ => .onStore htracks (Script.keeps_unary i v)
  | convert c =>
    exact onOne_agree htracks hargs fun v hv => .onStore htracks (Script.keeps_conversion c hv)
  | format language =>
    apply onOne_agree htracks hargs
    intro v _
    apply Agree.get
    rw [htracks.store_eq]
    apply Agree.bind (.require htracks fun _ _ => trivial)
    intro text n₁ n₂ _ hn
    exact .onStore hn (.str text)
  | delegate language signature =>
    exact onOne_agree htracks hargs fun v hv => language.delegate_agree signature htracks hv
  | through inner site use =>
    refine executeNested_agree hp htracks none use (fun id hid => ?_) hargs
    subst hid
    exact hplaces
  | negationText =>
    apply Agree.get
    rw [htracks.store_eq]
    apply Agree.bind (.require htracks fun _ _ => trivial)
    intro text n₁ n₂ _ hn
    exact .onStore hn (.str _)
  | joinedText =>
    apply Agree.get
    rw [htracks.store_eq]
    apply Agree.bind (.require htracks fun _ _ => trivial)
    intro texts n₁ n₂ _ hn
    exact .onStore hn (.str _)

/-! ## Runs -/

/-- One task agrees if its parts do. -/
theorem step_agree (hp : Perform.Agree p₁ p₂) :
    Perform.Agree (step .kept p₁) (step .fresh p₂) := by
  intro m₁ m₂ t₁ t₂ htracks hmatches
  cases hmatches with
  | invoke site₂ hsite hargs => exact invoke_agree hp site₂ htracks hsite hargs
  | execute hplan hplaces hargs => exact execute_agree hp htracks hplan hplaces hargs
  | callValue hcallee hargs => exact callValue_agree hp htracks hcallee hargs
  | callFunction f hargs => exact callFunction_agree hp htracks f hargs
  | instantiate c hargs => exact instantiate_agree hp htracks c hargs

/-- **Keeping bindings changes no answer and no effect**, however deep a run goes. -/
theorem run_agree (depth : Nat) : Perform.Agree (run .kept depth) (run .fresh depth) := by
  induction depth with
  | zero => exact fun htracks _ => .stop htracks .diverged
  | succ depth ih => exact step_agree ih

end DynamicBinding
