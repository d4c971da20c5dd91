import DynamicBinding.Proofs.Guard.Passing
import DynamicBinding.Resolution.Chain
/-!
# What objects bind

The protocol of objects, seen from the guards of its bindings.  A binding that an object makes
comes back for every argument list that the binding's guard lets through (`bind_eq_of_passes`),
and a refusal holds for every list that the refusal's guard lets through (`decline_of_passes`).

`Plan.IsResolved` is what all plans of resolution have in common.  A site is given to a plan later
and changes nothing else in it; `Plan.siteless` takes it away again.

Records are left out.  They answer for themselves, and an offer whose guard is coarser than what
the offer looks at breaks both laws.  Classes, instances and inert objects keep them.
-/

namespace DynamicBinding

/-! ## Arguments -/

/-- Whether the value is a record. -/
def Value.isRecord : Value → Bool
  | .object (.record _) => true
  | _ => false

/-- The value is no record. -/
def Value.RecordFree (v : Value) : Prop := v.isRecord = false

/-- No record is among the arguments. -/
def RecordFreeArgs (args : List Value) : Prop := ∀ v ∈ args, v.RecordFree

/-- A site of the operation takes this number of arguments. -/
def Operation.Accepts (operation : Operation) (args : List Value) : Prop :=
  ∀ n, operation.siteArity? = some n → args.length = n

theorem RecordFreeArgs.head {v : Value} {rest : List Value} (h : RecordFreeArgs (v :: rest)) :
    v.RecordFree :=
  h v List.mem_cons_self

theorem RecordFreeArgs.tail {v : Value} {rest : List Value} (h : RecordFreeArgs (v :: rest)) :
    RecordFreeArgs rest :=
  fun w hw => h w (List.mem_cons_of_mem v hw)

/-- Builtin values are no records. -/
theorem Value.recordFree_of_isObject {v : Value} (h : v.isObject = false) : v.RecordFree := by
  cases v with
  | object o => cases h
  | _ => rfl

/-- Values of one type are all callable or all not, records apart. -/
theorem Value.isCallable_congr {v w : Value} (hv : v.RecordFree) (hw : w.RecordFree)
    (h : v.runtimeType = w.runtimeType) : v.isCallable = w.isCallable := by
  cases v with
  | object o =>
    cases w with
    | object p =>
      cases o <;> cases p <;>
        simp_all [RecordFree, isRecord, runtimeType, Object.runtimeType, isCallable,
          Object.isCallable]
    | _ => cases o <;> simp_all [runtimeType, Object.runtimeType]
  | _ => cases w with
    | object p => cases p <;> simp_all [runtimeType, Object.runtimeType]
    | _ => simp_all [runtimeType, isCallable, kind]

/-- The type of a builtin value has the name of its kind. -/
theorem Value.typeName_of_isObject_eq_false {v : Value} (h : v.isObject = false) :
    v.typeName = v.kind.name := by
  cases v <;> first | rfl | simp [isObject] at h

/-- An accepted list is accepted by the typed form as well. -/
theorem Operation.Accepts.redirected {operation : Operation} {args : List Value}
    (h : operation.Accepts args) : (operation.redirected args).Accepts args := by
  cases operation with
  | named name =>
    intro n hn
    cases name with
    | getItem =>
      simp only [Operation.redirected, NamedOperation.redirect?] at hn
      split at hn
      · simp only [Option.getD_some, siteArity?, Option.some.injEq] at hn
        omega
      · simp [siteArity?] at hn
    | setItem =>
      simp only [Operation.redirected, NamedOperation.redirect?] at hn
      split at hn
      · simp only [Option.getD_some, siteArity?, Option.some.injEq] at hn
        omega
      · simp [siteArity?] at hn
    | other text => simp [Operation.redirected, NamedOperation.redirect?, siteArity?] at hn
  | _ => exact h

/-- The typed form depends on the number of arguments only. -/
theorem Operation.redirected_congr (operation : Operation) {a b : List Value}
    (h : a.length = b.length) : operation.redirected a = operation.redirected b := by
  simp only [Operation.redirected, h]

/-! ## Plans -/

/-- The plan without the site it was given. -/
def Plan.siteless : Plan → Plan
  | .through inner _ use => .through inner none use
  | plan => plan

/-- The binding with its plan as it was resolved. -/
def Binding.siteless (β : Binding) : Binding := { β with plan := β.plan.siteless }

/-- The plans that resolution makes of arguments without records.  They have no site, and hold
neither code nor a value. -/
def Plan.IsResolved : Plan → Prop
  | .constant _ | .body _ | .offer _ _ => False
  | .through _ site _ => site = none
  | _ => True

theorem Plan.IsResolved.siteless_eq {plan : Plan} (h : plan.IsResolved) : plan.siteless = plan := by
  cases plan with
  | through inner site use =>
    obtain rfl : site = none := h
    rfl
  | _ => rfl

theorem Binding.siteless_eq {β : Binding} (h : β.plan.IsResolved) : β.siteless = β := by
  unfold Binding.siteless
  rw [h.siteless_eq]

/-! ## The protocol -/

namespace ClassRef

/-- The bindings of an instance have one guard. -/
theorem of_bindInstance {c : ClassRef} {operation : Operation} {args : List Value}
    {β : Binding} (h : c.bindInstance operation args = some β) :
    β.guard = c.instanceGuard args ∧ β.plan.IsResolved := by
  have hmethod : ∀ {name plan}, plan.IsResolved → c.methodBinding? name plan args = some β →
      β.guard = c.instanceGuard args ∧ β.plan.IsResolved := by
    intro name plan hplan hβ
    simp only [methodBinding?] at hβ
    split at hβ
    · cases hβ
      exact ⟨rfl, hplan⟩
    · cases hβ
  cases operation with
  | getMember | setMember | deleteMember | invokeMember =>
    cases h
    exact ⟨rfl, trivial⟩
  | invoke | getIndex | setIndex => exact hmethod (by trivial) h
  | createInstance | named => simp [bindInstance] at h
  | convert target explicit =>
    cases target with
    | str | bool => exact hmethod (by trivial) h
    | _ => simp [bindInstance] at h
  | unary operator | binary operator =>
    simp only [bindInstance] at h
    split at h
    · cases h
    · cases h
    · obtain ⟨name, -, h⟩ := Option.bind_eq_some_iff.1 h
      exact hmethod (by trivial) h

/-- What an instance binds depends on the number of arguments only. -/
theorem bindInstance_congr (c : ClassRef) (operation : Operation) {a b : List Value}
    (h : a.length = b.length) : c.bindInstance operation a = c.bindInstance operation b := by
  simp only [bindInstance, methodBinding?, instanceGuard, h]

/-- What a class binds depends on the receiver only. -/
theorem bindClass_congr (c : ClassRef) (operation : Operation) {a b : List Value}
    (h : a.head? = b.head?) : c.bindClass operation a = c.bindClass operation b := by
  simp only [bindClass, h]

/-- The bindings of a class test the number of arguments that a site takes and the class. -/
theorem of_bindClass {c : ClassRef} {operation : Operation} {receiver : Value}
    {rest : List Value} {β : Binding} (h : c.bindClass operation (receiver :: rest) = some β) :
    (∃ n, operation.siteArity? = some n ∧ β.guard = (Guard.arity n).identity 0 receiver) ∧
      β.plan.IsResolved := by
  cases operation with
  | invoke count | createInstance count =>
    cases h
    exact ⟨⟨count + 1, rfl, rfl⟩, trivial⟩
  | getMember name ignoreCase =>
    simp only [bindClass, List.head?_cons, Option.bind_eq_bind, Option.bind_some,
      Option.bind_eq_some_iff] at h
    obtain ⟨stored, -, h⟩ := h
    cases h
    exact ⟨⟨1, rfl, rfl⟩, trivial⟩
  | _ => simp [bindClass] at h

end ClassRef

namespace Object

variable {o : Object} {operation : Operation} {rest b : List Value} {β : Binding}

/-- The binding of an object fits the arguments it was made for. -/
theorem bind_applies (ho : (Value.object o).RecordFree)
    (hacc : operation.Accepts (.object o :: rest))
    (h : o.bind operation (.object o :: rest) = some β) :
    β.guard.passes (.object o :: rest) = true := by
  cases o with
  | classObject c =>
    obtain ⟨⟨n, hn, hguard⟩, -⟩ := ClassRef.of_bindClass h
    rw [hguard]
    simpa using hacc n hn
  | classInstance id c =>
    rw [(ClassRef.of_bindInstance h).1]
    simp [ClassRef.instanceGuard, Value.runtimeType, runtimeType]
  | record r => simp [Value.RecordFree, Value.isRecord] at ho
  | inert id name => simp [bind] at h

/-- The plan of an object holds nothing but the class and a name. -/
theorem isResolved_bind (ho : (Value.object o).RecordFree)
    (h : o.bind operation (.object o :: rest) = some β) : β.plan.IsResolved := by
  cases o with
  | classObject c => exact (ClassRef.of_bindClass h).2
  | classInstance id c => exact (ClassRef.of_bindInstance h).2
  | record r => simp [Value.RecordFree, Value.isRecord] at ho
  | inert id name => simp [bind] at h

/-- The binding of an object comes back for all that its guard lets through. -/
theorem bind_eq_of_passes (ho : (Value.object o).RecordFree)
    (hacc : operation.Accepts (.object o :: rest))
    (h : o.bind operation (.object o :: rest) = some β) (hp : β.guard.passes b = true) :
    b.length = rest.length + 1 ∧
      ∃ o' tail, b = .object o' :: tail ∧ o'.bind operation b = some β := by
  cases o with
  | classObject c =>
    obtain ⟨⟨n, hn, hguard⟩, -⟩ := ClassRef.of_bindClass h
    rw [hguard] at hp
    obtain ⟨hlen, tail, rfl⟩ := Guard.passes_identity_head hp
    rw [Guard.passes_arity, beq_iff_eq] at hlen
    refine ⟨hlen.trans (hacc n hn).symm, _, tail, rfl, ?_⟩
    rw [← h]
    exact ClassRef.bindClass_congr c operation rfl
  | classInstance id c =>
    have hguard := (ClassRef.of_bindInstance h).1
    rw [hguard, ClassRef.instanceGuard] at hp
    obtain ⟨hlen, id', tail, rfl⟩ := Guard.passes_instanceOf_head hp
    rw [Guard.passes_arity, beq_iff_eq] at hlen
    refine ⟨hlen, _, tail, rfl, ?_⟩
    rw [← h]
    exact ClassRef.bindInstance_congr c operation hlen
  | record r => simp [Value.RecordFree, Value.isRecord] at ho
  | inert id name => simp [bind] at h

/-- A refusal fits the arguments it was made for. -/
theorem declineGuard_applies (ho : (Value.object o).RecordFree) :
    (o.declineGuard (.object o :: rest)).passes (.object o :: rest) = true := by
  cases o with
  | record r => simp [Value.RecordFree, Value.isRecord] at ho
  | _ => simp [declineGuard, receiverGuard, Value.runtimeType, runtimeType]

/-- A refusal holds for all that its guard lets through, and so does what is said about the
receiver. -/
theorem decline_of_passes (ho : (Value.object o).RecordFree)
    (h : o.bind operation (.object o :: rest) = none) (hlen : b.length = rest.length + 1)
    (hp : (o.declineGuard (.object o :: rest)).passes b = true) :
    ∃ o' tail, b = .object o' :: tail ∧ o'.bind operation b = none ∧
      o'.declineGuard b = o.declineGuard (.object o :: rest) ∧ o'.typeName = o.typeName := by
  cases o with
  | classObject c =>
    obtain ⟨-, tail, rfl⟩ := Guard.passes_identity_head hp
    refine ⟨_, tail, rfl, ?_, rfl, rfl⟩
    rw [← h]
    exact ClassRef.bindClass_congr c operation rfl
  | classInstance id c =>
    obtain ⟨-, id', tail, rfl⟩ := Guard.passes_instanceOf_head hp
    refine ⟨_, tail, rfl, ?_, rfl, rfl⟩
    rw [← h]
    exact ClassRef.bindInstance_congr c operation hlen
  | record r => simp [Value.RecordFree, Value.isRecord] at ho
  | inert id name =>
    obtain ⟨-, tail, rfl⟩ := Guard.passes_identity_head hp
    exact ⟨_, tail, rfl, rfl, rfl, rfl⟩

end Object

end DynamicBinding
