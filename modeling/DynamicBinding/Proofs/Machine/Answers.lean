import DynamicBinding.Proofs.Machine.Builtins
import DynamicBinding.Proofs.Machine.Callees
/-!
# What operations give

An operation of the script language gives the same through every site, whatever the site has kept.

* `Machine.Answers` says what an operation gives through all sites, and which store it leaves.
  `Machine.Does` takes one machine to another on which the operation has been done.
* `Script.Decides`: where the receiver is no object, or is one that declines, the script language
  decides which plan it is.
* `Machine.Sound.answers` takes an operation to the computation that its plan runs, and
  `Machine.Sound.answers_binary` and `Machine.Sound.answers_unary` take operators to what implements
  them.
-/

namespace DynamicBinding

open Exec Script

/-- Through every site of the script language, the operation gives the result on the arguments and
leaves the store. -/
def Machine.Answers (m : Machine) (operation : Operation) (args : List Value)
    (result : Except RuntimeError Value) (s : Store) : Prop :=
  ∀ (l : Language) (site : Option Nat), l.Scripts → m.Admits site ⟨operation, l⟩ →
    (Task.invoke ⟨operation, l⟩ site args).ComesTo .kept m (result.mapError .error) s

/-- The operation gives the value, and the other machine has the store that is left.  What else
there is on that machine makes no difference to operations on builtin values. -/
structure Machine.Does (m : Machine) (operation : Operation) (args : List Value) (v : Value)
    (n : Machine) : Prop where
  answers : m.Answers operation args (.ok v) n.store
  sound : n.Sound

variable {m : Machine} {operation : Operation} {operator : Operator} {target : Target}
  {explicit : Bool} {args : List Value} {result result' : Except RuntimeError Value} {x y v : Value}
  {s t : Store}

/-- An operation gives one result at most. -/
theorem Machine.Answers.unique (h : m.Answers operation args result s)
    (h' : m.Answers operation args result' t) : result = result' ∧ s = t := by
  have hcomes := h default none (.inl rfl) (m.admits_none _)
  have hcomes' := h' default none (.inl rfl) (m.admits_none _)
  obtain ⟨hsame, rfl⟩ := hcomes.unique hcomes'
  cases result <;> cases result' <;> cases hsame <;> exact ⟨rfl, rfl⟩

/-- A call leaves a machine that is sound. -/
theorem Machine.Sound.run_invoke (hm : m.Sound) {b : Binder} {site : Option Nat}
    (hsite : m.Admits site b) (hargs : RecordFreeArgs args) (depth : Nat) :
    ((run .kept depth (.invoke b site args)).run.run m).2.Sound := by
  obtain ⟨n, hn⟩ := hm
  exact ⟨_, (run_agree depth hn (.invoke none hsite hargs)).tracks⟩

/-- There is a machine on which the operation has been done. -/
theorem Machine.Answers.exists_does (h : m.Answers operation args (.ok v) s) (hm : m.Sound)
    (hargs : RecordFreeArgs args) : ∃ n, m.Does operation args v n ∧ n.store = s := by
  obtain ⟨-, depth, -, rfl⟩ := h default none (.inl rfl) (m.admits_none _)
  exact ⟨_, ⟨h, hm.run_invoke (m.admits_none _) hargs depth⟩, rfl⟩

/-! ## From operations to computations -/

/-- A value that is no object takes on no operation. -/
theorem Value.declines_of_isObject (h : v.isObject = false) (operation : Operation)
    (rest : List Value) :
    ∀ o tail, v :: rest = .object o :: tail → o.bind operation (v :: rest) = none := by
  rintro o tail ⟨⟩
  cases h

/-- The script language decides what the operation does on the arguments, and it is the plan.  No
object in front takes the operation on. -/
structure Script.Decides (operation : Operation) (args : List Value) (plan : Plan) : Prop where
  accepts : operation.Accepts args
  arity : operation.arityMismatch? = none
  declines : ∀ o rest, args = .object o :: rest → o.bind (operation.redirected args) args = none
  bound : ∀ l : Language, ∃ guard, Script.bind ⟨operation.redirected args, l⟩ args =
    some { guard := guard, plan := plan }

/-- Where no object in front takes the operation on, the script language is asked, and the fallback
where it declines. -/
theorem Script.plan_resolve {l : Language} (hl : l.Scripts)
    (harity : operation.arityMismatch? = none)
    (hdeclines : ∀ o rest, args = .object o :: rest →
      o.bind (operation.redirected args) args = none) :
    (Binder.resolve ⟨operation, l⟩ args).plan =
      match Script.bind ⟨operation.redirected args, l⟩ args with
      | some binding => binding.plan
      | none => (Fallback.bind (operation.redirected args) args).plan := by
  have hstep : Binder.languageStep ⟨operation, l⟩ (operation.redirected args) args =
      Script.bind ⟨operation.redirected args, l⟩ args := by
    rcases hl with hl | hl <;>
      simp only [Binder.languageStep, Binder.bindInLanguage, Binder.rebind, hl]
  unfold Binder.resolve LanguageStep.resolve
  simp only [harity]
  rw [LanguageStep.plan_resolveTyped_of_decline hdeclines, LanguageStep.bindPastProtocol, hstep]
  cases Script.bind ⟨operation.redirected args, l⟩ args <;> rfl

/-- What the script language decides is what is resolved. -/
theorem Script.Decides.plan_resolve {l : Language} {plan : Plan}
    (h : Script.Decides operation args plan) (hl : l.Scripts) :
    (Binder.resolve ⟨operation, l⟩ args).plan = plan := by
  obtain ⟨guard, hbind⟩ := h.bound l
  rw [Script.plan_resolve hl h.arity h.declines, hbind]

/-- A binary operator takes two operands. -/
theorem Operation.accepts_binary (operator : Operator) (x y : Value) :
    (Operation.binary operator).Accepts [x, y] := by
  rintro n ⟨⟩
  rfl

/-- A conversion takes one operand. -/
theorem Operation.accepts_convert (target : Target) (explicit : Bool) (v : Value) :
    (Operation.convert target explicit).Accepts [v] := by
  rintro n ⟨⟩
  rfl

/-- The script language decides a binary operator by the kinds of the operands, unless the object in
front takes it on or a container on the right is asked. -/
theorem Script.decides_binary {implementation : BinaryImplementation}
    (harity : operator.arity = .binary)
    (hdeclines : ∀ o, x = .object o → o.bind (.binary operator) [x, y] = none)
    (hcontainer : ((operator == .isIn || operator == .notIn) && y.isObject) = false)
    (hselect : BinaryImplementation.select? operator x.kind y.kind = some implementation) :
    Decides (.binary operator) [x, y] (.binary implementation operator) where
  accepts := Operation.accepts_binary operator x y
  arity := if_pos harity
  declines := by
    rintro o rest ⟨⟩
    exact hdeclines o rfl
  bound l := by
    refine ⟨.forArguments [x, y], ?_⟩
    have hbind : bindBinary ⟨.binary operator, l⟩ operator [x, y] =
        some { guard := .forArguments [x, y], plan := .binary implementation operator } := by
      simp only [bindBinary, hcontainer, hselect, Option.map_some, Bool.false_eq_true, if_false]
    exact hbind

/-- The script language decides a unary operator other than `not` by the kind of the operand, if
that is no object. -/
theorem Script.decides_unary {implementation : UnaryImplementation}
    (harity : operator.arity = .unary) (hnot : (operator == .not) = false)
    (hx : x.isObject = false)
    (hselect : UnaryImplementation.select? operator x.kind = some implementation) :
    Decides (.unary operator) [x] (.unary implementation) where
  accepts := by
    rintro _ ⟨⟩
    rfl
  arity := if_pos harity
  declines := Value.declines_of_isObject hx _ _
  bound l := by
    refine ⟨.forArguments [x], ?_⟩
    have hbind : bindUnary ⟨.unary operator, l⟩ operator [x] =
        some { guard := .forArguments [x], plan := .unary implementation } := by
      simp only [bindUnary, hnot, Bool.false_and, hselect, Option.map_some, Bool.false_eq_true,
        if_false]
    exact hbind

/-- A conversion to anything but a delegate is looked up in the table, unless the text of the value
is asked for. -/
theorem Script.bindConvert_of_table (b : Binder) (htarget : ∀ s, target ≠ .delegate s)
    (htext : (target == .str && explicit && v.kind != .str) = false) :
    bindConvert b target explicit [v] =
      (Conversion.select? target v.kind explicit).map fun c =>
        { guard := .forArguments [v], plan := .convert c } := by
  cases target with
  | delegate s => exact (htarget s rfl).elim
  | _ =>
    simp only [bindConvert]
    rw [htext]
    rfl

/-- The script language decides for the conversion in its table, unless it is asked for a delegate or
for the text of the value. -/
theorem Script.decides_convert {c : Conversion} (hv : v.isObject = false)
    (htarget : ∀ s, target ≠ .delegate s)
    (htext : (target == .str && explicit && v.kind != .str) = false)
    (hselect : Conversion.select? target v.kind explicit = some c) :
    Decides (.convert target explicit) [v] (.convert c) where
  accepts := Operation.accepts_convert target explicit v
  arity := rfl
  declines := Value.declines_of_isObject hv _ _
  bound l := by
    have hbind : bindConvert ⟨.convert target explicit, l⟩ target explicit [v] =
        some { guard := .forArguments [v], plan := .convert c } := by
      rw [bindConvert_of_table _ htarget htext, hselect]
      rfl
    exact ⟨_, hbind⟩

/-- A result that is lifted leaves the store as it is. -/
theorem Script.run_lift (r : Except RuntimeError Value) (s : Store) :
    (Script.lift r).run.run s = (r.mapError .error, s) := by
  cases r <;> rfl

namespace Machine.Sound

/-- Where the plan that is resolved gives the result by itself, so does a call through any site, be
it in the script language or another one. -/
theorem comesTo_of_execute (hm : m.Sound) (result : Except RuntimeError Value) {b : Binder}
    {site : Option Nat}
    (haccepts : b.operation.Accepts args) (hsite : m.Admits site b) (hargs : RecordFreeArgs args)
    (hexecute : ∀ p n, n.store = m.store → (execute p (b.resolve args).plan args).run.run n =
      (result.mapError .error, { n with store := s })) :
    (Task.invoke b site args).ComesTo .kept m (result.mapError .error) s := by
  obtain ⟨n, hn⟩ := hm
  rw [Task.comesTo_kept_iff hn (.invoke none hsite hargs)]
  -- where nothing is kept, a call resolves the plan in one step and runs it in the next
  have houtcome : (run .fresh 2 (.invoke b none args)).run.run n =
      (result.mapError .error, { n with store := s }) := by
    rw [run_invoke_none haccepts]
    exact hexecute _ n hn.store_eq
  refine ⟨?_, 2, ?_, ?_⟩
  · cases result <;> nofun
  · rw [houtcome]
  · rw [houtcome]

/-- Where the plan is to run a computation on the store, the operation gives what that gives. -/
theorem answers (hm : m.Sound) {plan : Plan} {z : Effect Value}
    (hdecides : Script.Decides operation args plan) (hargs : RecordFreeArgs args)
    (hexecute : ∀ p, execute p plan args = Exec.onStore z)
    (hrun : z.run.run m.store = (result.mapError .error, s)) :
    m.Answers operation args result s := by
  intro l site hl hsite
  refine hm.comesTo_of_execute result hdecides.accepts hsite hargs fun p n hn => ?_
  rw [hdecides.plan_resolve hl, hexecute, run_onStore, hn, hrun]

/-- A binary operator gives what its implementation does, unless an object is asked. -/
theorem answers_binary (hm : m.Sound) (hargs : RecordFreeArgs [x, y])
    {implementation : BinaryImplementation} (harity : operator.arity = .binary)
    (hdeclines : ∀ o, x = .object o → o.bind (.binary operator) [x, y] = none)
    (hcontainer : ((operator == .isIn || operator == .notIn) && y.isObject) = false)
    (hselect : BinaryImplementation.select? operator x.kind y.kind = some implementation)
    (hrun : (implementation.run operator x y).run.run m.store = (result.mapError .error, s)) :
    m.Answers (.binary operator) [x, y] result s :=
  hm.answers (decides_binary harity hdeclines hcontainer hselect) hargs (fun _ => rfl) hrun

/-- A unary operator gives what its implementation does, unless an object is asked. -/
theorem answers_unary (hm : m.Sound) (hargs : RecordFreeArgs [x])
    {implementation : UnaryImplementation} (harity : operator.arity = .unary)
    (hnot : (operator == .not) = false) (hx : x.isObject = false)
    (hselect : UnaryImplementation.select? operator x.kind = some implementation)
    (hrun : (implementation.run x).run.run m.store = (result.mapError .error, s)) :
    m.Answers (.unary operator) [x] result s :=
  hm.answers (decides_unary harity hnot hx hselect) hargs (fun _ => rfl) hrun

end Machine.Sound

/-! ## Machines with one value -/

namespace Client

/-- A user who makes the value of a literal. -/
def making (literal : Literal) : Client := inOrder [.make literal]

/-- The machine with the value is sound. -/
theorem sound_making {literal : Literal} (h : literal.recordFree = true) (main : Language)
    (depth : Nat) : ((making literal).left depth main).Sound :=
  sound_left (recordFree_inOrder (by simpa [Request.RecordFree] using h)) main depth

end Client

end DynamicBinding
