import DynamicBinding.Proofs.Machine.Bound
import DynamicBinding.Proofs.Store.ClassOrder
/-!
# Where calls of values end

The call of an object is a call of a member of its class: of `__call__` for an instance, of
`__init__` for a class.  The member may be a class or an instance again, and gets more arguments
than the call before, so nothing in the call itself becomes smaller.  What becomes smaller is the
class.

* `Task.Passes` says of a task that all it does is to have another one performed and to finish with
  its answer.  `Task.Ends` says that a task is done without another one.
* `Task.Settles` puts that together: after a number of nested calls of values, the task has come to
  the body of a function, to a finished instance, or to an error.
* `Store.Built.settles`: every call does, and there is at most one call more than there are classes.
* `Task.Lands` says it of runs: but for some steps, the run of the task is the run of that body.
-/

namespace DynamicBinding

open Exec

/-! ## What is left to do with an answer -/

/-- What becomes of the answer of an initialiser. -/
def Value.initialised (made : Value) : Value → Except RuntimeError Value
  | .nothing => .ok made
  | _ => .error (.invalidValue "__init__ should return None")

/-- What becomes of the answer of `__bool__`. -/
def Value.truth : Value → Except RuntimeError Value
  | .bool b => .ok (.bool b)
  | v => .error (.mismatch Kind.bool.name v)

/-- A result that is lifted leaves the machine as it is. -/
theorem run_lift (r : Except RuntimeError Value) (m : Machine) :
    (Exec.lift r).run.run m = (r.mapError .error, m) := by
  cases r <;> rfl

/-- A new instance, and the machine with it. -/
def Machine.withInstance (m : Machine) (c : ClassRef) : Value × Machine :=
  let made := m.store.makeInstance c
  (made.1, { m with store := made.2 })

/-- Making an instance gives it, and leaves the machine with it. -/
theorem run_makeInstance (m : Machine) (c : ClassRef) :
    (Exec.onStore (modifyGet (·.makeInstance c))).run.run m =
      (.ok (m.withInstance c).1, (m.withInstance c).2) := rfl

/-! ## What a task passes on -/

namespace Task

/-- On the machine, the task is the other one on the other machine, and what is left to do with the
answer. -/
def Passes (m : Machine) (t : Task) (n : Machine) (u : Task) : Prop :=
  ∃ finish : Value → Except RuntimeError Value, ∀ caching p,
    (step caching p t).run.run m = (p u >>= fun v => Exec.lift (finish v)).run.run n

/-- On the machine, the task has the result, and no other task is performed for it. -/
def Ends (m : Machine) (t : Task) (result : Except RuntimeError Value) : Prop :=
  ∃ n, ∀ caching p, (step caching p t).run.run m = (result.mapError .error, n)

/-- How many calls of values the task itself is. -/
def calls : Task → Nat
  | .callValue _ _ => 1
  | _ => 0

/-- On the machine, after at most so many nested calls of values, the task has come to the body of a
function that takes the arguments, to a finished instance, or to an error. -/
inductive Settles : Nat → Machine → Task → Prop
  | body {count : Nat} {m : Machine} {f : FunctionRef} {args : List Value}
    (h : ∀ n, f.arity = some n → args.length = n) : Settles count m (.callFunction f args)
  | finished {count : Nat} {m : Machine} {t : Task} {id : Nat} {c : ClassRef}
    (hcalls : t.calls ≤ count) (h : t.Ends m (.ok (.object (.classInstance id c)))) :
    Settles count m t
  | error {count : Nat} {m : Machine} {t : Task} {e : RuntimeError}
    (hcalls : t.calls ≤ count) (h : t.Ends m (.error e)) : Settles count m t
  | passes {count inside : Nat} {m n : Machine} {t u : Task} (hcalls : inside + t.calls ≤ count)
    (h : t.Passes m n u) (hu : Settles inside n u) : Settles count m t

variable {m n : Machine} {t u : Task} {count : Nat} {callee : Value} {args : List Value}
  {c : ClassRef} {e : RuntimeError}

/-- A task that runs just as another passes on to it. -/
theorem Passes.of_eq (h : ∀ caching p, (step caching p t).run.run m = (p u).run.run n) :
    Passes m t n u := by
  refine ⟨.ok, fun caching p => ?_⟩
  rw [h]
  exact congrArg (fun x : Exec Value => x.run.run n) (bind_pure (p u)).symm

/-- A task that fails at once ends with the error. -/
theorem Ends.of_fail (h : ∀ caching p, step caching p t = Exec.fail e) : Ends m t (.error e) :=
  ⟨m, fun caching p => by rw [h]; rfl⟩

/-! ## Steps -/

/-- A function that does not take the arguments is an error. -/
theorem settles_callFunction (count : Nat) (m : Machine) (f : FunctionRef) (args : List Value) :
    Settles count m (.callFunction f args) := by
  by_cases haccepts : ∀ n, f.arity = some n → args.length = n
  · exact .body haccepts
  · obtain ⟨n, hn, hlen⟩ : ∃ n, f.arity = some n ∧ args.length ≠ n := by
      simpa only [not_forall, exists_prop] using haccepts
    have hfail : ∀ caching p, step caching p (.callFunction f args) =
        Exec.fail (.argumentCount n args.length) := by
      intro caching p
      simp only [step, DynamicBinding.callFunction, hn, if_pos hlen]
    exact .error (Nat.zero_le _) (.of_fail hfail)

/-- A method that is found is called. -/
theorem run_callMethod_of_some (p : Perform) {method : String} {v : Value}
    (hget : (m.store.members c).get? method false = some v) :
    (callMethod p c method args).run.run m = (p (.callValue v args)).run.run m := by
  simp only [callMethod, run_get_bind, hget]

/-- A method that is not found is an error. -/
theorem run_callMethod_of_none (p : Perform) {method : String}
    (hget : (m.store.members c).get? method false = none) :
    (callMethod p c method args).run.run m =
      (.error (.error (.raised ("missing method '" ++ method ++ "'"))), m) := by
  simp only [callMethod, run_get_bind, hget]
  rfl

/-- Calling a method of a class is calling the member, and an error if there is none. -/
theorem settles_of_callMethod {method : String} (finish : Value → Except RuntimeError Value)
    (hcalls : t.calls = 0)
    (hstep : ∀ caching p, step caching p t =
      callMethod p c method args >>= fun v => Exec.lift (finish v))
    (hmember : ∀ v, (m.store.members c).get? method false = some v →
      Settles count m (.callValue v args)) :
    Settles count m t := by
  cases hget : (m.store.members c).get? method false with
  | some v =>
    have hpasses : t.Passes m m (.callValue v args) := by
      refine ⟨finish, fun caching p => ?_⟩
      rw [hstep, run_bind, run_callMethod_of_some p hget, run_bind]
    exact .passes (by omega) hpasses (hmember v hget)
  | none =>
    have hends : t.Ends m (.error (.raised ("missing method '" ++ method ++ "'"))) := by
      refine ⟨m, fun caching p => ?_⟩
      rw [hstep, run_bind, run_callMethod_of_none p hget]
      rfl
    exact .error (by omega) hends

/-- A class with an initialiser calls it. -/
theorem passes_instantiate {init : Value}
    (hget : (m.store.members c).get? "__init__" false = some init) :
    Passes m (.instantiate c args) (m.withInstance c).2
      (.callValue init ((m.withInstance c).1 :: args)) := by
  refine ⟨(m.withInstance c).1.initialised, fun caching p => ?_⟩
  have hget' : ((m.withInstance c).2.store.members c).get? "__init__" false = some init := hget
  show (DynamicBinding.instantiate p c args).run.run m = _
  rw [DynamicBinding.instantiate, run_bind, run_makeInstance]
  simp only [run_get_bind, hget']
  rw [run_bind, run_bind]
  rcases (p (.callValue init ((m.withInstance c).1 :: args))).run.run (m.withInstance c).2 with
    ⟨answer, n⟩
  cases answer with
  | error stop => rfl
  | ok v => cases v <;> rfl

/-- A class without an initialiser takes no arguments. -/
theorem ends_instantiate (hget : (m.store.members c).get? "__init__" false = none) :
    Ends m (.instantiate c args)
      (if args.isEmpty then .ok (m.withInstance c).1
      else .error (.argumentCount 0 args.length)) := by
  refine ⟨(m.withInstance c).2, fun caching p => ?_⟩
  have hget' : ((m.withInstance c).2.store.members c).get? "__init__" false = none := hget
  show (DynamicBinding.instantiate p c args).run.run m = _
  rw [DynamicBinding.instantiate, run_bind, run_makeInstance]
  simp only [run_get_bind, hget']
  split <;> rfl

/-- A new instance is finished, unless its class has an initialiser, which is called. -/
theorem settles_instantiate
    (hmember : ∀ v n all, n.store.classes = m.store.classes →
      (m.store.members c).get? "__init__" false = some v → Settles count n (.callValue v all)) :
    Settles count m (.instantiate c args) := by
  cases hget : (m.store.members c).get? "__init__" false with
  | some init =>
    exact .passes (Nat.le_refl _) (passes_instantiate hget) (hmember init _ _ rfl hget)
  | none =>
    have hends : Ends m (.instantiate c args) _ := ends_instantiate hget
    split at hends
    · exact .finished (Nat.zero_le _) hends
    · exact .error (Nat.zero_le _) hends

/-! ## Calls -/

/-- A value that cannot be called is an error. -/
theorem settles_of_notCallable (count : Nat)
    (h : ∀ p, DynamicBinding.callValue p callee args = Exec.fail (.notCallableValue callee)) :
    Settles (count + 1) m (.callValue callee args) :=
  .error (Nat.le_add_left 1 count) (.of_fail fun _ p => h p)

/-- A call that runs just as another task settles with one call more. -/
theorem settles_of_callValue
    (h : ∀ p, (DynamicBinding.callValue p callee args).run.run m = (p u).run.run m)
    (hu : Settles count m u) : Settles (count + 1) m (.callValue callee args) :=
  .passes (Nat.le_refl _) (.of_eq fun _ p => h p) hu

/-- The call of a class makes an instance, and the call of an instance calls `__call__`. -/
theorem settles_callValue (hcallee : callee.RecordFree)
    (hmember : ∀ c v n method all, callee.class? = some c → n.store.classes = m.store.classes →
      (m.store.members c).get? method false = some v → Settles count n (.callValue v all)) :
    Settles (count + 1) m (.callValue callee args) := by
  cases callee with
  | function f => exact settles_of_callValue (fun _ => rfl) (settles_callFunction count m f args)
  | object o =>
    cases o with
    | classObject c =>
      have hinstantiate : Settles count m (.instantiate c args) :=
        settles_instantiate fun v n all hn hget => hmember c v n _ all rfl hn hget
      have hexecute : Settles count m
          (.execute (.instantiate c) (.object (.classObject c) :: args)) :=
        .passes (Nat.le_refl _) (.of_eq fun _ _ => rfl) hinstantiate
      exact settles_of_callValue (fun _ => rfl) hexecute
    | classInstance id c =>
      by_cases hcall : c.has "__call__" = true
      · have hexecute : Settles count m
            (.execute (.callMethod c "__call__") (.object (.classInstance id c) :: args)) :=
          settles_of_callMethod .ok rfl (fun _ _ => (bind_pure _).symm)
            fun v hget => hmember c v m _ _ rfl rfl hget
        refine settles_of_callValue (fun p => ?_) hexecute
        simp only [DynamicBinding.callValue, Object.bind, ClassRef.bindInstance,
          ClassRef.methodBinding?, if_pos hcall]
      · refine settles_of_notCallable count fun p => ?_
        simp only [DynamicBinding.callValue, Object.bind, ClassRef.bindInstance,
          ClassRef.methodBinding?, if_neg hcall]
    | record r => cases hcallee
    | inert id typeName => exact settles_of_notCallable count fun _ => rfl
  | _ => exact settles_of_notCallable count fun _ => rfl

/-! ## Runs -/

/-- Some steps down, the run of the task has a result, or it is the run of the body of a function
that takes the arguments, and what is left to do with the answer.  Neither depends on the depth that
is left. -/
def Lands (m : Machine) (t : Task) : Prop :=
  ∃ steps,
    (∃ (result : Except RuntimeError Value) (n : Machine), ∀ caching depth,
      (run caching (depth + steps) t).run.run m = (result.mapError .error, n)) ∨
    ∃ (f : FunctionRef) (args : List Value) (n : Machine)
      (finish : Value → Except RuntimeError Value),
      (∀ count, f.arity = some count → args.length = count) ∧ ∀ caching depth,
        (run caching (depth + steps) t).run.run m =
          (callFunction.run (run caching depth) f args >>= fun v => Exec.lift (finish v)).run.run n

/-- A task that ends lands with its result. -/
theorem Ends.lands {result : Except RuntimeError Value} (h : t.Ends m result) : t.Lands m := by
  obtain ⟨n, hends⟩ := h
  exact ⟨1, .inl ⟨result, n, fun caching depth => hends caching (run caching depth)⟩⟩

/-- A task lands where the one it passes on to does. -/
theorem Passes.lands (h : t.Passes m n u) (hu : u.Lands n) : t.Lands m := by
  obtain ⟨finish, hpasses⟩ := h
  obtain ⟨steps, hu⟩ := hu
  have hrun : ∀ caching depth, (run caching (depth + (steps + 1)) t).run.run m =
      (run caching (depth + steps) u >>= fun v => Exec.lift (finish v)).run.run n :=
    fun caching depth => hpasses caching (run caching (depth + steps))
  refine ⟨steps + 1, ?_⟩
  rcases hu with ⟨result, o, hends⟩ | ⟨f, args, o, inner, haccepts, hbody⟩
  · refine .inl ⟨result.bind finish, o, fun caching depth => ?_⟩
    rw [hrun, run_bind, hends]
    cases result with
    | error e => rfl
    | ok v => exact run_lift (finish v) o
  · refine .inr ⟨f, args, o, fun v => (inner v).bind finish, haccepts, fun caching depth => ?_⟩
    rw [hrun, run_bind, hbody, run_bind, run_bind]
    rcases (callFunction.run (run caching depth) f args).run.run o with ⟨answer, left⟩
    cases answer with
    | error stop => rfl
    | ok v =>
      simp only [run_lift]
      cases inner v <;> rfl

/-- Where a task settles, its run lands. -/
theorem Settles.lands (h : Settles count m t) : t.Lands m := by
  induction h with
  | body haccepts =>
    rename_i m f args
    refine ⟨1, .inr ⟨f, args, m, .ok, haccepts, fun caching depth => ?_⟩⟩
    show (DynamicBinding.callFunction (run caching depth) f args).run.run m = _
    rw [callFunction_eq_run _ haccepts]
    exact congrArg (fun x : Exec Value => x.run.run m) (bind_pure _).symm
  | finished _ hends => exact hends.lands
  | error _ hends => exact hends.lands
  | passes _ hpasses _ ih => exact hpasses.lands ih

end Task

/-! ## All calls -/

namespace Store.Built

variable {m n : Machine} {callee v : Value} {args : List Value} {c : ClassRef} {method : String}
  {count : Nat}

/-- The induction is on a bound for the class of what is called.  It leaves the arguments open,
which become more. -/
theorem settles_callValue_of_lt (hm : m.store.Built) (hcallee : callee.RecordFree)
    (hclass : ∀ c, callee.class? = some c → c.id < m.store.classes.size → c.id < count) :
    Task.Settles (count + 1) m (.callValue callee args) := by
  induction count generalizing m callee args with
  | zero =>
    refine Task.settles_callValue hcallee fun c v n method all hc _ hget => ?_
    exact absurd (hclass c hc (lt_size_of_get? hget)) (Nat.not_lt_zero _)
  | succ count ih =>
    refine Task.settles_callValue hcallee fun c v n method all hc hn hget => ?_
    obtain ⟨hfree, holder⟩ := hm.member hget
    have hlt := hclass c hc (lt_size_of_get? hget)
    refine ih (hm.other hn) hfree fun older hv _ => ?_
    exact Nat.lt_of_lt_of_le (holder older hv) (Nat.le_of_lt_succ hlt)

/-- The call of a member settles one call earlier than other calls. -/
theorem settles_member (hm : m.store.Built) (hn : n.store.classes = m.store.classes)
    (hget : (m.store.members c).get? method false = some v) :
    Task.Settles m.store.classes.size n (.callValue v args) := by
  obtain ⟨hfree, holder⟩ := hm.member hget
  have hlt := lt_size_of_get? hget
  obtain ⟨count, hcount⟩ : ∃ count, m.store.classes.size = count + 1 :=
    ⟨m.store.classes.size - 1, by omega⟩
  rw [hcount] at hlt ⊢
  exact (hm.other hn).settles_callValue_of_lt hfree fun older hv _ =>
    Nat.lt_of_lt_of_le (holder older hv) (Nat.le_of_lt_succ hlt)

/-- The methods of a class are called as they are, for a truth value, or for the value that is
stored. -/
theorem settles_method (hm : m.store.Built) :
    ∀ plan ∈ [Plan.callMethod c method, .truthMethod c, .storeMethod c],
      Task.Settles m.store.classes.size m (.execute plan args) := by
  have hmember : ∀ method v, (m.store.members c).get? method false = some v →
      Task.Settles m.store.classes.size m (.callValue v args) :=
    fun _ _ hget => hm.settles_member rfl hget
  intro plan hplan
  simp only [List.mem_cons, List.not_mem_nil, or_false] at hplan
  rcases hplan with rfl | rfl | rfl
  · exact Task.settles_of_callMethod .ok rfl (fun _ _ => (bind_pure _).symm) (hmember method)
  · refine Task.settles_of_callMethod Value.truth rfl (fun caching p => ?_) (hmember "__bool__")
    refine congrArg (callMethod p c "__bool__" args >>= ·) (funext fun v => ?_)
    cases v <;> rfl
  · exact Task.settles_of_callMethod (fun _ => .ok (args.getLast?.getD .nothing)) rfl
      (fun _ _ => rfl) (hmember "__setitem__")

/-- **Every call of a value settles**: it comes to the body of a function, to a finished instance,
or to an error, and on the way there is at most one nested call of a value more than there are
classes.  The value may be anything but a record, and there may be any arguments.  New instances and
methods of classes take one call less.  So no call goes on without end outside of the bodies of
functions. -/
theorem settles (hm : m.store.Built) :
    (∀ callee args, callee.RecordFree →
      Task.Settles (m.store.classes.size + 1) m (.callValue callee args) ∧
        Task.Lands m (.callValue callee args)) ∧
    (∀ c args, Task.Settles m.store.classes.size m (.instantiate c args)) ∧
    ∀ c method args, ∀ plan ∈ [Plan.callMethod c method, .truthMethod c, .storeMethod c],
      Task.Settles m.store.classes.size m (.execute plan args) := by
  refine ⟨fun callee args hcallee => ?_, fun c args => ?_, fun c method args => ?_⟩
  · have hsettles : Task.Settles (m.store.classes.size + 1) m (.callValue callee args) :=
      hm.settles_callValue_of_lt hcallee fun _ _ hlt => hlt
    exact ⟨hsettles, hsettles.lands⟩
  · exact Task.settles_instantiate fun v n all hn hget => hm.settles_member hn hget
  · exact hm.settles_method

/-- A store with a function, a class whose initialiser it is, and a class whose instances are called
by making instances of the first. -/
def twoClasses : Store :=
  let s := (({} : Store).makeFunction "start" none none (.expression (.const .nothing))).2
  let s := (s.makeClass "Inner" ⟨[("__init__", .function ⟨0, "start", none, none⟩)]⟩).2
  (s.makeClass "Outer" ⟨[("__call__", .object (.classObject ⟨0, "Inner", ["__init__"]⟩))]⟩).2

/-- The classes of the store were completed one after the other. -/
theorem built_twoClasses : twoClasses.Built := by
  have hstart : Built (({} : Store).makeFunction "start" none none
      (.expression (.const .nothing))).2 := .other .start rfl
  refine .build (.build hstart "Inner" ?_) "Outer" ?_
  · simp only [List.forall_mem_singleton]
    exact ⟨rfl, nofun⟩
  · simp only [List.forall_mem_singleton]
    refine ⟨rfl, ?_⟩
    rintro c ⟨⟩
    decide

/-- An instance of the second class is called: itself, the first class, and the function. -/
theorem settles_twoClasses :
    let m : Machine := { store := twoClasses, main := default }
    let callee : Value := .object (.classInstance 0 ⟨1, "Outer", ["__call__"]⟩)
    m.store.classes.size = 2 ∧ Task.Settles 3 m (.callValue callee [.int 5]) := by
  intro m callee
  have hm : m.store.Built := built_twoClasses
  exact ⟨rfl, (hm.settles.1 callee [.int 5] rfl).1⟩

example :
    let m : Machine := { store := twoClasses, main := default }
    let callee : Value := .object (.classInstance 0 ⟨1, "Outer", ["__call__"]⟩)
    ((run .kept 9 (.callValue callee [.int 5])).run.run m).1 =
      .ok (.object (.classInstance 0 ⟨0, "Inner", ["__init__"]⟩)) := by
  rfl

end Store.Built

end DynamicBinding
