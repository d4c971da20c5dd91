import DynamicBinding.Proofs.Machine.Stages
import DynamicBinding.Proofs.Script.Lists
/-!
# The script language on builtin operands

Where no operand is an object and no function is called, the script language itself answers every
operation.  An operation is then one of those on lists, or it only makes things.

* `Exec.Performs` says of a computation that it is that operation, or that it only makes things if
  there is none.
* `Binder.OnBuiltins.performs`: every operation of the script language on builtin operands that calls
  no function does so, whatever its name, its number of arguments, or the way it fails.
-/

namespace DynamicBinding

open Exec

/-! ## Computations -/

/-- The computation performs the operation on the list in the cell; it only makes things if there is
no such operation.  It changes no variable. -/
def Exec.Performs (asked : Option (Nat × ListAction)) (x : Exec Value) : Prop :=
  match asked with
  | some (id, action) =>
    ∀ n : Machine, action.Runs id n.store (x.run.run n).1 (x.run.run n).2.store ∧
      (x.run.run n).2.globals = n.globals
  | none => x.OnlyMakes

/-- What is performed on the store is performed on the machine. -/
theorem Exec.Performs.onStore {id : Nat} {action : ListAction} {x : Effect Value}
    (h : ∀ s : Store, action.Runs id s (x.run.run s).1 (x.run.run s).2) :
    (onStore x).Performs (some (id, action)) :=
  fun n => ⟨h n.store, rfl⟩

/-- Whether there is a list operation or not, no variable changes. -/
theorem Exec.Performs.globals {asked : Option (Nat × ListAction)} {x : Exec Value}
    (h : x.Performs asked) (n : Machine) : (x.run.run n).2.globals = n.globals := by
  cases asked with
  | some operation => exact (h n).2
  | none => exact (h n _ n.closed_true.store).2

/-- The plan performs the operation on the list, or only makes things, whoever performs what is
inside it. -/
def Plan.Performs (plan : Plan) (args : List Value) (asked : Option (Nat × ListAction)) : Prop :=
  ∀ p : Perform, (execute p plan args).Performs asked

/-- A plan that only makes things performs no list operation. -/
theorem Plan.OnlyMakes.performs {plan : Plan} (h : plan.OnlyMakes) (args : List Value) :
    plan.Performs args none := fun p => h.execute p args

/-! ## Bindings -/

namespace Fallback

/-- What nothing supports only fails, and a value that needs no conversion is given back. -/
theorem onlyMakes_bind (operation : Operation) (args : List Value) :
    (bind operation args).plan.OnlyMakes := by
  cases operation with
  | invoke count =>
    cases args with
    | nil => exact .fail _
    | cons v rest =>
      simp only [bind, notCallable, Binding.withSource]
      split <;> exact .notCallable
  | convert target explicit =>
    cases args with
    | nil => exact .fail _
    | cons v rest =>
      simp only [bind, convert, Binding.withSource]
      by_cases haccepts : target.accepts v = true
      · rw [if_pos haccepts]
        exact .receiver
      · rw [if_neg haccepts]
        exact .fail _
  | _ => exact .fail _

end Fallback

/-- The plan of the binding, if there is one, does what is asked for.  Where there is none, nothing
is asked for. -/
def Serves (bound : Option Binding) (args : List Value) (asked : Option (Nat × ListAction)) :
    Prop :=
  match bound with
  | some β => β.plan.Performs args asked
  | none => asked = none

namespace Script

variable {binder : Binder} {args rest : List Value} {receiver : Value} {id count : Nat}

/-- A binding whose plan only makes things serves what is no operation on a list. -/
theorem serves_onlyMakes {bound : Option Binding} (h : ∀ β ∈ bound, β.plan.OnlyMakes)
    (args : List Value) : Serves bound args none := by
  cases bound with
  | none => rfl
  | some β => exact (h β rfl).performs args

/-! ### Methods -/

/-- The methods of lists, in the order in which their names are tried. -/
theorem find?_table_list (name : String) (ignoreCase : Bool) :
    (Method.table .list).find? (fun entry => Text.namesMatch name entry.1 ignoreCase) =
      if Text.namesMatch name "append" ignoreCase then some ("append", .append)
      else if Text.namesMatch name "pop" ignoreCase then some ("pop", .pop)
      else if Text.namesMatch name "len" ignoreCase then some ("len", .length)
      else none := by
  simp only [Method.table, List.find?_cons, List.find?_nil]
  cases Text.namesMatch name "append" ignoreCase <;>
    cases Text.namesMatch name "pop" ignoreCase <;>
      cases Text.namesMatch name "len" ignoreCase <;> rfl

/-- Only lists have methods that write. -/
theorem writes_of_mem_table {entry : String × Method} {k : Kind} (h : entry ∈ Method.table k)
    (hk : k ≠ .list) : entry.2.writes = false := by
  cases k with
  | list => exact (hk rfl).elim
  | str =>
    simp only [Method.table, List.mem_cons, List.not_mem_nil, or_false] at h
    rcases h with rfl | rfl | rfl <;> rfl
  | _ => cases h

/-- The plan of the method that was found under a name. -/
theorem bindMethod_cons (receiver : Value) (rest : List Value) {name : String}
    {ignoreCase : Bool} {entry : String × Method}
    (h : (Method.table receiver.kind).find? (fun entry => Text.namesMatch name entry.1 ignoreCase) =
      some entry) :
    ∃ guard, bindMethod name ignoreCase (receiver :: rest) =
      some (if rest.length = entry.2.argumentCount then
        { guard := guard, plan := .builtinMethod entry.2 }
      else .failure guard (.argumentCount entry.2.argumentCount rest.length)) := by
  refine ⟨(Guard.arity (rest.length + 1)).kind 0 receiver.kind, ?_⟩
  simp only [bindMethod, List.head?_cons, Option.bind_eq_bind, Option.bind_some, h,
    List.length_cons, Nat.add_sub_cancel]
  split <;> rfl

/-- Without a method of that name nothing is bound. -/
theorem bindMethod_eq_none (receiver : Value) (rest : List Value) {name : String}
    {ignoreCase : Bool}
    (h : (Method.table receiver.kind).find? (fun entry => Text.namesMatch name entry.1 ignoreCase) =
      none) :
    bindMethod name ignoreCase (receiver :: rest) = none := by
  simp only [bindMethod, List.head?_cons, Option.bind_eq_bind, Option.bind_some, h,
    Option.bind_none]

/-- A method of a list with the wrong number of arguments fails, and with the right number it
performs the operation. -/
theorem serves_bindMethod_list (name : String) (ignoreCase : Bool) (id : Nat) (rest : List Value) :
    Serves (bindMethod name ignoreCase (.list id :: rest)) (.list id :: rest)
      ((ListAction.method? name ignoreCase rest).map fun action => (id, action)) := by
  have hfail : ∀ (guard : Guard) (e : RuntimeError),
      (Binding.failure guard e).plan.Performs (.list id :: rest) none :=
    fun _ _ => (Plan.OnlyMakes.fail _).performs _
  have hfind := find?_table_list name ignoreCase
  unfold ListAction.method?
  by_cases happend : Text.namesMatch name "append" ignoreCase = true
  · rw [if_pos happend] at hfind ⊢
    obtain ⟨guard, hbound⟩ := bindMethod_cons (.list id) rest hfind
    rw [hbound]
    rcases rest with _ | ⟨v, _ | ⟨w, rest⟩⟩
    · exact hfail _ _
    · exact fun p => .onStore fun s => append_runs
    · exact hfail _ _
  rw [if_neg happend] at hfind ⊢
  by_cases hpop : Text.namesMatch name "pop" ignoreCase = true
  · rw [if_pos hpop] at hfind ⊢
    obtain ⟨guard, hbound⟩ := bindMethod_cons (.list id) rest hfind
    rw [hbound]
    cases rest with
    | nil => exact fun p => .onStore fun s => pop_runs []
    | cons v rest => exact hfail _ _
  rw [if_neg hpop] at hfind ⊢
  by_cases hlen : Text.namesMatch name "len" ignoreCase = true
  · rw [if_pos hlen] at hfind ⊢
    obtain ⟨guard, hbound⟩ := bindMethod_cons (.list id) rest hfind
    rw [hbound]
    cases rest with
    | nil => exact fun p => .onStore fun s => length_runs []
    | cons v rest => exact hfail _ _
  rw [if_neg hlen] at hfind ⊢
  rw [bindMethod_eq_none (.list id) rest hfind]
  rfl

/-- The methods of other values only make things. -/
theorem onlyMakes_bindMethod {name : String} {ignoreCase : Bool} {β : Binding}
    (h : receiver.kind ≠ .list) (hβ : bindMethod name ignoreCase (receiver :: rest) = some β) :
    β.plan.OnlyMakes := by
  cases hfind : (Method.table receiver.kind).find? fun entry =>
      Text.namesMatch name entry.1 ignoreCase with
  | none =>
    rw [bindMethod_eq_none receiver rest hfind] at hβ
    cases hβ
  | some entry =>
    obtain ⟨guard, hbound⟩ := bindMethod_cons receiver rest hfind
    rw [hbound] at hβ
    cases hβ
    split
    · exact .builtinMethod (writes_of_mem_table (List.mem_of_find?_eq_some hfind) h)
    · exact .fail _

/-! ### Indexes -/

/-- What counts as a whole number is an index. -/
theorem lift_indexOf {index : Value} {i : Int64} (h : index.asInt? = some i) :
    Exec.lift (indexOf index) = pure i.toInt := by
  simp only [indexOf, h, Exec.lift]

/-- A list is read by one index; what else is bound for an item writes nothing. -/
theorem serves_bindGetIndex_list (count id : Nat) (rest : List Value) :
    Serves (bindGetIndex count (.list id :: rest)) (.list id :: rest)
      ((if count = 1 then ListAction.read? rest else none).map fun action => (id, action)) := by
  rcases rest with _ | ⟨index, _ | ⟨v, rest⟩⟩
  · simp [Serves, bindGetIndex, ListAction.read?]
  · by_cases hcount : count = 1
    · rw [if_pos hcount]
      cases hindex : index.asInt? with
      | none => simp [Serves, bindGetIndex, ListAction.read?, hindex]
      | some i =>
        simp only [bindGetIndex, ListAction.read?, hindex, hcount]
        intro p
        simp only [execute, onTwo, lift_indexOf hindex, pure_bind]
        exact .onStore fun s => getItem_runs
    · simp [Serves, bindGetIndex, hcount]
  · simp [Serves, bindGetIndex, ListAction.read?]

/-- A list with one index and a value is written. -/
theorem serves_bindSetIndex_list (count id : Nat) (rest : List Value) :
    Serves (bindSetIndex count (.list id :: rest)) (.list id :: rest)
      ((if count = 1 then ListAction.write? rest else none).map fun action => (id, action)) := by
  rcases rest with _ | ⟨index, _ | ⟨v, _ | ⟨w, rest⟩⟩⟩
  · simp [Serves, bindSetIndex, ListAction.write?]
  · simp [Serves, bindSetIndex, ListAction.write?]
  · by_cases hcount : count = 1
    · rw [if_pos hcount]
      cases hindex : index.asInt? with
      | none => simp [Serves, bindSetIndex, ListAction.write?, hindex]
      | some i =>
        simp only [bindSetIndex, ListAction.write?, hindex, hcount]
        intro p
        simp only [execute, lift_indexOf hindex, pure_bind]
        exact .onStore fun s => setItem_runs
    · simp [Serves, bindSetIndex, hcount]
  · simp [Serves, bindSetIndex, ListAction.write?]

/-- Reading by an index only makes things. -/
theorem onlyMakes_bindGetIndex {β : Binding} (hβ : bindGetIndex count args = some β) :
    β.plan.OnlyMakes := by
  unfold bindGetIndex at hβ
  split at hβ
  · split at hβ <;> cases hβ
    exact .getItem
  · cases hβ

/-- Only lists can be written by an index. -/
theorem bindSetIndex_eq_none (h : receiver.kind ≠ .list) :
    bindSetIndex count (receiver :: rest) = none := by
  unfold bindSetIndex
  split
  · next heq =>
    cases heq
    exact (h rfl).elim
  · rfl

/-! ### Operators and conversions -/

/-- The operators with one builtin operand only make things. -/
theorem onlyMakes_bindUnary {operator : Operator} {β : Binding}
    (hargs : ∀ v ∈ args, v.isObject = false) (hβ : bindUnary binder operator args = some β) :
    β.plan.OnlyMakes := by
  unfold bindUnary at hβ
  split at hβ
  · next v =>
    rw [hargs v List.mem_cons_self, Bool.and_false, if_neg Bool.false_ne_true] at hβ
    obtain ⟨i, -, rfl⟩ := Option.map_eq_some_iff.1 hβ
    exact .unary i
  · cases hβ

/-- The operators with two builtin operands only make things. -/
theorem onlyMakes_bindBinary {operator : Operator} {β : Binding}
    (hargs : ∀ v ∈ args, v.isObject = false) (hβ : bindBinary binder operator args = some β) :
    β.plan.OnlyMakes := by
  unfold bindBinary at hβ
  split at hβ
  · next l r =>
    rw [hargs r (by simp), Bool.and_false, if_neg Bool.false_ne_true] at hβ
    obtain ⟨i, -, rfl⟩ := Option.map_eq_some_iff.1 hβ
    exact .binary i operator
  · cases hβ

/-- The conversions of the language only make things. -/
theorem onlyMakes_bindConvert {target : Target} {explicit : Bool} {β : Binding}
    (hβ : bindConvert binder target explicit args = some β) : β.plan.OnlyMakes := by
  unfold bindConvert at hβ
  split at hβ
  · split at hβ
    · split at hβ <;> cases hβ
      exact .delegate _ _
    · split at hβ
      · cases hβ
        exact .format _
      · obtain ⟨c, -, rfl⟩ := Option.map_eq_some_iff.1 hβ
        exact .convert c
  · cases hβ

/-! ### All operations -/

/-- Without a list in front, nothing but making is done. -/
theorem onlyMakes_bind {β : Binding} (hargs : ∀ v ∈ args, v.isObject = false)
    (hlist : ∀ v ∈ args.head?, v.kind ≠ .list)
    (hcall : binder.operation.category = .invoke → ∀ v ∈ args.head?, v.kind ≠ .function)
    (hnamed : ∀ name, binder.operation ≠ .named (.other name))
    (hβ : bind binder args = some β) : β.plan.OnlyMakes := by
  unfold bind at hβ
  split at hβ
  · next hop =>
    unfold bindInvoke at hβ
    split at hβ
    · exact (hcall (by rw [hop]; rfl) _ rfl rfl).elim
    · cases hβ
  · cases args with
    | nil => cases hβ
    | cons receiver rest => exact onlyMakes_bindMethod (hlist receiver rfl) hβ
  · cases hβ
  · cases hβ
  · cases hβ
  · cases hβ
  · exact onlyMakes_bindConvert hβ
  · exact onlyMakes_bindUnary hargs hβ
  · exact onlyMakes_bindBinary hargs hβ
  · exact onlyMakes_bindGetIndex hβ
  · cases args with
    | nil => cases hβ
    | cons receiver rest =>
      rw [bindSetIndex_eq_none (hlist receiver rfl)] at hβ
      cases hβ
  · next op hop =>
    cases op with
    | other name => exact (hnamed name hop).elim
    | _ => cases hβ

/-- The number of indexes says nothing that the operands do not say. -/
theorem if_read? (rest : List Value) :
    (if rest.length = 1 then ListAction.read? rest else none) = ListAction.read? rest := by
  rcases rest with _ | ⟨index, _ | ⟨v, rest⟩⟩ <;> simp [ListAction.read?]

/-- A write asks for the number of its arguments itself, so the check of the count adds nothing. -/
theorem if_write? (rest : List Value) :
    (if rest.length - 1 = 1 then ListAction.write? rest else none) = ListAction.write? rest := by
  rcases rest with _ | ⟨index, _ | ⟨v, _ | ⟨w, rest⟩⟩⟩ <;> simp [ListAction.write?]

/-- With a list in front and only builtin values after it, what is bound does what is asked for. -/
theorem serves_bind_list (hrest : ∀ v ∈ rest, v.isObject = false)
    (hnamed : ∀ name, binder.operation ≠ .named (.other name))
    (haccepts : binder.operation.Accepts (.list id :: rest)) :
    Serves
      (bind (binder.rebind (binder.operation.redirected (.list id :: rest))) (.list id :: rest))
      (.list id :: rest) (ListAction.of? binder (.list id :: rest)) := by
  have hargs : ∀ v ∈ Value.list id :: rest, v.isObject = false := by
    simpa [Value.isObject] using hrest
  obtain ⟨operation, language⟩ := binder
  cases operation with
  | invokeMember name ignoreCase count =>
    have hcount : rest.length = count := Nat.succ.inj (haccepts _ rfl)
    have hasked : ListAction.of? ⟨.invokeMember name ignoreCase count, language⟩
        (.list id :: rest) = (ListAction.method? name ignoreCase rest).map fun action =>
          (id, action) := by
      simp only [ListAction.of?, ListAction.ofList?, if_pos hcount]
    rw [hasked]
    exact serves_bindMethod_list name ignoreCase id rest
  | getIndex count => exact serves_bindGetIndex_list count id rest
  | setIndex count => exact serves_bindSetIndex_list count id rest
  | named op =>
    cases op with
    | getItem =>
      have hserves := serves_bindGetIndex_list rest.length id rest
      rwa [if_read?] at hserves
    | setItem =>
      cases rest with
      | nil => rfl
      | cons index rest =>
        have hserves := serves_bindSetIndex_list ((index :: rest).length - 1) id (index :: rest)
        rwa [if_write?] at hserves
    | other name => exact (hnamed name rfl).elim
  | invoke count => rfl
  | convert target explicit => exact serves_onlyMakes (fun β hβ => onlyMakes_bindConvert hβ) _
  | unary operator => exact serves_onlyMakes (fun β hβ => onlyMakes_bindUnary hargs hβ) _
  | binary operator => exact serves_onlyMakes (fun β hβ => onlyMakes_bindBinary hargs hβ) _
  | _ => rfl

end Script

/-! ## Operations -/

/-- A named operation stays what it is, or becomes one with an index. -/
theorem Operation.redirected_cases (operation : Operation) (args : List Value) :
    operation.redirected args = operation ∨
      ∃ count, operation.redirected args = .getIndex count ∨
        operation.redirected args = .setIndex count := by
  cases operation with
  | named op =>
    cases op with
    | getItem =>
      simp only [redirected, NamedOperation.redirect?]
      split
      · exact .inr ⟨_, .inl rfl⟩
      · exact .inl rfl
    | setItem =>
      simp only [redirected, NamedOperation.redirect?]
      split
      · exact .inr ⟨_, .inr rfl⟩
      · exact .inl rfl
    | other name => exact .inl rfl
  | _ => exact .inl rfl

namespace LanguageStep

variable {step : LanguageStep} {operation : Operation} {args : List Value}
  {asked : Option (Nat × ListAction)}

/-- Builtin values have no protocol to be asked. -/
theorem plan_resolveTyped (step : LanguageStep) (operation : Operation)
    (hargs : ∀ v ∈ args, v.isObject = false) :
    (step.resolveTyped operation args).plan = (step.bindPastProtocol operation args).plan := by
  apply plan_resolveTyped_of_decline
  rintro o rest rfl
  have hobject := hargs (.object o) List.mem_cons_self
  cases hobject

/-- What serves in the language is what is performed past the protocol. -/
theorem performs_bindPastProtocol (h : Serves (step operation args) args asked) :
    (step.bindPastProtocol operation args).plan.Performs args asked := by
  unfold bindPastProtocol
  cases hstep : step operation args with
  | some β =>
    rw [hstep] at h
    exact h
  | none =>
    rw [hstep] at h
    obtain rfl : asked = none := h
    exact (Fallback.onlyMakes_bind operation args).performs args

end LanguageStep

/-- An operation of the script language all of whose operands are builtin values, and which is no
call of a function. -/
structure Binder.OnBuiltins (binder : Binder) (args : List Value) : Prop where
  script : binder.language.kind = .script
  builtin : ∀ v ∈ args, v.isObject = false
  uncalled : binder.operation.category = .invoke → ∀ v ∈ args.head?, v.kind ≠ .function

namespace Binder.OnBuiltins

variable {binder : Binder} {args : List Value} (h : binder.OnBuiltins args)

instance : Decidable (binder.OnBuiltins args) :=
  decidable_of_iff (binder.language.kind = .script ∧ (∀ v ∈ args, v.isObject = false) ∧
      (binder.operation.category = .invoke → ∀ v ∈ args.head?, v.kind ≠ .function))
    ⟨fun ⟨script, builtin, uncalled⟩ => ⟨script, builtin, uncalled⟩,
      fun ⟨script, builtin, uncalled⟩ => ⟨script, builtin, uncalled⟩⟩

include h

/-- The language serves what is asked for, unless the operation is another name for a method
call. -/
theorem serves (hnamed : ∀ name, binder.operation ≠ .named (.other name))
    (haccepts : binder.operation.Accepts args) :
    Serves (binder.languageStep (binder.operation.redirected args) args) args
      (ListAction.of? binder args) := by
  have hstep : binder.languageStep (binder.operation.redirected args) args =
      Script.bind (binder.rebind (binder.operation.redirected args)) args := by
    simp only [languageStep, bindInLanguage, rebind, h.script]
  rw [hstep]
  by_cases hlist : ∃ id rest, args = .list id :: rest
  · obtain ⟨id, rest, rfl⟩ := hlist
    exact Script.serves_bind_list (fun v hv => h.builtin v (List.mem_cons_of_mem _ hv)) hnamed
      haccepts
  · have hhead : ∀ v ∈ args.head?, v.kind ≠ .list := by
      intro v hv hkind
      obtain ⟨rest, rfl⟩ := List.head?_eq_some_iff.1 hv
      cases v with
      | list id => exact hlist ⟨id, rest, rfl⟩
      | _ => cases hkind
    have hnone : ListAction.of? binder args = none := by
      cases args with
      | nil => rfl
      | cons receiver rest => exact ListAction.of?_eq_none_of_kind (hhead receiver rfl)
    rw [hnone]
    -- the other form of a named operation is no call, and no other name
    have hcall : (binder.operation.redirected args).category = .invoke →
        ∀ v ∈ args.head?, v.kind ≠ .function := by
      rcases binder.operation.redirected_cases args with hsame | ⟨count, hget | hset⟩
      · rw [hsame]
        exact h.uncalled
      · rw [hget]
        exact fun h => by cases h
      · rw [hset]
        exact fun h => by cases h
    have hother : ∀ name, binder.operation.redirected args ≠ .named (.other name) := by
      rcases binder.operation.redirected_cases args with hsame | ⟨count, hget | hset⟩
      · rwa [hsame]
      · rw [hget]
        exact fun name h => by cases h
      · rw [hset]
        exact fun name h => by cases h
    exact Script.serves_onlyMakes
      (fun β hβ => Script.onlyMakes_bind h.builtin hhead hcall hother hβ) args

/-- What the operation is resolved to does what is asked for. -/
theorem performs_resolve (hnamed : ∀ name, binder.operation ≠ .named (.other name))
    (haccepts : binder.operation.Accepts args) :
    (binder.resolve args).plan.Performs args (ListAction.of? binder args) := by
  unfold resolve LanguageStep.resolve
  split
  · next mismatch hmismatch =>
    rw [ListAction.of?_eq_none_of_arityMismatch hmismatch]
    exact Plan.OnlyMakes.performs (.fail _) args
  · rw [LanguageStep.plan_resolveTyped _ _ h.builtin]
    exact LanguageStep.performs_bindPastProtocol (h.serves hnamed haccepts)

/-- A typed operation is one step away from its plan. -/
theorem performs_typed (hnamed : ∀ name, binder.operation ≠ .named (.other name)) (depth : Nat) :
    (run .fresh (depth + 2) (.invoke binder none args)).Performs (ListAction.of? binder args) := by
  have hanswer : binder.operation.Accepts args →
      (execute (run .fresh depth) (binder.resolve args).plan args).Performs
        (ListAction.of? binder args) :=
    fun haccepts => h.performs_resolve hnamed haccepts _
  show (invoke .fresh (run .fresh (depth + 1)) binder none args).Performs _
  unfold invoke
  split
  · next expected hexpected =>
    by_cases hlen : args.length = expected
    · rw [if_neg (not_not_intro hlen)]
      refine hanswer fun n hn => ?_
      rw [hexpected] at hn
      rw [hlen, Option.some.inj hn]
    · rw [if_pos hlen, ListAction.of?_eq_none_of_arity hexpected hlen]
      exact Exec.OnlyMakes.fail _
  · next hnone =>
    refine hanswer fun n hn => ?_
    rw [hnone] at hn
    cases hn

/-- Under another name, a method call is performed in an operation of its own. -/
theorem performs_named {name : String} (hname : binder.operation = .named (.other name))
    (depth : Nat) :
    (run .fresh (depth + 4) (.invoke binder none args)).Performs (ListAction.of? binder args) := by
  obtain ⟨operation, language⟩ := binder
  cases hname
  have hscript : language.kind = .script := h.script
  have hrun : run .fresh (depth + 4) (.invoke ⟨.named (.other name), language⟩ none args) =
      execute (run .fresh (depth + 2)) (resolve ⟨.named (.other name), language⟩ args).plan args :=
    rfl
  have hplan : (resolve ⟨.named (.other name), language⟩ args).plan =
      ((languageStep ⟨.named (.other name), language⟩).bindPastProtocol (.named (.other name))
        args).plan := LanguageStep.plan_resolveTyped _ _ h.builtin
  rw [hrun, hplan]
  cases args with
  | nil =>
    have hserves : Serves
        (languageStep ⟨.named (.other name), language⟩ (.named (.other name)) []) [] none := by
      simp [Serves, languageStep, bindInLanguage, rebind, hscript, Script.bind, Script.bindNamed]
    exact LanguageStep.performs_bindPastProtocol hserves _
  | cons receiver rest =>
    have hinner : OnBuiltins ⟨.invokeMember name language.config.ignoreCaseMembers rest.length,
        language⟩ (receiver :: rest) := ⟨hscript, h.builtin, fun h => by cases h⟩
    have hperforms := hinner.performs_typed (fun name h => by cases h) depth
    have hasked : ListAction.of? ⟨.named (.other name), language⟩ (receiver :: rest) =
        ListAction.of? ⟨.invokeMember name language.config.ignoreCaseMembers rest.length,
          language⟩ (receiver :: rest) := by
      cases receiver <;> simp [ListAction.of?, ListAction.ofList?]
    rw [Script.plan_bindPastProtocol_named hscript, hasked]
    exact hperforms

/-- **The script language on builtin operands.**  An operation is one of those on lists, or it only
makes things. -/
theorem performs (depth : Nat) :
    (run .fresh (depth + 4) (.invoke binder none args)).Performs (ListAction.of? binder args) := by
  by_cases hother : ∃ name, binder.operation = .named (.other name)
  · obtain ⟨name, hname⟩ := hother
    exact h.performs_named hname depth
  · exact h.performs_typed (fun name hname => hother ⟨name, hname⟩) (depth + 2)

end Binder.OnBuiltins

end DynamicBinding
