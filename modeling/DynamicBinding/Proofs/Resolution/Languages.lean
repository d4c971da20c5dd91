import DynamicBinding.Proofs.Resolution.Stability
import Mathlib.Data.List.Basic
/-!
# The languages are stable

Each way in which a language binds looks at part of the arguments and pins what it looks at.

* `Steady` says that for one operation.  `TypeDriven` and `ReceiverDriven` are the two usual
  reasons for it: the types of all arguments, or the number of arguments and the type of the
  receiver.  Index assignment and the conversion of a function to a delegate have reasons of
  their own.
* `Binder.stable_languageStep` puts them together: the step of every binder is stable.
-/

namespace DynamicBinding

variable {operation : Operation} {f : List Value → Option Binding} {a b : List Value}

/-! ## One operation -/

/-- What a language does for an operation is settled by what its guards pin, and a refusal by the
types of the arguments. -/
structure Steady (operation : Operation) (f : List Value → Option Binding) : Prop where
  applies : ∀ {a β}, operation.Accepts a → f a = some β → β.guard.passes a = true
  bound : ∀ {a b β}, RecordFreeArgs a → RecordFreeArgs b → operation.Accepts a → f a = some β →
    β.guard.passes b = true → b.length = a.length ∧ f b = some β
  resolved : ∀ {a β}, f a = some β → β.plan.IsResolved
  declined : ∀ {a b}, RecordFreeArgs a → RecordFreeArgs b →
    b.map Value.runtimeType = a.map Value.runtimeType → f a = none → f b = none

/-- The types of all arguments settle the binding, and its guard pins them. -/
structure TypeDriven (f : List Value → Option Binding) : Prop where
  of_eq_some : ∀ {a β}, f a = some β → β.guard = .forArguments a ∧ β.plan.IsResolved
  congr : ∀ {a b}, RecordFreeArgs a → RecordFreeArgs b →
    b.map Value.runtimeType = a.map Value.runtimeType → f b = f a

/-- A guard that pins all types pins what settles the binding. -/
theorem TypeDriven.steady (h : TypeDriven f) : Steady operation f where
  applies _ hf := by
    rw [(h.of_eq_some hf).1, Guard.passes_forArguments]
  bound ha hb _ hf hp := by
    rw [(h.of_eq_some hf).1, Guard.passes_forArguments] at hp
    exact ⟨by simpa using congrArg List.length hp, (h.congr ha hb hp).trans hf⟩
  resolved hf := (h.of_eq_some hf).2
  declined ha hb htypes hf := (h.congr ha hb htypes).trans hf

/-- The number of arguments and the type of the receiver settle the binding, and its guard pins
these two. -/
structure ReceiverDriven (f : List Value → Option Binding) : Prop where
  nil : f [] = none
  of_eq_some : ∀ {v rest β}, f (v :: rest) = some β →
    β.guard = (Guard.arity (rest.length + 1)).classified 0 v ∧ β.plan.IsResolved
  congr : ∀ {v w rest tail}, w.runtimeType = v.runtimeType → tail.length = rest.length →
    f (w :: tail) = f (v :: rest)

/-- A guard that pins the number of arguments and the receiver pins what settles the binding. -/
theorem ReceiverDriven.steady (h : ReceiverDriven f) : Steady operation f where
  applies {a β} _ hf := by
    cases a with
    | nil => simp [h.nil] at hf
    | cons v rest =>
      rw [(h.of_eq_some hf).1]
      simp
  bound {a b β} _ _ _ hf hp := by
    cases a with
    | nil => simp [h.nil] at hf
    | cons v rest =>
      rw [(h.of_eq_some hf).1] at hp
      obtain ⟨hlen, w, tail, rfl, htype⟩ := Guard.passes_classified_head hp
      rw [Guard.passes_arity, beq_iff_eq] at hlen
      exact ⟨hlen, (h.congr htype (Nat.succ.inj hlen)).trans hf⟩
  resolved {a β} hf := by
    cases a with
    | nil => simp [h.nil] at hf
    | cons v rest => exact (h.of_eq_some hf).2
  declined {a b} _ _ htypes hf := by
    cases a with
    | nil =>
      rw [List.map_nil, List.map_eq_nil_iff] at htypes
      rw [htypes, h.nil]
    | cons v rest =>
      obtain ⟨w, tail, rfl, hw, htail⟩ := List.map_eq_cons_iff.1 htypes
      exact (h.congr hw (by simpa using congrArg List.length htail)).trans hf

/-- An operation that a language leaves alone. -/
theorem Steady.none : Steady operation fun _ => none where
  applies _ hf := by simp at hf
  bound _ _ _ hf := by simp at hf
  resolved hf := by simp at hf
  declined _ _ _ hf := hf

/-! ## The script language -/

namespace Script

/-- Argument lists of one type have one argument. -/
theorem exists_single {v : Value} (h : b.map Value.runtimeType = [v].map Value.runtimeType) :
    ∃ w, b = [w] ∧ w.runtimeType = v.runtimeType := by
  obtain ⟨w, tail, rfl, hw, htail⟩ := List.map_eq_cons_iff.1 h
  rw [List.map_eq_nil_iff.1 htail]
  exact ⟨w, rfl, hw⟩

/-- Argument lists of two types have two arguments. -/
theorem exists_pair {v v' : Value}
    (h : b.map Value.runtimeType = [v, v'].map Value.runtimeType) :
    ∃ w w', b = [w, w'] ∧ w.runtimeType = v.runtimeType ∧ w'.runtimeType = v'.runtimeType := by
  obtain ⟨w, tail, rfl, hw, htail⟩ := List.map_eq_cons_iff.1 h
  obtain ⟨w', rfl, hw'⟩ := exists_single htail
  exact ⟨w, w', rfl, hw, hw'⟩

/-- To have the same value on lists of the same types it is enough to keep each result. -/
theorem congr_of_imp (h : ∀ {a b β}, RecordFreeArgs a → RecordFreeArgs b →
      b.map Value.runtimeType = a.map Value.runtimeType → f a = some β → f b = some β)
    (ha : RecordFreeArgs a) (hb : RecordFreeArgs b)
    (htypes : b.map Value.runtimeType = a.map Value.runtimeType) : f b = f a := by
  apply Option.ext
  intro β
  exact ⟨h hb ha htypes.symm, h ha hb htypes⟩

/-- Calls are bound by the receiver. -/
theorem receiverDriven_bindInvoke : ReceiverDriven bindInvoke where
  nil := rfl
  of_eq_some {v rest β} h := by
    cases v with
    | function f =>
      cases h
      exact ⟨rfl, trivial⟩
    | _ => simp [bindInvoke] at h
  congr {v w rest tail} htype hlen := by
    have hkind := Value.kind_congr htype
    cases v <;> cases w <;> simp_all [bindInvoke, Value.kind]

/-- Methods of builtin values are bound by the receiver. -/
theorem receiverDriven_bindMethod (name : String) (ignoreCase : Bool) :
    ReceiverDriven (bindMethod name ignoreCase) where
  nil := rfl
  of_eq_some {v rest β} h := by
    have hguard : ∀ entry ∈ Method.table v.kind,
        (Guard.arity (rest.length + 1)).kind 0 v.kind =
          (Guard.arity (rest.length + 1)).classified 0 v := by
      intro entry hentry
      cases v <;> first | rfl | simp [Value.kind, Method.table] at hentry
    simp only [bindMethod, List.head?_cons, Option.bind_eq_bind, Option.bind_some,
      Option.bind_eq_some_iff] at h
    obtain ⟨entry, hentry, h⟩ := h
    have hmem := List.mem_of_find?_eq_some hentry
    split at h
    · cases h
      exact ⟨hguard entry hmem, trivial⟩
    · cases h
      exact ⟨hguard entry hmem, trivial⟩
  congr {v w rest tail} htype hlen := by
    simp only [bindMethod, List.head?_cons, Option.bind_eq_bind, Option.bind_some,
      Value.kind_congr htype, List.length_cons, hlen]

/-- Named operations are bound by the receiver. -/
theorem receiverDriven_bindNamed (binder : Binder) (operation : NamedOperation) :
    ReceiverDriven (bindNamed binder operation) where
  nil := by cases operation <;> rfl
  of_eq_some {v rest β} h := by
    cases operation with
    | other name =>
      cases h
      exact ⟨rfl, rfl⟩
    | _ => simp [bindNamed] at h
  congr {v w rest tail} htype hlen := by
    cases operation with
    | other name => simp only [bindNamed, List.length_cons, hlen, Guard.classified_congr _ 0 htype]
    | _ => rfl

/-- Indexing is bound by the types of receiver and index. -/
theorem typeDriven_bindGetIndex (count : Nat) : TypeDriven (bindGetIndex count) where
  of_eq_some {a β} h := by
    unfold bindGetIndex at h
    split at h
    · split at h
      · cases h
        exact ⟨rfl, trivial⟩
      · cases h
    · cases h
  congr := by
    refine congr_of_imp fun {a b β} _ _ htypes h => ?_
    have hargs := Guard.forArguments_congr htypes
    unfold bindGetIndex at h
    split at h
    · obtain ⟨w, w', rfl, hw, hw'⟩ := exists_pair htypes
      rw [← hargs] at h
      simpa only [bindGetIndex, Value.kind_congr hw,
        Value.isSome_asInt?_congr (Value.kind_congr hw')] using h
    · cases h

/-- Binary operators are bound by the types of both operands. -/
theorem typeDriven_bindBinary (binder : Binder) (operator : Operator) :
    TypeDriven (bindBinary binder operator) where
  of_eq_some {a β} h := by
    unfold bindBinary at h
    split at h
    · split at h
      · cases h
        exact ⟨rfl, rfl⟩
      · obtain ⟨i, -, rfl⟩ := Option.map_eq_some_iff.1 h
        exact ⟨rfl, trivial⟩
    · cases h
  congr := by
    refine congr_of_imp fun {a b β} _ _ htypes h => ?_
    have hargs := Guard.forArguments_congr htypes
    unfold bindBinary at h
    split at h
    · obtain ⟨w, w', rfl, hw, hw'⟩ := exists_pair htypes
      rw [← hargs] at h
      rw [← Guard.classified_congr _ 0 hw, ← Guard.classified_congr _ 1 hw'] at h
      simpa only [bindBinary, Value.kind_congr hw, Value.kind_congr hw',
        Value.isObject_congr hw'] using h
    · cases h

/-- Unary operators are bound by the type of the operand. -/
theorem typeDriven_bindUnary (binder : Binder) (operator : Operator) :
    TypeDriven (bindUnary binder operator) where
  of_eq_some {a β} h := by
    unfold bindUnary at h
    split at h
    · split at h
      · cases h
        exact ⟨rfl, rfl⟩
      · obtain ⟨i, -, rfl⟩ := Option.map_eq_some_iff.1 h
        exact ⟨rfl, trivial⟩
    · cases h
  congr := by
    refine congr_of_imp fun {a b β} _ _ htypes h => ?_
    have hargs := Guard.forArguments_congr htypes
    unfold bindUnary at h
    split at h
    · obtain ⟨w, rfl, hw⟩ := exists_single htypes
      rw [← hargs] at h
      simpa only [bindUnary, Value.kind_congr hw, Value.isObject_congr hw] using h
    · cases h

/-- Writing by an index is bound for a list and a whole number, and does not ask for the value. -/
theorem bindSetIndex_eq_some {count : Nat} {β : Binding} :
    bindSetIndex count a = some β ↔
      ∃ id index v, a = [.list id, index, v] ∧ count = 1 ∧ index.asInt?.isSome ∧
        β = { guard := ((Guard.arity 3).kind 0 .list).kind 1 index.kind, plan := .setItem } := by
  constructor
  · intro h
    unfold bindSetIndex at h
    split at h
    · next id index v =>
      split at h
      · next hindex =>
        rw [Bool.and_eq_true, decide_eq_true_eq] at hindex
        exact ⟨id, index, v, rfl, hindex.1, hindex.2, (Option.some.inj h).symm⟩
      · cases h
    · cases h
  · rintro ⟨id, index, v, rfl, rfl, hindex, rfl⟩
    simp [bindSetIndex, hindex]

/-- An index assignment pins the list and the kind of the index.  The value may be anything. -/
theorem steady_bindSetIndex (count : Nat) : Steady operation (bindSetIndex count) where
  applies _ h := by
    obtain ⟨id, index, v, rfl, -, -, rfl⟩ := bindSetIndex_eq_some.1 h
    simp [Value.kind]
  bound {a b β} _ _ _ h hp := by
    obtain ⟨id, index, v, rfl, hcount, hindex, rfl⟩ := bindSetIndex_eq_some.1 h
    simp only [Guard.passes_kind, Guard.passes_arity, Bool.and_eq_true, beq_iff_eq] at hp
    obtain ⟨⟨hlen, hlist⟩, hkind⟩ := hp
    obtain ⟨w, w', w'', rfl⟩ := List.length_eq_three.1 hlen
    simp only [List.getElem?_cons_zero, List.getElem?_cons_succ, Option.any_some,
      beq_iff_eq] at hlist hkind
    rw [← Value.isSome_asInt?_congr hkind] at hindex
    obtain ⟨id', rfl⟩ := Value.exists_list hlist
    exact ⟨rfl, bindSetIndex_eq_some.2 ⟨id', w', w'', rfl, hcount, hindex, by rw [hkind]⟩⟩
  resolved h := by
    obtain ⟨id, index, v, -, -, -, rfl⟩ := bindSetIndex_eq_some.1 h
    trivial
  declined {a b} _ _ htypes h := by
    -- were it bound for `b`, then also for `a`, which has the same kinds
    cases h' : bindSetIndex count b with
    | none => rfl
    | some β =>
      obtain ⟨id, index, v, rfl, hcount, hindex, -⟩ := bindSetIndex_eq_some.1 h'
      obtain ⟨w, tail, rfl, hw, htail⟩ := List.map_eq_cons_iff.1 htypes.symm
      obtain ⟨w', w'', rfl, hw', -⟩ := exists_pair htail
      obtain ⟨id', rfl⟩ := Value.exists_list (Value.kind_congr hw)
      rw [← Value.isSome_asInt?_congr (Value.kind_congr hw')] at hindex
      rw [bindSetIndex_eq_some.2 ⟨id', w', w'', rfl, hcount, hindex, rfl⟩] at h
      cases h

/-- A conversion to anything but a delegate looks at the kind. -/
theorem typeDriven_bindConvert (binder : Binder) {target : Target} (explicit : Bool)
    (hdelegate : ∀ signature, target ≠ .delegate signature) :
    TypeDriven (bindConvert binder target explicit) where
  of_eq_some {a β} h := by
    unfold bindConvert at h
    split at h
    · split at h
      · exact absurd rfl (hdelegate _)
      · split at h
        · cases h
          exact ⟨rfl, trivial⟩
        · obtain ⟨c, -, rfl⟩ := Option.map_eq_some_iff.1 h
          exact ⟨rfl, trivial⟩
    · cases h
  congr := by
    refine congr_of_imp fun {a b β} _ _ htypes h => ?_
    have hargs := Guard.forArguments_congr htypes
    unfold bindConvert at h
    split at h
    · obtain ⟨w, rfl, hw⟩ := exists_single htypes
      rw [← hargs, ← Value.kind_congr hw] at h
      cases target with
      | delegate signature => exact absurd rfl (hdelegate signature)
      | _ => exact h
    · cases h

/-- Whether a language takes a value for callable is settled by the type, records apart. -/
theorem isCallable_congr (l : Language) {v w : Value} (hv : v.RecordFree) (hw : w.RecordFree)
    (h : v.runtimeType = w.runtimeType) : l.isCallable v = l.isCallable w := by
  simp only [Language.isCallable, Value.isCallable_congr hv hw h, Value.kind_congr h]

/-- A conversion to a delegate pins a function itself and the type of all else. -/
theorem bindConvert_delegate_eq_some {binder : Binder} {signature : Signature} {explicit : Bool}
    {β : Binding} :
    bindConvert binder (.delegate signature) explicit a = some β ↔
      ∃ v, a = [v] ∧ binder.language.isCallable v = true ∧
        β =
          { guard :=
              if v.kind = .function then (Guard.arity 1).identity 0 v else .forArguments [v]
            plan := .delegate binder.language signature } := by
  have hsingle : ∀ v, bindConvert binder (.delegate signature) explicit [v] =
      if binder.language.isCallable v then
        some
          { guard :=
              if v.kind = .function then (Guard.arity 1).identity 0 v else .forArguments [v]
            plan := .delegate binder.language signature }
      else none := by
    intro v
    cases v <;> rfl
  constructor
  · intro h
    match a, h with
    | [v], h =>
      rw [hsingle] at h
      split at h
      · next hcall => exact ⟨v, rfl, hcall, (Option.some.inj h).symm⟩
      · cases h
  · rintro ⟨v, rfl, hcall, rfl⟩
    rw [hsingle, if_pos hcall]

/-- Conversions of functions are bound by the function, all others by the type. -/
theorem steady_bindConvert_delegate (binder : Binder) (signature : Signature) (explicit : Bool) :
    Steady operation (bindConvert binder (.delegate signature) explicit) where
  applies _ h := by
    obtain ⟨v, rfl, -, rfl⟩ := bindConvert_delegate_eq_some.1 h
    simp only
    split
    · simp
    · rw [Guard.passes_forArguments]
  bound {a b β} ha hb _ h hp := by
    obtain ⟨v, rfl, hcall, rfl⟩ := bindConvert_delegate_eq_some.1 h
    simp only at hp
    split at hp
    · rw [Guard.passes_identity, Guard.passes_arity, Bool.and_eq_true, beq_iff_eq] at hp
      obtain ⟨w, rfl⟩ := List.length_eq_one_iff.1 hp.1
      obtain rfl : w = v := by simpa using hp.2
      exact ⟨rfl, h⟩
    · rw [Guard.passes_forArguments] at hp
      obtain ⟨w, rfl, hw⟩ := exists_single hp
      refine ⟨rfl, bindConvert_delegate_eq_some.2 ⟨w, rfl, ?_, ?_⟩⟩
      · rwa [isCallable_congr _ hb.head ha.head hw]
      · have hkind := Value.kind_congr hw
        simp_all [Guard.forArguments_congr hp]
  resolved h := by
    obtain ⟨v, -, -, rfl⟩ := bindConvert_delegate_eq_some.1 h
    trivial
  declined {a b} ha hb htypes h := by
    cases h' : bindConvert binder (.delegate signature) explicit b with
    | none => rfl
    | some β =>
      obtain ⟨w, rfl, hcall, -⟩ := bindConvert_delegate_eq_some.1 h'
      obtain ⟨v, rfl, hv⟩ := exists_single htypes.symm
      rw [← isCallable_congr _ ha.head hb.head hv] at hcall
      rw [bindConvert_delegate_eq_some.2 ⟨v, rfl, hcall, rfl⟩] at h
      cases h

/-- Every operation is settled in the script language by what its guard pins. -/
theorem steady_bind (language : Language) (operation : Operation) :
    Steady operation (bind ⟨operation, language⟩) := by
  cases operation with
  | invoke n => exact receiverDriven_bindInvoke.steady
  | invokeMember name ignoreCase n => exact (receiverDriven_bindMethod name ignoreCase).steady
  | getMember | setMember | deleteMember | createInstance => exact Steady.none
  | convert target explicit =>
    by_cases hdelegate : ∃ signature, target = .delegate signature
    · obtain ⟨signature, rfl⟩ := hdelegate
      exact steady_bindConvert_delegate _ signature explicit
    · exact (typeDriven_bindConvert _ explicit fun s h => hdelegate ⟨s, h⟩).steady
  | unary operator => exact (typeDriven_bindUnary _ operator).steady
  | binary operator => exact (typeDriven_bindBinary _ operator).steady
  | getIndex n => exact (typeDriven_bindGetIndex n).steady
  | setIndex n => exact steady_bindSetIndex n
  | named name => exact (receiverDriven_bindNamed _ name).steady

/-- A call is declined for all that fail alike: no function is among the receivers. -/
theorem bindInvoke_of_passes {n : Nat} {v : Value} {rest : List Value}
    (h : bindInvoke (v :: rest) = none)
    (hp : (Fallback.bind (.invoke n) (v :: rest)).guard.passes b = true) : bindInvoke b = none := by
  rw [Fallback.guard_invoke_cons] at hp
  split at hp
  · obtain ⟨hlen, w, tail, rfl, htype⟩ := Guard.passes_classified_head hp
    rw [Guard.passes_arity, beq_iff_eq] at hlen
    rw [receiverDriven_bindInvoke.congr htype (Nat.succ.inj hlen), h]
  · rw [Guard.passes_notCallable, Bool.and_eq_true] at hp
    obtain ⟨w, tail, rfl, hw⟩ := Guard.exists_cons_of_any_head hp.2
    cases w <;> simp_all [bindInvoke, Value.isCallable]

/-- A conversion of a function to a delegate is declined for the number of arguments alone. -/
theorem bindConvert_function_of_passes {binder : Binder} {signature : Signature} {explicit : Bool}
    {f : FunctionRef} {rest : List Value}
    (h : bindConvert binder (.delegate signature) explicit (.function f :: rest) = none)
    (hp :
      (Fallback.bind (.convert (.delegate signature) explicit)
        (.function f :: rest)).guard.passes b = true) :
    bindConvert binder (.delegate signature) explicit b = none := by
  rw [Fallback.guard_convert_function] at hp
  obtain ⟨hlen, tail, rfl⟩ := Guard.passes_identity_head hp
  cases rest with
  | nil =>
    have hcall : binder.language.isCallable (.function f) = true := rfl
    rw [bindConvert_delegate_eq_some.2 ⟨_, rfl, hcall, rfl⟩] at h
    cases h
  | cons v rest =>
    cases tail with
    | nil => simp at hlen
    | cons w tail => rfl

/-- The script language's part in the chain, also where another language takes it over. -/
theorem stable (language : Language) :
    LanguageStep.Stable fun operation args => bind ⟨operation, language⟩ args where
  applies hacc h := (steady_bind language _).applies hacc h
  bound ha hb hacc h hp := (steady_bind language _).bound ha hb hacc h hp
  resolved h := (steady_bind language _).resolved h
  declined {operation a b} ha hb h hp := by
    obtain ⟨n, v, rest, rfl, rfl⟩ | ⟨signature, explicit, f, rest, rfl, rfl⟩ | ⟨hguard, -⟩ :=
      Fallback.bind_cases operation a
    · exact bindInvoke_of_passes h hp
    · exact bindConvert_function_of_passes h hp
    · rw [hguard, Guard.passes_forArguments] at hp
      exact (steady_bind language operation).declined ha hb hp h

end Script

/-! ## The other languages -/

namespace Loose

/-- The negation is bound whatever the operand is. -/
theorem bind_negate (args : List Value) :
    bind (.unary .negate) args = some { guard := .arity 1, plan := .negationText } :=
  rfl

/-- A text can be added to anything. -/
theorem bind_add_eq_some {β : Binding} :
    bind (.binary .add) a = some β ↔
      ∃ t r, a = [.str t, r] ∧
        β =
          { guard := ((Guard.arity 2).kind 0 .str).kind 1 r.kind
            plan := .joinedText } := by
  constructor
  · intro h
    match a, h with
    | [.str t, r], h => exact ⟨t, r, rfl, (Option.some.inj h).symm⟩
  · rintro ⟨t, r, rfl, rfl⟩
    rfl

/-- A negation is bound for any one argument. -/
theorem steady_negate : Steady (.unary .negate) (bind (.unary .negate)) where
  applies {a β} hacc h := by
    rw [bind_negate] at h
    cases h
    simpa using hacc 1 rfl
  bound {a b β} _ _ hacc h hp := by
    rw [bind_negate] at h
    cases h
    exact ⟨(by simpa using hp : b.length = 1).trans (hacc 1 rfl).symm, rfl⟩
  resolved h := by
    rw [bind_negate] at h
    cases h
    trivial
  declined _ _ _ h := by
    rw [bind_negate] at h
    cases h

/-- An addition to a text pins the kinds of both operands, and those only. -/
theorem steady_add : Steady (.binary .add) (bind (.binary .add)) where
  applies _ h := by
    obtain ⟨t, r, rfl, rfl⟩ := bind_add_eq_some.1 h
    simp [Value.kind]
  bound {a b β} _ _ _ h hp := by
    obtain ⟨t, r, rfl, rfl⟩ := bind_add_eq_some.1 h
    simp only [Guard.passes_kind, Guard.passes_arity, Bool.and_eq_true, beq_iff_eq] at hp
    obtain ⟨⟨hlen, hstr⟩, hkind⟩ := hp
    obtain ⟨w, w', rfl⟩ := List.length_eq_two.1 hlen
    simp only [List.getElem?_cons_zero, List.getElem?_cons_succ, Option.any_some,
      beq_iff_eq] at hstr hkind
    obtain ⟨t', rfl⟩ := Value.exists_str hstr
    exact ⟨rfl, bind_add_eq_some.2 ⟨t', w', rfl, by rw [hkind]⟩⟩
  resolved h := by
    obtain ⟨t, r, -, rfl⟩ := bind_add_eq_some.1 h
    trivial
  declined {a b} _ _ htypes h := by
    cases h' : bind (.binary .add) b with
    | none => rfl
    | some β =>
      obtain ⟨t, r, rfl, -⟩ := bind_add_eq_some.1 h'
      obtain ⟨w, w', rfl, hw, -⟩ := Script.exists_pair htypes.symm
      obtain ⟨t', rfl⟩ := Value.exists_str (Value.kind_congr hw)
      rw [bind_add_eq_some.2 ⟨t', w', rfl, rfl⟩] at h
      cases h

/-- The loose language leaves all other operations alone. -/
theorem steady_bind (operation : Operation) : Steady operation (bind operation) := by
  by_cases hnegate : operation = .unary .negate
  · subst hnegate
    exact steady_negate
  by_cases hadd : operation = .binary .add
  · subst hadd
    exact steady_add
  have hnone : bind operation = fun _ => none := by
    funext args
    unfold bind
    split
    · exact absurd rfl hnegate
    · exact absurd rfl hadd
    · rfl
  rw [hnone]
  exact Steady.none

/-- The loose language's part in the chain.  It never binds a call or a conversion. -/
theorem stable : LanguageStep.Stable bind where
  applies hacc h := (steady_bind _).applies hacc h
  bound ha hb hacc h hp := (steady_bind _).bound ha hb hacc h hp
  resolved h := (steady_bind _).resolved h
  declined {operation a b} ha hb h hp := by
    obtain ⟨n, v, rest, rfl, rfl⟩ | ⟨signature, explicit, f, rest, rfl, rfl⟩ | ⟨hguard, -⟩ :=
      Fallback.bind_cases operation a
    · rfl
    · rfl
    · rw [hguard, Guard.passes_forArguments] at hp
      exact (steady_bind operation).declined ha hb hp h

end Loose

/-- A language that binds nothing declines everything. -/
theorem LanguageStep.Stable.silent : LanguageStep.Stable fun _ _ => none where
  applies _ h := by simp at h
  bound _ _ _ h := by simp at h
  resolved h := by simp at h
  declined _ _ _ _ := rfl

/-- **Every language's bindings can be used for all that their guards let through**, and its
refusals hold for all that the fallback's guard lets through. -/
theorem Binder.stable_languageStep (binder : Binder) : binder.languageStep.Stable := by
  obtain ⟨operation, language⟩ := binder
  obtain ⟨id, kind, config⟩ := language
  cases kind with
  | script => exact Script.stable ⟨id, .script, config⟩
  | loud => exact Script.stable ⟨id, .loud, config⟩
  | loose => exact Loose.stable
  | silent => exact LanguageStep.Stable.silent

/-- A name without a typed form of its own is that of a method, which the plan calls. -/
theorem Script.plan_bindPastProtocol_named {l : Language} (hl : l.kind = .script) (name : String)
    (receiver : Value) (rest : List Value) :
    ((Binder.languageStep ⟨.named (.other name), l⟩).bindPastProtocol (.named (.other name))
      (receiver :: rest)).plan =
        .through ⟨.invokeMember name l.config.ignoreCaseMembers rest.length, l⟩ none .answer := by
  simp [LanguageStep.bindPastProtocol, Binder.languageStep, Binder.bindInLanguage, Binder.rebind, hl,
    Script.bind, Script.bindNamed, Binding.withSource]

/-! ## Binders -/

namespace Binder

variable {args : List Value}

/-- A binding fits the arguments it was made for. -/
theorem resolve_applies (binder : Binder) (hargs : RecordFreeArgs args)
    (hacc : binder.operation.Accepts args) : (binder.resolve args).applies args = true :=
  binder.stable_languageStep.resolve_applies hargs hacc

/-- What a guard lets through resolves to the same binding. -/
theorem resolve_eq (binder : Binder) (ha : RecordFreeArgs a) (hb : RecordFreeArgs b)
    (hacc : binder.operation.Accepts a) (hp : (binder.resolve a).guard.passes b = true) :
    b.length = a.length ∧ binder.resolve b = binder.resolve a :=
  binder.stable_languageStep.resolve_eq ha hb hacc hp

/-- No plan that is resolved has been given a site. -/
theorem isResolved_resolve (binder : Binder) (hargs : RecordFreeArgs args) :
    (binder.resolve args).plan.IsResolved :=
  binder.stable_languageStep.isResolved_resolve binder.operation hargs

end Binder

end DynamicBinding
