import DynamicBinding.Machine.Basic
/-!
# Delegates

A delegate is a function with a fixed calling convention around a value that can be called.  A
call checks the number of arguments, fits each argument to its parameter, calls the value, and
fits the answer to the result.  All delegates of one language and number of parameters call
through one shared site.
-/

namespace DynamicBinding

namespace Signature

/-- Fits the arguments to the parameters from left to right. -/
def coerceAll : List Shape → List Value → Except RuntimeError (List Value)
  | shape :: shapes, v :: vs => do
    let v ← shape.coerce v
    let vs ← coerceAll shapes vs
    pure (v :: vs)
  | _, _ => .ok []

/-- Calls the target through `invoke` under the signature. -/
def call (s : Signature) (invoke : List Value → Exec Value) (target : Value)
    (args : List Value) : Exec Value := do
  if args.length ≠ s.params.length then
    Exec.fail (.signatureMismatch s ("call with " ++ toString args.length ++ " arguments"))
  else
    let coerced ← Exec.lift (coerceAll s.params args)
    let answer ← invoke (target :: coerced)
    Exec.lift (s.result.coerce answer)

end Signature

namespace Language

/-- The binder of the calls that delegates of a signature make. -/
def delegateBinder (l : Language) (s : Signature) : Binder :=
  ⟨.invoke s.params.length, l⟩

/-- Why a value cannot become a delegate of a signature.  A function must not have another
signature, nor insist on another number of arguments; other values must be callable. -/
def delegateRefusal? (l : Language) (v : Value) (s : Signature) : Option RuntimeError :=
  match v with
  | .function f =>
    match f.signature, f.arity with
    | some existing, _ =>
      if existing = s then none
      else some (.signatureMismatch s ("delegate " ++ existing.text))
    | none, some n =>
      if n = s.params.length then none
      else
        some (.signatureMismatch s
          ("function '" ++ f.name ++ "' taking " ++ toString n ++ " arguments"))
    | none, none => none
  | v => if l.isCallable v then none else some (.notCallableValue v)

/-- The name of the delegate around a value. -/
def delegateName : Value → String
  | .function f => "delegate " ++ f.name
  | v => "delegate " ++ v.typeName

/-- Turns a value into a delegate.  A function that has the signature already stays as it is. -/
def delegate (l : Language) (v : Value) (s : Signature) : Exec Value := do
  match l.delegateRefusal? v s with
  | some e => Exec.fail e
  | none =>
    if (Target.delegate s).accepts v then pure v
    else
      let _ ← modifyGet (·.stub s)
      let _ ← modifyGet (·.sharedSite (l.delegateBinder s))
      let f ← Exec.onStore
        (modifyGet (·.makeFunction (delegateName v) none (some s) (.delegate l s v)))
      pure (.function f)

end Language

end DynamicBinding
