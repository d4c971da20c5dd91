import DynamicBinding.Language.Bind
import DynamicBinding.Resolution.Fallback
/-!
# Resolution

From an operation and the arguments to a binding, in four steps: the two named operations with a
typed form become that form; the receiver's protocol is asked; then the language; then the
fallback.  There is always a binding.

The chain knows a language only by its step, so that what holds of the chain holds for every
language there could be.

A binding from the last two steps is narrowed so that it never applies to a receiver whose
protocol would bind.  For a builtin receiver it must rule out objects; for an object that
declined it must test what the refusal depended on.
-/

namespace DynamicBinding

/-- Narrows a binding that was made after the protocol step. -/
def Binding.pastProtocol (b : Binding) (declined : Option Guard) (args : List Value) : Binding :=
  match declined with
  | some guard => b.guardedBy guard
  | none =>
    if args.isEmpty || b.guard.excludesObjects 0 then b
    else b.guardedBy (Guard.always.plain 0)

/-- The operation with a name replaced by the typed form it redirects to. -/
def Operation.redirected (operation : Operation) (args : List Value) : Operation :=
  match operation with
  | .named op => (op.redirect? args.length).getD operation
  | _ => operation

/-- What a language contributes: its binding of an operation on arguments, if it has one. -/
abbrev LanguageStep := Operation → List Value → Option Binding

namespace LanguageStep

/-- The language's binding, or the fallback's. -/
def bindPastProtocol (step : LanguageStep) (operation : Operation) (args : List Value) :
    Binding :=
  match step operation args with
  | some binding => binding.withSource .language
  | none => Fallback.bind operation args

/-- The chain for an operation that needs no redirection. -/
def resolveTyped (step : LanguageStep) (operation : Operation) (args : List Value) : Binding :=
  match args with
  | .object o :: _ =>
    match o.bind operation args with
    | some binding => binding.withSource .protocol
    | none =>
      (step.bindPastProtocol operation args).pastProtocol (some (o.declineGuard args)) args
  | args => (step.bindPastProtocol operation args).pastProtocol none args

/-- The binding for the arguments.  An operator of the wrong arity is a failure for any arguments
of that number. -/
def resolve (step : LanguageStep) (operation : Operation) (args : List Value) : Binding :=
  match operation.arityMismatch? with
  | some mismatch =>
    (Binding.failure (.arity args.length) (.operatorArity mismatch)).withSource .fallback
  | none => step.resolveTyped (operation.redirected args) args

end LanguageStep

namespace Binder

/-- The step of the binder's language. -/
def languageStep (b : Binder) : LanguageStep :=
  fun operation args => (b.rebind operation).bindInLanguage args

/-- The binding for the arguments in the binder's language. -/
def resolve (b : Binder) (args : List Value) : Binding :=
  b.languageStep.resolve b.operation args

end Binder

end DynamicBinding
