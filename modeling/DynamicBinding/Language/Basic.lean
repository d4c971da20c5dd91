import DynamicBinding.Config
import DynamicBinding.Value.Basic
/-!
# Languages and binders

A language takes part in resolution with its own step, notion of callable value and text of
values.  A binder is an operation in a language; call sites shared by many users are found by
their binder.
-/

namespace DynamicBinding

/-- The ways in which a language can take part in binding. -/
inductive LanguageKind where
  /-- The script language, which covers the builtin kinds. -/
  | script
  /-- Leaves everything to the defaults. -/
  | silent
  /-- Binds the negation of anything and additions to a text, without looking at more. -/
  | loose
  /-- The script language with texts callable and the text of values set in marks. -/
  | loud
deriving DecidableEq, Inhabited

/-- The name of the language that users see. -/
def LanguageKind.name : LanguageKind → String
  | .script => "script"
  | .silent => "silent"
  | .loose => "loose"
  | .loud => "loud"

/-- A language of a session.  The number tells languages of one kind apart. -/
structure Language where
  id : Nat
  kind : LanguageKind
  config : Config
deriving DecidableEq, Inhabited

namespace Language

def name (l : Language) : String := l.kind.name

/-- Whether the language takes the value for something that can be called. -/
def isCallable (l : Language) (v : Value) : Bool :=
  v.isCallable || (l.kind == .loud && v.kind == .str)

end Language

/-- An operation in a language. -/
structure Binder where
  operation : Operation
  language : Language
deriving DecidableEq, Inhabited

/-- The binder of another operation in the same language. -/
def Binder.rebind (b : Binder) (operation : Operation) : Binder :=
  { b with operation := operation }

end DynamicBinding
