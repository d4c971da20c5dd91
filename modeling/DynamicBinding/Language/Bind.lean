import DynamicBinding.Object
import DynamicBinding.Script.Bind
import DynamicBinding.Value.Display
/-!
# The language's step

The binding that each language contributes, the text it gives of values, and the member names it
shows.
-/

namespace DynamicBinding

/-- The bindings of the loose language: the negation of anything, and the addition of anything to
a text. -/
def Loose.bind (operation : Operation) (args : List Value) : Option Binding :=
  match operation, args with
  | .unary .negate, _ => some { guard := .arity 1, plan := .negationText }
  | .binary .add, [.str _, r] =>
    some { guard := ((Guard.arity 2).kind 0 .str).kind 1 r.kind, plan := .joinedText }
  | _, _ => none

namespace Binder

/-- The binding of the binder's language, if it has one. -/
def bindInLanguage (b : Binder) (args : List Value) : Option Binding :=
  match b.language.kind with
  | .script | .loud => Script.bind b args
  | .loose => Loose.bind b.operation args
  | .silent => none

end Binder

namespace Language

/-- The text of a value in the language; none if it has no end. -/
def format (l : Language) (s : Store) (v : Value) : Option String :=
  match l.kind with
  | .loud => (s.display v).map fun text => "<<" ++ text ++ ">>"
  | _ => s.display v

end Language

namespace Store

/-- The members that an object shows: the fields of an instance, the members of a class or a
record. -/
def memberEntries (s : Store) : Object → List (MemberKey × Value)
  | .classObject c => (s.members c).entries.map fun (name, v) => (.name name, v)
  | .classInstance id _ => (s.fields id).entries.map fun (name, v) => (.name name, v)
  | .record r => (s.record r).members
  | .inert _ _ => []

/-- The names among the members of a value.  Builtin values show none. -/
def memberNames (s : Store) : Value → List String
  | .object o => (s.memberEntries o).filterMap fun (key, _) => key.name?
  | _ => []

end Store

end DynamicBinding
