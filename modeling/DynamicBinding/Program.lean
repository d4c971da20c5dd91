import DynamicBinding.Value.Basic
/-!
# Programs

The small language in which bodies of functions, methods and offers are written, and the
literals from which values are made.  A literal stands for a recipe: each time it is evaluated
it makes new values.
-/

namespace DynamicBinding

mutual

/-- Expressions over the arguments of a call. -/
inductive Expr where
  /-- The argument at a position. -/
  | arg (position : Nat)
  /-- A tuple of all arguments. -/
  | args
  /-- A value made anew by each evaluation. -/
  | const (literal : Literal)
  /-- The variable of that name at the time of evaluation. -/
  | variable (name : String)
  /-- An operation in the main language, each time through a new site. -/
  | operate (operation : Operation) (args : List Expr)
  /-- An operation through the site of that name. -/
  | atSite (name : String) (args : List Expr)
  /-- All of them in order; the value is the last one's. -/
  | sequence (parts : List Expr)
  /-- The second or the third, as the first is true or not. -/
  | choose (condition yes no : Expr)
  /-- An error of the function's own. -/
  | raise (text : String)
  /-- A complaint about a value. -/
  | invalid (text : String)

/-- Recipes for values. -/
inductive Literal where
  | nothing
  | bool (b : Bool)
  | int (i : Int64)
  | float (x : Binary64)
  | str (chars : String)
  | tuple (items : List Literal)
  | list (items : List Literal)
  /-- The value of a variable itself. -/
  | variable (name : String)
  /-- A value inside as many lists, or tuples, of one item each. -/
  | nest (inLists : Bool) (depth : Nat) (inner : Literal)
  /-- A text repeated. -/
  | times (chars : String) (count : Nat)
  | function (name : String) (arity : Option Nat) (signature : Option Signature) (body : Expr)
  /-- A class: its methods, then its attributes; a later member of the same name replaces an
  earlier one. -/
  | newClass (name : String) (methods : List (String × Option Nat × Expr))
      (attributes : List (String × Literal))
  | record (typeName : String) (callable declinesByType : Bool)
      (members : List (MemberKey × Literal)) (offers : List (Offer × Expr))
  | inert (typeName : String)

end

instance : Inhabited Expr := ⟨.args⟩

instance : Inhabited Literal := ⟨.nothing⟩

end DynamicBinding
