import DynamicBinding.Store
/-!
# Views of values

What an observer sees of a value: its contents as a tree, cut at a depth.  Identities do not
show.
-/

namespace DynamicBinding

/-- A value with its contents spelled out. -/
inductive View where
  | nothing
  | bool (b : Bool)
  | int (i : Int)
  | float (x : Binary64)
  | str (chars : String)
  | tuple (items : List View)
  | list (items : List View)
  | function (name : String) (arity : Option Nat) (signature : Option Signature)
  | classObject (name : String)
  | classInstance (className : String) (fields : List (String × View))
  /-- Any other object, by the name of its type. -/
  | object (typeName : String)
  /-- Something below the depth that is shown. -/
  | deep
deriving Inhabited

/-- The view of a value down to a number of levels. -/
def Store.view (s : Store) : Nat → Value → View
  | 0, _ => .deep
  | levels + 1, v =>
    match v with
    | .nothing => .nothing
    | .bool b => .bool b
    | .int i => .int i.toInt
    | .float x => .float x
    | .str text => .str text.chars
    | .tuple id => .tuple ((s.items id).map (s.view levels))
    | .list id => .list ((s.items id).map (s.view levels))
    | .function f => .function f.name f.arity f.signature
    | .object (.classObject c) => .classObject c.name
    | .object (.classInstance id c) =>
      .classInstance c.name
        ((s.fields id).entries.map fun (name, v) => (name, s.view levels v))
    | .object o => .object o.typeName

end DynamicBinding
