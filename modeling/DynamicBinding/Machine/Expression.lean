import DynamicBinding.Machine.Basic
import DynamicBinding.Text.Repeat
/-!
# Literals and expressions

How values are made from literals and how bodies are evaluated.  The evaluation of expressions
leaves the performing of operations to its caller.
-/

namespace DynamicBinding

/-- The variable of a name. -/
def Exec.variable (name : String) : Exec Value := do
  match (← get).globals.lookup name with
  | some v => pure v
  | none => Exec.fail (.raised ("unknown variable '" ++ name ++ "'"))

mutual

/-- Makes the value of a literal. -/
def Literal.make : Literal → Exec Value
  | .nothing => pure .nothing
  | .bool b => pure (.bool b)
  | .int i => pure (.int i)
  | .float x => pure (.float x)
  | .str chars => Exec.onStore (Effect.str chars)
  | .tuple items => do Exec.onStore (Effect.tuple (← Literal.makeAll items))
  | .list items => do Exec.onStore (Effect.list (← Literal.makeAll items))
  | .variable name => Exec.variable name
  | .nest inLists depth inner => do
    let v ← inner.make
    let wrap (v : Value) : Effect Value := if inLists then Effect.list [v] else Effect.tuple [v]
    Exec.onStore (depth.fold (fun _ _ made => made >>= wrap) (pure v))
  | .times chars count =>
    Exec.onStore (Effect.str (Text.repeated chars count))
  | .function name arity signature body =>
    Exec.onStore do
      let f ← modifyGet (·.makeFunction name arity signature (.expression body))
      pure (.function f)
  | .newClass name methods attributes => do
    let functions ← methods.mapM fun (method, arity, body) => do
      let f ← Exec.onStore (modifyGet (·.makeFunction method arity none (.expression body)))
      pure (method, Value.function f)
    let values ← Literal.makeNamed attributes
    let c ← Exec.onStore
      (modifyGet (·.makeClass name (MemberTable.ofEntries (functions ++ values))))
    pure (.object (.classObject c))
  | .record typeName callable declinesByType members offers => do
    let values ← Literal.makeKeyed members
    Exec.onStore (modifyGet (·.makeRecord typeName callable declinesByType values offers))
  | .inert typeName => Exec.onStore (modifyGet (·.makeInert typeName))

/-- Makes the values of literals from left to right. -/
def Literal.makeAll : List Literal → Exec (List Value)
  | [] => pure []
  | l :: rest => do
    let v ← l.make
    let others ← Literal.makeAll rest
    pure (v :: others)

/-- Makes named values from left to right. -/
def Literal.makeNamed : List (String × Literal) → Exec (List (String × Value))
  | [] => pure []
  | (name, l) :: rest => do
    let v ← l.make
    let others ← Literal.makeNamed rest
    pure ((name, v) :: others)

/-- Makes keyed values from left to right. -/
def Literal.makeKeyed : List (MemberKey × Literal) → Exec (List (MemberKey × Value))
  | [] => pure []
  | (key, l) :: rest => do
    let v ← l.make
    let others ← Literal.makeKeyed rest
    pure ((key, v) :: others)

end

/-- Performs an operation: a binder, the site to use if there is one, and the arguments. -/
abbrev Invoke := Binder → Option Nat → List Value → Exec Value

mutual

/-- Evaluates an expression over the arguments of a call. -/
def Expr.eval (invoke : Invoke) (args : List Value) : Expr → Exec Value
  | .arg i =>
    match args[i]? with
    | some v => pure v
    | none => Exec.fail (.raised ("missing argument " ++ toString i))
  | .args => Exec.onStore (Effect.tuple args)
  | .const literal => literal.make
  | .variable name => Exec.variable name
  | .operate operation operands => do
    let values ← Expr.evalAll invoke args operands
    invoke ⟨operation, (← get).main⟩ none values
  | .atSite name operands => do
    let values ← Expr.evalAll invoke args operands
    let m ← get
    match m.siteNames.lookup name with
    | some id => invoke (m.site id).binder (some id) values
    | none => Exec.fail (.raised ("unknown site '" ++ name ++ "'"))
  | .sequence parts => do
    let values ← Expr.evalAll invoke args parts
    pure (values.getLast?.getD .nothing)
  | .choose condition yes no => do
    let v ← condition.eval invoke args
    if (← get).store.isTruthy v then yes.eval invoke args else no.eval invoke args
  | .raise text => Exec.fail (.raised text)
  | .invalid text => Exec.fail (.invalidValue text)

/-- Evaluates expressions from left to right. -/
def Expr.evalAll (invoke : Invoke) (args : List Value) : List Expr → Exec (List Value)
  | [] => pure []
  | e :: rest => do
    let v ← e.eval invoke args
    let others ← Expr.evalAll invoke args rest
    pure (v :: others)

end

end DynamicBinding
