import DynamicBinding.Machine.Delegate
import DynamicBinding.Machine.Expression
/-!
# Evaluation

How calls, plans and functions run.  They call each other without a bound that could be read off
their arguments, so evaluation counts how deep it is and stops, apart from all errors, when it
has used up what it was given.

A run may let its sites keep bindings or resolve every call afresh.  Nothing else depends on the
choice.

* `Task` lists what can be performed, and `step` performs one task with its parts left to a
  given `Perform`.
* `run` ties the knot within a depth.  `Stop.diverged` is the answer of a run that was not given
  enough; it is no error, and no plan can raise or catch it.
* `invokeSite` is the only place that reads or writes the bindings of a site.
-/

namespace DynamicBinding

/-- Whether sites keep what they resolve. -/
inductive Caching where
  | kept
  | fresh
deriving DecidableEq, Inhabited

/-- The things that evaluation performs. -/
inductive Task where
  /-- A call of a site, or of no site in particular. -/
  | invoke (binder : Binder) (site : Option Nat) (args : List Value)
  | execute (plan : Plan) (args : List Value)
  /-- A call of a value outside of any site. -/
  | callValue (callee : Value) (args : List Value)
  | callFunction (f : FunctionRef) (args : List Value)
  /-- A new instance of a class. -/
  | instantiate (c : ClassRef) (args : List Value)

/-- How the parts of a task are performed. -/
abbrev Perform := Task → Exec Value

/-! ## Calls of sites -/

/-- A call through the site at a position.  A binding that was resolved is put into the site
after its plan has run, even if the plan failed. -/
def invokeSite (perform : Perform) (id : Nat) (args : List Value) : Exec Value := do
  let site := (← get).site id
  match site.lookup? args with
  | some (binding, site) => do
    modify (·.modifySite id fun _ => site.countHit)
    perform (.execute binding.plan args)
  | none => do
    modify (·.modifySite id Site.countMiss)
    let binding ← modifyGet (·.anchor (site.binder.resolve args))
    Exec.afterwards (perform (.execute binding.plan args))
      (·.modifySite id (·.install binding))

/-- A call of an operation.  The number of arguments is checked before anything else happens. -/
def invoke (caching : Caching) (perform : Perform) (binder : Binder) (site : Option Nat)
    (args : List Value) : Exec Value := do
  match binder.operation.siteArity? with
  | some expected =>
    if args.length ≠ expected then Exec.fail (.argumentCount expected args.length) else answer
  | none => answer
where
  /-- The call once its arguments are accepted. -/
  answer : Exec Value :=
    match caching, site with
    | .kept, some id => invokeSite perform id args
    | _, _ => perform (.execute (binder.resolve args).plan args)

/-! ## Calls of values -/

/-- Runs a function on arguments after the check of their number. -/
def callFunction (perform : Perform) (f : FunctionRef) (args : List Value) : Exec Value := do
  match f.arity with
  | some expected =>
    if args.length ≠ expected then Exec.fail (.argumentCount expected args.length) else run
  | none => run
where
  /-- The run of the body. -/
  run : Exec Value := do
    let m ← get
    match m.store.body f with
    | .expression e => e.eval (fun binder site args => perform (.invoke binder site args)) args
    | .bound method receiver => perform (.callFunction method (receiver :: args))
    | .delegate language signature target =>
      let binder := language.delegateBinder signature
      let site := m.shared.get? binder
      signature.call (fun all => perform (.invoke binder site all)) target args

/-- Calls a value: a function runs, an object is called as it binds the call itself. -/
def callValue (perform : Perform) (callee : Value) (args : List Value) : Exec Value :=
  match callee with
  | .function f => perform (.callFunction f args)
  | .object o =>
    let all := callee :: args
    match o.bind (.invoke args.length) all with
    | some binding => perform (.execute binding.plan all)
    | none => Exec.fail (.notCallableValue callee)
  | callee => Exec.fail (.notCallableValue callee)

/-- Makes an instance and runs its initialiser, which must give nothing back.  Without an
initialiser there must be no arguments. -/
def instantiate (perform : Perform) (c : ClassRef) (args : List Value) : Exec Value := do
  let made ← Exec.onStore (modifyGet (·.makeInstance c))
  match ((← get).store.members c).get? "__init__" false with
  | some init => do
    match ← perform (.callValue init (made :: args)) with
    | .nothing => pure made
    | _ => Exec.fail (.invalidValue "__init__ should return None")
  | none =>
    if args.isEmpty then pure made else Exec.fail (.argumentCount 0 args.length)

/-! ## Members of instances -/

/-- A function with the receiver put before its arguments. -/
def bindReceiver (method : FunctionRef) (receiver : Value) : Effect Value := do
  let f ← modifyGet (·.makeFunction method.name (method.arity.map (· - 1)) none
    (.bound method receiver))
  pure (.function f)

/-- The instance among the arguments: its number and class. -/
def receiverInstance (args : List Value) : Effect (Value × Nat × ClassRef) :=
  match args with
  | [] => Effect.fail (.argumentCount 1 0)
  | receiver :: _ =>
    match receiver with
    | .object (.classInstance id c) => pure (receiver, id, c)
    | receiver => Effect.fail (.mismatch "instance" receiver)

/-- The attribute of an instance: a field, or else a member of its class.  Functions of the class
come back bound to the instance. -/
def attribute? (receiver : Value) (id : Nat) (c : ClassRef) (name : String) (ignoreCase : Bool) :
    Effect (Option Value) := do
  let s ← get
  match (s.fields id).get? name ignoreCase with
  | some v => pure (some v)
  | none =>
    match (s.members c).get? name ignoreCase with
    | some (.function method) => do pure (some (← bindReceiver method receiver))
    | member => pure member

/-- Reads an attribute for an operation, which is unsupported if there is none. -/
def readAttribute (operation : Operation) (name : String) (ignoreCase : Bool)
    (args : List Value) : Effect Value := do
  let (receiver, id, c) ← receiverInstance args
  match ← attribute? receiver id c name ignoreCase with
  | some v => pure v
  | none => Effect.fail (.unsupportedOn operation receiver)

/-- Writes a field and gives the written value back. -/
def assignField (name : String) (ignoreCase : Bool) (args : List Value) : Effect Value := do
  let (_, id, _) ← receiverInstance args
  let v := (args[1]?).getD .nothing
  modify fun s => s.setFields id ((s.fields id).set name ignoreCase v)
  pure v

/-- Removes a field. -/
def deleteField (name : String) (ignoreCase : Bool) (args : List Value) : Effect Value := do
  let (receiver, id, _) ← receiverInstance args
  match ((← get).fields id).remove? name ignoreCase with
  | some fields => do
    modify (·.setFields id fields)
    pure .nothing
  | none => Effect.fail (.unsupportedOn (.deleteMember name ignoreCase) receiver)

/-- Calls a method of a class with all arguments. -/
def callMethod (perform : Perform) (c : ClassRef) (method : String) (args : List Value) :
    Exec Value := do
  match ((← get).store.members c).get? method false with
  | some function => perform (.callValue function args)
  | none => Exec.fail (.raised ("missing method '" ++ method ++ "'"))

/-! ## Plans -/

/-- Runs `f` on the only argument. -/
def onOne (args : List Value) (f : Value → Exec Value) : Exec Value :=
  match args with
  | [v] => f v
  | _ => Exec.fail (.argumentCount 1 args.length)

/-- Runs `f` on the only two arguments. -/
def onTwo (args : List Value) (f : Value → Value → Exec Value) : Exec Value :=
  match args with
  | [a, b] => f a b
  | _ => Exec.fail (.argumentCount 2 args.length)

/-- The index that a value gives. -/
def indexOf (v : Value) : Except RuntimeError Int :=
  match v.asInt? with
  | some i => .ok i.toInt
  | none => .error (.mismatch "int" v)

/-- Performs the operation inside a plan and makes the answer of its answer. -/
def executeNested (perform : Perform) (inner : Binder) (site : Option Nat) (use : NestedUse)
    (args : List Value) : Exec Value :=
  match use with
  | .answer => perform (.invoke inner site args)
  | .membership negated =>
    onTwo args fun item container => do
      let found ← perform (.invoke inner site [container, item])
      pure (.bool ((← get).store.isTruthy found != negated))
  | .negatedTruth => do
    let truth ← perform (.invoke inner site args)
    pure (.bool (!(← get).store.isTruthy truth))

/-- Runs a plan on arguments. -/
def execute (perform : Perform) (plan : Plan) (args : List Value) : Exec Value :=
  match plan with
  | .fail e => Exec.fail e
  | .notCallable =>
    match args with
    | receiver :: _ => Exec.fail (.notCallableValue receiver)
    | [] => Exec.fail (.notCallable Kind.nothing.name)
  | .constant v => pure v
  | .receiver => pure (args.head?.getD .nothing)
  | .body e => e.eval (fun binder site args => perform (.invoke binder site args)) args
  | .offer r index => do
    let body := ((← get).store.record r).bodies.getD index default
    body.eval (fun binder site args => perform (.invoke binder site args)) args
  | .instantiate c => perform (.instantiate c (args.drop 1))
  | .classMember c name => do
    match ((← get).store.members c).get? name false with
    | some v => pure v
    | none => Exec.fail (.raised ("missing member '" ++ name ++ "'"))
  | .readMember name ignoreCase =>
    Exec.onStore (readAttribute (.getMember name ignoreCase) name ignoreCase args)
  | .assignMember name ignoreCase => Exec.onStore (assignField name ignoreCase args)
  | .deleteMember name ignoreCase => Exec.onStore (deleteField name ignoreCase args)
  | .callMember name ignoreCase count => do
    let callee ← Exec.onStore
      (readAttribute (.invokeMember name ignoreCase count) name ignoreCase args)
    perform (.callValue callee (args.drop 1))
  | .callMethod c method => callMethod perform c method args
  | .truthMethod c => do
    match ← callMethod perform c "__bool__" args with
    | .bool b => pure (.bool b)
    | other => Exec.fail (.mismatch Kind.bool.name other)
  | .storeMethod c => do
    let _ ← callMethod perform c "__setitem__" args
    pure (args.getLast?.getD .nothing)
  | .callFunction =>
    match args with
    | .function f :: rest => perform (.callFunction f rest)
    | receiver :: _ => Exec.fail (.notCallableValue receiver)
    | [] => Exec.fail (.argumentCount 1 0)
  | .builtinMethod m =>
    match args with
    | receiver :: rest => Exec.onStore (m.run receiver rest)
    | [] => Exec.fail (.argumentCount (m.argumentCount + 1) 0)
  | .getItem =>
    onTwo args fun receiver index => do
      let i ← Exec.lift (indexOf index)
      Exec.onStore (Script.getItem receiver i)
  | .setItem =>
    match args with
    | [.list id, index, v] => do
      let i ← Exec.lift (indexOf index)
      Exec.onStore (Script.setItem id i v)
    | _ => Exec.fail (.argumentCount 3 args.length)
  | .binary i operator => onTwo args fun a b => Exec.onStore (i.run operator a b)
  | .unary i => onOne args fun v => Exec.onStore (i.run v)
  | .convert c => onOne args fun v => Exec.onStore (c.run v)
  | .format language =>
    onOne args fun v => do
      let text ← Exec.require (language.format (← get).store v)
      Exec.onStore (Effect.str text)
  | .delegate language signature => onOne args fun v => language.delegate v signature
  | .through inner site use => executeNested perform inner site use args
  | .negationText => do
    let text ← Exec.require ((← get).store.display (args.head?.getD .nothing))
    Exec.onStore (Effect.str ("-(" ++ text ++ ")"))
  | .joinedText => do
    let s := (← get).store
    let texts ← Exec.require ((args.take 2).mapM s.display)
    Exec.onStore (Effect.str (String.join texts))

/-! ## Runs -/

/-- Performs a task whose parts are performed by `perform`. -/
def step (caching : Caching) (perform : Perform) : Task → Exec Value
  | .invoke binder site args => invoke caching perform binder site args
  | .execute plan args => execute perform plan args
  | .callValue callee args => callValue perform callee args
  | .callFunction f args => callFunction perform f args
  | .instantiate c args => instantiate perform c args

/-- Performs a task to a depth. -/
def run (caching : Caching) : Nat → Task → Exec Value
  | 0, _ => throw .diverged
  | depth + 1, task => step caching (run caching depth) task

end DynamicBinding
