import DynamicBinding.Binding
/-!
# The script language's step

How the script language binds operations on builtin values.  The binder that is passed may
belong to another language that takes over this step; nested operations are performed in that
language.
-/

namespace DynamicBinding.Script

/-- Calls of functions. -/
def bindInvoke (args : List Value) : Option Binding :=
  match args with
  | .function _ :: _ =>
    some { guard := (Guard.arity args.length).kind 0 .function, plan := .callFunction }
  | _ => none

/-- Methods of lists and texts.  A wrong number of arguments is a binding that fails. -/
def bindMethod (name : String) (ignoreCase : Bool) (args : List Value) : Option Binding := do
  let receiver ← args.head?
  let (_, method) ← (Method.table receiver.kind).find? fun entry =>
    Text.namesMatch name entry.1 ignoreCase
  let guard := (Guard.arity args.length).kind 0 receiver.kind
  let actual := args.length - 1
  if actual = method.argumentCount then some { guard := guard, plan := .builtinMethod method }
  else some (.failure guard (.argumentCount method.argumentCount actual))

/-- Reading one index of a sequence. -/
def bindGetIndex (count : Nat) (args : List Value) : Option Binding :=
  match args with
  | [receiver, index] =>
    if count = 1 && receiver.kind.isSequence && index.asInt?.isSome then
      some { guard := .forArguments args, plan := .getItem }
    else none
  | _ => none

/-- Writing one index of a list. -/
def bindSetIndex (count : Nat) (args : List Value) : Option Binding :=
  match args with
  | [.list _, index, _] =>
    if count = 1 && index.asInt?.isSome then
      some { guard := ((Guard.arity 3).kind 0 .list).kind 1 index.kind, plan := .setItem }
    else none
  | _ => none

/-- Other names than the two with a typed form are calls of the method of that name. -/
def bindNamed (binder : Binder) (operation : NamedOperation) (args : List Value) :
    Option Binding :=
  match operation, args with
  | .other name, receiver :: rest =>
    let inner := .invokeMember name binder.language.config.ignoreCaseMembers rest.length
    some
      { guard := (Guard.arity args.length).classified 0 receiver
        plan := .through (binder.rebind inner) none .answer }
  | _, _ => none

/-- Binary operators.  Membership in an object asks the object. -/
def bindBinary (binder : Binder) (operator : Operator) (args : List Value) : Option Binding :=
  match args with
  | [l, r] =>
    if (operator == .isIn || operator == .notIn) && r.isObject then
      some
        { guard := ((Guard.arity 2).classified 0 l).classified 1 r
          plan :=
            .through (binder.rebind (.invokeMember "__contains__" false 1)) none
              (.membership (operator == .notIn)) }
    else
      (BinaryImplementation.select? operator l.kind r.kind).map fun i =>
        { guard := .forArguments args, plan := .binary i operator }
  | _ => none

/-- Unary operators.  The negation of an object asks the object for its truth. -/
def bindUnary (binder : Binder) (operator : Operator) (args : List Value) : Option Binding :=
  match args with
  | [v] =>
    if operator == .not && v.isObject then
      some
        { guard := .forArguments args
          plan := .through (binder.rebind (.convert .bool true)) none .negatedTruth }
    else
      (UnaryImplementation.select? operator v.kind).map fun i =>
        { guard := .forArguments args, plan := .unary i }
  | _ => none

/-- Conversions.  A callable value becomes a delegate; functions are pinned, because it depends
on their signature. -/
def bindConvert (binder : Binder) (target : Target) (explicit : Bool) (args : List Value) :
    Option Binding :=
  match args with
  | [v] =>
    match target with
    | .delegate signature =>
      if binder.language.isCallable v then
        let guard :=
          match v with
          | .function _ => (Guard.arity 1).identity 0 v
          | _ => Guard.forArguments args
        some { guard := guard, plan := .delegate binder.language signature }
      else none
    | target =>
      if target == .str && explicit && v.kind != .str then
        some { guard := .forArguments args, plan := .format binder.language }
      else
        (Conversion.select? target v.kind explicit).map fun c =>
          { guard := .forArguments args, plan := .convert c }
  | _ => none

/-- The binding of the script language, if it has one. -/
def bind (binder : Binder) (args : List Value) : Option Binding :=
  match binder.operation with
  | .invoke _ => bindInvoke args
  | .invokeMember name ignoreCase _ => bindMethod name ignoreCase args
  | .getMember .. | .setMember .. | .deleteMember .. | .createInstance _ => none
  | .convert target explicit => bindConvert binder target explicit args
  | .unary operator => bindUnary binder operator args
  | .binary operator => bindBinary binder operator args
  | .getIndex count => bindGetIndex count args
  | .setIndex count => bindSetIndex count args
  | .named operation => bindNamed binder operation args

end DynamicBinding.Script
