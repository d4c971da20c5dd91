import DynamicBinding.Binding
/-!
# The fallback

The last step of the chain.  It always has a binding: a failure that names the operation, or the
value itself where a conversion has nothing to do.  Its guards are coarse, so that one binding
serves all arguments that fail alike.
-/

namespace DynamicBinding.Fallback

/-- The type name in the complaint about an operation without a receiver. -/
def typeNameOf (args : List Value) : String :=
  (args.head?.map Value.typeName).getD Kind.nothing.name

/-- The failure of an operation that nothing supports. -/
def unsupported (operation : Operation) (args : List Value) : Binding :=
  .failure (.forArguments args) (.unsupported operation (typeNameOf args))

/-- The failure of calling something that cannot be called.  One binding serves all builtin
values of this sort; the message names the one that is passed. -/
def notCallable (args : List Value) : Binding :=
  let guard := Guard.arity args.length
  match args with
  | [] => .failure guard (.notCallable Kind.nothing.name)
  | receiver :: _ =>
    if receiver.isObject || receiver.isCallable then
      { guard := guard.classified 0 receiver, plan := .notCallable }
    else { guard := (guard.plain 0).notCallable 0, plan := .notCallable }

/-- The conversion of a value that satisfies the target already, or its failure.  Whether a
function satisfies a delegate target is up to its signature, so the function is pinned. -/
def convert (target : Target) (args : List Value) : Binding :=
  match args with
  | [] => .failure (.arity 0) (.typeMismatch target.text "nothing")
  | v :: _ =>
    let guard :=
      match target, v with
      | .delegate _, .function _ => (Guard.arity args.length).identity 0 v
      | _, _ => Guard.forArguments args
    if target.accepts v then { guard := guard, plan := .receiver }
    else .failure guard (.mismatch target.text v)

/-- The binding of the last step. -/
def bind (operation : Operation) (args : List Value) : Binding :=
  let binding :=
    match operation with
    | .invoke _ => notCallable args
    | .convert target _ => convert target args
    | operation => unsupported operation args
  binding.withSource .fallback

end DynamicBinding.Fallback
