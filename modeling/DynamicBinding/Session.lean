import DynamicBinding.Machine.Evaluation
import DynamicBinding.Value.View
/-!
# Sessions

A session is a machine together with the things its user has named: guards, bindings, languages
and publishers.  Each step makes the values it needs from literals and performs one thing.  A
step that refers to something that is not there has a fault, which is not an error of the
program.
-/

namespace DynamicBinding

/-- A machine and what its user has named. -/
structure Session where
  machine : Machine
  guards : List (String × Guard) := []
  bindings : List (String × Binding) := []
  languages : List (String × Language)
  publishers : List (String × Publisher String Value) := []
  /-- How many languages there are. -/
  languageCount : Nat
  /-- The language that all users of the shared script language get. -/
  sharedLanguage : Option Language := none

instance : Inhabited Session := ⟨{ machine := default, languages := [], languageCount := 0 }⟩

/-- Why a step cannot be taken. -/
inductive Fault where
  /-- There is nothing of this sort and name. -/
  | unknown (sort name : String)
  /-- A value could not be made. -/
  | notMade (stop : Stop)
  /-- A value is not of the sort that the step needs. -/
  | wrongSort (sort : String)
deriving Inhabited

/-- Steps of a session. -/
abbrev Step := ExceptT Fault (StateM Session)

namespace Session

/-- How deep evaluation may go.  No run that memory can hold comes near it. -/
def depth : Nat := 1000000000000

/-- How many levels of a value answers show. -/
def shownLevels : Nat := 41

/-- What answers show of a value. -/
def view (s : Session) (v : Value) : View := s.machine.store.view shownLevels v

/-- Which language is asked for: the shared one, or a new one of a kind. -/
inductive LanguageChoice where
  | shared
  | new (kind : LanguageKind) (config : Config)

/-- The language of a choice.  The script language and the loud one take a configuration and
check it; the others have the default one. -/
def chooseLanguage (s : Session) (choice : LanguageChoice) :
    Except ConfigError (Language × Session) :=
  match choice with
  | .shared =>
    match s.sharedLanguage with
    | some language => .ok (language, s)
    | none =>
      let language : Language := ⟨s.languageCount, .script, {}⟩
      .ok (language,
        { s with languageCount := s.languageCount + 1, sharedLanguage := some language })
  | .new kind config => do
    config.validate
    .ok (⟨s.languageCount, kind, config⟩, { s with languageCount := s.languageCount + 1 })

/-- Names a language.  The language named `main` is the one in which bodies perform
operations. -/
def nameLanguage (s : Session) (name : String) (language : Language) : Session :=
  { s with
    languages := (name, language) :: s.languages.filter (·.1 != name)
    machine := if name = "main" then { s.machine with main := language } else s.machine }

/-- A session with the given main language and nothing else. -/
def start (choice : LanguageChoice) : Except ConfigError Session := do
  let (language, s) ← chooseLanguage default choice
  .ok (s.nameLanguage "main" language)

end Session

namespace Step

/-- What is named, or the fault that it is not there. -/
def known {α : Type} (sort name : String) : Option α → Step α
  | some a => pure a
  | none => throw (.unknown sort name)

/-- Performs a computation on the machine. -/
def onMachine {α : Type} (x : Exec α) : Step (Except Stop α) :=
  modifyGet fun s =>
    let (result, machine) := x.run.run s.machine
    (result, { s with machine := machine })

/-- Makes the value of a literal. -/
def make (l : Literal) : Step Value := do
  match ← onMachine l.make with
  | .ok v => pure v
  | .error stop => throw (.notMade stop)

/-- Makes the values of literals from left to right. -/
def makeAll (ls : List Literal) : Step (List Value) := ls.mapM make

/-- Sets a variable, if a name is given. -/
def save (name : Option String) (v : Value) : Step Unit :=
  match name with
  | some name => modify fun s => { s with machine := s.machine.setVariable name v }
  | none => pure ()

/-- Performs a computation and sets a variable to the value it gives, if it gives one. -/
def answer (name : Option String) (x : Exec Value) : Step (Except Stop Value) := do
  let result ← onMachine x
  match result with
  | .ok v => save name v
  | .error _ => pure ()
  pure result

/-- Performs a task. -/
def perform (name : Option String) (task : Task) : Step (Except Stop Value) :=
  answer name (run .kept Session.depth task)

/-! ## Languages -/

def language (name : String) : Step Language := do
  known "language" name ((← get).languages.lookup name)

/-- Makes a language and names it, unless its configuration is refused. -/
def newLanguage (name : String) (choice : Session.LanguageChoice) :
    Step (Except ConfigError Language) := do
  match (← get).chooseLanguage choice with
  | .error e => pure (.error e)
  | .ok (language, s) => do
    set (s.nameLanguage name language)
    pure (.ok language)

/-! ## Guards and bindings -/

def guard (name : String) : Step Guard := do
  known "guard" name ((← get).guards.lookup name)

def saveGuard (name : String) (g : Guard) : Step Unit :=
  modify fun s => { s with guards := (name, g) :: s.guards.filter (·.1 != name) }

def binding (name : String) : Step Binding := do
  known "binding" name ((← get).bindings.lookup name)

def saveBinding (name : Option String) (b : Binding) : Step Unit :=
  match name with
  | some name =>
    modify fun s => { s with bindings := (name, b) :: s.bindings.filter (·.1 != name) }
  | none => pure ()

/-- Gives the plan of a binding the site it needs. -/
def anchored (b : Binding) : Step Binding :=
  modifyGet fun s =>
    let (b, machine) := s.machine.anchor b
    (b, { s with machine := machine })

/-- Runs the plan of a binding without asking its guard. -/
def execute (name : Option String) (b : Binding) (args : List Value) : Step (Except Stop Value) :=
  perform name (.execute b.plan args)

/-- The binding that the chain resolves to. -/
def resolve (b : Binder) (args : List Value) : Step Binding :=
  anchored (b.resolve args)

/-- The binding of the language alone. -/
def bindInLanguage (b : Binder) (args : List Value) : Step (Option Binding) :=
  match b.bindInLanguage args with
  | some binding => do pure (some (← anchored binding))
  | none => pure none

/-! ## Sites -/

/-- The position of the site of a name. -/
def sitePosition (name : String) : Step Nat := do
  known "site" name ((← get).machine.siteNames.lookup name)

/-- The site at a position. -/
def site (id : Nat) : Step Site := do
  pure ((← get).machine.site id)

/-- Names the site at a position. -/
def nameSite (name : String) (id : Nat) : Step Unit :=
  modify fun s => { s with machine := s.machine.nameSite name id }

/-- Makes a site, with the capacity that its language sets unless one is given. -/
def newSite (name : String) (b : Binder) (capacity : Option Nat) : Step Site := do
  let site :=
    match capacity with
    | some n => Site.withCapacity b n
    | none => Site.ofBinder b
  let id ← modifyGet fun s =>
    let (id, machine) := s.machine.addSite site
    (id, { s with machine := machine })
  nameSite name id
  pure site

/-- Calls a site. -/
def callSite (name : Option String) (id : Nat) (args : List Value) :
    Step (Except Stop Value) := do
  perform name (.invoke (← site id).binder (some id) args)

/-- The position of the site that a binder shares. -/
def sharedSite (b : Binder) : Step Nat :=
  modifyGet fun s =>
    let (id, machine) := s.machine.sharedSite b
    (id, { s with machine := machine })

/-- The names of a site, in order. -/
def namesOfSite (id : Nat) : Step (List String) := do
  let named := (← get).machine.siteNames.filter (·.2 == id)
  pure ((named.map Prod.fst).mergeSort fun a b => decide (a ≤ b))

/-! ## Objects -/

/-- The object that a value must be. -/
def asObject : Value → Step Object
  | .object o => pure o
  | _ => throw (.wrongSort "object")

/-- The function that a value must be. -/
def asFunction : Value → Step FunctionRef
  | .function f => pure f
  | _ => throw (.wrongSort "function")

/-- The class that a value must be. -/
def asClass : Value → Step ClassRef
  | .object (.classObject c) => pure c
  | _ => throw (.wrongSort "class")

/-- The number of the instance that a value must be. -/
def asInstance : Value → Step Nat
  | .object (.classInstance id _) => pure id
  | _ => throw (.wrongSort "instance")

/-- The store as it is. -/
def store : Step Store := do
  pure (← get).machine.store

/-- The members that an object shows; those of a class in the order of their names. -/
def shownMembers (o : Object) : Step (List (MemberKey × Value)) := do
  let entries := (← store).memberEntries o
  match o with
  | .classObject _ =>
    let nameOf (entry : MemberKey × Value) : String := entry.1.name?.getD ""
    pure (entries.mergeSort fun a b => decide (nameOf a ≤ nameOf b))
  | _ => pure entries

/-- Writes a field of an instance. -/
def setField (id : Nat) (name : String) (v : Value) : Step Unit :=
  modify fun s =>
    let store := s.machine.store
    let fields := (store.fields id).set name false v
    { s with machine := { s.machine with store := store.setFields id fields } }

/-! ## Delegates -/

/-- The stub of a signature. -/
def stub (signature : Signature) : Step Stub :=
  modifyGet fun s =>
    let (stub, machine) := s.machine.stub signature
    (stub, { s with machine := machine })

/-- Calls a value under a signature through a site. -/
def callStub (name : Option String) (id : Nat) (signature : Signature) (target : Value)
    (args : List Value) : Step (Except Stop Value) := do
  let binder := (← site id).binder
  answer name
    (signature.call (fun all => run .kept Session.depth (.invoke binder (some id) all)) target args)

/-! ## Publishers -/

/-- Works on the publisher of a name, which its first mention makes. -/
def onPublisher {α : Type} (name : String) (x : StateM (Publisher String Value) α) : Step α :=
  modifyGet fun s =>
    let (a, p) := x.run ((s.publishers.lookup name).getD {})
    (a, { s with publishers := (name, p) :: s.publishers.filter (·.1 != name) })

/-- Asks a publisher for the value of a key.  The factory gives `v`; where another key is given,
the factory first asks for the value of that key. -/
def publish (name key : String) (before : Option String) (v : Value) : Step Value :=
  onPublisher name <| Publisher.getOrCreate key do
    match before with
    | some other => do
      let _ ← Publisher.getOrCreate other (pure v)
      pure v
    | none => pure v

end Step

end DynamicBinding
