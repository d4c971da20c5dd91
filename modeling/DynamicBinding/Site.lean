import DynamicBinding.Binary64.Arithmetic
import DynamicBinding.Binding
/-!
# Call sites

A site keeps the bindings it used last, most recent first, and counts what it does.  A call takes
the first binding that applies; a call for which there is none is resolved, and the binding is
put at the front once its plan has run.  A plan may come back to its own site, so finding and
putting are two separate steps.

* `Site.lookup?` finds the first binding that applies and moves it to the front.
* `Site.install` puts a binding at the front in place of one with an equal guard, and `Site.trim`
  drops from the back what goes beyond the capacity (`length_bindings_install_le`).
* `Site.hitRate` and `Site.classification` are judged from the counters and the bindings alone.
-/

namespace DynamicBinding

/-- How many shapes of arguments a site has met, judged from its bindings. -/
inductive SiteClass where
  | uninitialized
  | monomorphic
  | bimorphic
  | polymorphic
  | megamorphic
deriving DecidableEq, Inhabited

/-- A site for one operation in one language. -/
structure Site where
  binder : Binder
  /-- How many bindings are kept. -/
  capacity : Nat
  /-- The bindings, most recently used first. -/
  bindings : List Binding := []
  /-- Calls served by a kept binding. -/
  hits : Nat := 0
  /-- Calls that were resolved. -/
  misses : Nat := 0
  /-- Bindings dropped for want of room. -/
  evictions : Nat := 0

namespace Site

/-- A site that keeps at least one binding. -/
def withCapacity (binder : Binder) (capacity : Nat) : Site :=
  { binder := binder, capacity := max 1 capacity }

/-- A site with the capacity that its language sets. -/
def ofBinder (binder : Binder) : Site :=
  withCapacity binder binder.language.config.siteCapacity

instance : Inhabited Site := ⟨ofBinder default⟩

/-- The number of arguments that the site takes; any number if there is none. -/
def arity? (s : Site) : Option Nat := s.binder.operation.siteArity?

/-- Moves the binding at a position to the front. -/
def toFront (bindings : List Binding) (i : Nat) : List Binding :=
  match bindings[i]? with
  | some b => b :: bindings.eraseIdx i
  | none => bindings

/-- The first binding that applies, and the site with that binding at the front. -/
def lookup? (s : Site) (args : List Value) : Option (Binding × Site) := do
  let i ← s.bindings.findIdx? (·.applies args)
  let b ← s.bindings[i]?
  some (b, { s with bindings := toFront s.bindings i })

/-- Drops the bindings beyond the capacity, from the back. -/
def trim (s : Site) : Site :=
  { s with
    bindings := s.bindings.take s.capacity
    evictions := s.evictions + (s.bindings.length - s.capacity) }

theorem length_bindings_trim_le (s : Site) : s.trim.bindings.length ≤ s.capacity :=
  List.length_take_le _ _

/-- Puts a binding at the front in place of one with an equal guard. -/
def install (s : Site) (b : Binding) : Site :=
  let others :=
    match s.bindings.findIdx? (·.guard == b.guard) with
    | some i => s.bindings.eraseIdx i
    | none => s.bindings
  trim { s with bindings := b :: others }

theorem length_bindings_install_le (s : Site) (b : Binding) :
    (s.install b).bindings.length ≤ s.capacity :=
  length_bindings_trim_le _

/-- Counts a call that a kept binding serves. -/
def countHit (s : Site) : Site := { s with hits := s.hits + 1 }

/-- Counts a call that is resolved. -/
def countMiss (s : Site) : Site := { s with misses := s.misses + 1 }

/-- The share of hits in a hundred calls. -/
def hitRate (s : Site) : Binary64 :=
  let total := s.hits + s.misses
  if total = 0 then .ofInt 0
  else Binary64.mul (Binary64.div (.ofInt s.hits) (.ofInt total)) (.ofInt 100)

/-- A site that has dropped a binding is megamorphic; otherwise the number of bindings
decides. -/
def classification (s : Site) : SiteClass :=
  if 0 < s.evictions then .megamorphic
  else
    match s.bindings.length with
    | 0 => .uninitialized
    | 1 => .monomorphic
    | 2 => .bimorphic
    | _ => .polymorphic

end Site

end DynamicBinding
