import DynamicBinding.Text.Blank
import DynamicBinding.Binary64.Literal
/-!
# Configuration

How many bindings a call site keeps, and how legacy operations look up their methods.
-/

namespace DynamicBinding

/-- The configuration of a language. -/
structure Config where
  /-- How many bindings a site keeps before it drops the least recently used one. -/
  siteCapacity : Nat := 4
  /-- Whether named operations find their method without regard to case. -/
  ignoreCaseMembers : Bool := false
  /-- Whether hits are logged beside misses. -/
  traceBindings : Bool := false
deriving DecidableEq, Inhabited

/-- What can be wrong with a configuration. -/
inductive ConfigError where
  | zeroCapacity
  | capacityTooLarge (capacity : Nat)
deriving DecidableEq, Inhabited

namespace Config

/-- The largest capacity that is accepted. -/
def maxSiteCapacity : Nat := 64

/-- Sites that keep only the most recent binding. -/
def monomorphic : Config := { siteCapacity := 1 }

/-- Sites for receivers of many types. -/
def megamorphic : Config := { siteCapacity := 16 }

/-- The first complaint about a configuration, if there is one. -/
def validate (c : Config) : Except ConfigError Unit :=
  if c.siteCapacity = 0 then .error .zeroCapacity
  else if maxSiteCapacity < c.siteCapacity then .error (.capacityTooLarge c.siteCapacity)
  else .ok ()

/-- A whole number without sign, or with a plus sign. -/
def parseCapacity? (cs : List Char) : Option Nat :=
  let digits :=
    match cs with
    | '+' :: rest => rest
    | cs => cs
  if digits.isEmpty || !digits.all Char.isDigit then none else some (Binary64.digitsValue digits)

/-- The default configuration with the settings of the environment.  A capacity that cannot be
read or is out of range is passed over; tracing is on for any text but the empty one and
`0`. -/
def ofEnvironment (capacity trace : Option String) : Config :=
  let read : Option Nat := do
    let n ← parseCapacity? (Text.trim (← capacity).toList)
    if 1 ≤ n ∧ n ≤ maxSiteCapacity then some n else none
  { siteCapacity := read.getD ({} : Config).siteCapacity
    traceBindings := trace.any fun t => !t.isEmpty && t != "0" }

end Config

def ConfigError.message : ConfigError → String
  | .zeroCapacity => "site capacity must be at least 1"
  | .capacityTooLarge capacity =>
    "site capacity " ++ toString capacity ++ " exceeds the maximum of " ++
      toString Config.maxSiteCapacity

end DynamicBinding
