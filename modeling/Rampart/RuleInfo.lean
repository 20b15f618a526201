import Rampart.Severity

/-!
# What a rule says about itself

The parts of a rule that say what it is for and how much it weighs. They select nothing and test
nothing, but variables, evidence and exceptions refer to them.
-/

namespace Rampart

/-- What a rule says about itself. -/
structure RuleInfo where
  id : Int := 0
  phase : Nat := 2
  /-- The message as it was written. -/
  rawMessage : Option String := none
  tags : List String := []
  severity : Option Severity := none
  version : Option String := none
  revision : Option String := none
  maturity : Option Nat := none
  accuracy : Option Nat := none
  deriving DecidableEq, Repr

namespace RuleInfo

/-- The rule carries the tag. -/
def hasTag (r : RuleInfo) (tag : String) : Bool := r.tags.contains tag

/-- The fields of a rule by name, with the texts of those that are set. -/
def fields (r : RuleInfo) : List (String × Option String) :=
  [("id", some (Text.decimal r.id)), ("msg", r.rawMessage), ("phase", some r.phase.repr),
    ("rev", r.revision), ("ver", r.version), ("severity", r.severity.map fun s => s.level.repr),
    ("maturity", r.maturity.map Nat.repr), ("accuracy", r.accuracy.map Nat.repr)]

end RuleInfo

end Rampart
