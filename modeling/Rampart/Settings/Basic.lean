import Rampart.Engine
import Rampart.RuleSet

/-!
# Settings

What a handler is set up from: its name and how far it goes, the collections that transactions share,
and the rules with the log of their matches.
-/

namespace Rampart

/-- The name of a handler and how far it goes. -/
structure EngineSettings where
  name : String := "r0n-waf"
  mode : Mode := .on
  /-- The environment of the process is shown to rules. -/
  captureEnvironment : Bool := false
  deriving DecidableEq, Repr

/-- The collections that transactions share. -/
structure CollectionSettings where
  names : List String := ["GLOBAL", "IP", "SESSION", "USER", "RESOURCE"]
  /-- The number of keys that each collection makes room for in advance. It is read, checked for its
  type and saved like the other settings, but changes no answer of a collection, and `Registry.ofNames`
  does not ask for it: memory has no limit here, so that making room never fails. -/
  initialCapacity : Nat := 1000
  deriving DecidableEq, Repr

/-- What a handler is set up from. -/
structure Settings where
  engine : EngineSettings := {}
  collections : CollectionSettings := {}
  rules : RuleSetSettings := {}
  deriving DecidableEq, Repr

/-- The contents of a file of rules. -/
structure RuleFile where
  rules : List RuleSettings := []
  exceptions : List ExceptionSettings := []
  removedIds : List Int := []
  deriving DecidableEq, Repr

/-- The settings with the contents of a file of rules behind their own. -/
def RuleSetSettings.merge (s : RuleSetSettings) (f : RuleFile) : RuleSetSettings :=
  { s with
    rules := s.rules ++ f.rules
    exceptions := s.exceptions ++ f.exceptions
    removedIds := s.removedIds ++ f.removedIds }

end Rampart
