import Rampart.Action.Basic
import Rampart.MacroText
import Rampart.Operator.Basic
import Rampart.Transform.Pipeline

/-!
# Rules

A rule inspects variables, normalises the values it finds, puts its test to them and acts on what
matches. Rules can be chained: a chain is a head and the rules that follow it, and it matches if all
of them do. Each rule knows whether it expects a successor; one that expects a successor and has
none never matches.
-/

namespace Rampart

/-- One link of a chain. -/
structure Rule where
  info : RuleInfo
  message : Option MacroText
  inspected : List Variable
  test : Test
  pipeline : Pipeline
  actions : List Action
  /-- The test is put to a value on every step of its normalisation. -/
  multiMatch : Bool
  /-- The texts that the test captures are stored. -/
  capture : Bool
  /-- The rule expects a successor. -/
  chained : Bool

/-- A rule and those that have to match after it. -/
structure Chain where
  head : Rule
  successors : List Rule

namespace Rule

/-- The actions of a stage, in the order in which they were declared. -/
def actionsOf (r : Rule) (s : Stage) : List Action := r.actions.filter fun a => a.stage == s

/-- A rule without variables is tested once, like an action that stands alone. -/
def isUnconditional (r : Rule) : Bool := r.inspected.isEmpty

/-- The message with its references replaced, if there is one. -/
def expandMessage (r : Rule) (x : Exchange) : Option String × Exchange :=
  match r.message with
  | some m =>
    let expanded := m.expand r.info x
    (some expanded.1, expanded.2)
  | none => (none, x)

/-- The target is out of force for the rule. -/
def isTargetRemoved (r : Rule) (o : Overrides) (target : String) : Bool :=
  o.removesTarget r.info.id r.info.tags target

end Rule

namespace Chain

/-- The rules of a chain, the head first. -/
def links (c : Chain) : List Rule := c.head :: c.successors

/-- The id of a chain is that of its head. -/
def id (c : Chain) : Int := c.head.info.id

/-- The phase in which a chain is evaluated is that of its head. -/
def phase (c : Chain) : Nat := c.head.info.phase

end Chain

end Rampart
