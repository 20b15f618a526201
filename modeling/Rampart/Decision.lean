import Rampart.Text.Fold

/-!
# Decisions

What rules have decided about a transaction: which rules and targets are out of force for the rest
of it, how many rules to pass over, and whether and how to step in.
-/

namespace Rampart

/-- Rules and targets that are out of force. -/
structure Overrides where
  rules : List Int := []
  /-- Ranges of rules, both ends included. -/
  ranges : List (Int × Int) := []
  targetsById : List (Int × String) := []
  targetsByTag : List (String × String) := []
  deriving DecidableEq, Repr

namespace Overrides

/-- Everything is in force. -/
def none : Overrides := {}

/-- Puts a rule out of force. -/
def removeRule (o : Overrides) (id : Int) : Overrides :=
  { o with rules := if o.rules.contains id then o.rules else o.rules ++ [id] }

/-- Puts the rules of a range out of force. -/
def removeRange (o : Overrides) (first last : Int) : Overrides :=
  { o with ranges := o.ranges ++ [(first, last)] }

/-- Puts a target out of force for a rule. -/
def removeTargetById (o : Overrides) (id : Int) (target : String) : Overrides :=
  { o with targetsById := o.targetsById ++ [(id, target)] }

/-- Puts a target out of force for every rule with a tag. -/
def removeTargetByTag (o : Overrides) (tag target : String) : Overrides :=
  { o with targetsByTag := o.targetsByTag ++ [(tag, target)] }

/-- The rule is out of force. -/
def removesRule (o : Overrides) (id : Int) : Bool :=
  o.rules.contains id || o.ranges.any fun r => decide (r.1 ≤ id) && decide (id ≤ r.2)

/-- The target is out of force for the rule with this id and these tags. -/
def removesTarget (o : Overrides) (id : Int) (tags : List String) (target : String) : Bool :=
  (o.targetsById.any fun t => t.1 == id && Text.sameText t.2 target) ||
    o.targetsByTag.any fun t => tags.contains t.1 && Text.sameText t.2 target

/-- Nothing was put out of force. -/
def isEmpty (o : Overrides) : Bool :=
  o.rules.isEmpty && o.ranges.isEmpty && o.targetsById.isEmpty && o.targetsByTag.isEmpty

@[simp] theorem removesRule_removeRange (o : Overrides) (first last id : Int) :
    (o.removeRange first last).removesRule id =
      (o.removesRule id || (decide (first ≤ id) && decide (id ≤ last))) := by
  simp [removeRange, removesRule, Bool.or_assoc]

end Overrides

/-- How to step in. -/
structure Intervention where
  ruleId : Int
  action : String
  status : Nat
  url : Option String
  message : Option String
  deriving DecidableEq, Repr

/-- What rules have decided about a transaction. -/
structure Decision where
  overrides : Overrides := {}
  intervention : Option Intervention := none
  /-- The status to answer with, if a rule has set one. -/
  status : Option Nat := none
  /-- The number of rules to pass over. -/
  skip : Nat := 0
  /-- No further rules are to be asked. -/
  allowed : Bool := false
  deriving DecidableEq, Repr

namespace Decision

/-- Nothing is decided. -/
def none : Decision := {}

/-- Steps in, unless that was decided already. -/
def intervene (d : Decision) (i : Intervention) : Decision :=
  { d with intervention := d.intervention.or (some i) }

/-- The transaction needs no further rules. -/
def isFinal (d : Decision) : Bool := d.allowed || d.intervention.isSome

/-- The first intervention is kept. -/
theorem intervention_intervene_of_some {d : Decision} {i j : Intervention}
    (h : d.intervention = some i) : (d.intervene j).intervention = some i := by
  simp [intervene, h]

end Decision

end Rampart
