import Rampart.Text.Numeral

/-!
# Settings of rules

Rules as they are declared, before anything in them is read: a head and the links that follow it,
each with texts for its variables, its operator and its actions.
-/

namespace Rampart

/-- The declaration of one link of a rule. -/
structure LinkSettings where
  id : Int := 0
  phase : Option Nat := none
  message : Option String := none
  tags : List String := []
  /-- References to the variables to inspect. -/
  references : List String := []
  operator : String := "@unconditionalMatch"
  actions : List String := []
  /-- The link expects a successor, whether one is declared or not. -/
  chained : Bool := false
  deriving DecidableEq, Repr

/-- The declaration of a rule. -/
structure RuleSettings where
  head : LinkSettings := {}
  successors : List LinkSettings := []
  deriving DecidableEq, Repr

namespace LinkSettings

/-- The id that an action declares. The number can stand between single quotes. -/
def idOfAction? (action : String) : Option Int :=
  match Text.trimChars action.toList with
  | 'i' :: 'd' :: ':' :: rest =>
    let unquoted := ((Text.trimChars rest).dropWhile (· == '\'')).reverse.dropWhile (· == '\'')
    Text.integer? unquoted.reverse
  | _ => none

/-- The id by which errors name the rule: that of the first action that declares one, or the one of
the declaration itself. -/
def declaredId (s : LinkSettings) : Int := (s.actions.findSome? idOfAction?).getD s.id

end LinkSettings

namespace RuleSettings

/-- The head and the links that follow it. -/
def links (s : RuleSettings) : List LinkSettings := s.head :: s.successors

/-- The id by which errors name the rule. -/
def declaredId (s : RuleSettings) : Int := s.head.declaredId

end RuleSettings

end Rampart
