import Rampart.Text.Fold
import Rampart.Text.Numeral

/-!
# Severities

How severe a match is, on the scale of system logs: the lower the level, the more severe.
-/

namespace Rampart

/-- A severity. -/
inductive Severity where
  | emergency
  | alert
  | critical
  | error
  | warning
  | notice
  | info
  | debug
  deriving DecidableEq, Repr

namespace Severity

/-- Every severity, the most severe first. -/
def all : List Severity := [emergency, alert, critical, error, warning, notice, info, debug]

/-- The level of a severity, 0 being the most severe. -/
def level : Severity → Nat
  | emergency => 0
  | alert => 1
  | critical => 2
  | error => 3
  | warning => 4
  | notice => 5
  | info => 6
  | debug => 7

/-- The name of a severity. -/
def name : Severity → String
  | emergency => "EMERGENCY"
  | alert => "ALERT"
  | critical => "CRITICAL"
  | error => "ERROR"
  | warning => "WARNING"
  | notice => "NOTICE"
  | info => "INFO"
  | debug => "DEBUG"

/-- The severity of a level or of a name in any case. -/
def ofText? (s : String) : Option Severity :=
  match Text.natural? 10 18446744073709551615 s.toList with
  | some level => all[level]?
  | none => all.find? fun v => Text.sameText v.name s

/-- A severity is at least as severe as another. -/
def atLeast (a b : Severity) : Bool := decide (a.level ≤ b.level)

end Severity

end Rampart
