import Rampart.Decision
import Rampart.Text.FixedPoint

/-!
# Statistics

What became of the phases that were run. The counters are words of 64 bits.
-/

namespace Rampart

/-- What became of one phase of a transaction. -/
structure PhaseOutcome where
  phase : Nat
  /-- Chains that were evaluated. -/
  evaluated : Nat := 0
  /-- Chains that held. -/
  matched : Nat := 0
  /-- Chains that were passed over. -/
  skipped : Nat := 0
  /-- What ended the phase, if rules stepped in. -/
  intervention : Option Intervention := none
  deriving DecidableEq, Repr

/-- Counters over all transactions. -/
structure Statistics where
  transactions : UInt64 := 0
  phases : UInt64 := 0
  evaluated : UInt64 := 0
  matched : UInt64 := 0
  skipped : UInt64 := 0
  interventions : UInt64 := 0
  /-- The time that phases took, in microseconds. -/
  phaseTime : UInt64 := 0
  deriving DecidableEq, Repr

namespace Statistics

/-- Nothing is counted. -/
def none : Statistics := {}

/-- Counts a transaction. -/
def recordTransaction (s : Statistics) : Statistics := { s with transactions := s.transactions + 1 }

/-- Counts a phase that took some microseconds. -/
def recordPhase (s : Statistics) (o : PhaseOutcome) (elapsed : UInt64) : Statistics where
  transactions := s.transactions
  phases := s.phases + 1
  evaluated := s.evaluated + .ofNat o.evaluated
  matched := s.matched + .ofNat o.matched
  skipped := s.skipped + .ofNat o.skipped
  interventions := if o.intervention.isSome then s.interventions + 1 else s.interventions
  phaseTime := s.phaseTime + elapsed

/-- The average time of a phase in microseconds, or 0 where there was none. -/
def averagePhaseTime (s : Statistics) : UInt64 := if s.phases = 0 then 0 else s.phaseTime / s.phases

/-- The interventions for every hundred transactions, or 0 where there was none. -/
def interventionRate (s : Statistics) : Float :=
  if s.transactions = 0 then 0 else s.interventions.toFloat / s.transactions.toFloat * 100

/-- The number of decimals of a rate. -/
def rateDecimals : Nat := 6

/-- The rate of interventions as it is shown. -/
def interventionRateText (s : Statistics) : String :=
  Text.fixedPoint rateDecimals s.interventionRate

end Statistics

end Rampart
