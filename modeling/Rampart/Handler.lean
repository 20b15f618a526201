import Rampart.Settings.Basic
import Rampart.Statistics

/-!
# Handlers

A handler runs the phases of transactions: those of the request, those of the response, and one for
logging that runs even when the transaction is decided. It keeps what outlives a transaction: the
shared collections, the log of matches and the statistics.

The calls on a handler are steps one after the other, in whatever order the transactions make them;
that several of them can be under way at once is left out, and so are the locks. The clock is read
where a call begins and shows the same time until it ends. Of what a process writes to its event log,
only the records of matches are kept.
-/

namespace Rampart

/-- What runs the phases of transactions. -/
structure Handler where
  name : String
  rules : RuleSet
  mode : Mode
  registry : Registry
  shelf : Shelf
  log : MatchLog
  /-- The environment that transactions start with. -/
  environment : Environment
  statistics : Statistics

/-- What a clock says about the run of a phase. -/
structure Timing where
  /-- The time at which the phase is run. -/
  now : Instant
  /-- The microseconds that the run takes. -/
  elapsed : UInt64 := 0
  deriving DecidableEq, Repr

/-- The chains of a phase being run. -/
structure PhaseRun where
  exchange : Exchange
  outcome : PhaseOutcome
  /-- The records to log, oldest first. -/
  logged : List MatchRecord

/-- A handler and a transaction after a phase was run. -/
structure Handled where
  outcome : PhaseOutcome
  tx : Transaction
  handler : Handler
  /-- The records that were logged, oldest first. -/
  logged : List MatchRecord
  /-- The records that were sent to the event log of the process. -/
  events : List Event

/-- A handler and a transaction after several phases were run. -/
structure Answer where
  intervention : Option Intervention
  tx : Transaction
  handler : Handler
  logged : List MatchRecord
  events : List Event

namespace Handler

/-- The phase for logging. It is run whatever is decided, and decides nothing. -/
def loggingPhase : Nat := 5

/-- The phases of a request. -/
def requestPhases : List Nat := [1, 2]

/-- The phases of a response. -/
def responsePhases : List Nat := [3, 4]

/-- A handler of some settings, in a process with the given environment; and the errors of what was
left out. -/
def ofSettings (files : FileTree) (environment : List (String × String)) (s : Settings) :
    Handler × List Error :=
  let rules := RuleSet.ofSettings files s.rules
  let collections := Registry.ofNames s.collections.names
  ({ name := s.engine.name
     rules := rules.1
     mode := s.engine.mode
     registry := collections.1
     shelf := collections.2
     log := .empty s.rules.matchLog
     environment := if s.engine.captureEnvironment then .ofList environment else .empty
     statistics := .none }, rules.2)

/-- The handler with another environment for transactions to start with. -/
def withEnvironment (h : Handler) (entries : List (String × String)) : Handler :=
  { h with environment := .ofList entries }

/-- The engine that evaluates the chains. -/
def engine (h : Handler) : Engine := ⟨h.mode, h.rules.exceptions⟩

/-- A transaction about a request that came at the given time. -/
def newTransaction (h : Handler) (id : String) (time : Int) : Transaction × Handler :=
  ({ Transaction.new id time h.registry with environment := h.environment },
    { h with statistics := h.statistics.recordTransaction })

/-- What the id of a transaction starts with if it was not given. -/
def generatedIdStart : String := "tx-"

/-- A number in at least `width` hexadecimal digits. -/
def hexText (width n : Nat) : String :=
  let digits := Nat.toDigits 16 n
  String.ofList (List.replicate (width - digits.length) '0' ++ digits)

/-- The id of the transaction with a number, started some nanoseconds after the start of 1970. -/
def generatedId (nanoseconds number : Nat) : String :=
  generatedIdStart ++ hexText 1 nanoseconds ++ "-" ++ hexText 4 number

/-- Evaluates the chains of a phase one after the other. A chain is passed over as long as chains
are to be skipped. Outside the phase for logging, nothing follows a chain after which the
transaction is decided. -/
def runChains (e : Engine) (isLogging : Bool) : List Chain → PhaseRun → PhaseRun
  | [], run => run
  | c :: rest, run =>
    let skip := run.exchange.tx.decision.skip
    if 0 < skip then
      runChains e isLogging rest
        { run with
          exchange := run.exchange.update fun t => t.decide fun d => { d with skip := skip - 1 }
          outcome := { run.outcome with skipped := run.outcome.skipped + 1 } }
    else
      let o := e.evaluate run.exchange c
      let after : PhaseRun :=
        { exchange := o.exchange
          outcome :=
            { run.outcome with
              evaluated := run.outcome.evaluated + 1
              matched := if o.holds then run.outcome.matched + 1 else run.outcome.matched }
          logged := run.logged ++ o.logged }
      let decision := o.exchange.tx.decision
      if isLogging then runChains e isLogging rest after
      else if decision.intervention.isSome then
        { after with outcome := { after.outcome with intervention := decision.intervention } }
      else if decision.allowed then after
      else runChains e isLogging rest after

/-- The phase is run: it exists, the handler is not switched off, and the transaction is not decided
or the phase is the one for logging. -/
def runs (h : Handler) (t : Transaction) (phase : Nat) : Bool :=
  h.mode != .off && RuleSet.phases.contains phase &&
    (!t.decision.isFinal || phase == loggingPhase)

/-- Runs a phase of a transaction. What is left of the count of chains to skip does not reach the
next phase. -/
def processPhase (h : Handler) (t : Transaction) (phase : Nat) (timing : Timing) : Handled :=
  if h.runs t phase then
    let start : PhaseRun := ⟨⟨t, h.shelf, timing.now⟩, { phase := phase }, []⟩
    let run := runChains h.engine (phase == loggingPhase) (h.rules.ofPhase phase) start
    { outcome := run.outcome
      tx := run.exchange.tx.decide fun d => { d with skip := 0 }
      handler :=
        { h with
          shelf := run.exchange.shelf
          log := h.log.addAll run.logged
          statistics := h.statistics.recordPhase run.outcome timing.elapsed }
      logged := run.logged
      events := run.logged.flatMap h.log.events }
  else ⟨{ phase := phase }, t, h, [], []⟩

/-- Runs phases of a transaction up to the first one in which rules step in. -/
def processPhases (h : Handler) (t : Transaction) (timing : Timing) : List Nat → Answer
  | [] => ⟨none, t, h, [], []⟩
  | phase :: rest =>
    let run := h.processPhase t phase timing
    match run.outcome.intervention with
    | some i => ⟨some i, run.tx, run.handler, run.logged, run.events⟩
    | none =>
      let more := processPhases run.handler run.tx timing rest
      { more with logged := run.logged ++ more.logged, events := run.events ++ more.events }

/-- Runs the phases of the request. -/
def processRequest (h : Handler) (t : Transaction) (timing : Timing) : Answer :=
  h.processPhases t timing requestPhases

/-- Runs the phases of the response. -/
def processResponse (h : Handler) (t : Transaction) (timing : Timing) : Answer :=
  h.processPhases t timing responsePhases

/-- Runs the phase for logging. -/
def processLogging (h : Handler) (t : Transaction) (timing : Timing) : Handled :=
  h.processPhase t loggingPhase timing

end Handler

end Rampart
