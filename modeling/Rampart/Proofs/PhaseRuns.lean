import Rampart.Handler
import Rampart.Proofs.Verdicts

/-!
# The run of a phase

A phase takes the chains one after the other: it passes a chain over, or evaluates it and goes on, or
evaluates it and stops because the transaction is decided. `Runs` is this as a relation with one
constructor for each case, so that what holds of a phase is proved by induction on its steps.
-/

namespace Rampart

namespace PhaseRun

/-- The next chain is passed over. -/
def passOver (run : PhaseRun) : PhaseRun where
  exchange :=
    run.exchange.update fun t =>
      t.decide fun d => { d with skip := run.exchange.tx.decision.skip - 1 }
  outcome := { run.outcome with skipped := run.outcome.skipped + 1 }
  logged := run.logged

/-- A chain is evaluated. -/
def evaluate (e : Engine) (c : Chain) (run : PhaseRun) : PhaseRun where
  exchange := (e.evaluate run.exchange c).exchange
  outcome :=
    { run.outcome with
      evaluated := run.outcome.evaluated + 1
      matched :=
        if (e.evaluate run.exchange c).holds then run.outcome.matched + 1 else run.outcome.matched }
  logged := run.logged ++ (e.evaluate run.exchange c).logged

/-- The phase ends because the transaction is decided. -/
def stop (run : PhaseRun) : PhaseRun :=
  { run with
    outcome :=
      { run.outcome with
        intervention := run.exchange.tx.decision.intervention.or run.outcome.intervention } }

/-- The transaction of a run is decided. -/
def isDecided (run : PhaseRun) : Bool := run.exchange.tx.decision.isFinal

theorem verdict_passOver (run : PhaseRun) :
    run.passOver.exchange.tx.decision.verdict = run.exchange.tx.decision.verdict := rfl

end PhaseRun

/-- The steps of a phase over some chains. -/
inductive Runs (e : Engine) (isLogging : Bool) : List Chain → PhaseRun → PhaseRun → Prop where
  | done (run : PhaseRun) : Runs e isLogging [] run run
  | passOver {c rest run run'} (hskip : 0 < run.exchange.tx.decision.skip)
      (h : Runs e isLogging rest run.passOver run') : Runs e isLogging (c :: rest) run run'
  | goOn {c rest run run'} (hskip : run.exchange.tx.decision.skip = 0)
      (hopen : isLogging = true ∨ (run.evaluate e c).isDecided = false)
      (h : Runs e isLogging rest (run.evaluate e c) run') : Runs e isLogging (c :: rest) run run'
  | stop {c rest run} (hskip : run.exchange.tx.decision.skip = 0) (hlogging : isLogging = false)
      (hdecided : (run.evaluate e c).isDecided = true) :
      Runs e isLogging (c :: rest) run (run.evaluate e c).stop

namespace Handler

theorem runChains_passOver (e : Engine) (isLogging : Bool) (c : Chain) (rest : List Chain)
    {run : PhaseRun} (h : 0 < run.exchange.tx.decision.skip) :
    runChains e isLogging (c :: rest) run = runChains e isLogging rest run.passOver := by
  rw [runChains]
  dsimp only
  rw [if_pos h]
  rfl

theorem runChains_goOn (e : Engine) {isLogging : Bool} {c : Chain} (rest : List Chain)
    {run : PhaseRun} (h : run.exchange.tx.decision.skip = 0)
    (hopen : isLogging = true ∨ (run.evaluate e c).isDecided = false) :
    runChains e isLogging (c :: rest) run = runChains e isLogging rest (run.evaluate e c) := by
  rw [runChains]
  dsimp only
  rw [if_neg (by omega)]
  rcases hopen with rfl | hopen
  · rfl
  · obtain ⟨hallowed, hi⟩ := Bool.or_eq_false_iff.1 hopen
    change (e.evaluate run.exchange c).exchange.tx.decision.allowed = false at hallowed
    change (e.evaluate run.exchange c).exchange.tx.decision.intervention.isSome = false at hi
    rw [hallowed, hi]
    split <;> rfl

theorem runChains_stop (e : Engine) {c : Chain} (rest : List Chain) {run : PhaseRun}
    (h : run.exchange.tx.decision.skip = 0) (hdecided : (run.evaluate e c).isDecided = true) :
    runChains e false (c :: rest) run = (run.evaluate e c).stop := by
  rw [runChains]
  dsimp only
  rw [if_neg (by omega), if_neg (by decide)]
  cases hi : (e.evaluate run.exchange c).exchange.tx.decision.intervention with
  | some i =>
      rw [if_pos Option.isSome_some]
      simp only [PhaseRun.stop, PhaseRun.evaluate, hi, Option.some_or]
  | none =>
      -- nobody stepped in, so the transaction is allowed
      have hallowed : (e.evaluate run.exchange c).exchange.tx.decision.allowed = true := by
        rcases Decision.isFinal_iff.1 hdecided with hallowed | ⟨i, hsome⟩
        · exact hallowed
        · exact nomatch hi.symm.trans hsome
      rw [if_neg (by decide), if_pos hallowed]
      simp only [PhaseRun.stop, PhaseRun.evaluate, hi, Option.none_or]

/-- **A phase runs in these steps.** -/
theorem runs_runChains (e : Engine) (isLogging : Bool) (chains : List Chain) (run : PhaseRun) :
    Runs e isLogging chains run (runChains e isLogging chains run) := by
  induction chains generalizing run with
  | nil => exact .done run
  | cons c rest ih =>
      rcases Nat.eq_zero_or_pos run.exchange.tx.decision.skip with hskip | hskip
      · by_cases hopen : isLogging = true ∨ (run.evaluate e c).isDecided = false
        · rw [runChains_goOn e rest hskip hopen]
          exact .goOn hskip hopen (ih _)
        · obtain ⟨hlogging, hdecided⟩ := not_or.1 hopen
          rw [Bool.not_eq_true] at hlogging
          rw [Bool.not_eq_false] at hdecided
          subst hlogging
          rw [runChains_stop e rest hskip hdecided]
          exact .stop hskip rfl hdecided
      · rw [runChains_passOver e isLogging c rest hskip]
        exact .passOver hskip (ih _)

end Handler

/-! ## What a phase keeps -/

namespace Runs

variable {e : Engine} {isLogging : Bool} {chains : List Chain} {run run' : PhaseRun}

/-- A phase does not take back a verdict. -/
theorem keeps (h : Runs e isLogging chains run run') :
    run.exchange.tx.decision.Keeps run'.exchange.tx.decision := by
  induction h with
  | done run => exact .refl _
  | @passOver _ _ run _ _ _ ih => exact (Decision.keeps_of_verdict run.verdict_passOver).trans ih
  | @goOn c _ run _ _ _ _ ih => exact (e.keeps_evaluate run.exchange c).trans ih
  | @stop c _ run => exact e.keeps_evaluate run.exchange c

/-- A phase only adds records to those that are logged. -/
theorem logged_prefix (h : Runs e isLogging chains run run') : run.logged <+: run'.logged := by
  induction h with
  | done run => exact List.prefix_rfl
  | passOver _ _ ih => exact ih
  | goOn _ _ _ ih => exact (List.prefix_append ..).trans ih
  | stop => exact List.prefix_append ..

/-- The intervention that ends a phase is the one that the transaction has. -/
theorem intervention (h : Runs e isLogging chains run run')
    (hnone : run.outcome.intervention = none) :
    run'.outcome.intervention = none ∨
      isLogging = false ∧ run'.outcome.intervention = run'.exchange.tx.decision.intervention := by
  induction h with
  | done run => exact .inl hnone
  | passOver _ _ ih => exact ih hnone
  | goOn _ _ _ ih => exact ih hnone
  | @stop c _ run _ hlogging _ =>
      have hor : (run.evaluate e c).stop.outcome.intervention =
          (run.evaluate e c).exchange.tx.decision.intervention.or run.outcome.intervention := rfl
      rw [hnone, Option.or_none] at hor
      exact .inr ⟨hlogging, hor⟩

end Runs

namespace Handler

/-- The run of a phase before its first chain. -/
def begin (h : Handler) (t : Transaction) (phase : Nat) (timing : Timing) : PhaseRun :=
  ⟨⟨t, h.shelf, timing.now⟩, { phase := phase }, []⟩

/-- The run of a phase after its last chain. -/
def ran (h : Handler) (t : Transaction) (phase : Nat) (timing : Timing) : PhaseRun :=
  runChains h.engine (phase == loggingPhase) (h.rules.ofPhase phase) (h.begin t phase timing)

theorem runs_ran (h : Handler) (t : Transaction) (phase : Nat) (timing : Timing) :
    Runs h.engine (phase == loggingPhase) (h.rules.ofPhase phase) (h.begin t phase timing)
      (h.ran t phase timing) :=
  runs_runChains ..

/-- What is left after a phase. -/
def finish (h : Handler) (timing : Timing) (run : PhaseRun) : Handled where
  outcome := run.outcome
  tx := run.exchange.tx.decide fun d => { d with skip := 0 }
  handler :=
    { h with
      shelf := run.exchange.shelf
      log := h.log.addAll run.logged
      statistics := h.statistics.recordPhase run.outcome timing.elapsed }
  logged := run.logged
  events := run.logged.flatMap h.log.events

variable {h : Handler} {t : Transaction} {phase : Nat}

/-- A phase that is run begins, takes its chains in turn, and is finished. -/
theorem processPhase_of_runs (timing : Timing) (hruns : h.runs t phase = true) :
    h.processPhase t phase timing = h.finish timing (h.ran t phase timing) := by
  unfold processPhase
  rw [if_pos hruns]
  rfl

/-- A phase that is not run leaves everything as it is. -/
theorem processPhase_of_not_runs (timing : Timing) (hruns : h.runs t phase = false) :
    h.processPhase t phase timing = ⟨{ phase := phase }, t, h, [], []⟩ := by
  unfold processPhase
  rw [if_neg (Bool.eq_false_iff.1 hruns)]

/-- A decided transaction needs no phase but the one for logging. -/
theorem runs_of_isFinal (h : Handler) (hfinal : t.decision.isFinal = true)
    (hphase : phase ≠ loggingPhase) : h.runs t phase = false := by
  simp [runs, hfinal, hphase]

/-- A phase does not take back a verdict. -/
theorem keeps_processPhase (h : Handler) (t : Transaction) (phase : Nat) (timing : Timing) :
    t.decision.Keeps (h.processPhase t phase timing).tx.decision := by
  cases hruns : h.runs t phase with
  | false =>
      rw [processPhase_of_not_runs timing hruns]
      exact .refl _
  | true =>
      rw [processPhase_of_runs timing hruns]
      exact (h.runs_ran t phase timing).keeps.trans (Decision.keeps_of_verdict rfl)

/-- Who sees a phase end with an intervention sees it end the transaction: nothing was decided
before, and the intervention is the one that the transaction has from then on. -/
theorem intervention_processPhase {timing : Timing} {i : Intervention}
    (hi : (h.processPhase t phase timing).outcome.intervention = some i) :
    t.decision.isFinal = false ∧
      (h.processPhase t phase timing).tx.decision.intervention = some i := by
  cases hruns : h.runs t phase with
  | false =>
      rw [processPhase_of_not_runs timing hruns] at hi
      cases hi
  | true =>
      rw [processPhase_of_runs timing hruns] at hi ⊢
      rcases (h.runs_ran t phase timing).intervention rfl with hnone | ⟨hphase, hown⟩
      · exact nomatch hnone.symm.trans hi
      · refine ⟨?_, hown.symm.trans hi⟩
        rw [← Bool.not_eq_true]
        intro hfinal
        have hidle := h.runs_of_isFinal hfinal (by simpa using hphase)
        exact nomatch hidle.symm.trans hruns

/-- A handler whose first rule denies every request; another rule follows it. -/
def denying : Handler where
  name := "denying"
  rules :=
    RuleSet.empty.addAll
      [⟨{ Engine.plainRule 1 false with actions := [.disrupt .deny] }, []⟩,
        ⟨Engine.plainRule 2 false, []⟩]
  mode := .on
  registry := .empty
  shelf := .empty
  log := .empty {}
  environment := .empty
  statistics := .none

end Handler

end Rampart
