import Rampart.Proofs.PhaseRuns

/-!
# Detection as a dry run

An engine that only detects does what one that steps in does, apart from disruptive actions. These
run after everything else that a chain does to its evidence, and if one of them does anything, it
decides the transaction. So the two engines go the same way, state for state, up to the chain that
decides the transaction; there the one that steps in stops, while the other one goes on. What the
first one logs is therefore the beginning of what the second one logs, except that its last record
can say that the rule stepped in.

`Shadows` is this relation between what the two have come to, at the level of a chain, of a phase
and of several phases in turn.
-/

namespace Rampart

/-- The record as it is when nobody steps in. -/
def MatchRecord.calm (m : MatchRecord) : MatchRecord := { m with disruptive := false }

theorem MatchRecord.calm_eq_self {m : MatchRecord} (h : m.disruptive = false) : m.calm = m := by
  rw [calm, ← h]

theorem map_calm_eq_self {ms : List MatchRecord} (h : ∀ m ∈ ms, m.disruptive = false) :
    ms.map MatchRecord.calm = ms := by
  refine (List.map_congr_left fun m hm => ?_).trans (List.map_id ms)
  exact MatchRecord.calm_eq_self (h m hm)

/-! ## A chain -/

/-- Of two progresses of a chain that is being closed, the first may have been decided by disruptive
actions, and as long as it was not the two are the same. -/
structure Progress.Shadows (p q : Progress) : Prop where
  logged : p.logged.map MatchRecord.calm = q.logged
  record : p.record.calm = q.record
  same : p = q ∨ p.exchange.tx.decision.isFinal = true

namespace Progress.Shadows

variable {p q : Progress}

/-- A progress without disruptive records shadows itself. -/
theorem refl (hlogged : ∀ m ∈ p.logged, m.disruptive = false)
    (hrecord : p.record.disruptive = false) : p.Shadows p :=
  ⟨map_calm_eq_self hlogged, MatchRecord.calm_eq_self hrecord, .inl rfl⟩

theorem fullMatch (h : p.Shadows q) (r : Rule) :
    (p.runActions r (r.actionsOf .fullMatch)).Shadows
      (q.runActions r (r.actionsOf .fullMatch)) where
  logged := by
    rw [logged_runActions, logged_runActions]
    exact h.logged
  record := by
    rw [record_runActions_fullMatch, record_runActions_fullMatch]
    exact h.record
  same := by
    rcases h.same with rfl | hfinal
    · exact .inl rfl
    · exact .inr ((keeps_runActions p r _).isFinal hfinal)

theorem disruptive (h : p.Shadows q) (r : Rule) :
    (p.runActions r (r.actionsOf .disruptive)).Shadows q := by
  unfold Progress.runActions
  refine List.foldlRecOn (motive := fun p : Progress => p.Shadows q) _ _ h ?_
  intro p h a ha
  dsimp only
  rcases Action.run_of_disruptive (stage_of_mem_actionsOf ha) r.info p.exchange p.record with
    heq | ⟨hrecord, hfinal, _⟩
  · rw [heq]
    exact h
  · refine ⟨h.logged, ?_, .inr hfinal⟩
    rw [hrecord]
    exact h.record

theorem log (h : p.Shadows q) : (p.log true).Shadows (q.log true) where
  logged := by
    have hlast : ({ p.record with isFinal := true } : MatchRecord).calm =
        { q.record with isFinal := true } := by
      rw [← h.record]
      rfl
    unfold Progress.log
    rw [List.map_append, h.logged, List.map_singleton, hlast]
  record := h.record
  same := by
    rcases h.same with rfl | hfinal
    · exact .inl rfl
    · exact .inr hfinal

end Progress.Shadows

namespace Engine

/-- The engine that steps in, with some exceptions. -/
def real (exceptions : Exceptions) : Engine := ⟨.on, exceptions⟩

/-- The engine that only detects, with the same exceptions. -/
def dry (exceptions : Exceptions) : Engine := ⟨.detectionOnly, exceptions⟩

variable (exceptions : Exceptions)

/-- The rules of a chain are evaluated in the same way. -/
theorem evaluateLinks_real (r : Rule) (rest : List Rule) (p : Progress) :
    (real exceptions).evaluateLinks r rest p = (dry exceptions).evaluateLinks r rest p := by
  induction rest generalizing r p with
  | nil => rfl
  | cons next more ih =>
      rw [evaluateLinks, evaluateLinks]
      simp only [ih]
      rfl

theorem shadows_runClosing {p q : Progress} (h : p.Shadows q) (r : Rule) :
    ((real exceptions).runClosing p r).Shadows ((dry exceptions).runClosing q r) :=
  (h.fullMatch r).disruptive r

/-- Closing a chain of which no record is disruptive so far. -/
theorem shadows_close {p : Progress} (hlogged : ∀ m ∈ p.logged, m.disruptive = false)
    (hrecord : p.record.disruptive = false) (head : Rule) (matched : List Rule) :
    ((real exceptions).close head matched p).Shadows ((dry exceptions).close head matched p) := by
  have closing (rules : List Rule) {p q : Progress} (h : p.Shadows q) :
      (rules.foldl (real exceptions).runClosing p).Shadows
        (rules.foldl (dry exceptions).runClosing q) := by
    induction rules generalizing p q with
    | nil => exact h
    | cons r rules ih => exact ih (shadows_runClosing exceptions h r)
  have hmessage : (p.takeMessage head).Shadows (p.takeMessage head) := .refl hlogged hrecord
  exact (closing matched.reverse hmessage).log

/-- **A chain**: what is logged is the same but for who stepped in, and unless the chain decides the
transaction, all that comes of it is the same. -/
theorem shadows_evaluate (x : Exchange) (c : Chain) :
    ((real exceptions).evaluate x c).logged.map MatchRecord.calm =
        ((dry exceptions).evaluate x c).logged ∧
      ((real exceptions).evaluate x c = (dry exceptions).evaluate x c ∨
        ((real exceptions).evaluate x c).exchange.tx.decision.isFinal = true) := by
  have hreal : (real exceptions).mode ≠ .off := nofun
  have hdry : (dry exceptions).mode ≠ .off := nofun
  unfold evaluate
  rw [if_neg hreal, if_neg hdry, evaluateLinks_real]
  by_cases hout : x.tx.decision.overrides.removesRule c.id = true
  · rw [if_pos hout, if_pos hout]
    exact ⟨rfl, .inl rfl⟩
  · rw [if_neg hout, if_neg hout]
    dsimp only
    have hlinks := (dry exceptions).advance_evaluateLinks c.head c.successors (.start x c)
    have hcalm (m) (hm : m ∈ ((dry exceptions).evaluateLinks c.head c.successors
        (.start x c)).2.logged) : m.disruptive = false := by
      obtain ⟨more, hlogged, hmore⟩ := hlinks.logged
      rw [hlogged] at hm
      exact (hmore m hm).2
    split
    · rename_i matched _
      have hclose := shadows_close exceptions hcalm hlinks.disruptive c.head matched
      refine ⟨hclose.logged, ?_⟩
      rcases hclose.same with heq | hfinal
      · rw [heq]
        exact .inl rfl
      · exact .inr hfinal
    · exact ⟨map_calm_eq_self hcalm, .inl rfl⟩

end Engine

/-! ## A phase -/

/-- What a run that steps in has come to, beside what the dry run has come to: the dry run has logged
at least as much, and they are the same as long as the transaction is not decided. -/
structure PhaseRun.Shadows (p q : PhaseRun) : Prop where
  logged : p.logged.map MatchRecord.calm <+: q.logged
  same : p.isDecided = false → p.exchange = q.exchange ∧ p.logged.map MatchRecord.calm = q.logged

/-- Two runs that are the same evaluate the same chain. -/
theorem PhaseRun.shadows_evaluate (exceptions : Exceptions) (c : Chain) {p q : PhaseRun}
    (hexchange : p.exchange = q.exchange) (hlogged : p.logged.map MatchRecord.calm = q.logged) :
    (p.evaluate (.real exceptions) c).logged.map MatchRecord.calm =
        (q.evaluate (.dry exceptions) c).logged ∧
      ((p.evaluate (.real exceptions) c).isDecided = false →
        (p.evaluate (.real exceptions) c).exchange = (q.evaluate (.dry exceptions) c).exchange) := by
  obtain ⟨hmore, hsame⟩ := Engine.shadows_evaluate exceptions p.exchange c
  unfold PhaseRun.evaluate PhaseRun.isDecided
  dsimp only
  rw [List.map_append, hlogged, hmore, ← hexchange]
  refine ⟨rfl, fun hopen => ?_⟩
  rcases hsame with heq | hfinal
  · rw [heq]
  · exact nomatch hopen.symm.trans hfinal

namespace Runs

/-- A phase reaches no verdict if the engine may not step in. -/
theorem verdict {e : Engine} (he : e.mode ≠ .on) {isLogging : Bool} {chains : List Chain}
    {run run' : PhaseRun} (h : Runs e isLogging chains run run') :
    run'.exchange.tx.decision.verdict = run.exchange.tx.decision.verdict := by
  induction h with
  | done run => rfl
  | @passOver _ _ run _ _ _ ih => exact ih.trans run.verdict_passOver
  | @goOn c _ run _ _ _ _ ih => exact ih.trans (e.verdict_evaluate he run.exchange c)
  | @stop c _ run => exact e.verdict_evaluate he run.exchange c

variable {exceptions : Exceptions} {chains : List Chain} {p p' q : PhaseRun}

/-- **A phase**: the dry run shadows the run that steps in. -/
theorem shadows (h : Runs (.real exceptions) false chains p p') (hopen : p.isDecided = false)
    (hpq : p.Shadows q) : p'.Shadows (Handler.runChains (.dry exceptions) false chains q) := by
  induction h generalizing q with
  | done run => exact hpq
  | @passOver c rest run _ hskip _ ih =>
      obtain ⟨hexchange, hlogged⟩ := hpq.same hopen
      have hskip' : 0 < q.exchange.tx.decision.skip := hexchange ▸ hskip
      rw [Handler.runChains_passOver _ _ c rest hskip']
      refine ih hopen ⟨hpq.logged, fun _ => ⟨?_, hlogged⟩⟩
      rw [PhaseRun.passOver, PhaseRun.passOver, hexchange]
  | @goOn c rest run _ hskip hgo _ ih =>
      obtain ⟨hexchange, hlogged⟩ := hpq.same hopen
      obtain ⟨hlogged', hexchange'⟩ := PhaseRun.shadows_evaluate exceptions c hexchange hlogged
      have hopen' := hgo.resolve_left nofun
      have hskip' : q.exchange.tx.decision.skip = 0 := hexchange ▸ hskip
      have hgo' : (q.evaluate (.dry exceptions) c).isDecided = false := by
        rw [PhaseRun.isDecided, ← hexchange' hopen']
        exact hopen'
      rw [Handler.runChains_goOn _ rest hskip' (.inr hgo')]
      exact ih hopen' ⟨hlogged' ▸ List.prefix_rfl, fun _ => ⟨hexchange' hopen', hlogged'⟩⟩
  | @stop c rest run hskip _ hdecided =>
      obtain ⟨hexchange, hlogged⟩ := hpq.same hopen
      obtain ⟨hlogged', _⟩ := PhaseRun.shadows_evaluate exceptions c hexchange hlogged
      have hskip' : q.exchange.tx.decision.skip = 0 := hexchange ▸ hskip
      -- here the run that steps in stops, and the dry run goes on
      have hgo' : (q.evaluate (.dry exceptions) c).isDecided = false := by
        have hverdict := Engine.verdict_evaluate (e := .dry exceptions) nofun q.exchange c
        have hopen' : q.isDecided = false := by
          rw [PhaseRun.isDecided, ← hexchange]
          exact hopen
        exact (Decision.isFinal_of_verdict hverdict).trans hopen'
      rw [Handler.runChains_goOn _ rest hskip' (.inr hgo')]
      refine ⟨?_, fun hno => ?_⟩
      · have hmore := Handler.runs_runChains (.dry exceptions) false rest
          (q.evaluate (.dry exceptions) c)
        have hsofar : (run.evaluate (.real exceptions) c).stop.logged.map MatchRecord.calm <+:
            (q.evaluate (.dry exceptions) c).logged := hlogged' ▸ List.prefix_rfl
        exact hsofar.trans hmore.logged_prefix
      · exact nomatch hno.symm.trans hdecided

end Runs

/-! ## Several phases -/

/-- A transaction, its handler and what has been logged. -/
structure Trail where
  tx : Transaction
  handler : Handler
  logged : List MatchRecord

/-- What a phase leaves. -/
def Handled.trail (a : Handled) : Trail := ⟨a.tx, a.handler, a.logged⟩

/-- What several phases leave. -/
def Answer.trail (a : Answer) : Trail := ⟨a.tx, a.handler, a.logged⟩

/-- What is left after more has been done. -/
def Trail.append (a b : Trail) : Trail := ⟨b.tx, b.handler, a.logged ++ b.logged⟩

theorem Trail.append_nothing (a : Trail) : a.append ⟨a.tx, a.handler, []⟩ = a := by
  rw [append, List.append_nil]

/-- The handlers have the same rules and the same shared collections, and only the first one steps
in. -/
structure Handler.Twins (h h' : Handler) : Prop where
  real : h.mode = .on
  dry : h'.mode = .detectionOnly
  rules : h.rules = h'.rules
  shelf : h.shelf = h'.shelf

/-- What a run that steps in has left, beside what the dry run has left. -/
structure Trail.Shadows (a b : Trail) : Prop where
  logged : a.logged.map MatchRecord.calm <+: b.logged
  same : a.tx.decision.isFinal = false →
    a.tx = b.tx ∧ a.handler.Twins b.handler ∧ a.logged.map MatchRecord.calm = b.logged

/-- Once the transaction is decided, only the dry run does more. -/
theorem Trail.Shadows.decided {a b : Trail} (h : a.Shadows b) (hfinal : a.tx.decision.isFinal = true)
    (more : Trail) : a.Shadows (b.append more) :=
  ⟨h.logged.trans (List.prefix_append ..), fun hopen => nomatch hopen.symm.trans hfinal⟩

/-- Until then the runs go on side by side. -/
theorem Trail.Shadows.append {a b a' b' : Trail} (h : a.Shadows b)
    (hopen : a.tx.decision.isFinal = false) (h' : a'.Shadows b') :
    (a.append a').Shadows (b.append b') := by
  obtain ⟨_, _, hlogged⟩ := h.same hopen
  refine ⟨?_, fun hopen' => ?_⟩
  · obtain ⟨more, hmore⟩ := h'.logged
    exact ⟨more, by simp only [Trail.append, List.map_append, hlogged, ← hmore, List.append_assoc]⟩
  · obtain ⟨htx, htwins, hlogged'⟩ := h'.same hopen'
    exact ⟨htx, htwins, by simp only [Trail.append, List.map_append, hlogged, hlogged']⟩

namespace Handler

variable {h h' : Handler} {t : Transaction}

theorem Twins.engines (htwins : h.Twins h') :
    h.engine = .real h.rules.exceptions ∧ h'.engine = .dry h.rules.exceptions := by
  refine ⟨?_, ?_⟩
  · rw [engine, htwins.real]
    rfl
  · rw [engine, htwins.dry, ← htwins.rules]
    rfl

theorem Twins.runs (htwins : h.Twins h') (t : Transaction) (phase : Nat) :
    h.runs t phase = h'.runs t phase := by
  rw [Handler.runs, Handler.runs, htwins.real, htwins.dry]
  rfl

/-- **A phase of a handler.** -/
theorem shadows_processPhase (htwins : h.Twins h') (hopen : t.decision.isFinal = false)
    {phase : Nat} (hphase : phase ≠ loggingPhase) (timing : Timing) :
    (h.processPhase t phase timing).trail.Shadows (h'.processPhase t phase timing).trail := by
  cases hruns : h.runs t phase with
  | false =>
      rw [processPhase_of_not_runs timing hruns,
        processPhase_of_not_runs timing ((htwins.runs t phase).symm.trans hruns)]
      exact ⟨List.prefix_rfl, fun _ => ⟨rfl, htwins, rfl⟩⟩
  | true =>
      rw [processPhase_of_runs timing hruns,
        processPhase_of_runs timing ((htwins.runs t phase).symm.trans hruns)]
      have hlogging : (phase == loggingPhase) = false := by simpa using hphase
      rw [ran, ran, htwins.engines.1, htwins.engines.2, ← htwins.rules, hlogging]
      have hstart : (h.begin t phase timing).Shadows (h'.begin t phase timing) :=
        ⟨List.prefix_rfl, fun _ => ⟨by rw [begin, begin, htwins.shelf], rfl⟩⟩
      have hrun := (runs_runChains (.real h.rules.exceptions) false (h.rules.ofPhase phase)
        (h.begin t phase timing)).shadows hopen hstart
      refine ⟨hrun.logged, fun hopen' => ?_⟩
      obtain ⟨hexchange, hlogged⟩ := hrun.same hopen'
      refine ⟨?_, ⟨htwins.real, htwins.dry, htwins.rules, ?_⟩, hlogged⟩
      · exact congrArg (fun x : Exchange => x.tx.decide fun d => { d with skip := 0 }) hexchange
      · exact congrArg Exchange.shelf hexchange

/-- A handler that may not step in reaches no verdict. -/
theorem verdict_processPhase (hmode : h.mode ≠ .on) (t : Transaction) (phase : Nat)
    (timing : Timing) :
    (h.processPhase t phase timing).tx.decision.verdict = t.decision.verdict := by
  cases hruns : h.runs t phase with
  | false => rw [processPhase_of_not_runs timing hruns]
  | true =>
      rw [processPhase_of_runs timing hruns]
      exact (h.runs_ran t phase timing).verdict hmode

theorem mode_processPhase (h : Handler) (t : Transaction) (phase : Nat) (timing : Timing) :
    (h.processPhase t phase timing).handler.mode = h.mode := by
  unfold processPhase
  split <;> rfl

/-- A handler that may not step in does not do so in several phases either. -/
theorem verdict_processPhases (hmode : h.mode ≠ .on) (hopen : t.decision.isFinal = false)
    (timing : Timing) (phases : List Nat) :
    (h.processPhases t timing phases).intervention = none ∧
      (h.processPhases t timing phases).tx.decision.verdict = t.decision.verdict ∧
      (h.processPhases t timing phases).handler.mode = h.mode := by
  induction phases generalizing h t with
  | nil => exact ⟨rfl, rfl, rfl⟩
  | cons phase rest ih =>
      have hverdict := h.verdict_processPhase hmode t phase timing
      have hopen' := (Decision.isFinal_of_verdict hverdict).trans hopen
      have hmode' := h.mode_processPhase t phase timing
      rw [processPhases]
      dsimp only
      cases hi : (h.processPhase t phase timing).outcome.intervention with
      | some i =>
          -- an intervention would have been a verdict
          have hfinal := Decision.isFinal_iff.2 (.inr ⟨i, (intervention_processPhase hi).2⟩)
          exact nomatch hopen'.symm.trans hfinal
      | none =>
          obtain ⟨hnone, hverdict', hmode''⟩ := ih (hmode' ▸ hmode) hopen'
          exact ⟨hnone, hverdict'.trans hverdict, hmode''.trans hmode'⟩

/-- A decided transaction is left alone by every phase but the one for logging. -/
theorem processPhases_of_isFinal (h : Handler) (hfinal : t.decision.isFinal = true)
    (timing : Timing) {phases : List Nat} (hphases : loggingPhase ∉ phases) :
    h.processPhases t timing phases = ⟨none, t, h, [], []⟩ := by
  induction phases with
  | nil => rfl
  | cons phase rest ih =>
      obtain ⟨hphase, hrest⟩ := not_or.1 (mt List.mem_cons.2 hphases)
      have hidle := h.runs_of_isFinal hfinal (Ne.symm hphase)
      rw [processPhases, processPhase_of_not_runs timing hidle, ih hrest]
      rfl

section Cons

variable {phase : Nat} {rest : List Nat} {timing : Timing}

/-- Nothing follows the phase in which the transaction is decided. -/
theorem trail_of_isFinal (hfinal : (h.processPhase t phase timing).tx.decision.isFinal = true)
    (hrest : loggingPhase ∉ rest) :
    (h.processPhases t timing (phase :: rest)).trail = (h.processPhase t phase timing).trail := by
  rw [processPhases]
  dsimp only
  cases (h.processPhase t phase timing).outcome.intervention with
  | some i => rfl
  | none =>
      rw [processPhases_of_isFinal _ hfinal timing hrest]
      exact Trail.append_nothing (h.processPhase t phase timing).trail

/-- A phase that does not decide the transaction is followed by the others. -/
theorem trail_of_not_isFinal
    (hopen : (h.processPhase t phase timing).tx.decision.isFinal = false) :
    (h.processPhases t timing (phase :: rest)).trail =
      (h.processPhase t phase timing).trail.append
        ((h.processPhase t phase timing).handler.processPhases
          (h.processPhase t phase timing).tx timing rest).trail := by
  rw [processPhases]
  dsimp only
  cases hi : (h.processPhase t phase timing).outcome.intervention with
  | some i =>
      have hfinal := Decision.isFinal_iff.2 (.inr ⟨i, (intervention_processPhase hi).2⟩)
      exact nomatch hopen.symm.trans hfinal
  | none => rfl

end Cons

/-- **Several phases.** -/
theorem shadows_processPhases (htwins : h.Twins h') (hopen : t.decision.isFinal = false)
    (timing : Timing) (phases : List Nat) (hphases : loggingPhase ∉ phases) :
    (h.processPhases t timing phases).trail.Shadows (h'.processPhases t timing phases).trail := by
  induction phases generalizing h h' t with
  | nil => exact ⟨List.prefix_rfl, fun _ => ⟨rfl, htwins, rfl⟩⟩
  | cons phase rest ih =>
      obtain ⟨hphase, hrest⟩ := not_or.1 (mt List.mem_cons.2 hphases)
      have hfirst := shadows_processPhase htwins hopen (Ne.symm hphase) timing
      have hdry : h'.mode ≠ .on := by
        rw [htwins.dry]
        decide
      have hverdict := h'.verdict_processPhase hdry t phase timing
      rw [trail_of_not_isFinal (h := h') ((Decision.isFinal_of_verdict hverdict).trans hopen)]
      cases hdecided : (h.processPhase t phase timing).tx.decision.isFinal with
      | true =>
          rw [trail_of_isFinal hdecided hrest]
          exact hfirst.decided hdecided _
      | false =>
          obtain ⟨htx, htwins', _⟩ := hfirst.same hdecided
          have hlater := ih htwins' hdecided hrest
          rw [trail_of_not_isFinal hdecided]
          change (h.processPhase t phase timing).tx = (h'.processPhase t phase timing).tx at htx
          rw [← htx]
          exact hfirst.append hdecided hlater

/-! ## Request and response -/

/-- Runs the phases of the request and then those of the response, whatever came of the first. -/
def serve (h : Handler) (t : Transaction) (asked answered : Timing) : Trail :=
  let request := h.processRequest t asked
  request.trail.append (request.handler.processResponse request.tx answered).trail

/-- There is nothing to do for the response if the request has decided the transaction. -/
theorem serve_of_isFinal {asked answered : Timing}
    (hfinal : (h.processRequest t asked).tx.decision.isFinal = true) :
    h.serve t asked answered = (h.processRequest t asked).trail := by
  have hphases : loggingPhase ∉ responsePhases := by decide
  unfold serve
  dsimp only
  rw [processResponse, processPhases_of_isFinal _ hfinal answered hphases]
  exact Trail.append_nothing (h.processRequest t asked).trail

theorem shadows_serve (htwins : h.Twins h') (hopen : t.decision.isFinal = false)
    (asked answered : Timing) :
    (h.serve t asked answered).Shadows (h'.serve t asked answered) := by
  have hrequest : (h.processRequest t asked).trail.Shadows (h'.processRequest t asked).trail :=
    shadows_processPhases htwins hopen asked requestPhases (by decide)
  cases hdecided : (h.processRequest t asked).tx.decision.isFinal with
  | true =>
      rw [serve_of_isFinal hdecided]
      exact hrequest.decided hdecided _
  | false =>
      obtain ⟨htx, htwins', _⟩ := hrequest.same hdecided
      have hresponse := shadows_processPhases htwins' hdecided answered responsePhases (by decide)
      change (h.processRequest t asked).tx = (h'.processRequest t asked).tx at htx
      unfold serve
      dsimp only
      rw [← htx]
      exact hrequest.append hdecided hresponse

/-- Request and response are decided by nobody if the handler may not step in. -/
theorem verdict_serve (hmode : h.mode ≠ .on) (hopen : t.decision.isFinal = false)
    (asked answered : Timing) :
    (h.serve t asked answered).tx.decision.verdict = t.decision.verdict := by
  obtain ⟨_, hrequest, hmode'⟩ := verdict_processPhases hmode hopen asked requestPhases
  have hopen' := (Decision.isFinal_of_verdict hrequest).trans hopen
  obtain ⟨_, hresponse, _⟩ := verdict_processPhases (hmode'.symm ▸ hmode) hopen' answered
    responsePhases
  exact hresponse.trans hrequest

/--
**Detection is a dry run.**

Take a transaction about which nothing is decided, and run its request and its response in a handler
that steps in and in one that only detects. What the first one logs, apart from its saying that rules
stepped in, is the beginning of what the second one logs, and all of it if the transaction ends
undecided. The second one never steps in and never allows.
-/
theorem detection_is_dry_run (h : Handler) (t : Transaction) (asked answered : Timing)
    (hopen : t.decision.isFinal = false) :
    let real := { h with mode := .on }.serve t asked answered
    let dry := { h with mode := .detectionOnly }.serve t asked answered
    real.logged.map MatchRecord.calm <+: dry.logged ∧
    (real.tx.decision.isFinal = false → real.logged.map MatchRecord.calm = dry.logged) ∧
    dry.tx.decision.intervention = none ∧ dry.tx.decision.allowed = false := by
  have htwins : Twins { h with mode := .on } { h with mode := .detectionOnly } :=
    ⟨rfl, rfl, rfl, rfl⟩
  have hshadows := shadows_serve htwins hopen asked answered
  have hdry : { h with mode := .detectionOnly }.mode ≠ .on := nofun
  have hverdict := (verdict_serve hdry hopen asked answered).trans
    (Decision.verdict_of_not_isFinal hopen)
  refine ⟨hshadows.logged, fun hno => (hshadows.same hno).2.2, ?_⟩
  exact ⟨congrArg Prod.fst hverdict, congrArg Prod.snd hverdict⟩

/-- The handler that steps in stops at its first rule, the dry run does not. -/
theorem detection_is_dry_run_denying :
    (Transaction.new "t" 0 .empty).decision.isFinal = false ∧
    ((denying.serve (.new "t" 0 .empty) ⟨0, 0⟩ ⟨1, 0⟩).logged.map MatchRecord.calm).length = 1 ∧
    ({ denying with mode := .detectionOnly }.serve (.new "t" 0 .empty) ⟨0, 0⟩ ⟨1, 0⟩).logged.length
      = 2 ∧
    (denying.serve (.new "t" 0 .empty) ⟨0, 0⟩ ⟨1, 0⟩).logged.map MatchRecord.calm <+:
      ({ denying with mode := .detectionOnly }.serve (.new "t" 0 .empty) ⟨0, 0⟩ ⟨1, 0⟩).logged := by
  have hdry := detection_is_dry_run denying (.new "t" 0 .empty) ⟨0, 0⟩ ⟨1, 0⟩ rfl
  exact ⟨rfl, by decide, by decide, hdry.1⟩

end Handler

end Rampart
