import Rampart.Proofs.PhaseRuns

/-!
# Chains that are passed over

The chains of a phase take turns: each is passed over or evaluated, up to one that ends the phase. An action
sets how many of the next chains are passed over, and so may whatever ran before the phase. Both are told by
the same fact: the turns that are left of a phase start with those that are passed over, as many as the
transaction asks for at this point.
-/

namespace Rampart

/-- The turn of a chain in a phase. -/
structure Turn where
  chain : Chain
  before : PhaseRun
  passedOver : Bool
  after : PhaseRun

namespace Turn

/-- The phase ends with this turn: its chain was evaluated, not for logging, and the transaction is decided. -/
def ends (isLogging : Bool) (turn : Turn) : Bool :=
  !isLogging && !turn.passedOver && turn.after.isDecided

/-- The chain was evaluated and holds. -/
def holds (e : Engine) (turn : Turn) : Bool :=
  !turn.passedOver && (e.evaluate turn.before.exchange turn.chain).holds

end Turn

namespace PhaseRun

/-- The turn that a chain takes next. -/
def turn (e : Engine) (c : Chain) (run : PhaseRun) : Turn :=
  if 0 < run.exchange.tx.decision.skip then ⟨c, run, true, run.passOver⟩
  else ⟨c, run, false, run.evaluate e c⟩

/-- The turns that chains take. -/
def turns (e : Engine) (isLogging : Bool) : List Chain → PhaseRun → List Turn
  | [], _ => []
  | c :: rest, run =>
    let turn := run.turn e c
    turn :: if turn.ends isLogging then [] else turns e isLogging rest turn.after

theorem turns_cons {e : Engine} {isLogging : Bool} {c : Chain} {rest : List Chain} {run : PhaseRun} :
    turns e isLogging (c :: rest) run =
      run.turn e c ::
        if (run.turn e c).ends isLogging then [] else turns e isLogging rest (run.turn e c).after := rfl

/-- The run after some turns. -/
def afterAll (run : PhaseRun) (turns : List Turn) : PhaseRun :=
  turns.foldl (fun _ turn => turn.after) run

variable {e : Engine} {c : Chain} {run : PhaseRun}

/-! ## One turn -/

theorem turn_of_pos (h : 0 < run.exchange.tx.decision.skip) :
    run.turn e c = ⟨c, run, true, run.passOver⟩ := if_pos h

theorem turn_of_zero (h : run.exchange.tx.decision.skip = 0) :
    run.turn e c = ⟨c, run, false, run.evaluate e c⟩ := if_neg (by omega)

@[simp] theorem chain_turn : (run.turn e c).chain = c := by
  unfold turn
  split <;> rfl

@[simp] theorem before_turn : (run.turn e c).before = run := by
  unfold turn
  split <;> rfl

theorem passedOver_turn : (run.turn e c).passedOver = decide (0 < run.exchange.tx.decision.skip) := by
  unfold turn
  split
  · exact (decide_eq_true ‹_›).symm
  · exact (decide_eq_false ‹_›).symm

/-- A chain that is passed over takes one from the count of those to pass over, and changes nothing else. -/
theorem after_turn_of_passedOver (h : (run.turn e c).passedOver = true) :
    0 < run.exchange.tx.decision.skip ∧
      (run.turn e c).after.exchange =
        run.exchange.update (fun t => t.decide fun d => { d with skip := d.skip - 1 }) ∧
      (run.turn e c).after.logged = run.logged := by
  have hskip := of_decide_eq_true (passedOver_turn.symm.trans h)
  rw [turn_of_pos hskip]
  exact ⟨hskip, rfl, rfl⟩

/-- A chain that is evaluated changes what the engine changes. -/
theorem after_turn_of_evaluated (h : (run.turn e c).passedOver = false) :
    run.exchange.tx.decision.skip = 0 ∧
      (run.turn e c).after.exchange = (e.evaluate run.exchange c).exchange ∧
      (run.turn e c).after.logged = run.logged ++ (e.evaluate run.exchange c).logged := by
  have hskip := of_decide_eq_false (passedOver_turn.symm.trans h)
  rw [turn_of_zero (by omega)]
  exact ⟨by omega, rfl, rfl⟩

/-- A turn that does not end the phase leaves the transaction as open as it was. -/
theorem isDecided_after_turn (hopen : run.isDecided = false) :
    (run.turn e c).after.isDecided = (run.turn e c).ends false := by
  unfold turn Turn.ends
  split
  · exact (Decision.isFinal_of_verdict run.verdict_passOver).trans hopen
  · rfl

end PhaseRun

/-- The counters of an outcome after some turns. -/
def PhaseOutcome.count (e : Engine) (turns : List Turn) (o : PhaseOutcome) : PhaseOutcome :=
  { o with
    evaluated := o.evaluated + turns.countP (!·.passedOver)
    matched := o.matched + turns.countP (Turn.holds e)
    skipped := o.skipped + turns.countP (·.passedOver) }

namespace PhaseOutcome

variable {e : Engine} {o : PhaseOutcome} {turn : Turn} {turns : List Turn}

theorem count_cons : o.count e (turn :: turns) = (o.count e [turn]).count e turns := by
  simp only [count, List.countP_cons, List.countP_nil, mk.injEq, true_and, and_true]
  refine ⟨?_, ?_, ?_⟩ <;> omega

/-- No more chains hold than are evaluated. -/
theorem countP_holds_le (e : Engine) (turns : List Turn) :
    turns.countP (Turn.holds e) ≤ turns.countP (!·.passedOver) :=
  List.countP_mono_left fun _ _ h => (Bool.and_eq_true_iff.1 h).1

/-- Each chain is passed over or evaluated. -/
theorem countP_add_countP (turns : List Turn) :
    turns.countP (!·.passedOver) + turns.countP (·.passedOver) = turns.length := by
  rw [List.length_eq_countP_add_countP (·.passedOver), Nat.add_comm]
  simp

end PhaseOutcome

/-! ## All turns of a phase -/

namespace PhaseRun

variable {e : Engine} {isLogging : Bool} {c : Chain} {chains rest : List Chain} {run : PhaseRun}

theorem outcome_turn : (run.turn e c).after.outcome = run.outcome.count e [run.turn e c] := by
  rcases Nat.eq_zero_or_pos run.exchange.tx.decision.skip with hskip | hskip
  · rw [turn_of_zero hskip]
    cases hholds : (e.evaluate run.exchange c).holds <;>
      simp [PhaseOutcome.count, Turn.holds, evaluate, hholds]
  · rw [turn_of_pos hskip]
    simp [PhaseOutcome.count, Turn.holds, passOver]

theorem outcome_afterAll_turns :
    (run.afterAll (turns e isLogging chains run)).outcome =
      run.outcome.count e (turns e isLogging chains run) := by
  induction chains generalizing run with
  | nil => rfl
  | cons c rest ih =>
      rw [turns_cons, PhaseOutcome.count_cons, ← outcome_turn]
      split
      · rfl
      · exact ih

/-- A turn that ends the phase is the last one. -/
theorem runChains_of_ends (h : (run.turn e c).ends isLogging = true) :
    Handler.runChains e isLogging (c :: rest) run = (run.turn e c).after.stop := by
  unfold turn Turn.ends at *
  split at h
  · simp at h
  · rename_i hskip
    obtain ⟨hlogging, hdecided⟩ := Bool.and_eq_true_iff.1 h
    obtain rfl : isLogging = false := by simpa using hlogging
    rw [Handler.runChains_stop e rest (by omega) hdecided, if_neg hskip]

/-- A turn that does not end the phase is followed by the others. -/
theorem runChains_of_not_ends (h : (run.turn e c).ends isLogging = false) :
    Handler.runChains e isLogging (c :: rest) run =
      Handler.runChains e isLogging rest (run.turn e c).after := by
  unfold turn Turn.ends at *
  split at h
  · rename_i hskip
    rw [Handler.runChains_passOver e isLogging c rest hskip, if_pos hskip]
  · rename_i hskip
    have hopen : isLogging = true ∨ (run.evaluate e c).isDecided = false := by
      cases isLogging
      · exact .inr h
      · exact .inl rfl
    rw [Handler.runChains_goOn e rest (by omega) hopen, if_neg hskip]

/-- **A phase is the sequence of its turns.** -/
theorem runChains_eq_afterAll :
    Handler.runChains e isLogging chains run =
      if (turns e isLogging chains run).any (Turn.ends isLogging) then
        (run.afterAll (turns e isLogging chains run)).stop
      else run.afterAll (turns e isLogging chains run) := by
  induction chains generalizing run with
  | nil => rfl
  | cons c rest ih =>
      rw [turns_cons, List.any_cons]
      cases hends : (run.turn e c).ends isLogging with
      | true => exact runChains_of_ends hends
      | false => exact (runChains_of_not_ends hends).trans ih

/-- Outside the phase for logging, the transaction is decided if and only if a turn ends the phase. -/
theorem isDecided_afterAll_turns (hopen : run.isDecided = false) :
    (run.afterAll (turns e false chains run)).isDecided =
      (turns e false chains run).any (Turn.ends false) := by
  induction chains generalizing run with
  | nil => exact hopen
  | cons c rest ih =>
      have hdecided := isDecided_after_turn (e := e) (c := c) hopen
      rw [turns_cons, List.any_cons]
      cases hends : (run.turn e c).ends false with
      | true => exact hdecided.trans hends
      | false => exact ih (hdecided.trans hends)

/-- The turns up to one of them, that one, and those that follow it. -/
theorem turns_eq_append {earlier later : List Turn} {turn : Turn}
    (h : turns e isLogging chains run = earlier ++ turn :: later) :
    ∃ rest, chains = earlier.map Turn.chain ++ turn.chain :: rest ∧
      turn = (run.afterAll earlier).turn e turn.chain ∧
      later = if turn.ends isLogging then [] else turns e isLogging rest turn.after := by
  induction earlier generalizing chains run with
  | nil =>
      cases chains with
      | nil => cases h
      | cons c rest =>
          obtain ⟨rfl, rfl⟩ := List.cons.inj h
          exact ⟨rest, by rw [chain_turn]; rfl, by rw [chain_turn]; rfl, rfl⟩
  | cons first earlier ih =>
      cases chains with
      | nil => cases h
      | cons c rest =>
          obtain ⟨rfl, hmore⟩ := List.cons.inj h
          split at hmore
          · -- nothing follows a turn that ends the phase, so it is not one of the earlier ones
            cases earlier <;> cases hmore
          · obtain ⟨rest', rfl, hturn, hlater⟩ := ih hmore
            exact ⟨rest', by rw [List.map_cons, chain_turn]; rfl, hturn, hlater⟩

/-- The chains that take a turn are the first ones, and all of them unless a turn ends the phase. -/
theorem chain_turns (e : Engine) (isLogging : Bool) (chains : List Chain) (run : PhaseRun) :
    ∃ rest, chains = (turns e isLogging chains run).map Turn.chain ++ rest ∧
      ((turns e isLogging chains run).any (Turn.ends isLogging) = false → rest = []) := by
  induction chains generalizing run with
  | nil => exact ⟨[], rfl, fun _ => rfl⟩
  | cons c rest ih =>
      rw [turns_cons, List.any_cons, List.map_cons, chain_turn]
      cases hends : (run.turn e c).ends isLogging with
      | true => exact ⟨rest, rfl, fun h => (nomatch h)⟩
      | false =>
          obtain ⟨rest', hrest, hall⟩ := ih (run.turn e c).after
          exact ⟨rest', congrArg (c :: ·) hrest, hall⟩

end PhaseRun

/-! ## How many chains are passed over -/

/-- Of the turns of `left` chains, the first `count` ones are passed over, as far as there are so many, and
the next one, if there is any, is evaluated. -/
def PassOverFirst (count left : Nat) (turns : List Turn) : Prop :=
  ∃ skipped rest, turns = skipped ++ rest ∧ skipped.length = min count left ∧
    (∀ turn ∈ skipped, turn.passedOver = true) ∧
    rest.head?.map Turn.passedOver = if count < left then some false else none

namespace PassOverFirst

variable {count left : Nat} {turn : Turn} {turns : List Turn}

theorem nil (count : Nat) : PassOverFirst count 0 [] :=
  ⟨[], [], rfl, (Nat.min_zero _).symm, List.forall_mem_nil _, (if_neg (Nat.not_lt_zero _)).symm⟩

theorem evaluated (h : turn.passedOver = false) : PassOverFirst 0 (left + 1) (turn :: turns) :=
  ⟨[], turn :: turns, rfl, (Nat.zero_min _).symm, List.forall_mem_nil _, by simp [h]⟩

theorem passedOver (h : turn.passedOver = true) (hturns : PassOverFirst count left turns) :
    PassOverFirst (count + 1) (left + 1) (turn :: turns) := by
  obtain ⟨skipped, rest, rfl, hlength, hskipped, hhead⟩ := hturns
  refine ⟨turn :: skipped, rest, rfl, ?_, List.forall_mem_cons.2 ⟨h, hskipped⟩, ?_⟩
  · rw [List.length_cons, hlength, Nat.add_min_add_right]
  · rw [hhead]
    simp only [Nat.add_lt_add_iff_right]

end PassOverFirst

namespace PhaseRun

variable {e : Engine} {isLogging : Bool} {chains : List Chain} {run : PhaseRun}

/-- **The turns start with the chains that are still to be passed over.** -/
theorem passOverFirst_turns :
    PassOverFirst run.exchange.tx.decision.skip chains.length (turns e isLogging chains run) := by
  induction chains generalizing run with
  | nil => exact .nil _
  | cons c rest ih =>
      rw [turns_cons, List.length_cons]
      rcases Nat.eq_zero_or_pos run.exchange.tx.decision.skip with hskip | hskip
      · rw [hskip, turn_of_zero hskip]
        exact .evaluated rfl
      · -- a chain that is passed over does not end the phase, and one less is to be passed over after it
        have hends : (run.turn e c).ends isLogging = false := by simp [turn_of_pos hskip, Turn.ends]
        have hrest : PassOverFirst (run.exchange.tx.decision.skip - 1) rest.length
            (turns e isLogging rest run.passOver) := ih
        rw [hends, turn_of_pos hskip, ← Nat.sub_add_cancel hskip]
        exact .passedOver rfl hrest

end PhaseRun

/-! ## The phase as a whole -/

/-- The chains of a phase take turns one after the other, each from where the one before it left off. -/
structure TurnsOf (e : Engine) (isLogging : Bool) (chains : List Chain) (run : PhaseRun)
    (turns : List Turn) : Prop where
  /-- The first chains take turns. -/
  inOrder : turns.map Turn.chain <+: chains
  /-- All of them do, unless the phase is ended before. -/
  whole : turns.any (Turn.ends isLogging) = false → turns.length = chains.length
  /-- A turn begins where the one before it left off. -/
  linked : ∀ earlier turn later, turns = earlier ++ turn :: later → turn.before = run.afterAll earlier
  /-- No turn follows one that ends the phase. -/
  last : ∀ earlier turn later, turns = earlier ++ turn :: later → turn.ends isLogging = true → later = []
  /-- A chain that is passed over changes the number of those to pass over, and nothing else. -/
  passedOver : ∀ turn ∈ turns, turn.passedOver = true → 0 < turn.before.exchange.tx.decision.skip ∧
    turn.after.exchange =
      turn.before.exchange.update (fun t => t.decide fun d => { d with skip := d.skip - 1 }) ∧
    turn.after.logged = turn.before.logged
  /-- Any other chain is evaluated. -/
  evaluated : ∀ turn ∈ turns, turn.passedOver = false → turn.before.exchange.tx.decision.skip = 0 ∧
    turn.after.exchange = (e.evaluate turn.before.exchange turn.chain).exchange ∧
    turn.after.logged = turn.before.logged ++ (e.evaluate turn.before.exchange turn.chain).logged

namespace PhaseRun

variable {e : Engine} {isLogging : Bool} {chains : List Chain} {run : PhaseRun}

theorem eq_turn_of_mem {turn : Turn} (h : turn ∈ turns e isLogging chains run) :
    turn = turn.before.turn e turn.chain := by
  obtain ⟨earlier, later, hsplit⟩ := List.append_of_mem h
  obtain ⟨_, -, hturn, -⟩ := turns_eq_append hsplit
  have hbefore := congrArg Turn.before hturn
  rw [before_turn] at hbefore
  rw [hbefore]
  exact hturn

theorem turnsOf_turns : TurnsOf e isLogging chains run (turns e isLogging chains run) where
  inOrder := by
    obtain ⟨rest, hchains, -⟩ := chain_turns e isLogging chains run
    exact ⟨rest, hchains.symm⟩
  whole hnone := by
    obtain ⟨rest, hchains, hall⟩ := chain_turns e isLogging chains run
    have hlength := congrArg List.length hchains
    rw [hall hnone, List.append_nil, List.length_map] at hlength
    exact hlength.symm
  linked earlier turn later h := by
    obtain ⟨_, -, hturn, -⟩ := turns_eq_append h
    rw [hturn, before_turn]
  last earlier turn later h hends := by
    obtain ⟨_, -, -, hlater⟩ := turns_eq_append h
    rwa [if_pos hends] at hlater
  passedOver turn hmem h := by
    have hturn := eq_turn_of_mem hmem
    rw [hturn] at h
    have hafter := after_turn_of_passedOver h
    rwa [← hturn] at hafter
  evaluated turn hmem h := by
    have hturn := eq_turn_of_mem hmem
    rw [hturn] at h
    have hafter := after_turn_of_evaluated h
    rwa [← hturn] at hafter

/-- **After a chain is evaluated, as many chains are passed over as it leaves to pass over.** -/
theorem passOverFirst_after {earlier later : List Turn} {turn : Turn}
    (h : turns e isLogging chains run = earlier ++ turn :: later) (hends : turn.ends isLogging = false) :
    PassOverFirst turn.after.exchange.tx.decision.skip (chains.length - (earlier.length + 1)) later := by
  obtain ⟨rest, rfl, -, hlater⟩ := turns_eq_append h
  have hlength : (earlier.map Turn.chain ++ turn.chain :: rest).length - (earlier.length + 1) =
      rest.length := by
    rw [List.length_append, List.length_map, List.length_cons]
    omega
  rw [hlength, hlater, hends]
  exact passOverFirst_turns

end PhaseRun

/-! ## Statistics -/

/-- The counters of a phase are added to those of all phases, in words of 64 bits. -/
structure Statistics.Grew (s : Statistics) (o : PhaseOutcome) (elapsed : UInt64) (s' : Statistics) :
    Prop where
  transactions : s'.transactions = s.transactions
  phases : s'.phases = s.phases + 1
  evaluated : s'.evaluated.toNat = (s.evaluated.toNat + o.evaluated) % UInt64.size
  matched : s'.matched.toNat = (s.matched.toNat + o.matched) % UInt64.size
  skipped : s'.skipped.toNat = (s.skipped.toNat + o.skipped) % UInt64.size
  interventions : s'.interventions.toNat =
    (s.interventions.toNat + if o.intervention.isSome then 1 else 0) % UInt64.size
  phaseTime : s'.phaseTime = s.phaseTime + elapsed

namespace Statistics

theorem toNat_add_ofNat (w : UInt64) (n : Nat) : (w + .ofNat n).toNat = (w.toNat + n) % UInt64.size := by
  rw [UInt64.toNat_add, UInt64.toNat_ofNat', Nat.add_mod_mod]

theorem grew_recordPhase (s : Statistics) (o : PhaseOutcome) (elapsed : UInt64) :
    s.Grew o elapsed (s.recordPhase o elapsed) where
  transactions := rfl
  phases := rfl
  evaluated := toNat_add_ofNat ..
  matched := toNat_add_ofNat ..
  skipped := toNat_add_ofNat ..
  interventions := by
    unfold recordPhase
    cases o.intervention with
    | none => exact (Nat.mod_eq_of_lt s.interventions.toNat_lt).symm
    | some i => exact UInt64.toNat_add ..
  phaseTime := rfl

end Statistics

namespace Handler

variable {h : Handler} {t : Transaction} {phase : Nat} {timing : Timing}

/-- The turns of a phase of a transaction. -/
def turns (h : Handler) (t : Transaction) (phase : Nat) (timing : Timing) : List Turn :=
  PhaseRun.turns h.engine (phase == loggingPhase) (h.rules.ofPhase phase) (h.begin t phase timing)

/-- The run of a phase after its last turn. -/
def last (h : Handler) (t : Transaction) (phase : Nat) (timing : Timing) : PhaseRun :=
  (h.begin t phase timing).afterAll (h.turns t phase timing)

/-- A phase that is run is finished after its last turn; the outcome counts the turns. -/
theorem processPhase_eq_last (timing : Timing) (hruns : h.runs t phase = true) :
    ∃ i, h.processPhase t phase timing =
      h.finish timing { h.last t phase timing with
        outcome :=
          { PhaseOutcome.count h.engine (h.turns t phase timing) { phase := phase } with
            intervention := i } } := by
  have hcount : (h.last t phase timing).outcome =
      PhaseOutcome.count h.engine (h.turns t phase timing) { phase := phase } :=
    PhaseRun.outcome_afterAll_turns
  rw [processPhase_of_runs timing hruns, ← hcount, ran, PhaseRun.runChains_eq_afterAll]
  split
  · exact ⟨_, rfl⟩
  · exact ⟨(h.last t phase timing).outcome.intervention, rfl⟩

/-- A phase that leaves the transaction open is not ended by any turn. -/
theorem any_ends_turns (hruns : h.runs t phase = true)
    (hopen : phase = loggingPhase ∨ (h.last t phase timing).isDecided = false) :
    (h.turns t phase timing).any (Turn.ends (phase == loggingPhase)) = false := by
  by_cases hlogging : phase = loggingPhase
  · rw [hlogging]
    exact List.any_eq_false.2 fun _ _ => by simp [Turn.ends]
  · -- it was open when the phase began, so a turn that ends the phase would show in the end
    have hstart : (h.begin t phase timing).isDecided = false := by
      rw [← Bool.not_eq_true]
      intro hfinal
      exact nomatch (h.runs_of_isFinal hfinal hlogging).symm.trans hruns
    have hlast := hopen.resolve_left hlogging
    unfold last turns at hlast
    unfold turns
    rw [beq_eq_false_iff_ne.2 hlogging] at hlast ⊢
    rwa [PhaseRun.isDecided_afterAll_turns hstart] at hlast

/--
**Chains are passed over exactly as often as asked for.**

The chains of a phase are evaluated or passed over in turn, and the outcome counts them; no more hold than are
evaluated, and none is left out unless the transaction is decided outside the phase for logging. The chains
that are to be passed over when the phase begins, or after one of them is evaluated, are the next ones, as
far as there are so many, and the one after them is evaluated. To be passed over changes nothing else. After
the phase no chains are left to pass over, and the statistics grew by what the outcome counts.
-/
theorem passes_over_exactly (h : Handler) (t : Transaction) (phase : Nat) (timing : Timing)
    (hruns : h.runs t phase = true) :
    let chains := h.rules.ofPhase phase
    let turns := h.turns t phase timing
    let last := h.last t phase timing
    let done := h.processPhase t phase timing
    TurnsOf h.engine (phase == loggingPhase) chains (h.begin t phase timing) turns ∧
      (done.tx = last.exchange.tx.decide (fun d => { d with skip := 0 }) ∧
        done.handler.shelf = last.exchange.shelf ∧ done.logged = last.logged) ∧
      (done.outcome.evaluated = turns.countP (!·.passedOver) ∧
        done.outcome.matched = turns.countP (Turn.holds h.engine) ∧
        done.outcome.skipped = turns.countP (·.passedOver)) ∧
      done.outcome.matched ≤ done.outcome.evaluated ∧
      done.outcome.evaluated + done.outcome.skipped ≤ chains.length ∧
      (phase = loggingPhase ∨ done.tx.decision.isFinal = false →
        done.outcome.evaluated + done.outcome.skipped = chains.length) ∧
      PassOverFirst t.decision.skip chains.length turns ∧
      (∀ earlier turn later, turns = earlier ++ turn :: later → turn.passedOver = false →
        turn.ends (phase == loggingPhase) = false →
        PassOverFirst turn.after.exchange.tx.decision.skip (chains.length - (earlier.length + 1)) later) ∧
      done.tx.decision.skip = 0 ∧
      h.statistics.Grew done.outcome timing.elapsed done.handler.statistics := by
  intro chains turns last done
  obtain ⟨i, hdone⟩ := h.processPhase_eq_last timing hruns
  have hturns : TurnsOf h.engine (phase == loggingPhase) chains (h.begin t phase timing) turns :=
    PhaseRun.turnsOf_turns
  have htx : done.tx = last.exchange.tx.decide fun d => { d with skip := 0 } := congrArg Handled.tx hdone
  have houtcome : done.outcome =
      { PhaseOutcome.count h.engine turns { phase := phase } with intervention := i } :=
    congrArg Handled.outcome hdone
  -- the counters of an outcome start at zero, and only the intervention is added to what the turns count
  have hevaluated : done.outcome.evaluated = turns.countP (!·.passedOver) :=
    (congrArg PhaseOutcome.evaluated houtcome).trans (Nat.zero_add _)
  have hmatched : done.outcome.matched = turns.countP (Turn.holds h.engine) :=
    (congrArg PhaseOutcome.matched houtcome).trans (Nat.zero_add _)
  have hskipped : done.outcome.skipped = turns.countP (·.passedOver) :=
    (congrArg PhaseOutcome.skipped houtcome).trans (Nat.zero_add _)
  have hsum : done.outcome.evaluated + done.outcome.skipped = turns.length := by
    rw [hevaluated, hskipped]
    exact PhaseOutcome.countP_add_countP turns
  refine ⟨hturns, ⟨htx, congrArg (·.handler.shelf) hdone, congrArg Handled.logged hdone⟩,
    ⟨hevaluated, hmatched, hskipped⟩, ?matched, ?counted, ?whole, PhaseRun.passOverFirst_turns,
    fun _ _ _ hsplit _ hends => PhaseRun.passOverFirst_after hsplit hends,
    congrArg (·.decision.skip) htx, ?grew⟩
  case matched =>
    rw [hmatched, hevaluated]
    exact PhaseOutcome.countP_holds_le _ _
  case counted =>
    rw [hsum, ← List.length_map Turn.chain]
    exact hturns.inOrder.length_le
  case whole =>
    intro hopen
    rw [htx] at hopen
    rw [hsum]
    exact hturns.whole (any_ends_turns hruns hopen)
  case grew =>
    have hstatistics : done.handler.statistics = h.statistics.recordPhase done.outcome timing.elapsed := by
      rw [houtcome]
      exact congrArg (·.handler.statistics) hdone
    rw [hstatistics]
    exact Statistics.grew_recordPhase ..

/-- A handler with four rules that match every request; the second one asks to pass over the next one. -/
def skipping : Handler :=
  { denying with
    rules :=
      RuleSet.empty.addAll
        [⟨Engine.plainRule 1 false, []⟩, ⟨{ Engine.plainRule 2 false with actions := [.skip 1] }, []⟩,
          ⟨Engine.plainRule 3 false, []⟩, ⟨Engine.plainRule 4 false, []⟩] }

/-- The first rule is to be passed over from the start, the third one because the second one says so. -/
theorem passes_over_exactly_skipping :
    let t : Transaction := { Transaction.new "t" 0 .empty with decision := { skip := 1 } }
    let done := skipping.processPhase t 2 ⟨0, 0⟩
    skipping.runs t 2 = true ∧
      (skipping.turns t 2 ⟨0, 0⟩).map Turn.passedOver = [true, false, true, false] ∧
      PassOverFirst 1 4 (skipping.turns t 2 ⟨0, 0⟩) ∧
      done.outcome.evaluated + done.outcome.skipped = 4 ∧ done.outcome.skipped = 2 ∧
      done.tx.decision.skip = 0 := by
  intro t done
  have hruns : skipping.runs t 2 = true := rfl
  have hskips := passes_over_exactly skipping t 2 ⟨0, 0⟩ hruns
  obtain ⟨-, -, ⟨-, -, hskipped⟩, -, -, hwhole, hfirst, -, hnone, -⟩ := hskips
  exact ⟨hruns, by decide, hfirst, hwhole (.inr (by decide)), hskipped.trans (by decide), hnone⟩

end Handler

end Rampart
