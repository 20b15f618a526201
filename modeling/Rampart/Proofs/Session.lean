import Rampart.Proofs.PhaseRuns
import Mathlib.Data.List.Nodup
import Mathlib.Data.List.Perm.Subperm

/-!
# Sessions

A handler serves many transactions, and the calls about them come in any order. A session is the
handler together with the transactions that it has started; what its calls came to is the list of
the outcomes, each with the number of its transaction.

The invariant of a session, `Counted`, ties the three together: an outcome that reports an
intervention reports the one that its transaction has, no transaction has two such outcomes, and the
statistics count them.
-/

namespace Rampart

/-- A handler and the transactions that it has started, in their order. -/
structure Session where
  handler : Handler
  transactions : List Transaction

/-- A call to a handler. Transactions are called by their number. -/
inductive Call where
  /-- Start a transaction about a request that came at the given time. -/
  | start (id : String) (time : Int)
  /-- More is known of the request of a transaction. -/
  | learn (number : Nat) (f : Request → Request)
  /-- Run a phase of a transaction. -/
  | phase (number phase : Nat) (timing : Timing)

/-- The numbers of the transactions with an outcome that reports an intervention. -/
def interveners (outcomes : List (Nat × PhaseOutcome)) : List Nat :=
  (outcomes.filter fun o => o.2.intervention.isSome).map (·.1)

namespace Session

/-- A handler that has not started a transaction. -/
def new (h : Handler) : Session := ⟨h, []⟩

/-- The session after a call, and what the call came to if it ran a phase. -/
def step (s : Session) : Call → Session × Option (Nat × PhaseOutcome)
  | .start id time =>
    let started := s.handler.newTransaction id time
    (⟨started.2, s.transactions ++ [started.1]⟩, none)
  | .learn number f => ({ s with transactions := s.transactions.modify number (·.learn f) }, none)
  | .phase number phase timing =>
    match s.transactions[number]? with
    | none => (s, none)
    | some t =>
      let ran := s.handler.processPhase t phase timing
      (⟨ran.handler, s.transactions.set number ran.tx⟩, some (number, ran.outcome))

/-- The session after some calls, and what they came to. -/
def run (s : Session) : List Call → Session × List (Nat × PhaseOutcome)
  | [] => (s, [])
  | call :: rest =>
    let first := s.step call
    let later := first.1.run rest
    (later.1, first.2.toList ++ later.2)

variable {s : Session} {i : Nat} {t : Transaction}

theorem mem_step_learn {number : Nat} {f : Request → Request}
    (ht : t ∈ (s.step (.learn number f)).1.transactions) :
    t ∈ s.transactions ∨ ∃ t₀ ∈ s.transactions, t = t₀.learn f := by
  obtain ⟨j, hj⟩ := List.mem_iff_getElem?.1 ht
  rw [step, List.getElem?_modify] at hj
  obtain ⟨t₀, ht₀, rfl⟩ := Option.map_eq_some_iff.1 hj
  have hmem := List.mem_of_getElem? ht₀
  split
  · exact .inr ⟨t₀, hmem, rfl⟩
  · exact .inl hmem

/-! ## Verdicts -/

/-- A call does not take back a verdict. -/
theorem keeps_step (hi : s.transactions[i]? = some t) (call : Call) :
    ∃ t', (s.step call).1.transactions[i]? = some t' ∧ t.decision.Keeps t'.decision := by
  cases call with
  | start id time =>
      have hlt := (List.getElem?_eq_some_iff.1 hi).1
      exact ⟨t, (List.getElem?_append_left hlt).trans hi, .refl _⟩
  | learn number f =>
      by_cases heq : number = i
      · subst heq
        refine ⟨t.learn f, ?_, .refl _⟩
        simp [step, hi]
      · refine ⟨t, ?_, .refl _⟩
        simpa [step, List.getElem?_modify, heq] using hi
  | phase number phase timing =>
      rw [step]
      split
      · exact ⟨t, hi, .refl _⟩
      · rename_i t₀ hnumber
        have hlt := (List.getElem?_eq_some_iff.1 hnumber).1
        -- only the transaction that is called changes
        by_cases heq : number = i
        · subst heq
          obtain rfl := Option.some.inj (hnumber.symm.trans hi)
          exact ⟨_, List.getElem?_set_self hlt, s.handler.keeps_processPhase t₀ phase timing⟩
        · exact ⟨t, (List.getElem?_set_ne heq).trans hi, .refl _⟩

/-- **No calls take back a verdict.** -/
theorem keeps_run (hi : s.transactions[i]? = some t) (calls : List Call) :
    ∃ t', (s.run calls).1.transactions[i]? = some t' ∧ t.decision.Keeps t'.decision := by
  induction calls generalizing s t with
  | nil => exact ⟨t, hi, .refl _⟩
  | cons call rest ih =>
      obtain ⟨t₁, h₁, hkeeps₁⟩ := keeps_step hi call
      obtain ⟨t₂, h₂, hkeeps₂⟩ := ih h₁
      exact ⟨t₂, h₂, hkeeps₁.trans hkeeps₂⟩

/-! ## Counting -/

/-- What the outcomes so far say about the transactions and the statistics. -/
structure Counted (s : Session) (outcomes : List (Nat × PhaseOutcome)) : Prop where
  /-- An intervention that was reported is the one of the transaction. -/
  own : ∀ i o j, (i, o) ∈ outcomes → o.intervention = some j →
    ∃ t, s.transactions[i]? = some t ∧ t.decision.intervention = some j
  /-- No transaction was reported twice. -/
  once : (interveners outcomes).Nodup
  interventions : s.handler.statistics.interventions = .ofNat (interveners outcomes).length
  transactions : s.handler.statistics.transactions = .ofNat s.transactions.length

theorem counted_new {h : Handler} (hstats : h.statistics = .none) : Counted (new h) [] where
  own := by
    intro i o j ho
    cases ho
  once := List.nodup_nil
  interventions := by rw [new, hstats]; rfl
  transactions := by rw [new, hstats]; rfl

theorem mem_interveners {outcomes : List (Nat × PhaseOutcome)} (h : i ∈ interveners outcomes) :
    ∃ o j, (i, o) ∈ outcomes ∧ o.intervention = some j := by
  obtain ⟨⟨i', o⟩, ho, rfl⟩ := List.mem_map.1 h
  obtain ⟨hmem, hsome⟩ := List.mem_filter.1 ho
  obtain ⟨j, hj⟩ := Option.isSome_iff_exists.1 hsome
  exact ⟨o, j, hmem, hj⟩

theorem interveners_append (outcomes more : List (Nat × PhaseOutcome)) :
    interveners (outcomes ++ more) = interveners outcomes ++ interveners more := by
  rw [interveners, List.filter_append, List.map_append]
  rfl

/-- A phase counts itself, and an intervention if it ends with one. -/
theorem statistics_processPhase (h : Handler) (t : Transaction) (phase : Nat) (timing : Timing) :
    (h.processPhase t phase timing).handler.statistics.transactions = h.statistics.transactions ∧
      (h.processPhase t phase timing).handler.statistics.interventions =
        if (h.processPhase t phase timing).outcome.intervention.isSome then
          h.statistics.interventions + 1
        else h.statistics.interventions := by
  cases hruns : h.runs t phase with
  | false =>
      rw [h.processPhase_of_not_runs timing hruns]
      exact ⟨rfl, rfl⟩
  | true =>
      rw [h.processPhase_of_runs timing hruns]
      exact ⟨rfl, rfl⟩

theorem step_phase (hi : s.transactions[i]? = some t) (phase : Nat) (timing : Timing) :
    s.step (.phase i phase timing) =
      (⟨(s.handler.processPhase t phase timing).handler,
          s.transactions.set i (s.handler.processPhase t phase timing).tx⟩,
        some (i, (s.handler.processPhase t phase timing).outcome)) := by
  rw [step, hi]

variable {outcomes : List (Nat × PhaseOutcome)}

/-- What was reported before a call is still what the transaction has after it. -/
theorem Counted.own_step (h : s.Counted outcomes) (call : Call) {o : PhaseOutcome}
    {j : Intervention} (ho : (i, o) ∈ outcomes) (hj : o.intervention = some j) :
    ∃ t, (s.step call).1.transactions[i]? = some t ∧ t.decision.intervention = some j := by
  obtain ⟨t, hi, ht⟩ := h.own i o j ho hj
  obtain ⟨t', hi', hkeeps⟩ := keeps_step hi call
  exact ⟨t', hi', hkeeps.intervention j ht⟩

/-- A transaction of which an intervention was reported is not reported again: a phase that ends
with an intervention finds the transaction undecided. -/
theorem Counted.not_mem_interveners (h : s.Counted outcomes) (hi : s.transactions[i]? = some t)
    (hopen : t.decision.isFinal = false) : i ∉ interveners outcomes := by
  intro hmem
  obtain ⟨o, j, ho, hj⟩ := mem_interveners hmem
  obtain ⟨t', hi', ht'⟩ := h.own i o j ho hj
  obtain rfl := Option.some.inj (hi.symm.trans hi')
  have hfinal : t.decision.isFinal = true := Decision.isFinal_iff.2 (.inr ⟨j, ht'⟩)
  exact nomatch hopen.symm.trans hfinal

theorem Counted.phase (h : s.Counted outcomes) (hi : s.transactions[i]? = some t) (phase : Nat)
    (timing : Timing) :
    (s.step (.phase i phase timing)).1.Counted
      (outcomes ++ (s.step (.phase i phase timing)).2.toList) := by
  have hlt := (List.getElem?_eq_some_iff.1 hi).1
  have earlier {i' : Nat} {o : PhaseOutcome} {j : Intervention} (ho : (i', o) ∈ outcomes) :=
    h.own_step (.phase i phase timing) (j := j) ho
  obtain ⟨htransactions, hinterventions⟩ := statistics_processPhase s.handler t phase timing
  rw [step_phase hi] at earlier ⊢
  rw [Option.toList_some]
  have hcount : s.handler.statistics.transactions =
      .ofNat (s.transactions.set i (s.handler.processPhase t phase timing).tx).length := by
    rw [List.length_set, h.transactions]
  have hown (i' o j)
      (ho : (i', o) ∈ outcomes ++ [(i, (s.handler.processPhase t phase timing).outcome)])
      (hj : o.intervention = some j) :
      ∃ t', (s.transactions.set i (s.handler.processPhase t phase timing).tx)[i']? = some t' ∧
        t'.decision.intervention = some j := by
    rcases List.mem_append.1 ho with ho | ho
    · exact earlier ho hj
    · obtain ⟨rfl, rfl⟩ := Prod.mk.inj (List.mem_singleton.1 ho)
      exact ⟨_, List.getElem?_set_self hlt, (Handler.intervention_processPhase hj).2⟩
  cases hreported : (s.handler.processPhase t phase timing).outcome.intervention with
  | none =>
      -- nothing is reported, and nothing counted
      have hsame : interveners [(i, (s.handler.processPhase t phase timing).outcome)] = [] := by
        simp [interveners, hreported]
      rw [hreported] at hinterventions
      refine ⟨hown, ?_, ?_, htransactions.trans hcount⟩
      · rw [interveners_append, hsame, List.append_nil]
        exact h.once
      · rw [interveners_append, hsame, List.append_nil]
        exact hinterventions.trans h.interventions
  | some j =>
      -- the phase found the transaction undecided, so it was not reported before
      have hmore : interveners [(i, (s.handler.processPhase t phase timing).outcome)] = [i] := by
        simp [interveners, hreported]
      have hnew := h.not_mem_interveners hi (Handler.intervention_processPhase hreported).1
      rw [hreported] at hinterventions
      refine ⟨hown, ?_, ?_, htransactions.trans hcount⟩
      · rw [interveners_append, hmore]
        exact h.once.append (List.nodup_singleton i) (List.disjoint_singleton.2 hnew)
      · rw [interveners_append, hmore, List.length_append, List.length_singleton, UInt64.ofNat_add,
          ← h.interventions]
        exact hinterventions

/-- **A call keeps the count.** -/
theorem Counted.step (h : s.Counted outcomes) (call : Call) :
    (s.step call).1.Counted (outcomes ++ (s.step call).2.toList) := by
  cases call with
  | start id time =>
      have hstarted : (s.handler.newTransaction id time).2.statistics.transactions =
          s.handler.statistics.transactions + 1 := rfl
      rw [Session.step, Option.toList_none, List.append_nil]
      refine ⟨fun i o j ho hj => h.own_step (.start id time) ho hj, h.once, h.interventions, ?_⟩
      rw [hstarted, h.transactions, List.length_append, List.length_singleton, UInt64.ofNat_add]
      rfl
  | learn number f =>
      rw [Session.step, Option.toList_none, List.append_nil]
      refine ⟨fun i o j ho hj => h.own_step (.learn number f) ho hj, h.once, h.interventions, ?_⟩
      rw [h.transactions, List.length_modify]
  | phase number phase timing =>
      cases hnumber : s.transactions[number]? with
      | some t => exact h.phase hnumber phase timing
      | none =>
          have hidle : s.step (.phase number phase timing) = (s, none) := by
            rw [Session.step, hnumber]
          rw [hidle, Option.toList_none, List.append_nil]
          exact h

theorem Counted.run (h : s.Counted outcomes) (calls : List Call) :
    (s.run calls).1.Counted (outcomes ++ (s.run calls).2) := by
  induction calls generalizing s outcomes with
  | nil =>
      rw [Session.run, List.append_nil]
      exact h
  | cons call rest ih =>
      rw [Session.run, ← List.append_assoc]
      exact ih (h.step call)

/-- The statistics count no more interventions than transactions, as long as they can count these. -/
theorem Counted.interventions_le (h : s.Counted outcomes)
    (hcount : s.transactions.length < UInt64.size) :
    s.handler.statistics.interventions ≤ s.handler.statistics.transactions := by
  have hsub : interveners outcomes ⊆ List.range s.transactions.length := by
    intro i hi
    obtain ⟨o, j, ho, hj⟩ := mem_interveners hi
    obtain ⟨t, ht, _⟩ := h.own i o j ho hj
    exact List.mem_range.2 (List.getElem?_eq_some_iff.1 ht).1
  have hle : (interveners outcomes).length ≤ s.transactions.length := by
    simpa using (h.once.subperm hsub).length_le
  rw [h.interventions, h.transactions]
  rw [UInt64.le_iff_toNat_le, UInt64.toNat_ofNat_of_lt' hcount,
    UInt64.toNat_ofNat_of_lt' (Nat.lt_of_le_of_lt hle hcount)]
  exact hle

/--
**A decision is final and counted once.**

Whatever calls a handler gets: the intervention of a transaction is never replaced; a transaction
that is decided is left as it is by the phases of the request and the response, which evaluate and
log nothing; no transaction is reported twice to be intervened in, and what is reported is the
intervention that it has. So there are no more interventions than transactions, unless there are more
transactions than the statistics can count.
-/
theorem decision_final_and_counted_once (h : Handler) (hstats : h.statistics = .none)
    (calls : List Call) :
    (∀ (i : Nat) (t : Transaction), ((new h).run calls).1.transactions[i]? = some t →
      (∀ j, t.decision.intervention = some j → ∀ more,
        ∃ t' : Transaction, (((new h).run calls).1.run more).1.transactions[i]? = some t' ∧
          t'.decision.intervention = some j) ∧
      (t.decision.isFinal = true → ∀ phase ∈ Handler.requestPhases ++ Handler.responsePhases,
        ∀ timing, ((new h).run calls).1.handler.processPhase t phase timing =
          ⟨{ phase := phase }, t, ((new h).run calls).1.handler, [], []⟩)) ∧
    (interveners ((new h).run calls).2).Nodup ∧
    (∀ i o j, (i, o) ∈ ((new h).run calls).2 → o.intervention = some j →
      ∃ t : Transaction, ((new h).run calls).1.transactions[i]? = some t ∧
        t.decision.intervention = some j) ∧
    (((new h).run calls).1.transactions.length < UInt64.size →
      ((new h).run calls).1.handler.statistics.interventions ≤
        ((new h).run calls).1.handler.statistics.transactions) := by
  have hcounted := (counted_new hstats).run calls
  rw [List.nil_append] at hcounted
  refine ⟨?_, hcounted.once, hcounted.own, hcounted.interventions_le⟩
  intro i t hi
  refine ⟨?_, ?_⟩
  · intro j hj more
    obtain ⟨t', hi', hkeeps⟩ := keeps_run hi more
    exact ⟨t', hi', hkeeps.intervention j hj⟩
  · intro hfinal phase hphase timing
    have hlogging : phase ≠ Handler.loggingPhase := by
      rintro rfl
      exact absurd hphase (by decide)
    exact Handler.processPhase_of_not_runs timing (Handler.runs_of_isFinal _ hfinal hlogging)

/-- Two transactions of which the first one is asked for again after it was denied. -/
def denyingCalls : List Call :=
  [.start "a" 0, .start "b" 0, .phase 0 2 ⟨0, 0⟩, .phase 0 2 ⟨1, 0⟩, .phase 0 5 ⟨2, 0⟩]

theorem decision_final_and_counted_once_denying :
    Handler.denying.statistics = .none ∧
    interveners ((new Handler.denying).run denyingCalls).2 = [0] ∧
    ((new Handler.denying).run denyingCalls).1.handler.statistics.interventions ≤
      ((new Handler.denying).run denyingCalls).1.handler.statistics.transactions := by
  have hcount := decision_final_and_counted_once Handler.denying rfl denyingCalls
  exact ⟨rfl, by decide, hcount.2.2.2 (by decide)⟩

end Session

end Rampart
