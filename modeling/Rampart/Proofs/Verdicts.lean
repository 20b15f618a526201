import Rampart.Proofs.ChainVerdict

/-!
# Who decides about a transaction

A transaction is decided by an intervention or by being allowed; this is its verdict. Only disruptive
actions reach a verdict. They run when a chain is closed, and only if the engine may step in, so
everything else an engine does leaves the verdict alone. A verdict is kept: nothing takes back that
rules stepped in, replaces how they did, or takes back that the transaction is allowed.
-/

namespace Rampart

namespace Decision

/-- How rules stepped in, and whether the transaction is allowed. -/
def verdict (d : Decision) : Option Intervention × Bool := (d.intervention, d.allowed)

/-- The verdict of the first decision is kept in the second one. -/
structure Keeps (d d' : Decision) : Prop where
  intervention : ∀ i, d.intervention = some i → d'.intervention = some i
  allowed : d.allowed = true → d'.allowed = true

variable {d d' d'' : Decision}

theorem Keeps.trans (h₁ : d.Keeps d') (h₂ : d'.Keeps d'') : d.Keeps d'' :=
  ⟨fun i hi => h₂.intervention i (h₁.intervention i hi), fun ha => h₂.allowed (h₁.allowed ha)⟩

theorem keeps_of_verdict (h : d'.verdict = d.verdict) : d.Keeps d' := by
  obtain ⟨hi, ha⟩ := Prod.mk.inj h
  exact ⟨fun i hd => hi.trans hd, fun hd => ha.trans hd⟩

theorem Keeps.refl (d : Decision) : d.Keeps d := keeps_of_verdict rfl

theorem isFinal_iff : d.isFinal = true ↔ d.allowed = true ∨ ∃ i, d.intervention = some i := by
  rw [isFinal, Bool.or_eq_true, Option.isSome_iff_exists]

theorem isFinal_of_verdict (h : d'.verdict = d.verdict) : d'.isFinal = d.isFinal := by
  obtain ⟨hi, ha⟩ := Prod.mk.inj h
  unfold isFinal
  rw [hi, ha]

theorem verdict_of_not_isFinal (h : d.isFinal = false) : d.verdict = (.none, false) := by
  have hopen := Bool.or_eq_false_iff.1 h
  have hi := Option.not_isSome_iff_eq_none.1 (Bool.eq_false_iff.1 hopen.2)
  rw [verdict, hi, hopen.1]

theorem intervention_intervene_of_none {i : Intervention} (h : d.intervention = .none) :
    (d.intervene i).intervention = some i := by
  simp [intervene, h]

/-- What is final stays final. -/
theorem Keeps.isFinal (h : d.Keeps d') (hd : d.isFinal = true) : d'.isFinal = true := by
  rcases isFinal_iff.1 hd with ha | ⟨i, hi⟩
  · exact isFinal_iff.2 (.inl (h.allowed ha))
  · exact isFinal_iff.2 (.inr ⟨i, h.intervention i hi⟩)

end Decision

/-! ## Actions -/

namespace Action

theorem verdict_of_purges {x y : Exchange} (h : Purges x y) :
    y.tx.decision.verdict = x.tx.decision.verdict := by
  rw [h.onlyCollections.decision]

theorem verdict_bind (t : Transaction) (name key : String) :
    (t.bind name key).2.decision.verdict = t.decision.verdict := by
  unfold Transaction.bind
  split <;> rfl

/-- An action that runs for a whole chain but is not disruptive leaves the record and the verdict. -/
theorem run_of_fullMatch {a : Action} (h : a.stage = .fullMatch) (r : RuleInfo) (x : Exchange)
    (m : MatchRecord) :
    (a.run r x m).2 = m ∧ (a.run r x m).1.tx.decision.verdict = x.tx.decision.verdict := by
  cases a with
  | expireVar name key seconds =>
      have hread := (purges_expand key r x).trans (purges_expand seconds r _)
      rw [Action.run]
      dsimp only
      split
      · exact ⟨rfl, verdict_of_purges hread⟩
      · refine ⟨rfl, ?_⟩
        rw [(onlyCollections_writing _ _ _).decision]
        exact verdict_of_purges hread
  | initCollection name key =>
      exact ⟨rfl, (verdict_bind _ _ _).trans (verdict_of_purges (purges_expand key r x))⟩
  | setEnv assignment =>
      have hread := verdict_of_purges (purges_expand assignment r x)
      rw [Action.run]
      split
      · exact ⟨rfl, hread⟩
      · exact ⟨rfl, hread⟩
  | skip count => exact ⟨rfl, rfl⟩
  | status code => exact ⟨rfl, rfl⟩
  | control c => exact ⟨rfl, rfl⟩
  -- the others run earlier or later
  | _ => cases h

theorem verdict_run {a : Action} (h : a.stage ≠ .disruptive) (r : RuleInfo) (x : Exchange)
    (m : MatchRecord) : (a.run r x m).1.tx.decision.verdict = x.tx.decision.verdict := by
  cases hs : a.stage with
  | everyMatch => rw [(onlyCollections_run hs r x m).decision]
  | fullMatch => exact (run_of_fullMatch hs r x m).2
  | disruptive => exact absurd hs h

theorem run_stepIn (d : Disruption) (status : Nat) (url : Option String) (x : Exchange)
    (m : MatchRecord) :
    (stepIn d status url x m).2 = { m with disruptive := true } ∧
      (stepIn d status url x m).1.tx.decision.isFinal = true ∧
      x.tx.decision.Keeps (stepIn d status url x m).1.tx.decision := by
  refine ⟨rfl, Decision.isFinal_iff.2 (.inr ?_), ?_, id⟩
  · cases hi : x.tx.decision.intervention with
    | none => exact ⟨_, Decision.intervention_intervene_of_none hi⟩
    | some i => exact ⟨i, Decision.intervention_intervene_of_some hi⟩
  · exact fun i hi => Decision.intervention_intervene_of_some hi

/-- A disruptive action does nothing, or it makes the record disruptive and decides the transaction,
keeping a verdict that was there before. -/
theorem run_of_disruptive {a : Action} (h : a.stage = .disruptive) (r : RuleInfo) (x : Exchange)
    (m : MatchRecord) :
    a.run r x m = (x, m) ∨
      ((a.run r x m).2 = { m with disruptive := true } ∧
        (a.run r x m).1.tx.decision.isFinal = true ∧
        x.tx.decision.Keeps (a.run r x m).1.tx.decision) := by
  cases a with
  | disrupt d =>
      cases d with
      | pass => exact .inl rfl
      | allow => exact .inr ⟨rfl, rfl, fun i hi => hi, fun _ => rfl⟩
      | redirect url =>
          obtain ⟨hm, hfinal, hkeeps⟩ := run_stepIn (.redirect url)
            ((x.tx.decision.status.filter redirectStatuses.contains).getD defaultRedirectStatus)
            (some (url.expand r x).1) (url.expand r x).2 m
          rw [(purges_expand url r x).onlyCollections.decision] at hkeeps
          exact .inr ⟨hm, hfinal, hkeeps⟩
      | deny => exact .inr (run_stepIn .deny _ none x m)
      | drop => exact .inr (run_stepIn .drop _ none x m)
      | block => exact .inr (run_stepIn .block _ none x m)
  | _ => cases h

/-- **No action takes back a verdict.** -/
theorem keeps_run (a : Action) (r : RuleInfo) (x : Exchange) (m : MatchRecord) :
    x.tx.decision.Keeps (a.run r x m).1.tx.decision := by
  by_cases h : a.stage = .disruptive
  · rcases run_of_disruptive h r x m with heq | ⟨_, _, hkeeps⟩
    · rw [heq]
      exact .refl _
    · exact hkeeps
  · exact Decision.keeps_of_verdict (verdict_run h r x m)

end Action

/-! ## Chains -/

theorem keeps_runActions (p : Progress) (r : Rule) (actions : List Action) :
    p.exchange.tx.decision.Keeps (p.runActions r actions).exchange.tx.decision := by
  refine runActions_induction
    (I := fun q => p.exchange.tx.decision.Keeps q.exchange.tx.decision) r actions (.refl _) ?_
  intro q hq a _
  exact hq.trans (a.keeps_run r.info q.exchange q.record)

theorem verdict_runActions (p : Progress) (r : Rule) {s : Stage} (h : s ≠ .disruptive) :
    (p.runActions r (r.actionsOf s)).exchange.tx.decision.verdict =
      p.exchange.tx.decision.verdict := by
  refine runActions_induction
    (I := fun q => q.exchange.tx.decision.verdict = p.exchange.tx.decision.verdict) r _ rfl ?_
  intro q hq a ha
  have hcalm : a.stage ≠ .disruptive := by
    rw [stage_of_mem_actionsOf ha]
    exact h
  exact (Action.verdict_run hcalm r.info q.exchange q.record).trans hq

/-- The actions for a whole chain leave the record alone. -/
theorem record_runActions_fullMatch (p : Progress) (r : Rule) :
    (p.runActions r (r.actionsOf .fullMatch)).record = p.record := by
  refine runActions_induction (I := fun q => q.record = p.record) r _ rfl ?_
  intro q hq a ha
  have hrun := Action.run_of_fullMatch (stage_of_mem_actionsOf ha) r.info q.exchange q.record
  exact hrun.1.trans hq

namespace Engine

theorem advance_evaluateLinks (e : Engine) (r : Rule) (rest : List Rule) (p : Progress) :
    Advance p (e.evaluateLinks r rest p).2 := by
  obtain ⟨k, hk⟩ := e.evaluateLinks_stopsAt _ r rest p rfl
  rw [hk.progress]
  exact e.advance_after p _

theorem keeps_runClosing (e : Engine) (p : Progress) (r : Rule) :
    p.exchange.tx.decision.Keeps (e.runClosing p r).exchange.tx.decision := by
  have hclosed := keeps_runActions p r (r.actionsOf .fullMatch)
  unfold runClosing
  dsimp only
  split
  · exact hclosed.trans (keeps_runActions _ r _)
  · exact hclosed

theorem verdict_runClosing {e : Engine} (h : e.mode ≠ .on) (p : Progress) (r : Rule) :
    (e.runClosing p r).exchange.tx.decision.verdict = p.exchange.tx.decision.verdict := by
  unfold runClosing
  rw [if_neg h]
  exact verdict_runActions p r (by decide)

/-- What relates a progress to what its message leaves, and to what each closing rule leaves, relates
it to what closing the chain leaves. -/
theorem close_induction {e : Engine} {R : Exchange → Exchange → Prop}
    (trans : ∀ {x y z}, R x y → R y z → R x z)
    (message : ∀ (p : Progress) r, R p.exchange (p.takeMessage r).exchange)
    (closing : ∀ p r, R p.exchange (e.runClosing p r).exchange)
    (head : Rule) (matched : List Rule) (p : Progress) :
    R p.exchange (e.close head matched p).exchange := by
  refine List.foldlRecOn (motive := fun q : Progress => R p.exchange q.exchange)
    matched.reverse e.runClosing (message p head) ?_
  intro q hq r _
  exact trans hq (closing q r)

/-- What relates a decision to what each closing rule makes of it, relates it to what a chain makes
of it. -/
theorem evaluate_decision {e : Engine} {R : Decision → Decision → Prop} (refl : ∀ d, R d d)
    (trans : ∀ {d d' d''}, R d d' → R d' d'' → R d d'')
    (closing : ∀ p r, R p.exchange.tx.decision (e.runClosing p r).exchange.tx.decision)
    (x : Exchange) (c : Chain) : R x.tx.decision (e.evaluate x c).exchange.tx.decision := by
  have hafter (rules : List Rule) :
      (e.after (.start x c) rules).exchange.tx.decision = x.tx.decision :=
    (e.advance_after (.start x c) rules).exchange.decision
  have hcomes := e.comesTo_evaluate x c
  generalize e.evaluate x c = o at hcomes ⊢
  cases hcomes with
  | off _ => exact refl _
  | removed _ _ => exact refl _
  | broken _ _ k _ =>
      dsimp only
      rw [hafter]
      exact refl _
  | closed _ _ k _ hq =>
      have hclose := close_induction (R := fun x y => R x.tx.decision y.tx.decision) trans
        (fun p r => (advance_takeMessage p r).exchange.decision ▸ refl _) closing
        c.head (c.links.take (k + 1)) (e.after (.start x c) (c.links.take (k + 1)))
      rw [hafter, ← hq] at hclose
      exact hclose

/-- **No chain takes back a verdict.** -/
theorem keeps_evaluate (e : Engine) (x : Exchange) (c : Chain) :
    x.tx.decision.Keeps (e.evaluate x c).exchange.tx.decision :=
  evaluate_decision .refl .trans e.keeps_runClosing x c

/-- An engine that may not step in reaches no verdict. -/
theorem verdict_evaluate {e : Engine} (h : e.mode ≠ .on) (x : Exchange) (c : Chain) :
    (e.evaluate x c).exchange.tx.decision.verdict = x.tx.decision.verdict :=
  evaluate_decision (R := fun d d' => d'.verdict = d.verdict) (fun _ => rfl)
    (fun h₁ h₂ => h₂.trans h₁) (verdict_runClosing h) x c

end Engine

end Rampart
