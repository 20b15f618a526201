import Rampart.Proofs.ChainVerdict

/-!
# What a rule does not look at

Rules read and write the collections that their transaction can reach, and whether they match does
not depend on which rules are out of force. An exchange can be disguised accordingly: by other
decisions, and by another shelf if nothing on it is bound. A rule comes to the same in disguise, and
leaves what it would leave, in the same disguise. Only the targets that are out of force must stay
what they are where a rule holds its targets and values against them.

The lemmas follow the evaluation of a rule from inside out. Along the way a disguise keeps on suiting
the exchange, since a rule binds nothing before its chain is closed.
-/

namespace Rampart

/-- A change of the decisions and of the shelf of an exchange. -/
structure Disguise where
  decision : Decision → Decision
  shelf : Shelf → Shelf

/-- The exchange in disguise. -/
def Exchange.under (x : Exchange) (g : Disguise) : Exchange :=
  ⟨x.tx.decide g.decision, g.shelf x.shelf, x.now⟩

/-- The progress in disguise. -/
def Progress.under (p : Progress) (g : Disguise) : Progress :=
  { p with exchange := p.exchange.under g }

namespace Disguise

/-- The transaction reaches no collection that the disguise changes. -/
def Suits (g : Disguise) (x : Exchange) : Prop := g.shelf = id ∨ x.tx.bindings = []

/-- The same targets are out of force in disguise. -/
structure KeepsTargets (g : Disguise) : Prop where
  byId : ∀ d, (g.decision d).overrides.targetsById = d.overrides.targetsById
  byTag : ∀ d, (g.decision d).overrides.targetsByTag = d.overrides.targetsByTag

/-- What a test has come to, in disguise. -/
def tested (g : Disguise) (s : Bool × Progress) : Bool × Progress := (s.1, s.2.under g)

variable {g : Disguise} {x y : Exchange}

/-- A disguise goes on suiting as long as nothing is bound. -/
theorem Suits.of_bindings (h : g.Suits x) (hsame : y.tx.bindings = x.tx.bindings) : g.Suits y := by
  rcases h with h | h
  · exact .inl h
  · exact .inr (hsame.trans h)

theorem Suits.of_undecided (h : g.Suits x) (hsame : Undecided x y) : g.Suits y :=
  h.of_bindings hsame.bindings

theorem Suits.of_purges (h : g.Suits x) (hread : Purges x y) : g.Suits y :=
  h.of_undecided hread.onlyCollections.toUndecided

/-- Steps that do not notice a disguise, and keep what lets them not notice it, do not notice it one
after the other. -/
theorem foldl_unnoticed {σ α : Type} {I : σ → Prop} {d : σ → σ} {f : σ → α → σ} (as : List α)
    (step : ∀ s, I s → ∀ a ∈ as, f (d s) a = d (f s a) ∧ I (f s a)) {s : σ} (h : I s) :
    as.foldl f (d s) = d (as.foldl f s) ∧ I (as.foldl f s) := by
  refine List.foldl_rel (r := fun t s => t = d s ∧ I s) ⟨rfl, h⟩ ?_
  rintro a ha _ s ⟨rfl, hs⟩
  exact step s hs a ha

end Disguise

open Disguise (Suits KeepsTargets foldl_unnoticed)

variable {g : Disguise}

/-! ## Collections -/

section Collections

variable {x : Exchange} {v : View}

theorem view?_under (x : Exchange) (g : Disguise) (name : String) :
    (x.under g).view? name = x.view? name := rfl

/-- A transaction that has bound nothing reaches only the collection of its own. -/
theorem home_of_unbound {name : String} (h : x.tx.bindings = []) (hv : x.view? name = some v) :
    v.home = .own := by
  have hnone : x.tx.binding? name = none := by
    unfold Transaction.binding?
    rw [h]
    rfl
  unfold Exchange.view? at hv
  split at hv
  · cases hv
    rfl
  · rw [hnone] at hv
    cases hv

/-- What can be reached is not changed by a disguise that suits. -/
theorem Disguise.Suits.home {name : String} (h : g.Suits x) (hv : x.view? name = some v) :
    g.shelf = id ∨ v.home = .own :=
  h.imp_right fun hunbound => home_of_unbound hunbound hv

theorem content_under (h : g.shelf = id ∨ v.home = .own) :
    (x.under g).content v.home = x.content v.home := by
  unfold Exchange.under Exchange.content
  rcases h with h | h
  · rw [h]
    cases v.home <;> rfl
  · rw [h]
    rfl

theorem put_under (h : g.shelf = id ∨ v.home = .own) (c : Collection) :
    (x.under g).put v.home c = (x.put v.home c).under g := by
  unfold Exchange.under Exchange.put
  rcases h with h | h
  · rw [h]
    cases v.home <;> rfl
  · rw [h]
    rfl

theorem reading_under {α : Type} (h : g.shelf = id ∨ v.home = .own)
    (f : Compartment → Collection → α × Collection) :
    (x.under g).reading v f = ((x.reading v f).1, (x.reading v f).2.under g) := by
  unfold Exchange.reading
  dsimp only
  rw [content_under h, put_under h]

theorem writing_under (h : g.shelf = id ∨ v.home = .own)
    (f : Compartment → Collection → Collection) :
    (x.under g).writing v f = (x.writing v f).under g := by
  unfold Exchange.writing
  rw [content_under h, put_under h]

end Collections

/-! ## Variables and texts -/

section Reads

variable {x : Exchange}

theorem variable_under (h : g.Suits x) (r : RuleInfo) (v : Variable) :
    v.evaluate r (x.under g) = ((v.evaluate r x).1, (v.evaluate r x).2.under g) := by
  induction v with
  | collection name sel omitted =>
      rw [Variable.evaluate, Variable.evaluate, view?_under]
      cases hv : x.view? name.text with
      | none => rfl
      | some v => exact reading_under (h.home hv) _
  | count base ih => rw [Variable.evaluate, Variable.evaluate, ih]
  | _ => rfl

theorem expandSegments_under (h : g.Suits x) (r : RuleInfo) (segments : List Segment) :
    MacroText.expandSegments r segments (x.under g) =
      ((MacroText.expandSegments r segments x).1,
        (MacroText.expandSegments r segments x).2.under g) := by
  induction segments generalizing x with
  | nil => rfl
  | cons s rest ih =>
      cases s with
      | literal cs => rw [MacroText.expandSegments, MacroText.expandSegments, ih h]
      | reference v =>
          rw [MacroText.expandSegments, MacroText.expandSegments, variable_under h]
          dsimp only
          rw [ih (h.of_purges (purges_variable r v x))]

theorem expand_under (h : g.Suits x) (m : MacroText) (r : RuleInfo) :
    m.expand r (x.under g) = ((m.expand r x).1, (m.expand r x).2.under g) := by
  unfold MacroText.expand
  rw [expandSegments_under h]

theorem operator_under (h : g.Suits x) (p : Operator) (r : RuleInfo) (capture : Bool)
    (input : String) :
    p.evaluate r capture input (x.under g) =
      ((p.evaluate r capture input x).1, (p.evaluate r capture input x).2.under g) := by
  cases p with
  | text test param =>
      rw [Operator.evaluate, Operator.evaluate, expand_under h]
  | number test param literal =>
      cases literal with
      | some n => rfl
      | none => rw [Operator.evaluate, Operator.evaluate, expand_under h]
  | _ => simp only [Operator.evaluate]

theorem test_under (h : g.Suits x) (t : Test) (r : RuleInfo) (capture : Bool) (input : String) :
    t.evaluate r capture input (x.under g) =
      ((t.evaluate r capture input x).1, (t.evaluate r capture input x).2.under g) := by
  unfold Test.evaluate
  rw [operator_under h]

theorem expandMessage_under (h : g.Suits x) (r : Rule) :
    r.expandMessage (x.under g) = ((r.expandMessage x).1, (r.expandMessage x).2.under g) := by
  unfold Rule.expandMessage
  cases r.message with
  | none => rfl
  | some m =>
      dsimp only
      rw [expand_under h]

theorem forRule_under (h : g.Suits x) (e : Exceptions) (r : Rule) :
    e.forRule r (x.under g) = ((e.forRule r x).1, (e.forRule r x).2.under g) := by
  unfold Exceptions.forRule
  rw [expandMessage_under h]
  split <;> rfl

end Reads

/-! ## Actions -/

section Actions

variable {x : Exchange}

theorem count_under (h : g.Suits x) {name : String} {v : View} (hv : x.view? name = some v)
    (r : RuleInfo) (key : String) (delta : MacroText) (f : Int → Int → Int) :
    Action.applyChange.count r v key (x.under g) delta f =
      (Action.applyChange.count r v key x delta f).under g := by
  have hhome := h.home hv
  have hnow : (x.under g).now = x.now := rfl
  have hread : g.Suits (x.reading v fun part c => part.readFirst c x.now key).2 :=
    h.of_undecided (onlyCollections_put x v.home _).toUndecided
  unfold Action.applyChange.count
  rw [hnow, reading_under hhome]
  dsimp only
  rw [expand_under hread, writing_under hhome]

theorem applyChange_under (h : g.Suits x) {name : String} {v : View}
    (hv : x.view? name = some v) (r : RuleInfo) (key : String) (c : Change) :
    Action.applyChange r v key (x.under g) c = (Action.applyChange r v key x c).under g := by
  have hhome := h.home hv
  cases c with
  | set text =>
      rw [Action.applyChange, Action.applyChange, expand_under h]
      exact writing_under hhome _
  | one =>
      rw [Action.applyChange, Action.applyChange]
      exact writing_under hhome _
  | erase =>
      rw [Action.applyChange, Action.applyChange]
      exact writing_under hhome _
  | add delta => exact count_under h hv r key delta _
  | sub delta => exact count_under h hv r key delta _

theorem bind_under (x : Exchange) (name key : String) :
    (x.under g).update (fun t => (t.bind name key).2) =
      (x.update fun t => (t.bind name key).2).under g := by
  unfold Exchange.update Exchange.under Transaction.bind
  dsimp only [Transaction.decide]
  split <;> rfl

/-- A change of decisions does not notice a disguise that leaves them what they are. -/
theorem decide_under (h : g.decision = id) (x : Exchange) (f : Decision → Decision) :
    (x.under g).update (·.decide f) = (x.update (·.decide f)).under g := by
  unfold Exchange.under
  rw [h]
  rfl

theorem stepIn_under (h : g.decision = id) (d : Disruption) (status : Nat) (url : Option String)
    (x : Exchange) (m : MatchRecord) :
    Action.stepIn d status url (x.under g) m =
      ((Action.stepIn d status url x m).1.under g, (Action.stepIn d status url x m).2) :=
  congrArg (·, { m with disruptive := true }) (decide_under h x _)

theorem applyDisruption_under (hid : g.decision = id) (h : g.Suits x) (r : RuleInfo)
    (d : Disruption) (m : MatchRecord) :
    Action.applyDisruption r d (x.under g) m =
      ((Action.applyDisruption r d x m).1.under g, (Action.applyDisruption r d x m).2) := by
  have hstatus : (x.under g).tx.decision.status = x.tx.decision.status := by
    unfold Exchange.under
    rw [hid]
    rfl
  cases d with
  | pass => rfl
  | allow => exact congrArg (·, { m with disruptive := true }) (decide_under hid x _)
  | redirect url =>
      rw [Action.applyDisruption, Action.applyDisruption, expand_under h, hstatus]
      exact stepIn_under hid _ _ _ _ m
  | _ =>
      rw [Action.applyDisruption, Action.applyDisruption, hstatus]
      · exact stepIn_under hid _ _ _ x m
      all_goals exact nofun

/-- An action does not notice a disguise if it runs for every match, or if the decisions are what
they are in the disguise. -/
theorem run_under (h : g.Suits x) {a : Action} (ha : a.stage = .everyMatch ∨ g.decision = id)
    (r : RuleInfo) (m : MatchRecord) :
    a.run r (x.under g) m = ((a.run r x m).1.under g, (a.run r x m).2) := by
  cases a with
  | setVar collection key change =>
      have hkey := h.of_purges (purges_expand key r x)
      rw [Action.run, Action.run, expand_under h]
      dsimp only
      rw [view?_under]
      cases hv : (key.expand r x).2.view? collection.text with
      | none => rfl
      | some v => exact congrArg (·, m) (applyChange_under hkey hv r _ change)
  | logData text => rw [Action.run, Action.run, expand_under h]
  | expireVar collection key seconds =>
      have hkey := h.of_purges (purges_expand key r x)
      have hseconds := hkey.of_purges (purges_expand seconds r (key.expand r x).2)
      rw [Action.run, Action.run, expand_under h]
      dsimp only
      rw [expand_under hkey]
      dsimp only
      rw [view?_under]
      cases hv : (seconds.expand r (key.expand r x).2).2.view? collection.text with
      | none => rfl
      | some v => exact congrArg (·, m) (writing_under (hseconds.home hv) _)
  | initCollection collection key =>
      rw [Action.run, Action.run, expand_under h]
      exact congrArg (·, m) (bind_under (key.expand r x).2 collection.text _)
  | setEnv assignment =>
      rw [Action.run, Action.run, expand_under h]
      dsimp only
      split <;> rfl
  -- the other actions decide something, and wait for the whole chain
  | skip count =>
      have hid := ha.resolve_left (by intro hs; cases hs)
      exact congrArg (·, m) (decide_under hid x _)
  | status code =>
      have hid := ha.resolve_left (by intro hs; cases hs)
      exact congrArg (·, m) (decide_under hid x _)
  | control c =>
      have hid := ha.resolve_left (by intro hs; cases hs)
      exact congrArg (·, m) (decide_under hid x _)
  | disrupt d =>
      have hid := ha.resolve_left (by intro hs; cases hs)
      exact applyDisruption_under hid h r d m

end Actions

/-! ## Rules -/

section Rules

variable {p : Progress}

theorem runActions_under (h : g.Suits p.exchange) (r : Rule) (actions : List Action)
    (ha : ∀ a ∈ actions, a.binds = false ∧ (a.stage = .everyMatch ∨ g.decision = id)) :
    (p.under g).runActions r actions = (p.runActions r actions).under g := by
  refine (foldl_unnoticed (I := fun q : Progress => g.Suits q.exchange)
    (d := fun q => q.under g) actions ?_ h).1
  intro q hq a hmem
  obtain ⟨hbinds, hstage⟩ := ha a hmem
  have hrun := run_under hq hstage r.info q.record
  refine ⟨?_, hq.of_bindings (bindings_run hbinds r.info q.exchange q.record)⟩
  unfold Progress.under
  dsimp only
  rw [hrun]

theorem not_binds_of_everyMatch {a : Action} (h : a.stage = .everyMatch) : a.binds = false := by
  cases a with
  | initCollection collection key => cases h
  | _ => rfl

theorem everyMatch_under (h : g.Suits p.exchange) (r : Rule) :
    (p.under g).runActions r (r.actionsOf .everyMatch) =
      (p.runActions r (r.actionsOf .everyMatch)).under g := by
  refine runActions_under h r _ fun a ha => ?_
  have hstage := stage_of_mem_actionsOf ha
  exact ⟨not_binds_of_everyMatch hstage, .inl hstage⟩

theorem takeMessage_under (h : g.Suits p.exchange) (r : Rule) :
    (p.under g).takeMessage r = (p.takeMessage r).under g := by
  have hmessage := expandMessage_under h r
  unfold Progress.takeMessage Progress.under
  dsimp only
  rw [hmessage]

theorem noteMatch_under (h : g.Suits p.exchange) (r : Rule) (value : Value)
    (text reference : String) (v : Verdict) :
    r.noteMatch value text reference v (p.under g) =
      (r.noteMatch value text reference v p).under g := by
  let found : Progress := { p with record := p.record.withMatch r.test value text reference v }
  let captured := if r.capture then found.storeCaptures v.captures else found
  let noted := captured.noteMatch value text
  have hcaptured : (if r.capture then (found.under g).storeCaptures v.captures else found.under g) =
      captured.under g := by
    unfold captured
    split <;> rfl
  have hnoted : g.Suits noted.exchange := by
    unfold noted captured
    split
    · exact h
    · exact h
  have htaken : g.Suits (noted.takeMessage r).exchange :=
    hnoted.of_purges (purges_expandMessage r noted.exchange)
  calc r.noteMatch value text reference v (p.under g)
      = ((((captured.under g).noteMatch value text).takeMessage r).runActions r
          (r.actionsOf .everyMatch)).log false := by rw [← hcaptured]; rfl
    _ = (((noted.under g).takeMessage r).runActions r (r.actionsOf .everyMatch)).log false := rfl
    _ = (((noted.takeMessage r).under g).runActions r (r.actionsOf .everyMatch)).log false := by
        rw [takeMessage_under hnoted]
    _ = (((noted.takeMessage r).runActions r (r.actionsOf .everyMatch)).under g).log false := by
        rw [everyMatch_under htaken]
    _ = (r.noteMatch value text reference v p).under g := rfl

theorem isTargetRemoved_under (hkeeps : g.KeepsTargets) (r : Rule) (d : Decision)
    (target : String) :
    r.isTargetRemoved (g.decision d).overrides target = r.isTargetRemoved d.overrides target := by
  unfold Rule.isTargetRemoved Overrides.removesTarget
  rw [hkeeps.byId, hkeeps.byTag]

theorem passesOver_under (hkeeps : g.KeepsTargets) (r : Rule) (t : Retargeting) (d : Decision)
    (v : Value) : r.passesOver t (g.decision d).overrides v = r.passesOver t d.overrides v := by
  unfold Rule.passesOver
  rw [isTargetRemoved_under hkeeps]

theorem targets_under (hkeeps : g.KeepsTargets) (r : Rule) (t : Retargeting) (d : Decision) :
    r.targets t (g.decision d).overrides = r.targets t d.overrides := by
  unfold Rule.targets
  simp only [isTargetRemoved_under hkeeps]

variable {s : Bool × Progress}

theorem testText_under (h : g.Suits s.2.exchange) (r : Rule) (value : Value)
    (t : String × String) :
    r.testText value (g.tested s) t = g.tested (r.testText value s t) := by
  let verdict := r.test.evaluate r.info r.capture t.1 s.2.exchange
  let read : Progress := { s.2 with exchange := verdict.2 }
  have hread : g.Suits read.exchange := h.of_purges (purges_test r.test r.info r.capture t.1 _)
  have hnote := noteMatch_under hread r value t.1 t.2 verdict.1
  unfold Rule.testText
  dsimp only [Disguise.tested, Progress.under]
  rw [test_under h]
  by_cases hmatched : verdict.1.matched = true
  · rw [if_pos hmatched, if_pos hmatched]
    exact congrArg (Prod.mk true) hnote
  · rw [if_neg hmatched, if_neg hmatched]

theorem testValue_under (hkeeps : g.KeepsTargets) (h : g.Suits s.2.exchange) (r : Rule)
    (t : Retargeting) (v : Value) :
    r.testValue t (g.tested s) v = g.tested (r.testValue t s v) := by
  have hover : r.passesOver t (g.tested s).2.exchange.tx.decision.overrides v =
      r.passesOver t s.2.exchange.tx.decision.overrides v := passesOver_under hkeeps r t _ v
  unfold Rule.testValue
  rw [hover]
  split
  · rfl
  · refine (foldl_unnoticed (I := fun s => g.Suits s.2.exchange) _ ?_ h).1
    intro s hs text _
    exact ⟨testText_under hs r v text, hs.of_undecided (advance_testText r v s text).exchange⟩

theorem testVariable_under (hkeeps : g.KeepsTargets) (h : g.Suits s.2.exchange) (r : Rule)
    (t : Retargeting) (v : Variable) :
    r.testVariable t (g.tested s) v = g.tested (r.testVariable t s v) := by
  let found := v.evaluate r.info s.2.exchange
  have hfound : g.Suits found.2 := h.of_purges (purges_variable r.info v s.2.exchange)
  unfold Rule.testVariable
  dsimp only [Disguise.tested, Progress.under]
  rw [variable_under h]
  refine (foldl_unnoticed (I := fun s => g.Suits s.2.exchange) (d := g.tested)
    (s := (s.1, { s.2 with exchange := found.2 })) _ ?_ hfound).1
  intro s hs value _
  exact ⟨testValue_under hkeeps hs r t value,
    hs.of_undecided (advance_testValue r t s value).exchange⟩

theorem testOnce_under (h : g.Suits p.exchange) (r : Rule) :
    r.testOnce (p.under g) = g.tested (r.testOnce p) := by
  let verdict := r.test.evaluate r.info r.capture "" p.exchange
  let read : Progress := { p with exchange := verdict.2 }
  have hread : g.Suits read.exchange := h.of_purges (purges_test r.test r.info r.capture "" _)
  have hactions := everyMatch_under hread r
  unfold Rule.testOnce
  dsimp only [Progress.under]
  rw [test_under h]
  by_cases hmatched : verdict.1.matched = true
  · rw [if_pos hmatched, if_pos hmatched]
    exact congrArg (Prod.mk true) hactions
  · rw [if_neg hmatched, if_neg hmatched]
    rfl

theorem testAll_under (hkeeps : g.KeepsTargets) (h : g.Suits p.exchange) (r : Rule)
    (e : Exceptions) : r.testAll e (p.under g) = g.tested (r.testAll e p) := by
  let retargeting := e.forRule r p.exchange
  have hread : g.Suits retargeting.2 := h.of_purges (purges_forRule e r p.exchange)
  have htargets : r.targets retargeting.1 (retargeting.2.under g).tx.decision.overrides =
      r.targets retargeting.1 retargeting.2.tx.decision.overrides := targets_under hkeeps r _ _
  unfold Rule.testAll
  dsimp only [Progress.under]
  rw [forRule_under h, htargets]
  refine (foldl_unnoticed (I := fun s => g.Suits s.2.exchange) (d := g.tested)
    (s := (false, { p with exchange := retargeting.2 })) _ ?_ hread).1
  intro s hs v _
  exact ⟨testVariable_under hkeeps hs r _ v,
    hs.of_undecided (advance_testVariable r _ s v).exchange⟩

/-- **A rule does not notice a disguise** that suits its exchange and keeps the targets out of
force. -/
theorem evaluate_under (hkeeps : g.KeepsTargets) (h : g.Suits p.exchange) (r : Rule)
    (e : Exceptions) : r.evaluate e (p.under g) = g.tested (r.evaluate e p) := by
  let tested := if r.isUnconditional then r.testOnce p else r.testAll e p
  have htested : (if r.isUnconditional then r.testOnce (p.under g) else r.testAll e (p.under g)) =
      g.tested tested := by
    rw [testOnce_under h, testAll_under hkeeps h]
    unfold tested
    split <;> rfl
  have hrule : r.evaluate e p = if tested.1 then tested else (false, tested.2.clearMatches) := rfl
  rw [hrule]
  unfold Rule.evaluate
  rw [htested]
  by_cases hmatched : tested.1 = true
  · rw [if_pos hmatched]
    exact if_pos hmatched
  · rw [if_neg hmatched]
    exact if_neg hmatched

end Rules

/-! ## Chains -/

namespace Engine

variable {e : Engine} {o : Overrides} {p : Progress} {rules : List Rule} {k : Nat}

theorem after_under (hkeeps : g.KeepsTargets) (h : g.Suits p.exchange) (rules : List Rule) :
    e.after (p.under g) rules = (e.after p rules).under g := by
  refine (foldl_unnoticed (I := fun q : Progress => g.Suits q.exchange) (d := fun q => q.under g)
    rules ?_ h).1
  intro q hq r _
  refine ⟨congrArg Prod.snd (evaluate_under hkeeps hq r e.exceptions), ?_⟩
  exact hq.of_undecided (advance_evaluate r e.exceptions q).exchange

theorem matchesAt_under (hkeeps : g.KeepsTargets) (h : g.Suits p.exchange) :
    e.MatchesAt (p.under g) rules k ↔ e.MatchesAt p rules k := by
  have hsuits : g.Suits (e.after p (rules.take k)).exchange :=
    h.of_undecided (e.advance_after p (rules.take k)).exchange
  have hsame (r : Rule) :
      (r.evaluate e.exceptions ((e.after p (rules.take k)).under g)).1 =
        (r.evaluate e.exceptions (e.after p (rules.take k))).1 := by
    rw [evaluate_under hkeeps hsuits]
    rfl
  unfold MatchesAt
  rw [after_under hkeeps h]
  simp only [hsame]

/-- A chain closes and breaks in disguise where it does without. -/
theorem ClosesAt.under (hkeeps : g.KeepsTargets) (h : g.Suits p.exchange)
    (hc : e.ClosesAt o p rules k) : e.ClosesAt o (p.under g) rules k where
  matched := fun i hi => (matchesAt_under hkeeps h).2 (hc.matched i hi)
  ends := hc.ends
  first := hc.first

theorem BreaksAt.under (hkeeps : g.KeepsTargets) (h : g.Suits p.exchange)
    (hb : e.BreaksAt o p rules k) : e.BreaksAt o (p.under g) rules k where
  inside := hb.inside
  reached := by
    intro i hi
    obtain ⟨hmatches, hgoesOn⟩ := hb.reached i hi
    exact ⟨(matchesAt_under hkeeps h).2 hmatches, hgoesOn⟩
  broken := hb.broken.imp_left (mt (matchesAt_under hkeeps h).1)

end Engine

end Rampart
