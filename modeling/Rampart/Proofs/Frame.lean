import Rampart.Proofs.Purge

/-!
# What evaluating a rule leaves alone

Until a chain is closed its rules may fill collections and take note of what matched, and they log
evidence. Nothing else changes: what rules have decided, the request and the bindings of shared
collections stay as they were, the record that is carried along stays with the head of the chain,
and no record is logged that would close it.

`OnlyCollections` is the frame of reads and of the actions for every match, `Undecided` that of a
whole rule. `Advance` says the same of the progress of a chain, with what it says of the log.
-/

namespace Rampart

/-- Two exchanges that differ at most in their collections and in the values that matched. -/
structure Undecided (x y : Exchange) : Prop where
  request : y.tx.request = x.tx.request
  registry : y.tx.registry = x.tx.registry
  bindings : y.tx.bindings = x.tx.bindings
  environment : y.tx.environment = x.tx.environment
  decision : y.tx.decision = x.tx.decision
  now : y.now = x.now

theorem Undecided.refl (x : Exchange) : Undecided x x := ⟨rfl, rfl, rfl, rfl, rfl, rfl⟩

theorem Undecided.trans {x y z : Exchange} (h₁ : Undecided x y) (h₂ : Undecided y z) :
    Undecided x z where
  request := h₂.request.trans h₁.request
  registry := h₂.registry.trans h₁.registry
  bindings := h₂.bindings.trans h₁.bindings
  environment := h₂.environment.trans h₁.environment
  decision := h₂.decision.trans h₁.decision
  now := h₂.now.trans h₁.now

/-- Two exchanges that differ at most in their collections. -/
structure OnlyCollections (x y : Exchange) : Prop extends Undecided x y where
  matched : y.tx.matched = x.tx.matched

theorem OnlyCollections.refl (x : Exchange) : OnlyCollections x x := ⟨.refl x, rfl⟩

theorem OnlyCollections.trans {x y z : Exchange} (h₁ : OnlyCollections x y)
    (h₂ : OnlyCollections y z) : OnlyCollections x z :=
  ⟨h₁.toUndecided.trans h₂.toUndecided, h₂.matched.trans h₁.matched⟩

/-! ## Reads and writes of collections -/

theorem onlyCollections_put (x : Exchange) (h : Home) (c : Collection) :
    OnlyCollections x (x.put h c) := by
  cases h with
  | own => exact ⟨⟨rfl, rfl, rfl, rfl, rfl, rfl⟩, rfl⟩
  | shared place => exact ⟨⟨rfl, rfl, rfl, rfl, rfl, rfl⟩, rfl⟩

/-- Reads change collections at most. -/
theorem Purges.onlyCollections {x y : Exchange} (h : Purges x y) : OnlyCollections x y := by
  induction h with
  | refl => exact .refl x
  | purge _ home selects ih => exact ih.trans (onlyCollections_put _ home _)

theorem onlyCollections_writing (x : Exchange) (v : View)
    (f : Compartment → Collection → Collection) : OnlyCollections x (x.writing v f) :=
  onlyCollections_put x v.home _

/-! ## Actions -/

theorem onlyCollections_applyChange (r : RuleInfo) (v : View) (key : String) (x : Exchange)
    (c : Change) : OnlyCollections x (Action.applyChange r v key x c) := by
  have count (delta : MacroText) (f : Int → Int → Int) :
      OnlyCollections x (Action.applyChange.count r v key x delta f) := by
    unfold Action.applyChange.count
    -- the old number is read, the difference expanded, and the new number written, in this order
    refine OnlyCollections.trans ?_ (onlyCollections_writing _ v _)
    refine OnlyCollections.trans ?_ (purges_expand delta r _).onlyCollections
    exact onlyCollections_put x v.home _
  cases c with
  | set text =>
      rw [Action.applyChange]
      exact (purges_expand text r x).onlyCollections.trans (onlyCollections_writing _ v _)
  | one => rw [Action.applyChange]; exact onlyCollections_writing x v _
  | erase => rw [Action.applyChange]; exact onlyCollections_writing x v _
  | add delta => exact count delta _
  | sub delta => exact count delta _

/-- The actions for every match write to collections at most. -/
theorem onlyCollections_run {a : Action} (h : a.stage = .everyMatch) (r : RuleInfo) (x : Exchange)
    (m : MatchRecord) : OnlyCollections x (a.run r x m).1 := by
  cases a with
  | setVar collection key change =>
      have hk := (purges_expand key r x).onlyCollections
      rw [Action.run]
      split
      · exact hk
      · exact hk.trans (onlyCollections_applyChange r _ _ _ change)
  | logData text => exact (purges_expand text r x).onlyCollections
  -- every other action runs when the chain is closed
  | _ => cases h

/-- The action binds a shared collection. -/
def Action.binds : Action → Bool
  | initCollection _ _ => true
  | _ => false

/-- No action changes what is remembered of the values that matched, and only one kind changes what
is bound. -/
theorem matched_and_bindings_run (a : Action) (r : RuleInfo) (x : Exchange) (m : MatchRecord) :
    (a.run r x m).1.tx.matched = x.tx.matched ∧
      (a.binds = false → (a.run r x m).1.tx.bindings = x.tx.bindings) := by
  have both {y : Exchange} (h : OnlyCollections x y) :
      y.tx.matched = x.tx.matched ∧ (a.binds = false → y.tx.bindings = x.tx.bindings) :=
    ⟨h.matched, fun _ => h.bindings⟩
  have expanded (text : MacroText) (y : Exchange) : OnlyCollections y (text.expand r y).2 :=
    (purges_expand text r y).onlyCollections
  cases a with
  | setVar collection key change => exact both (onlyCollections_run rfl r x m)
  | logData text => exact both (expanded text x)
  | expireVar collection key seconds =>
      have hread := (expanded key x).trans (expanded seconds (key.expand r x).2)
      rw [Action.run]
      dsimp only
      split
      · exact both hread
      · dsimp only
        exact both (hread.trans (onlyCollections_writing _ _ _))
  | initCollection collection key =>
      have hbind (t : Transaction) (name text : String) :
          (t.bind name text).2.matched = t.matched := by
        unfold Transaction.bind
        split <;> rfl
      refine ⟨(hbind _ _ _).trans (expanded key x).matched, fun h => ?_⟩
      cases h
  | setEnv assignment =>
      rw [Action.run]
      split
      · exact ⟨(expanded assignment x).matched, fun _ => (expanded assignment x).bindings⟩
      · exact both (expanded assignment x)
  | disrupt d =>
      cases d with
      | redirect url => exact ⟨(expanded url x).matched, fun _ => (expanded url x).bindings⟩
      | _ => exact ⟨rfl, fun _ => rfl⟩
  | skip count => exact ⟨rfl, fun _ => rfl⟩
  | status code => exact ⟨rfl, fun _ => rfl⟩
  | control c => exact ⟨rfl, fun _ => rfl⟩

theorem matched_run (a : Action) (r : RuleInfo) (x : Exchange) (m : MatchRecord) :
    (a.run r x m).1.tx.matched = x.tx.matched := (matched_and_bindings_run a r x m).1

theorem bindings_run {a : Action} (ha : a.binds = false) (r : RuleInfo) (x : Exchange)
    (m : MatchRecord) : (a.run r x m).1.tx.bindings = x.tx.bindings :=
  (matched_and_bindings_run a r x m).2 ha

/-- Of the record that goes along, an action changes the data at most, and only a disruptive one
makes it disruptive. -/
theorem record_run (r : RuleInfo) (x : Exchange) (m : MatchRecord) (a : Action) :
    ∃ data disruptive, (a.run r x m).2 = { m with data := data, disruptive := disruptive } ∧
      (a.stage ≠ .disruptive → disruptive = m.disruptive) := by
  cases a with
  | setVar collection key change =>
      rw [Action.run]
      split <;> exact ⟨m.data, m.disruptive, rfl, fun _ => rfl⟩
  | expireVar collection key seconds =>
      rw [Action.run]
      split <;> exact ⟨m.data, m.disruptive, rfl, fun _ => rfl⟩
  | setEnv assignment =>
      rw [Action.run]
      split <;> exact ⟨m.data, m.disruptive, rfl, fun _ => rfl⟩
  | disrupt d =>
      cases d with
      | pass => exact ⟨m.data, m.disruptive, rfl, fun _ => rfl⟩
      | _ => exact ⟨m.data, true, rfl, fun h => absurd rfl h⟩
  | logData text => exact ⟨_, m.disruptive, rfl, fun _ => rfl⟩
  | initCollection collection key => exact ⟨m.data, m.disruptive, rfl, fun _ => rfl⟩
  | skip count => exact ⟨m.data, m.disruptive, rfl, fun _ => rfl⟩
  | status code => exact ⟨m.data, m.disruptive, rfl, fun _ => rfl⟩
  | control c => exact ⟨m.data, m.disruptive, rfl, fun _ => rfl⟩

theorem ruleId_run (r : RuleInfo) (x : Exchange) (m : MatchRecord) (a : Action) :
    (a.run r x m).2.ruleId = m.ruleId := by
  obtain ⟨data, disruptive, hrun, -⟩ := record_run r x m a
  rw [hrun]

/-! ## The progress of a chain -/

/-- What a rule makes of the progress of its chain: nothing is decided, the record stays with its
rule and does not become disruptive, and the log grows by records that close no chain. -/
structure Advance (p q : Progress) : Prop where
  exchange : Undecided p.exchange q.exchange
  ruleId : q.record.ruleId = p.record.ruleId
  disruptive : q.record.disruptive = p.record.disruptive
  logged : ∃ more, q.logged = p.logged ++ more ∧
    ∀ m ∈ more, m.isFinal = false ∧ m.disruptive = p.record.disruptive

theorem Advance.refl (p : Progress) : Advance p p := ⟨.refl _, rfl, rfl, [], by simp⟩

theorem Advance.trans {p q s : Progress} (h₁ : Advance p q) (h₂ : Advance q s) : Advance p s := by
  obtain ⟨more₁, hq, hf₁⟩ := h₁.logged
  obtain ⟨more₂, hs, hf₂⟩ := h₂.logged
  refine ⟨h₁.exchange.trans h₂.exchange, h₂.ruleId.trans h₁.ruleId,
    h₂.disruptive.trans h₁.disruptive, more₁ ++ more₂, ?_, ?_⟩
  · rw [hs, hq, List.append_assoc]
  · intro m hm
    rcases List.mem_append.1 hm with hm | hm
    · exact hf₁ m hm
    · obtain ⟨hfinal, hd⟩ := hf₂ m hm
      exact ⟨hfinal, hd.trans h₁.disruptive⟩

/-- A change that touches neither the log nor what the record says of its chain. -/
theorem Advance.of_silent {p q : Progress} (hx : Undecided p.exchange q.exchange)
    (hr : q.record.ruleId = p.record.ruleId) (hd : q.record.disruptive = p.record.disruptive)
    (hl : q.logged = p.logged) : Advance p q :=
  ⟨hx, hr, hd, [], by rw [hl, List.append_nil], by simp⟩

/-- Steps that advance a progress do so one after the other. -/
theorem Advance.foldl {σ α : Type} (view : σ → Progress) {f : σ → α → σ} (as : List α)
    (h : ∀ s, ∀ a ∈ as, Advance (view s) (view (f s a))) (s : σ) :
    Advance (view s) (view (as.foldl f s)) := by
  induction as generalizing s with
  | nil => exact .refl _
  | cons a as ih =>
      have ha := h s a (List.mem_cons_self ..)
      exact ha.trans (ih (fun s b hb => h s b (List.mem_cons_of_mem _ hb)) _)

theorem stage_of_mem_actionsOf {r : Rule} {s : Stage} {a : Action} (h : a ∈ r.actionsOf s) :
    a.stage = s := by
  have := (List.mem_filter.1 h).2
  simpa using this

/-- What holds of a progress, and is kept by every one of the actions, holds after them. -/
theorem runActions_induction {I : Progress → Prop} {p : Progress} (r : Rule) (actions : List Action)
    (hp : I p) (step : ∀ q, I q → ∀ a ∈ actions,
      I { q with
        exchange := (a.run r.info q.exchange q.record).1
        record := (a.run r.info q.exchange q.record).2 }) : I (p.runActions r actions) :=
  List.foldlRecOn actions _ hp step

/-- Actions log nothing. -/
theorem logged_runActions (p : Progress) (r : Rule) (actions : List Action) :
    (p.runActions r actions).logged = p.logged :=
  runActions_induction (I := fun q => q.logged = p.logged) r actions rfl fun _ hq _ _ => hq

/-- Of the record, the actions of a stage change the data at most, unless they are disruptive. -/
theorem record_runActions (p : Progress) (r : Rule) {s : Stage} (h : s ≠ .disruptive) :
    ∃ data, (p.runActions r (r.actionsOf s)).record = { p.record with data := data } := by
  refine runActions_induction (I := fun q => ∃ data, q.record = { p.record with data := data })
    r _ ⟨p.record.data, rfl⟩ ?_
  rintro q ⟨data, hq⟩ a ha
  obtain ⟨data', disruptive, hrun, hcalm⟩ := record_run r.info q.exchange q.record a
  have hstage := stage_of_mem_actionsOf ha
  rw [hcalm fun hd => h (hstage.symm.trans hd)] at hrun
  refine ⟨data', hrun.trans ?_⟩
  rw [hq]

theorem onlyCollections_runActions (p : Progress) (r : Rule) :
    OnlyCollections p.exchange (p.runActions r (r.actionsOf .everyMatch)).exchange := by
  refine runActions_induction (I := fun q => OnlyCollections p.exchange q.exchange)
    r _ (.refl _) ?_
  intro q hq a ha
  exact hq.trans (onlyCollections_run (stage_of_mem_actionsOf ha) r.info q.exchange q.record)

theorem advance_runActions (p : Progress) (r : Rule) :
    Advance p (p.runActions r (r.actionsOf .everyMatch)) := by
  obtain ⟨data, hrecord⟩ := record_runActions p r (s := .everyMatch) (by decide)
  exact .of_silent (onlyCollections_runActions p r).toUndecided (by rw [hrecord])
    (by rw [hrecord]) (logged_runActions p r _)

theorem advance_takeMessage (p : Progress) (r : Rule) : Advance p (p.takeMessage r) :=
  .of_silent (purges_expandMessage r p.exchange).onlyCollections.toUndecided rfl rfl rfl

theorem advance_log (p : Progress) : Advance p (p.log false) :=
  ⟨.refl _, rfl, rfl, [{ p.record with isFinal := false }], rfl, by simp⟩

theorem advance_clearMatches (p : Progress) : Advance p p.clearMatches :=
  .of_silent ⟨rfl, rfl, rfl, rfl, rfl, rfl⟩ rfl rfl rfl

theorem advance_storeCaptures (p : Progress) (captures : List String) :
    Advance p (p.storeCaptures captures) :=
  .of_silent ⟨rfl, rfl, rfl, rfl, rfl, rfl⟩ rfl rfl rfl

theorem advance_noteMatch (p : Progress) (value : Value) (text : String) :
    Advance p (p.noteMatch value text) :=
  .of_silent ⟨rfl, rfl, rfl, rfl, rfl, rfl⟩ rfl rfl rfl

theorem foldl_addReference (items : List String) (m : MatchRecord) :
    items.foldl MatchRecord.addReference m =
      { m with reference := items.foldl MatchRecord.joinReference m.reference } := by
  induction items generalizing m with
  | nil => rfl
  | cons item items ih => exact ih (m.addReference item)

theorem ruleId_withMatch (m : MatchRecord) (test : Test) (value : Value) (text reference : String)
    (v : Verdict) : (m.withMatch test value text reference v).ruleId = m.ruleId := by
  unfold MatchRecord.withMatch
  dsimp only
  rw [foldl_addReference]

theorem disruptive_withMatch (m : MatchRecord) (test : Test) (value : Value)
    (text reference : String) (v : Verdict) :
    (m.withMatch test value text reference v).disruptive = m.disruptive := by
  unfold MatchRecord.withMatch
  dsimp only
  rw [foldl_addReference]

/-! ## Rules -/

theorem advance_ruleNoteMatch (r : Rule) (value : Value) (text reference : String) (v : Verdict)
    (p : Progress) : Advance p (r.noteMatch value text reference v p) := by
  have found : Advance p { p with record := p.record.withMatch r.test value text reference v } :=
    .of_silent (.refl _) (ruleId_withMatch p.record r.test value text reference v)
      (disruptive_withMatch p.record r.test value text reference v) rfl
  unfold Rule.noteMatch
  -- from the last thing done back to the first
  refine Advance.trans ?_ (advance_log _)
  refine Advance.trans ?_ (advance_runActions _ r)
  refine Advance.trans ?_ (advance_takeMessage _ r)
  refine Advance.trans ?_ (advance_noteMatch _ value text)
  split
  · exact found.trans (advance_storeCaptures _ v.captures)
  · exact found

theorem advance_read {p : Progress} {x : Exchange} (h : Purges p.exchange x) :
    Advance p { p with exchange := x } :=
  .of_silent h.onlyCollections.toUndecided rfl rfl rfl

theorem advance_testText (r : Rule) (value : Value) (s : Bool × Progress) (t : String × String) :
    Advance s.2 (r.testText value s t).2 := by
  have tested := advance_read (purges_test r.test r.info r.capture t.1 s.2.exchange)
  unfold Rule.testText
  dsimp only
  split
  · exact tested.trans (advance_ruleNoteMatch r value t.1 t.2 _ _)
  · exact tested

theorem advance_testValue (r : Rule) (t : Retargeting) (s : Bool × Progress) (v : Value) :
    Advance s.2 (r.testValue t s v).2 := by
  unfold Rule.testValue
  split
  · exact .refl _
  · exact Advance.foldl Prod.snd _ (fun s a _ => advance_testText r v s a) s

theorem advance_testVariable (r : Rule) (t : Retargeting) (s : Bool × Progress) (v : Variable) :
    Advance s.2 (r.testVariable t s v).2 := by
  have found := advance_read (purges_variable r.info v s.2.exchange)
  refine found.trans ?_
  exact Advance.foldl Prod.snd _ (fun s a _ => advance_testValue r t s a)
    (s.1, { s.2 with exchange := (v.evaluate r.info s.2.exchange).2 })

theorem advance_testOnce (r : Rule) (p : Progress) : Advance p (r.testOnce p).2 := by
  have tested := advance_read (purges_test r.test r.info r.capture "" p.exchange)
  unfold Rule.testOnce
  dsimp only
  split
  · exact tested.trans (advance_runActions _ r)
  · exact tested

theorem advance_testAll (r : Rule) (e : Exceptions) (p : Progress) :
    Advance p (r.testAll e p).2 := by
  have retargeted := advance_read (purges_forRule e r p.exchange)
  refine retargeted.trans ?_
  exact Advance.foldl Prod.snd _
    (fun s v _ => advance_testVariable r (e.forRule r p.exchange).1 s v)
    (false, { p with exchange := (e.forRule r p.exchange).2 })

/-- A rule is tested once or on all its targets, and forgets what matched before if it fails. -/
theorem Rule.evaluate_cases (r : Rule) (e : Exceptions) (p : Progress) :
    ∃ tested,
      (r.isUnconditional = true ∧ tested = r.testOnce p ∨
        r.isUnconditional = false ∧ tested = r.testAll e p) ∧
      (tested.1 = true ∧ r.evaluate e p = tested ∨
        tested.1 = false ∧ r.evaluate e p = (false, tested.2.clearMatches)) := by
  let tested := if r.isUnconditional then r.testOnce p else r.testAll e p
  refine ⟨tested, ?_, ?_⟩
  · by_cases hu : r.isUnconditional = true
    · exact .inl ⟨hu, if_pos hu⟩
    · exact .inr ⟨Bool.eq_false_iff.2 hu, if_neg hu⟩
  · by_cases ht : tested.1 = true
    · exact .inl ⟨ht, if_pos ht⟩
    · exact .inr ⟨Bool.eq_false_iff.2 ht, if_neg ht⟩

/-- **A rule decides nothing**, whether it matches or not: at most the collections and the values
that matched change, and what it logs closes no chain. -/
theorem advance_evaluate (r : Rule) (e : Exceptions) (p : Progress) :
    Advance p (r.evaluate e p).2 := by
  obtain ⟨tested, hway, hcome⟩ := r.evaluate_cases e p
  have h : Advance p tested.2 := by
    rcases hway with ⟨_, rfl⟩ | ⟨_, rfl⟩
    · exact advance_testOnce r p
    · exact advance_testAll r e p
  rcases hcome with ⟨_, heq⟩ | ⟨_, heq⟩
  · rw [heq]
    exact h
  · rw [heq]
    exact h.trans (advance_clearMatches tested.2)

end Rampart
