import Mathlib.Data.List.Forall2
import Rampart.Proofs.ChainVerdict
import Rampart.Proofs.LinkMatch
import Rampart.Proofs.Spared

/-!
# Every occurrence is recorded

A rule walks through its targets, their values and the texts these are normalised to, and notes each
text that passes its test. What it will find can be said before it sets out, as one list: the
occurrences of the exchange it starts from. A rule whose own notes do not change what it inspects or
tests records exactly these, each once and in this order; it matches if there are any.

The walk changes the exchange, but only in the values that matched, so at every point of it the
exchange is the first one with other matches (`Exchange.withMatches`). Nothing that such a rule reads
looks at them.
-/

namespace Rampart

/-! ## What does not look at the values that matched -/

/-- What the variable stands for depends on the values that matched last. -/
def Variable.readsMatches : Variable → Bool
  | set source _ _ => source == .matchedVars
  | names source _ _ => source == .matchedVars
  | single source => source == .matchedVar || source == .matchedVarName
  | count base => base.readsMatches
  | _ => false

/-- The parameter of the operator holds a reference. -/
def Operator.hasReference : Operator → Bool
  | text _ param => param.hasReference
  | number _ param _ => param.hasReference
  | _ => false

/-- The exchange with other values that matched. -/
def Exchange.withMatches (x : Exchange) (m : Matches) : Exchange :=
  x.update fun t => { t with matched := m }

theorem Exchange.Fresh.withMatches {x : Exchange} (h : x.Fresh) (m : Matches) :
    (x.withMatches m).Fresh := ⟨h.own, h.shared⟩

theorem variable_withMatches {v : Variable} (hv : v.readsMatches = false) (r : RuleInfo)
    (x : Exchange) (m : Matches) : (v.evaluate r (x.withMatches m)).1 = (v.evaluate r x).1 := by
  induction v with
  | set source sel omitted =>
      cases source with
      | matchedVars => cases hv
      | _ => rfl
  | names source sel omitted =>
      cases source with
      | matchedVars => cases hv
      | _ => rfl
  | single source =>
      cases source with
      | matchedVar => cases hv
      | matchedVarName => cases hv
      | _ => rfl
  | collection name sel omitted =>
      have hview : (x.withMatches m).view? name.text = x.view? name.text := rfl
      rw [Variable.evaluate, Variable.evaluate, hview]
      cases x.view? name.text with
      | none => rfl
      | some v =>
          obtain ⟨home, part⟩ := v
          cases home with
          | own => rfl
          | shared place => rfl
  | count base ih => rw [Variable.evaluate, Variable.evaluate, ih hv]
  | _ => rfl

theorem expand_of_no_reference {m : MacroText} (h : m.hasReference = false) (r : RuleInfo)
    (x y : Exchange) : m.expand r y = ((m.expand r x).1, y) := by
  have hsegments (segments : List Segment) (h : (MacroText.mk m.raw segments).hasReference = false) :
      MacroText.expandSegments r segments y = ((MacroText.expandSegments r segments x).1, y) := by
    induction segments with
    | nil => rfl
    | cons s rest ih =>
        cases s with
        | literal cs => rw [MacroText.expandSegments, MacroText.expandSegments, ih h]
        | reference v => cases h
  unfold MacroText.expand
  rw [hsegments m.segments h]

/-- A test without references neither looks at the exchange nor changes it. -/
theorem test_of_no_reference {t : Test} (h : t.operator.hasReference = false) (r : RuleInfo)
    (capture : Bool) (input : String) (x y : Exchange) :
    t.evaluate r capture input y = ((t.evaluate r capture input x).1, y) := by
  have hoperator : t.operator.evaluate r capture input y =
      ((t.operator.evaluate r capture input x).1, y) := by
    cases hp : t.operator with
    | text test param =>
        rw [hp] at h
        rw [Operator.evaluate, Operator.evaluate, expand_of_no_reference h r x y]
    | number test param literal =>
        rw [hp] at h
        cases literal with
        | some n => rfl
        | none => rw [Operator.evaluate, Operator.evaluate, expand_of_no_reference h r x y]
    | _ => rw [Operator.evaluate, Operator.evaluate]
  unfold Test.evaluate
  rw [hoperator]

/-! ## Occurrences -/

/-- A value, and a text that it is normalised to. -/
structure Occurrence where
  value : Value
  text : String
  deriving DecidableEq, Repr

/-- The record is evidence of the occurrence. -/
def Occurrence.ShownBy (o : Occurrence) (m : MatchRecord) : Prop := m.Reports o.value.name o.text

/-- What is left out of a list adds nothing. -/
theorem flatMap_filter_eq {α β : Type} (p : α → Bool) (f : α → List β) (as : List α) :
    (as.filter p).flatMap f = as.flatMap fun a => if p a then f a else [] := by
  induction as with
  | nil => rfl
  | cons a as ih =>
      rw [List.filter_cons, List.flatMap_cons, ← ih]
      split <;> rfl

namespace Rule

/-- The texts that a value is normalised to and that pass the test of the rule. -/
def occurrencesIn (r : Rule) (x : Exchange) (v : Value) : List Occurrence :=
  ((r.pipeline.run v.text r.multiMatch).filter fun t => r.accepts x t.1).map fun t => ⟨v, t.1⟩

/-- The occurrences in the values of one target, without those that the rule passes over. -/
def occurrencesOf (r : Rule) (t : Retargeting) (x : Exchange) (v : Variable) : List Occurrence :=
  ((v.evaluate r.info x).1.filter fun value =>
    !r.passesOver t x.tx.decision.overrides value).flatMap (r.occurrencesIn x)

/-- The occurrences in the targets of the rule: in its own that are left to it, and then in those
that exceptions add. -/
def occurrences (r : Rule) (e : Exceptions) (x : Exchange) : List Occurrence :=
  (r.targets (e.forRule r x).1 x.tx.decision.overrides).flatMap
    (r.occurrencesOf (e.forRule r x).1 x)

/-- From one point of its way to a later one, the rule has recorded some occurrences and changed
nothing but the values that matched. -/
structure Records (r : Rule) (x : Exchange) (s s' : Bool × Progress) (os : List Occurrence) :
    Prop where
  matched : s'.1 = true ↔ s.1 = true ∨ os ≠ []
  exchange : ∃ m, s'.2.exchange = x.withMatches m
  logged : ∃ more, s'.2.logged = s.2.logged ++ more ∧ List.Forall₂ Occurrence.ShownBy os more

namespace Records

variable {r : Rule} {x : Exchange} {s s' s'' : Bool × Progress} {os os' : List Occurrence}

theorem nothing (hs : ∃ m, s.2.exchange = x.withMatches m) : r.Records x s s [] where
  matched := by simp
  exchange := hs
  logged := ⟨[], by simp, .nil⟩

theorem trans (h : r.Records x s s' os) (h' : r.Records x s' s'' os') :
    r.Records x s s'' (os ++ os') where
  matched := by
    rw [h'.matched, h.matched, or_assoc, ← not_and_or, ← List.append_eq_nil_iff]
  exchange := h'.exchange
  logged := by
    obtain ⟨more, hmore, hshown⟩ := h.logged
    obtain ⟨more', hmore', hshown'⟩ := h'.logged
    refine ⟨more ++ more', ?_, List.rel_append hshown hshown'⟩
    rw [hmore', hmore, List.append_assoc]

/-- Steps record their occurrences one after the other. -/
theorem foldl {α : Type} {f : Bool × Progress → α → Bool × Progress} {g : α → List Occurrence}
    (as : List α) (hs : ∃ m, s.2.exchange = x.withMatches m)
    (step : ∀ s, (∃ m, s.2.exchange = x.withMatches m) → ∀ a ∈ as, r.Records x s (f s a) (g a)) :
    r.Records x s (as.foldl f s) (as.flatMap g) := by
  induction as generalizing s with
  | nil => exact .nothing hs
  | cons a as ih =>
      have hfirst := step s hs a List.mem_cons_self
      exact hfirst.trans
        (ih hfirst.exchange fun s hs b hb => step s hs b (List.mem_cons_of_mem a hb))

end Records

/-- What the rule notes does not change what it inspects or tests. -/
structure Steady (r : Rule) (e : Exceptions) (x : Exchange) : Prop where
  fresh : x.Fresh
  targeted : r.inspected ≠ []
  capture : r.capture = false
  actions : r.actionsOf .everyMatch = []
  test : r.test.operator.hasReference = false
  targets : ∀ v ∈ r.targets (e.forRule r x).1 x.tx.decision.overrides, v.readsMatches = false

section Steady

variable {r : Rule} {e : Exceptions} {x : Exchange}

/-- A note changes the values that matched and nothing else: the message is only read. -/
theorem exchange_noteMatch (h : r.Steady e x) {p : Progress} {m : Matches}
    (hp : p.exchange = x.withMatches m) (value : Value) (text reference : String) (v : Verdict) :
    ∃ m', (r.noteMatch value text reference v p).exchange = x.withMatches m' := by
  let m' := m.record value.name text ((value.origins.head?.map (·.offset)).getD 0)
  have hnoted : (p.noteMatch value text).exchange = x.withMatches m' := by
    unfold Progress.noteMatch
    rw [hp]
    rfl
  have hmessage := (purges_expandMessage r (x.withMatches m')).eq_of_fresh (h.fresh.withMatches m')
  refine ⟨m', ?_⟩
  unfold noteMatch
  rw [h.capture, h.actions]
  change (r.expandMessage (p.noteMatch value text).exchange).2 = x.withMatches m'
  rw [hnoted]
  exact hmessage

-- Each level records what the levels below it record, in the order of its loop.

theorem records_testText (h : r.Steady e x) {s : Bool × Progress}
    (hs : ∃ m, s.2.exchange = x.withMatches m) (value : Value) (t : String × String) :
    r.Records x s (r.testText value s t) (if r.accepts x t.1 then [⟨value, t.1⟩] else []) := by
  have htest := test_of_no_reference h.test r.info r.capture t.1 x s.2.exchange
  unfold testText accepts
  dsimp only
  rw [htest]
  dsimp only
  cases (r.test.evaluate r.info r.capture t.1 x).1.matched with
  | false => exact .nothing hs
  | true =>
      obtain ⟨m, hm⟩ := hs
      obtain ⟨entry, hlogged, hshown, -⟩ := r.noteMatch_reports value t.1 t.2
        (r.test.evaluate r.info r.capture t.1 x).1 s.2
      refine ⟨?_, exchange_noteMatch h hm value t.1 t.2 _, [entry], hlogged, .cons hshown .nil⟩
      simp

theorem records_testValue (h : r.Steady e x) {s : Bool × Progress}
    (hs : ∃ m, s.2.exchange = x.withMatches m) (t : Retargeting) (v : Value) :
    r.Records x s (r.testValue t s v)
      (if !r.passesOver t x.tx.decision.overrides v then r.occurrencesIn x v else []) := by
  have hdecision : s.2.exchange.tx.decision = x.tx.decision := by
    obtain ⟨m, hm⟩ := hs
    rw [hm]
    rfl
  unfold testValue
  rw [hdecision]
  cases r.passesOver t x.tx.decision.overrides v with
  | true => exact .nothing hs
  | false =>
      unfold occurrencesIn
      rw [List.map_eq_flatMap, flatMap_filter_eq]
      exact Records.foldl _ hs fun s hs text _ => records_testText h hs v text

theorem records_testVariable (h : r.Steady e x) {s : Bool × Progress}
    (hs : ∃ m, s.2.exchange = x.withMatches m) (t : Retargeting) {v : Variable}
    (hv : v.readsMatches = false) :
    r.Records x s (r.testVariable t s v) (r.occurrencesOf t x v) := by
  obtain ⟨m, hm⟩ := hs
  have hread := (purges_variable r.info v s.2.exchange).eq_of_fresh (hm ▸ h.fresh.withMatches m)
  unfold testVariable occurrencesOf
  dsimp only
  rw [hread, hm, variable_withMatches hv, ← hm, flatMap_filter_eq]
  exact Records.foldl _ ⟨m, hm⟩ fun s hs value _ => records_testValue h hs t value

theorem records_testAll {p : Progress} (h : r.Steady e p.exchange) :
    r.Records p.exchange (false, p) (r.testAll e p) (r.occurrences e p.exchange) := by
  have hread := (purges_forRule e r p.exchange).eq_of_fresh h.fresh
  unfold testAll occurrences
  dsimp only
  rw [hread]
  refine Records.foldl _ ⟨p.exchange.tx.matched, rfl⟩ fun s hs v hv => ?_
  exact records_testVariable h hs _ (h.targets v hv)

/-- **A rule records every occurrence**, and matches if there are any. -/
theorem records_evaluate {p : Progress} (h : r.Steady e p.exchange) :
    ((r.evaluate e p).1 = true ↔ r.occurrences e p.exchange ≠ []) ∧
      ∃ more, (r.evaluate e p).2.logged = p.logged ++ more ∧
        List.Forall₂ Occurrence.ShownBy (r.occurrences e p.exchange) more := by
  have hconditional : r.isUnconditional = false := List.isEmpty_eq_false_iff.2 h.targeted
  have hrecords := records_testAll h
  have hmatched : (r.testAll e p).1 = true ↔ r.occurrences e p.exchange ≠ [] := by
    rw [hrecords.matched, or_iff_right Bool.false_ne_true]
  obtain ⟨tested, ⟨hu, -⟩ | ⟨-, rfl⟩, hcome⟩ := r.evaluate_cases e p
  · exact nomatch hconditional.symm.trans hu
  · rcases hcome with ⟨-, heq⟩ | ⟨hno, heq⟩
    · rw [heq]
      exact ⟨hmatched, hrecords.logged⟩
    · -- what matched is forgotten, but what is logged stays
      rw [heq]
      rw [hno] at hmatched
      exact ⟨hmatched, hrecords.logged⟩

end Steady

end Rule

namespace Engine

/--
**Every occurrence is recorded**, each once and in order.

Take a rule that stands alone, has targets, and is not changed in what it inspects and tests by its
own notes; let it be in force, and let nothing have expired. The records that it logs without closing
its chain show, one by one, the occurrences of the exchange it starts from: target by target, first
its own that are left to it and then those that exceptions add; in each target value by value, without
those that are excluded or out of force; in each value text by text on its way through the pipeline,
if the text passes the test. The chain holds exactly if there is an occurrence.
-/
theorem every_occurrence_recorded (e : Engine) (x : Exchange) (c : Chain) (hmode : e.mode ≠ .off)
    (hin : x.tx.decision.overrides.removesRule c.id = false) (halone : c.head.chained = false)
    (h : c.head.Steady e.exceptions x) :
    List.Forall₂ Occurrence.ShownBy (c.head.occurrences e.exceptions x)
        (e.evaluate x c).evidence ∧
      ((e.evaluate x c).holds = true ↔ c.head.occurrences e.exceptions x ≠ []) := by
  obtain ⟨hmatched, more, hlogged, hshown⟩ :=
    Rule.records_evaluate (e := e.exceptions) (p := .start x c) h
  have hevidence : (e.after (.start x c) (c.links.take 1)).logged = more := hlogged
  by_cases hyes : (c.head.evaluate e.exceptions (.start x c)).1 = true
  · have hcloses : e.ClosesAt x.tx.decision.overrides (.start x c) c.links 0 :=
      closesAt_zero hyes ⟨c.head, rfl, .inl halone⟩
    rw [evidence_of_closesAt hmode hin hcloses, (evaluate_of_closesAt hmode hin hcloses).1,
      hevidence]
    exact ⟨hshown, fun _ => hmatched.1 hyes, fun _ => rfl⟩
  · have hbreaks : e.BreaksAt x.tx.decision.overrides (.start x c) c.links 0 := breaksAt_zero hyes
    rw [evidence_of_breaksAt hmode hin hbreaks, evaluate_of_breaksAt hmode hin hbreaks, hevidence]
    refine ⟨hshown, ?_, fun hsome => absurd (hmatched.2 hsome) hyes⟩
    intro hholds
    cases hholds

/-- A rule on every argument, tested as it is and in small letters. -/
def letterChain : Chain :=
  ⟨{ plainRule 1 false with
      inspected := [.set .args .all .none]
      pipeline := ⟨[.lowercase]⟩
      multiMatch := true }, []⟩

/-- An exception that leaves out one argument and adds the method. -/
def letterExceptions : Exceptions :=
  { Exceptions.none with
    byId := [(1, [.exclusion (.set .args (.key "a") .none), .single .requestMethod])] }

/-- A request with two arguments. -/
def letterExchange : Exchange where
  tx := (Transaction.new "t" 0 .empty).learn fun r =>
    { r.withMethod "GET" with args := (r.args.pushWhole "a" "A" 0).pushWhole "b" "B" 2 }
  shelf := .empty
  now := 0

theorem every_occurrence_recorded_letters :
    (letterChain.head.occurrences letterExceptions letterExchange).map
        (fun o => (o.value.name, o.text)) =
      [("ARGS:b", "B"), ("ARGS:b", "b"), ("REQUEST_METHOD", "GET"), ("REQUEST_METHOD", "get")] ∧
    letterChain.head.Steady letterExceptions letterExchange ∧
    List.Forall₂ Occurrence.ShownBy (letterChain.head.occurrences letterExceptions letterExchange)
      (Engine.evaluate ⟨.on, letterExceptions⟩ letterExchange letterChain).evidence := by
  have hsteady : letterChain.head.Steady letterExceptions letterExchange :=
    ⟨⟨fun b hb => (by cases hb), fun c hc => (by cases hc)⟩, by decide, rfl, rfl, rfl, by decide⟩
  have hrecorded := every_occurrence_recorded ⟨.on, letterExceptions⟩ letterExchange letterChain
    (by decide) (by decide) rfl hsteady
  exact ⟨by decide, hsteady, hrecorded.1⟩

end Engine

end Rampart
