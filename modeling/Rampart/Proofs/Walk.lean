import Rampart.Proofs.Frame

/-!
# How a rule walks through its targets

A rule with targets walks through them, their values and the texts these are normalised to. On the
way it reads, and it takes note of matches; it does nothing else. `Walk` is what it can come to in this
way, so that what holds of the walk is proved by induction on its steps.

A note is taken only of a value that one of the targets has found, and that the rule does not pass
over at that moment.
-/

namespace Rampart.Rule

/-- The value is found by one of the targets of the rule, as long as nothing more is decided. -/
def Finds (r : Rule) (t : Retargeting) (x : Exchange) (v : Value) : Prop :=
  ∃ w ∈ r.targets t x.tx.decision.overrides, ∃ y, Undecided x y ∧ v ∈ (w.evaluate r.info y).1

/-- What a rule can come to on its way: whether a value has matched, and the progress. -/
inductive Walk (r : Rule) (e : Exceptions) (p : Progress) : Bool × Progress → Prop where
  | start : Walk r e p (false, p)
  /-- A read may remove keys with an expired entry. -/
  | read {s y} (h : Walk r e p s) (hy : Purges s.2.exchange y) :
      Walk r e p (s.1, { s.2 with exchange := y })
  /-- A match is noted. -/
  | note {s value} (h : Walk r e p s) (text reference : String) (v : Verdict)
      (hfound : r.Finds (e.forRule r p.exchange).1 p.exchange value)
      (hover : r.passesOver (e.forRule r p.exchange).1 s.2.exchange.tx.decision.overrides value =
        false) :
      Walk r e p (true, r.noteMatch value text reference v s.2)

namespace Walk

variable {r : Rule} {e : Exceptions} {p : Progress} {s : Bool × Progress}

/-- Nothing is decided on the way. -/
theorem undecided (h : r.Walk e p s) : Undecided p.exchange s.2.exchange := by
  induction h with
  | start => exact .refl _
  | read _ hy ih => exact ih.trans hy.onlyCollections.toUndecided
  | @note s value _ text reference v _ _ ih =>
      exact ih.trans (advance_ruleNoteMatch r value text reference v s.2).exchange

theorem foldl {α : Type} {f : Bool × Progress → α → Bool × Progress} (as : List α)
    (step : ∀ s, r.Walk e p s → ∀ a ∈ as, r.Walk e p (f s a)) (h : r.Walk e p s) :
    r.Walk e p (as.foldl f s) :=
  List.foldlRecOn as f h step

theorem testText (h : r.Walk e p s) {value : Value}
    (hfound : r.Finds (e.forRule r p.exchange).1 p.exchange value)
    (hover : r.passesOver (e.forRule r p.exchange).1 s.2.exchange.tx.decision.overrides value = false)
    (text : String × String) : r.Walk e p (r.testText value s text) := by
  have tested := purges_test r.test r.info r.capture text.1 s.2.exchange
  unfold Rule.testText
  dsimp only
  split
  · refine (h.read tested).note text.1 text.2 _ hfound ?_
    rw [tested.onlyCollections.decision]
    exact hover
  · exact h.read tested

theorem testValue (h : r.Walk e p s) {value : Value}
    (hfound : r.Finds (e.forRule r p.exchange).1 p.exchange value) :
    r.Walk e p (r.testValue (e.forRule r p.exchange).1 s value) := by
  unfold Rule.testValue
  split
  · exact h
  · rename_i hover
    rw [h.undecided.decision, Bool.not_eq_true] at hover
    refine foldl _ ?_ h
    intro s' h' text _
    -- between two texts nothing is decided either
    refine h'.testText hfound ?_ text
    rw [h'.undecided.decision]
    exact hover

theorem testVariable (h : r.Walk e p s) {w : Variable}
    (hw : w ∈ r.targets (e.forRule r p.exchange).1 p.exchange.tx.decision.overrides) :
    r.Walk e p (r.testVariable (e.forRule r p.exchange).1 s w) := by
  have found := purges_variable r.info w s.2.exchange
  refine foldl _ ?_ (h.read found)
  intro s' h' value hvalue
  exact h'.testValue ⟨w, hw, s.2.exchange, h.undecided, hvalue⟩

end Walk

/-- **A rule with targets walks through them** and does nothing else. -/
theorem walk_testAll (r : Rule) (e : Exceptions) (p : Progress) :
    r.Walk e p (r.testAll e p) := by
  have retargeted := purges_forRule e r p.exchange
  unfold Rule.testAll
  dsimp only
  rw [retargeted.onlyCollections.decision]
  refine Walk.foldl _ ?_ (Walk.start.read retargeted)
  intro s h w hw
  exact h.testVariable hw

end Rampart.Rule
