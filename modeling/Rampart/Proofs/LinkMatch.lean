import Rampart.Proofs.Fresh

/-!
# When a rule matches

A rule walks through its targets, their values and the texts these are normalised to, and it writes
to the exchange at each match. Whether it matches at all is decided before the first write: where
nothing has expired, a rule matches exactly if some text of some value that it does not pass over
passes its test in the exchange it starts from.
-/

namespace Rampart

/-- Steps that leave the state alone until the first hit, and that never take a hit back, find out
whether there is one. -/
theorem foldl_flag {σ α : Type} {f : Bool × σ → α → Bool × σ} {hit : α → Bool} {s : σ} {as : List α}
    (miss : ∀ a ∈ as, hit a = false → f (false, s) a = (false, s))
    (hits : ∀ a ∈ as, hit a = true → (f (false, s) a).1 = true)
    (keeps : ∀ t a, t.1 = true → (f t a).1 = true) :
    (as.foldl f (false, s)).1 = as.any hit ∧
      (as.any hit = false → as.foldl f (false, s) = (false, s)) := by
  -- behind the first hit nothing is known of the state, but the flag stays
  have kept (bs : List α) (t : Bool × σ) (ht : t.1 = true) : (bs.foldl f t).1 = true := by
    induction bs generalizing t with
    | nil => exact ht
    | cons b bs ih => exact ih _ (keeps t b ht)
  induction as with
  | nil => exact ⟨rfl, fun _ => rfl⟩
  | cons a as ih =>
      rw [List.foldl_cons, List.any_cons]
      by_cases ha : hit a = true
      · rw [ha, Bool.true_or]
        exact ⟨kept as _ (hits a (List.mem_cons_self ..) ha), fun h => by cases h⟩
      · have ha' : hit a = false := by simpa using ha
        rw [miss a (List.mem_cons_self ..) ha', ha', Bool.false_or]
        exact ih (fun b hb => miss b (List.mem_cons_of_mem _ hb))
          (fun b hb => hits b (List.mem_cons_of_mem _ hb))

namespace Rule

/-- The text passes the test of the rule. -/
def accepts (r : Rule) (x : Exchange) (text : String) : Bool :=
  (r.test.evaluate r.info r.capture text x).1.matched

/-- Some text that the value is normalised to passes the test of the rule. -/
def hitsValue (r : Rule) (t : Retargeting) (x : Exchange) (v : Value) : Bool :=
  !r.passesOver t x.tx.decision.overrides v &&
    (r.pipeline.run v.text r.multiMatch).any fun text => r.accepts x text.1

/-- Some value that the variable stands for passes the test of the rule. -/
def hitsVariable (r : Rule) (t : Retargeting) (x : Exchange) (v : Variable) : Bool :=
  (v.evaluate r.info x).1.any (r.hitsValue t x)

section Fresh

variable {r : Rule} {t : Retargeting} {p : Progress}

theorem testText_keeps (value : Value) (s : Bool × Progress) (text : String × String)
    (h : s.1 = true) : (r.testText value s text).1 = true := by
  unfold testText
  dsimp only
  split
  · rfl
  · exact h

theorem foldl_testText_keeps (value : Value) (texts : List (String × String)) (s : Bool × Progress)
    (h : s.1 = true) : (texts.foldl (r.testText value) s).1 = true := by
  induction texts generalizing s with
  | nil => exact h
  | cons text texts ih => exact ih _ (testText_keeps value s text h)

theorem testValue_keeps (s : Bool × Progress) (v : Value) (h : s.1 = true) :
    (r.testValue t s v).1 = true := by
  unfold testValue
  split
  · exact h
  · exact foldl_testText_keeps v _ s h

theorem testVariable_keeps (s : Bool × Progress) (v : Variable) (h : s.1 = true) :
    (r.testVariable t s v).1 = true := by
  have kept (vs : List Value) (s : Bool × Progress) (h : s.1 = true) :
      (vs.foldl (r.testValue t) s).1 = true := by
    induction vs generalizing s with
    | nil => exact h
    | cons v vs ih => exact ih _ (testValue_keeps s v h)
  exact kept _ _ h

-- Each level says both whether it hits and that a miss leaves the progress as it was, since the
-- level above goes on from there.

theorem testText_of_fresh (h : p.exchange.Fresh) (value : Value) (text : String × String) :
    ((r.testText value (false, p) text).1 = r.accepts p.exchange text.1) ∧
      (r.accepts p.exchange text.1 = false → r.testText value (false, p) text = (false, p)) := by
  have hx := (purges_test r.test r.info r.capture text.1 p.exchange).eq_of_fresh h
  unfold testText
  dsimp only
  rw [hx]
  unfold accepts
  cases (r.test.evaluate r.info r.capture text.1 p.exchange).1.matched with
  | true => exact ⟨rfl, fun h => by cases h⟩
  | false => exact ⟨rfl, fun _ => rfl⟩

theorem testValue_of_fresh (h : p.exchange.Fresh) (v : Value) :
    ((r.testValue t (false, p) v).1 = r.hitsValue t p.exchange v) ∧
      (r.hitsValue t p.exchange v = false → r.testValue t (false, p) v = (false, p)) := by
  unfold testValue hitsValue
  dsimp only
  split
  · rename_i hover
    rw [hover]
    exact ⟨rfl, fun _ => rfl⟩
  · rename_i hover
    rw [Bool.eq_false_iff.2 hover, Bool.not_false, Bool.true_and]
    exact foldl_flag (fun text _ => (testText_of_fresh h v text).2)
      (fun text _ hit => (testText_of_fresh h v text).1.trans hit)
      (fun s text => testText_keeps v s text)

theorem testVariable_of_fresh (h : p.exchange.Fresh) (v : Variable) :
    ((r.testVariable t (false, p) v).1 = r.hitsVariable t p.exchange v) ∧
      (r.hitsVariable t p.exchange v = false → r.testVariable t (false, p) v = (false, p)) := by
  have hx := (purges_variable r.info v p.exchange).eq_of_fresh h
  unfold testVariable hitsVariable
  dsimp only
  rw [hx]
  exact foldl_flag (fun value _ => (testValue_of_fresh h value).2)
    (fun value _ hit => (testValue_of_fresh h value).1.trans hit)
    (fun s value => testValue_keeps s value)

/-- **A rule with targets matches exactly if one of them is hit in the exchange it starts from**, and
if none is, nothing has changed. -/
theorem testAll_of_fresh (h : p.exchange.Fresh) (e : Exceptions) :
    (r.testAll e p).1 =
      (r.targets (e.forRule r p.exchange).1 p.exchange.tx.decision.overrides).any
        (r.hitsVariable (e.forRule r p.exchange).1 p.exchange) := by
  have hx := (purges_forRule e r p.exchange).eq_of_fresh h
  unfold testAll
  dsimp only
  rw [hx]
  exact (foldl_flag (fun v _ => (testVariable_of_fresh h v).2)
    (fun v _ hit => (testVariable_of_fresh h v).1.trans hit)
    (fun s v => testVariable_keeps s v)).1

theorem testOnce_matched (p : Progress) : (r.testOnce p).1 = r.accepts p.exchange "" := by
  unfold testOnce accepts
  dsimp only
  cases (r.test.evaluate r.info r.capture "" p.exchange).1.matched <;> rfl

/-- Whether a rule matches is found out by its tests; what follows takes nothing back. -/
theorem evaluate_matched (e : Exceptions) (p : Progress) :
    (r.evaluate e p).1 = if r.isUnconditional then r.accepts p.exchange "" else (r.testAll e p).1 := by
  have settled (tested : Bool × Progress) :
      (if tested.1 then tested else (false, tested.2.clearMatches)).1 = tested.1 := by
    cases h : tested.1 <;> simp [h]
  unfold evaluate
  dsimp only
  rw [settled]
  split
  · exact testOnce_matched p
  · rfl

/-- A rule without targets matches exactly if its test accepts the empty text. -/
theorem evaluate_of_no_targets (h : r.inspected = []) (e : Exceptions) (p : Progress) :
    (r.evaluate e p).1 = r.accepts p.exchange "" := by
  have hunconditional : r.isUnconditional = true := by
    unfold isUnconditional
    rw [h]
    rfl
  rw [evaluate_matched, hunconditional, if_pos rfl]

/-- A rule with targets matches exactly if one of those that are left to it is hit. -/
theorem evaluate_of_targets (h : p.exchange.Fresh) (hsome : r.inspected ≠ []) (e : Exceptions) :
    (r.evaluate e p).1 =
      (r.targets (e.forRule r p.exchange).1 p.exchange.tx.decision.overrides).any
        (r.hitsVariable (e.forRule r p.exchange).1 p.exchange) := by
  have hconditional : r.isUnconditional = false := List.isEmpty_eq_false_iff.2 hsome
  rw [evaluate_matched, hconditional, if_neg Bool.false_ne_true, testAll_of_fresh h]

end Fresh

end Rule

end Rampart
