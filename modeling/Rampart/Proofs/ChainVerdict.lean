import Rampart.Proofs.Frame

/-!
# The verdict of a chain

A chain is a conjunction that can end early. Its verdict is told here without the loop that computes
it: by the state in which the rule at each position is evaluated, by whether that rule matches there,
and by the first position at which the chain may end. Either all rules up to that position match and
the chain closes, or some rule before it breaks the chain; the two exclude each other, and in both
cases no rule behind the position is evaluated.

Which rules are out of force does not change on the way, because no rule decides anything before its
chain is closed.
-/

namespace Rampart

/-- The records of an evaluation that close no chain. -/
def Outcome.evidence (o : Outcome) : List MatchRecord := o.logged.filter fun m => !m.isFinal

namespace Engine

/-- The progress after some rules have been evaluated one after the other, whatever came of them. -/
def after (e : Engine) (p : Progress) (rules : List Rule) : Progress :=
  rules.foldl (fun p r => (r.evaluate e.exceptions p).2) p

theorem after_take_succ (e : Engine) (p : Progress) {rules : List Rule} {k : Nat} {r : Rule}
    (hr : rules[k]? = some r) :
    e.after p (rules.take (k + 1)) = (r.evaluate e.exceptions (e.after p (rules.take k))).2 := by
  unfold after
  rw [List.take_add_one, hr, List.foldl_append]
  rfl

/-- The rule at a position matches, evaluated after all those before it. -/
def MatchesAt (e : Engine) (p : Progress) (rules : List Rule) (k : Nat) : Prop :=
  ∃ r, rules[k]? = some r ∧ (r.evaluate e.exceptions (e.after p (rules.take k))).1 = true

/-- A chain may end at a position: the rule there expects no successor, or the one directly behind it
is out of force. -/
def EndsAt (o : Overrides) (rules : List Rule) (k : Nat) : Prop :=
  ∃ r, rules[k]? = some r ∧
    (r.chained = false ∨ ∃ next, rules[k + 1]? = some next ∧ o.removesRule next.info.id = true)

/-- The chain closes at a position: the first one at which it may end, with every rule up to there
matching. -/
structure ClosesAt (e : Engine) (o : Overrides) (p : Progress) (rules : List Rule) (k : Nat) :
    Prop where
  matched : ∀ i ≤ k, e.MatchesAt p rules i
  ends : EndsAt o rules k
  first : ∀ i < k, ¬ EndsAt o rules i

/-- The chain breaks at a position: it goes on up to there, and the rule there does not match, or
expects a successor and is the last one. -/
structure BreaksAt (e : Engine) (o : Overrides) (p : Progress) (rules : List Rule) (k : Nat) :
    Prop where
  inside : k < rules.length
  reached : ∀ i < k, e.MatchesAt p rules i ∧ ¬ EndsAt o rules i
  broken : ¬ e.MatchesAt p rules k ∨ (rules.length = k + 1 ∧ ¬ EndsAt o rules k)

theorem EndsAt.inside {o : Overrides} {rules : List Rule} {k : Nat} (h : EndsAt o rules k) :
    k < rules.length := by
  obtain ⟨r, hr, _⟩ := h
  exact (List.getElem?_eq_some_iff.1 hr).1

/-- A chain that closes does not break. -/
theorem ClosesAt.not_breaksAt {e : Engine} {o : Overrides} {p : Progress} {rules : List Rule}
    {k j : Nat} (hc : e.ClosesAt o p rules k) : ¬ e.BreaksAt o p rules j := by
  intro hb
  have hk := hc.ends.inside
  rcases Nat.lt_trichotomy j k with hlt | heq | hgt
  · rcases hb.broken with hm | ⟨hlen, _⟩
    · exact hm (hc.matched j (Nat.le_of_lt hlt))
    · omega
  · subst heq
    rcases hb.broken with hm | ⟨_, he⟩
    · exact hm (hc.matched j (Nat.le_refl j))
    · exact he hc.ends
  · exact (hb.reached k hgt).2 hc.ends

/-- A chain closes at one position at most. -/
theorem ClosesAt.unique {e : Engine} {o : Overrides} {p : Progress} {rules : List Rule} {k j : Nat}
    (hk : e.ClosesAt o p rules k) (hj : e.ClosesAt o p rules j) : k = j := by
  rcases Nat.lt_trichotomy k j with hlt | heq | hgt
  · exact absurd hk.ends (hj.first k hlt)
  · exact heq
  · exact absurd hj.ends (hk.first j hgt)

/-- A rule that is passed by both a position where the chain breaks cannot break it too. -/
theorem BreaksAt.le {e : Engine} {o : Overrides} {p : Progress} {rules : List Rule} {k j : Nat}
    (hk : e.BreaksAt o p rules k) (hj : e.BreaksAt o p rules j) : k ≤ j := by
  refine Nat.le_of_not_lt fun hlt => ?_
  have hj' := hk.reached j hlt
  rcases hj.broken with hm | ⟨_, he⟩
  · exact hm hj'.1
  · have := hk.inside
    omega

/-- A chain breaks at one position at most. -/
theorem BreaksAt.unique {e : Engine} {o : Overrides} {p : Progress} {rules : List Rule} {k j : Nat}
    (hk : e.BreaksAt o p rules k) (hj : e.BreaksAt o p rules j) : k = j :=
  Nat.le_antisymm (hk.le hj) (hj.le hk)

/-! ## One rule further -/

section Shift

variable {e : Engine} {o : Overrides} {p : Progress} {r : Rule} {rest : List Rule} {k : Nat}

theorem matchesAt_zero :
    e.MatchesAt p (r :: rest) 0 ↔ (r.evaluate e.exceptions p).1 = true := by
  constructor
  · rintro ⟨r', hr', h⟩
    cases hr'
    exact h
  · exact fun h => ⟨r, rfl, h⟩

theorem matchesAt_succ :
    e.MatchesAt p (r :: rest) (k + 1) ↔ e.MatchesAt (r.evaluate e.exceptions p).2 rest k :=
  Iff.rfl

theorem endsAt_succ : EndsAt o (r :: rest) (k + 1) ↔ EndsAt o rest k := Iff.rfl

/-- What holds of the first position and of every later one below a bound holds below the bound. -/
theorem forall_lt_succ {P : Nat → Prop} (h0 : P 0) (hs : ∀ i < k, P (i + 1)) : ∀ i < k + 1, P i := by
  intro i hi
  cases i with
  | zero => exact h0
  | succ i => exact hs i (Nat.lt_of_succ_lt_succ hi)

/-- A chain that may end at its head closes there if the head matches. -/
theorem closesAt_zero (hm : (r.evaluate e.exceptions p).1 = true) (he : EndsAt o (r :: rest) 0) :
    e.ClosesAt o p (r :: rest) 0 where
  matched := by
    intro i hi
    obtain rfl := Nat.le_zero.1 hi
    exact matchesAt_zero.2 hm
  ends := he
  first := by
    intro i hi
    omega

/-- A chain breaks at its head if the head does not match. -/
theorem breaksAt_zero (hm : ¬ (r.evaluate e.exceptions p).1 = true) :
    e.BreaksAt o p (r :: rest) 0 where
  inside := Nat.succ_pos _
  reached := by
    intro i hi
    omega
  broken := .inl (mt matchesAt_zero.1 hm)

theorem ClosesAt.cons (hm : (r.evaluate e.exceptions p).1 = true) (he : ¬ EndsAt o (r :: rest) 0)
    (h : e.ClosesAt o (r.evaluate e.exceptions p).2 rest k) :
    e.ClosesAt o p (r :: rest) (k + 1) where
  matched := by
    intro i hi
    refine forall_lt_succ (k := k + 1) (matchesAt_zero.2 hm) (fun j hj => ?_) i (by omega)
    exact matchesAt_succ.2 (h.matched j (by omega))
  ends := endsAt_succ.2 h.ends
  first := forall_lt_succ he fun i hi => mt endsAt_succ.1 (h.first i hi)

theorem BreaksAt.cons (hm : (r.evaluate e.exceptions p).1 = true) (he : ¬ EndsAt o (r :: rest) 0)
    (h : e.BreaksAt o (r.evaluate e.exceptions p).2 rest k) :
    e.BreaksAt o p (r :: rest) (k + 1) where
  inside := Nat.succ_lt_succ h.inside
  reached := by
    refine forall_lt_succ ⟨matchesAt_zero.2 hm, he⟩ fun i hi => ?_
    obtain ⟨hmatches, hgoesOn⟩ := h.reached i hi
    exact ⟨matchesAt_succ.2 hmatches, mt endsAt_succ.1 hgoesOn⟩
  broken := by
    rcases h.broken with hb | ⟨hlen, hb⟩
    · exact .inl (mt matchesAt_succ.1 hb)
    · exact .inr ⟨congrArg (· + 1) hlen, mt endsAt_succ.1 hb⟩

end Shift

/-! ## The loop over the rules -/

/-- The position at which the loop stops, and what it leaves. -/
inductive StopsAt (e : Engine) (o : Overrides) (p : Progress) (rules : List Rule)
    (run : Option (List Rule) × Progress) (k : Nat) : Prop where
  | closed (h : e.ClosesAt o p rules k)
      (hrun : run = (some (rules.take (k + 1)), e.after p (rules.take (k + 1))))
  | broken (h : e.BreaksAt o p rules k) (hrun : run = (none, e.after p (rules.take (k + 1))))

/-- What the loop leaves is the progress behind the position at which it stops. -/
theorem StopsAt.progress {e : Engine} {o : Overrides} {p : Progress} {rules : List Rule}
    {run : Option (List Rule) × Progress} {k : Nat} (h : StopsAt e o p rules run k) :
    run.2 = e.after p (rules.take (k + 1)) := by
  cases h with
  | closed _ hrun => rw [hrun]
  | broken _ hrun => rw [hrun]

/-- **The loop stops at the position where the chain closes or breaks**, and evaluates nothing
behind it. -/
theorem evaluateLinks_stopsAt (e : Engine) (o : Overrides) (r : Rule) (rest : List Rule)
    (p : Progress) (ho : p.exchange.tx.decision.overrides = o) :
    ∃ k, StopsAt e o p (r :: rest) (e.evaluateLinks r rest p) k := by
  -- on the successors: the loop goes on with the next rule and with what this one leaves
  induction rest generalizing r p with
  | nil =>
      refine ⟨0, ?_⟩
      rw [evaluateLinks]
      by_cases hm : (r.evaluate e.exceptions p).1 = true
      · by_cases hc : r.chained = true
        · -- a successor is expected, and there is none
          have he : ¬ EndsAt o [r] 0 := by
            rintro ⟨r', hr', hend⟩
            cases hr'
            simp [hc] at hend
          exact .broken ⟨by simp, by simp, .inr ⟨rfl, he⟩⟩ (by simp [hm, hc, after])
        · have he : EndsAt o [r] 0 := ⟨r, rfl, .inl (by simpa using hc)⟩
          exact .closed (closesAt_zero hm he) (by simp [hm, hc, after])
      · exact .broken (breaksAt_zero hm) (by simp [hm, after])
  | cons next more ih =>
      rw [evaluateLinks]
      by_cases hm : (r.evaluate e.exceptions p).1 = true
      · -- what is out of force is the same after the rule as before it
        have ho' : (r.evaluate e.exceptions p).2.exchange.tx.decision.overrides = o := by
          rw [(advance_evaluate r e.exceptions p).exchange.decision, ho]
        by_cases hc : r.chained = true
        · by_cases hn : o.removesRule next.info.id = true
          · have he : EndsAt o (r :: next :: more) 0 := ⟨r, rfl, .inr ⟨next, rfl, hn⟩⟩
            exact ⟨0, .closed (closesAt_zero hm he) (by simp [hm, hc, ho', hn, after])⟩
          · -- the chain goes on, and stops one position behind where its rest stops
            have he : ¬ EndsAt o (r :: next :: more) 0 := by
              rintro ⟨r', hr', hend⟩
              cases hr'
              rcases hend with hend | ⟨next', hn', hend⟩
              · simp [hc] at hend
              · cases hn'
                exact hn hend
            obtain ⟨k, hk⟩ := ih next (r.evaluate e.exceptions p).2 ho'
            refine ⟨k + 1, ?_⟩
            cases hk with
            | closed h hrun => exact .closed (h.cons hm he) (by simp [hm, hc, ho', hn, hrun, after])
            | broken h hrun => exact .broken (h.cons hm he) (by simp [hm, hc, ho', hn, hrun, after])
        · have he : EndsAt o (r :: next :: more) 0 := ⟨r, rfl, .inl (by simpa using hc)⟩
          exact ⟨0, .closed (closesAt_zero hm he) (by simp [hm, hc, after])⟩
      · exact ⟨0, .broken (breaksAt_zero hm) (by simp [hm, after])⟩

/-- What a chain can come to: the engine is switched off, the head is out of force, the chain breaks,
or it closes. -/
inductive ComesTo (e : Engine) (x : Exchange) (c : Chain) : Outcome → Prop where
  | off (h : e.mode = .off) : ComesTo e x c ⟨false, x, []⟩
  | removed (hmode : e.mode ≠ .off) (hout : x.tx.decision.overrides.removesRule c.id = true) :
      ComesTo e x c ⟨true, x, []⟩
  | broken (hmode : e.mode ≠ .off) (hin : x.tx.decision.overrides.removesRule c.id = false) (k : Nat)
      (h : e.BreaksAt x.tx.decision.overrides (.start x c) c.links k) :
      ComesTo e x c ⟨false, (e.after (.start x c) (c.links.take (k + 1))).exchange,
        (e.after (.start x c) (c.links.take (k + 1))).logged⟩
  | closed (hmode : e.mode ≠ .off) (hin : x.tx.decision.overrides.removesRule c.id = false) (k : Nat)
      (h : e.ClosesAt x.tx.decision.overrides (.start x c) c.links k) {q : Progress}
      (hq : q = e.close c.head (c.links.take (k + 1))
        (e.after (.start x c) (c.links.take (k + 1)))) :
      ComesTo e x c ⟨true, q.exchange, q.logged⟩

theorem comesTo_evaluate (e : Engine) (x : Exchange) (c : Chain) :
    e.ComesTo x c (e.evaluate x c) := by
  unfold evaluate
  split
  · rename_i hmode
    exact .off hmode
  · rename_i hmode
    split
    · rename_i hout
      exact .removed hmode hout
    · rename_i hin
      rw [Bool.not_eq_true] at hin
      obtain ⟨k, hk⟩ := e.evaluateLinks_stopsAt _ c.head c.successors (.start x c) rfl
      cases hk with
      | closed h hrun =>
          rw [hrun]
          exact .closed hmode hin k h rfl
      | broken h hrun =>
          rw [hrun]
          exact .broken hmode hin k h

/-! ## The records -/

/-- The rules of a chain add no record that closes it, and leave the record with its rule. -/
theorem advance_after (e : Engine) (p : Progress) (rules : List Rule) :
    Advance p (e.after p rules) :=
  Advance.foldl id rules (fun p r _ => advance_evaluate r e.exceptions p) p

theorem ruleId_runActions (p : Progress) (r : Rule) (actions : List Action) :
    (p.runActions r actions).record.ruleId = p.record.ruleId := by
  refine runActions_induction (I := fun q => q.record.ruleId = p.record.ruleId) r actions rfl ?_
  intro q hq a _
  exact (ruleId_run r.info q.exchange q.record a).trans hq

theorem logged_runClosing (e : Engine) (p : Progress) (r : Rule) :
    (e.runClosing p r).logged = p.logged := by
  unfold runClosing
  dsimp only
  split
  · rw [logged_runActions, logged_runActions]
  · rw [logged_runActions]

theorem ruleId_runClosing (e : Engine) (p : Progress) (r : Rule) :
    (e.runClosing p r).record.ruleId = p.record.ruleId := by
  unfold runClosing
  dsimp only
  split
  · rw [ruleId_runActions, ruleId_runActions]
  · rw [ruleId_runActions]

/-- Closing a chain logs one record, which closes it and belongs to the rule of the record so far. -/
theorem logged_close (e : Engine) (head : Rule) (matched : List Rule) (p : Progress) :
    ∃ last, last.isFinal = true ∧ last.ruleId = p.record.ruleId ∧
      (e.close head matched p).logged = p.logged ++ [last] := by
  have closing (rules : List Rule) (q : Progress) :
      (rules.foldl e.runClosing q).logged = q.logged ∧
        (rules.foldl e.runClosing q).record.ruleId = q.record.ruleId := by
    induction rules generalizing q with
    | nil => exact ⟨rfl, rfl⟩
    | cons r rules ih =>
        obtain ⟨hl, hr⟩ := ih (e.runClosing q r)
        exact ⟨hl.trans (logged_runClosing e q r), hr.trans (ruleId_runClosing e q r)⟩
  obtain ⟨hl, hr⟩ := closing matched.reverse (p.takeMessage head)
  refine ⟨{ (matched.reverse.foldl e.runClosing (p.takeMessage head)).record with isFinal := true },
    rfl, hr, ?_⟩
  exact congrArg (· ++ [_]) hl

/-- None of the records closes a chain. -/
def OpenLog (logged : List MatchRecord) : Prop := ∀ m ∈ logged, m.isFinal = false

/-- One more record follows some that close no chain, and it closes the chain of a rule. -/
def ClosedLog (id : Int) (earlier logged : List MatchRecord) : Prop :=
  OpenLog earlier ∧
    ∃ last, logged = earlier ++ [last] ∧ last.isFinal = true ∧ last.ruleId = id

theorem openLog_after (e : Engine) (x : Exchange) (c : Chain) (rules : List Rule) :
    OpenLog (e.after (.start x c) rules).logged := by
  obtain ⟨more, hlog, hfinal⟩ := (e.advance_after (.start x c) rules).logged
  rw [hlog]
  exact fun m hm => (hfinal m hm).1

theorem ruleId_after (e : Engine) (x : Exchange) (c : Chain) (rules : List Rule) :
    (e.after (.start x c) rules).record.ruleId = c.id :=
  (e.advance_after (.start x c) rules).ruleId

/-! ## The verdict -/

/-- A chain that closes at a position is closed on the progress behind it. -/
theorem evaluate_eq_of_closesAt {e : Engine} {x : Exchange} {c : Chain} {k : Nat}
    (hmode : e.mode ≠ .off) (hin : x.tx.decision.overrides.removesRule c.id = false)
    (h : e.ClosesAt x.tx.decision.overrides (.start x c) c.links k) :
    let q := e.close c.head (c.links.take (k + 1)) (e.after (.start x c) (c.links.take (k + 1)))
    e.evaluate x c = ⟨true, q.exchange, q.logged⟩ := by
  have hcomes := e.comesTo_evaluate x c
  generalize e.evaluate x c = o at hcomes ⊢
  cases hcomes with
  | off hoff => exact absurd hoff hmode
  | removed _ hout => exact nomatch hin.symm.trans hout
  | broken _ _ j hb => exact absurd hb h.not_breaksAt
  | closed _ _ j hc hq =>
      obtain rfl := hc.unique h
      subst hq
      rfl

/-- What becomes of a chain that closes at a position. -/
theorem evaluate_of_closesAt {e : Engine} {x : Exchange} {c : Chain} {k : Nat}
    (hmode : e.mode ≠ .off) (hin : x.tx.decision.overrides.removesRule c.id = false)
    (h : e.ClosesAt x.tx.decision.overrides (.start x c) c.links k) :
    (e.evaluate x c).holds = true ∧
      ClosedLog c.id (e.after (.start x c) (c.links.take (k + 1))).logged
        (e.evaluate x c).logged := by
  obtain ⟨last, hfinal, hid, hlog⟩ :=
    e.logged_close c.head (c.links.take (k + 1)) (e.after (.start x c) (c.links.take (k + 1)))
  rw [ruleId_after] at hid
  rw [evaluate_eq_of_closesAt hmode hin h]
  exact ⟨rfl, openLog_after e x c _, last, hlog, hfinal, hid⟩

/-- What becomes of a chain that breaks at a position. -/
theorem evaluate_of_breaksAt {e : Engine} {x : Exchange} {c : Chain} {k : Nat}
    (hmode : e.mode ≠ .off) (hin : x.tx.decision.overrides.removesRule c.id = false)
    (h : e.BreaksAt x.tx.decision.overrides (.start x c) c.links k) :
    e.evaluate x c =
      ⟨false, (e.after (.start x c) (c.links.take (k + 1))).exchange,
        (e.after (.start x c) (c.links.take (k + 1))).logged⟩ := by
  have hcomes := e.comesTo_evaluate x c
  generalize e.evaluate x c = o at hcomes ⊢
  cases hcomes with
  | off hoff => exact absurd hoff hmode
  | removed _ hout => exact nomatch hin.symm.trans hout
  | closed _ _ j hc _ => exact absurd h hc.not_breaksAt
  | broken _ _ j hb =>
      obtain rfl := hb.unique h
      rfl

theorem OpenLog.filter {logged : List MatchRecord} (h : OpenLog logged) :
    (logged.filter fun m => !m.isFinal) = logged :=
  List.filter_eq_self.2 fun m hm => by rw [h m hm]; rfl

/-- The evidence of a chain that closes is what its rules have logged. -/
theorem evidence_of_closesAt {e : Engine} {x : Exchange} {c : Chain} {k : Nat}
    (hmode : e.mode ≠ .off) (hin : x.tx.decision.overrides.removesRule c.id = false)
    (h : e.ClosesAt x.tx.decision.overrides (.start x c) c.links k) :
    (e.evaluate x c).evidence = (e.after (.start x c) (c.links.take (k + 1))).logged := by
  obtain ⟨-, hopen, last, hlog, hfinal, -⟩ := evaluate_of_closesAt hmode hin h
  unfold Outcome.evidence
  rw [hlog, List.filter_append, hopen.filter, List.filter_cons_of_neg (by simp [hfinal]),
    List.filter_nil, List.append_nil]

/-- So is that of a chain that breaks. -/
theorem evidence_of_breaksAt {e : Engine} {x : Exchange} {c : Chain} {k : Nat}
    (hmode : e.mode ≠ .off) (hin : x.tx.decision.overrides.removesRule c.id = false)
    (h : e.BreaksAt x.tx.decision.overrides (.start x c) c.links k) :
    (e.evaluate x c).evidence = (e.after (.start x c) (c.links.take (k + 1))).logged := by
  rw [evaluate_of_breaksAt hmode hin h]
  exact (openLog_after e x c _).filter

/-- A chain closes or breaks somewhere. -/
theorem closesAt_or_breaksAt (e : Engine) (x : Exchange) (c : Chain) :
    (∃ k, e.ClosesAt x.tx.decision.overrides (.start x c) c.links k) ∨
      ∃ k, e.BreaksAt x.tx.decision.overrides (.start x c) c.links k := by
  obtain ⟨k, hk⟩ := e.evaluateLinks_stopsAt _ c.head c.successors (.start x c) rfl
  cases hk with
  | closed h _ => exact .inl ⟨k, h⟩
  | broken h _ => exact .inr ⟨k, h⟩

/--
**The verdict of a chain.**

A chain whose head is out of force holds, logs nothing and changes nothing. Any other chain holds
exactly if it closes somewhere, that is, if every rule up to the first position at which it may end
matches; the last of its records then closes it, under the id of its head, and no other does. A chain
that does not hold breaks somewhere, is left as it is behind that position, and logs no record that
closes it.
-/
theorem chain_verdict (e : Engine) (x : Exchange) (c : Chain) (hmode : e.mode ≠ .off) :
    (x.tx.decision.overrides.removesRule c.id = true → e.evaluate x c = ⟨true, x, []⟩) ∧
    (x.tx.decision.overrides.removesRule c.id = false →
      ((e.evaluate x c).holds = true ↔
        ∃ k, e.ClosesAt x.tx.decision.overrides (.start x c) c.links k) ∧
      ((e.evaluate x c).holds = false ↔
        ∃ k, e.BreaksAt x.tx.decision.overrides (.start x c) c.links k) ∧
      (∀ k, e.ClosesAt x.tx.decision.overrides (.start x c) c.links k →
        ClosedLog c.id (e.after (.start x c) (c.links.take (k + 1))).logged
          (e.evaluate x c).logged) ∧
      (∀ k, e.BreaksAt x.tx.decision.overrides (.start x c) c.links k →
        (e.evaluate x c).exchange = (e.after (.start x c) (c.links.take (k + 1))).exchange ∧
        (e.evaluate x c).logged = (e.after (.start x c) (c.links.take (k + 1))).logged ∧
        OpenLog (e.evaluate x c).logged)) := by
  refine ⟨fun hout => by rw [evaluate, if_neg hmode, if_pos hout], fun hin => ?_⟩
  have closed (k : Nat) := evaluate_of_closesAt (k := k) hmode hin
  have broken (k : Nat) := evaluate_of_breaksAt (k := k) hmode hin
  refine ⟨⟨?_, ?_⟩, ⟨?_, ?_⟩, fun k hk => (closed k hk).2, ?_⟩
  · intro hyes
    rcases e.closesAt_or_breaksAt x c with hc | ⟨k, hk⟩
    · exact hc
    · rw [broken k hk] at hyes
      cases hyes
  · rintro ⟨k, hk⟩
    exact (closed k hk).1
  · intro hno
    rcases e.closesAt_or_breaksAt x c with ⟨k, hk⟩ | hb
    · rw [(closed k hk).1] at hno
      cases hno
    · exact hb
  · rintro ⟨k, hk⟩
    rw [broken k hk]
  · intro k hk
    rw [broken k hk]
    exact ⟨rfl, rfl, openLog_after e x c _⟩

/-- A rule that inspects nothing and always matches. -/
def plainRule (id : Int) (chained : Bool) : Rule where
  info := { id := id }
  message := none
  inspected := []
  test := ⟨.always "", false⟩
  pipeline := .empty
  actions := []
  multiMatch := false
  capture := false
  chained := chained

/-- Three rules, the last of which is missing. -/
def cutChain : Chain := ⟨plainRule 7 true, [plainRule 8 true]⟩

/-- A transaction in which the rule 8 is out of force. -/
def cutExchange : Exchange where
  tx := { Transaction.new "t" 0 .empty with decision := { overrides := { rules := [8] } } }
  shelf := .empty
  now := 0

/-- The missing rule is not asked for, since the one that expects it is out of force. -/
theorem chain_verdict_cutChain :
    cutExchange.tx.decision.overrides.removesRule cutChain.id = false ∧
    (Engine.evaluate ⟨.on, .none⟩ cutExchange cutChain).holds = true ∧
    ClosedLog 7 [] (Engine.evaluate ⟨.on, .none⟩ cutExchange cutChain).logged := by
  have hin : cutExchange.tx.decision.overrides.removesRule cutChain.id = false := by decide
  have hcloses : ClosesAt ⟨.on, .none⟩ cutExchange.tx.decision.overrides
      (.start cutExchange cutChain) cutChain.links 0 := by
    exact closesAt_zero rfl ⟨_, rfl, .inr ⟨_, rfl, by decide⟩⟩
  obtain ⟨hyes, _, hlog, _⟩ := (chain_verdict ⟨.on, .none⟩ cutExchange cutChain (by decide)).2 hin
  exact ⟨hin, hyes.2 ⟨0, hcloses⟩, hlog 0 hcloses⟩

end Engine

end Rampart
