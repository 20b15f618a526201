import Rampart.Proofs.Reporting

/-!
# What is remembered of earlier chains

Each match is added to those that are remembered, and a rule that does not match makes the transaction
forget them all. Nothing else touches them: in particular a chain does not begin by forgetting. So
after a chain that holds the transaction remembers the matches of this chain, in their order, behind
those that were left from earlier ones, and nothing is left only from what a failing rule has ended.

`Recalls` keeps the account over a history of evaluations; `Progress.Tells` does so within one.
-/

namespace Rampart

/-- The name and the text of the match that a record reports. -/
def MatchRecord.report (m : MatchRecord) : String × String := (m.matchedName, m.matchedText)

/-- The matches that an evaluation reports, in their order. -/
def Outcome.reported (o : Outcome) : List (String × String) := o.evidence.map MatchRecord.report

/-- What is remembered are the matches of the list: all of them in their order, their names, and the
last one. -/
structure Matches.Shows (m : Matches) (found : List (String × String)) : Prop where
  values : m.values.values.map (fun v => (v.key, v.text)) = found
  names : m.names.values.map (fun v => (v.key, v.text)) = found.map fun f => (f.1, f.1)
  last : m.last.text? = found.getLast?.map (·.2)
  lastName : m.lastName.text? = found.getLast?.map (·.1)

namespace Matches

variable {m : Matches} {found : List (String × String)}

theorem shows_none : Matches.none.Shows [] := ⟨rfl, rfl, rfl, rfl⟩

theorem shows_clear (m : Matches) : m.clear.Shows [] := ⟨rfl, rfl, rfl, rfl⟩

theorem Shows.record (h : m.Shows found) (name text : String) (offset : Nat) :
    (m.record name text offset).Shows (found ++ [(name, text)]) where
  values := by
    rw [← h.values]
    exact List.map_append
  names := by
    rw [List.map_append, ← h.names]
    exact List.map_append
  last := by
    rw [List.getLast?_concat]
    rfl
  lastName := by
    rw [List.getLast?_concat]
    rfl

/-- There is one list of matches that are remembered. -/
theorem Shows.unique {found' : List (String × String)} (h : m.Shows found) (h' : m.Shows found') :
    found = found' := h.values.symm.trans h'.values

end Matches

/-! ## One rule -/

/-- What is remembered is what was left from earlier, and then what has been logged since. -/
def Progress.Tells (p : Progress) (left : List (String × String)) : Prop :=
  p.exchange.tx.matched.Shows (left ++ p.logged.map MatchRecord.report)

section Rules

variable {r : Rule} {e : Exceptions} {p q : Progress} {left : List (String × String)}

theorem Progress.Tells.silent (h : p.Tells left) (hlogged : q.logged = p.logged)
    (hmatched : q.exchange.tx.matched = p.exchange.tx.matched) : q.Tells left := by
  unfold Progress.Tells
  rw [hlogged, hmatched]
  exact h

theorem Progress.Tells.noteMatch (h : p.Tells left) (r : Rule) (value : Value)
    (text reference : String) (v : Verdict) :
    (r.noteMatch value text reference v p).Tells left := by
  obtain ⟨m, hlogged, hm, hmatched⟩ := r.noteMatch_reports value text reference v p
  have hreport : m.report = (value.name, text) := by
    unfold MatchRecord.report
    rw [hm.name, hm.text]
  unfold Progress.Tells
  rw [hlogged, hmatched, List.map_append, ← List.append_assoc, List.map_singleton, hreport]
  exact h.record value.name text _

theorem Rule.Walk.tells {s : Bool × Progress} (h : r.Walk e p s) (hp : p.Tells left) :
    s.2.Tells left := by
  induction h with
  | start => exact hp
  | read _ hy ih => exact ih.silent rfl hy.onlyCollections.matched
  | @note s value _ text reference v _ _ ih => exact ih.noteMatch r value text reference v

/-- **A rule that matches adds its matches to those that are remembered.** -/
theorem tells_of_matched (hp : p.Tells left) (hyes : (r.evaluate e p).1 = true) :
    (r.evaluate e p).2.Tells left := by
  obtain ⟨tested, hway, hcome⟩ := r.evaluate_cases e p
  have htested : tested.2.Tells left := by
    rcases hway with ⟨_, rfl⟩ | ⟨_, rfl⟩
    · obtain ⟨hlogged, hmatched⟩ := r.silent_testOnce p
      exact hp.silent hlogged hmatched
    · exact (r.walk_testAll e p).tells hp
  rcases hcome with ⟨_, heq⟩ | ⟨_, heq⟩
  · rw [heq]
    exact htested
  · rw [heq] at hyes
    cases hyes

/-- **A rule that does not match forgets all of them.** -/
theorem shows_of_unmatched (hno : (r.evaluate e p).1 = false) :
    (r.evaluate e p).2.exchange.tx.matched.Shows [] := by
  obtain ⟨tested, -, hcome⟩ := r.evaluate_cases e p
  rcases hcome with ⟨hyes, heq⟩ | ⟨_, heq⟩
  · rw [heq] at hno
    exact nomatch hyes.symm.trans hno
  · rw [heq]
    exact Matches.shows_clear _

end Rules

/-! ## Chains -/

namespace Engine

variable {e : Engine} {x : Exchange} {c : Chain} {left : List (String × String)}

theorem tells_after {p : Progress} {rules : List Rule} {n : Nat}
    (hmatches : ∀ i < n, e.MatchesAt p rules i) (hp : p.Tells left) :
    (e.after p (rules.take n)).Tells left := by
  induction n with
  | zero => exact hp
  | succ n ih =>
      obtain ⟨r, hr, hyes⟩ := hmatches n (Nat.lt_succ_self n)
      have hbefore := ih fun i hi => hmatches i (Nat.lt_succ_of_lt hi)
      rw [after_take_succ e p hr]
      exact tells_of_matched hbefore hyes

/-- The chain is evaluated, and one of its rules does not match. -/
structure Forgets (e : Engine) (x : Exchange) (c : Chain) : Prop where
  mode : e.mode ≠ .off
  inForce : x.tx.decision.overrides.removesRule c.id = false
  broken : ∃ k, e.BreaksAt x.tx.decision.overrides (.start x c) c.links k ∧
    ¬ e.MatchesAt (.start x c) c.links k

theorem not_forgets_of_holds (h : (e.evaluate x c).holds = true) : ¬ e.Forgets x c := by
  rintro ⟨hmode, hin, k, hk, -⟩
  rw [evaluate_of_breaksAt hmode hin hk] at h
  cases h

/-- A chain in which a rule does not match leaves nothing to remember. -/
theorem Forgets.shows (h : e.Forgets x c) : (e.evaluate x c).exchange.tx.matched.Shows [] := by
  obtain ⟨hmode, hin, k, hk, hunmatched⟩ := h
  obtain ⟨r, hr⟩ : ∃ r, c.links[k]? = some r := ⟨_, List.getElem?_eq_getElem hk.inside⟩
  have hno : (r.evaluate e.exceptions (e.after (.start x c) (c.links.take k))).1 = false :=
    Bool.eq_false_iff.2 fun hyes => hunmatched ⟨r, hr, hyes⟩
  rw [evaluate_of_breaksAt hmode hin hk, after_take_succ e _ hr]
  exact shows_of_unmatched hno

/-- Any other chain leaves what was remembered before, and then what it reports. -/
theorem shows_of_not_forgets (h : x.tx.matched.Shows left) (hkept : ¬ e.Forgets x c) :
    (e.evaluate x c).exchange.tx.matched.Shows (left ++ (e.evaluate x c).reported) := by
  have hidle (holds : Bool) (heq : e.evaluate x c = ⟨holds, x, []⟩) :
      (e.evaluate x c).exchange.tx.matched.Shows (left ++ (e.evaluate x c).reported) := by
    have hnothing : (Outcome.mk holds x []).reported = [] := rfl
    rw [heq, hnothing, List.append_nil]
    exact h
  by_cases hmode : e.mode = .off
  · exact hidle false (by rw [evaluate, if_pos hmode])
  by_cases hout : x.tx.decision.overrides.removesRule c.id = true
  · exact hidle true (by rw [evaluate, if_neg hmode, if_pos hout])
  have hin : x.tx.decision.overrides.removesRule c.id = false := Bool.eq_false_iff.2 hout
  have hstart : (Progress.start x c).Tells left := by
    unfold Progress.Tells
    rw [Progress.start, List.map_nil, List.append_nil]
    exact h
  unfold Outcome.reported
  rcases e.closesAt_or_breaksAt x c with ⟨k, hk⟩ | ⟨k, hk⟩
  · rw [evidence_of_closesAt hmode hin hk, evaluate_eq_of_closesAt hmode hin hk]
    dsimp only
    rw [matched_close]
    exact tells_after (fun i hi => hk.matched i (Nat.le_of_lt_succ hi)) hstart
  · -- the chain breaks because its last rule expects a successor
    have hlast : e.MatchesAt (.start x c) c.links k :=
      Classical.byContradiction fun hunmatched => hkept ⟨hmode, hin, k, hk, hunmatched⟩
    rw [evidence_of_breaksAt hmode hin hk, evaluate_of_breaksAt hmode hin hk]
    refine tells_after (fun i hi => ?_) hstart
    rcases Nat.lt_succ_iff_lt_or_eq.1 hi with hlt | rfl
    · exact (hk.reached i hlt).1
    · exact hlast

end Engine

/-! ## Histories -/

/-- The exchange was reached by evaluations of chains, from one in which nothing had matched, and the
list is what the history has left to remember: what the chains have reported since the last one in
which a rule did not match. -/
inductive Recalls : Exchange → List (String × String) → Prop where
  | new {x} (h : x.tx.matched = .none) : Recalls x []
  /-- Something else is done. -/
  | aside {x y left} (h : Recalls x left) (hsame : y.tx.matched = x.tx.matched) : Recalls y left
  | kept {x left} (h : Recalls x left) (e : Engine) (c : Chain) (hkept : ¬ e.Forgets x c) :
      Recalls (e.evaluate x c).exchange (left ++ (e.evaluate x c).reported)
  | forgot {x left} (h : Recalls x left) (e : Engine) (c : Chain) (hforgets : e.Forgets x c) :
      Recalls (e.evaluate x c).exchange []

variable {x : Exchange} {left : List (String × String)}

theorem Recalls.shows (h : Recalls x left) : x.tx.matched.Shows left := by
  induction h with
  | new h =>
      rw [h]
      exact Matches.shows_none
  | aside _ hsame ih =>
      rw [hsame]
      exact ih
  | kept _ e c hkept ih => exact Engine.shows_of_not_forgets ih hkept
  | forgot _ e c hforgets => exact hforgets.shows

namespace Engine

/--
**What is remembered after a chain that holds.**

Whatever was evaluated before: after a chain that holds and reports a match, the matches that are
remembered are those of this chain, in their order, behind those that the history has left; the last
one is the last of this chain. So they are those of this chain alone exactly if the history has left
none, that is, if no chain has reported a match since the last one in which a rule did not match.
-/
theorem remembers_behind_what_was_left (h : Recalls x left) (e : Engine) (c : Chain)
    (hyes : (e.evaluate x c).holds = true) (hsome : (e.evaluate x c).reported ≠ []) :
    (e.evaluate x c).exchange.tx.matched.Shows (left ++ (e.evaluate x c).reported) ∧
      (e.evaluate x c).exchange.tx.matched.last.text? =
        (e.evaluate x c).reported.getLast?.map (·.2) ∧
      (e.evaluate x c).exchange.tx.matched.lastName.text? =
        (e.evaluate x c).reported.getLast?.map (·.1) ∧
      ((e.evaluate x c).exchange.tx.matched.Shows (e.evaluate x c).reported ↔ left = []) := by
  have hshows := shows_of_not_forgets h.shows (not_forgets_of_holds hyes)
  have hlast : (left ++ (e.evaluate x c).reported).getLast? =
      (e.evaluate x c).reported.getLast? := by
    obtain ⟨last, hlast⟩ := Option.ne_none_iff_exists'.1 (mt List.getLast?_eq_none_iff.1 hsome)
    rw [List.getLast?_append, hlast, Option.some_or]
  refine ⟨hshows, ?_, ?_, ?_, ?_⟩
  · rw [hshows.last, hlast]
  · rw [hshows.lastName, hlast]
  · intro halone
    exact List.append_left_eq_self.1 (hshows.unique halone)
  · rintro rfl
    exact hshows

/-- A rule that matches a part of the request, whatever it is. -/
def partRule (id : Int) (part : SingleSource) : Chain :=
  ⟨{ plainRule id false with inspected := [.single part] }, []⟩

/-- A request with a method and an address, before and after a rule has matched its method. -/
def asked : Exchange where
  tx := (Transaction.new "t" 0 .empty).learn fun r => (r.withMethod "GET").withUri "/"
  shelf := .empty
  now := 0

def askedTwice : Exchange := (evaluate ⟨.on, .none⟩ asked (partRule 1 .requestMethod)).exchange

theorem recalls_askedTwice : Recalls askedTwice [("REQUEST_METHOD", "GET")] := by
  have hyes : (evaluate ⟨.on, .none⟩ asked (partRule 1 .requestMethod)).holds = true := by
    decide +kernel
  have hreported : (evaluate ⟨.on, .none⟩ asked (partRule 1 .requestMethod)).reported =
      [("REQUEST_METHOD", "GET")] := by
    decide +kernel
  have hkept := Recalls.kept (.new (x := asked) rfl) _ _ (not_forgets_of_holds hyes)
  rw [hreported] at hkept
  exact hkept

/-- The rule for the address reports the address alone, and the method is still remembered. -/
theorem remembers_behind_what_was_left_asked :
    Recalls askedTwice [("REQUEST_METHOD", "GET")] ∧
      (evaluate ⟨.on, .none⟩ askedTwice (partRule 2 .requestUri)).holds = true ∧
      (evaluate ⟨.on, .none⟩ askedTwice (partRule 2 .requestUri)).reported =
        [("REQUEST_URI", "/")] ∧
      (evaluate ⟨.on, .none⟩ askedTwice (partRule 2 .requestUri)).exchange.tx.matched.Shows
        [("REQUEST_METHOD", "GET"), ("REQUEST_URI", "/")] := by
  have hyes : (evaluate ⟨.on, .none⟩ askedTwice (partRule 2 .requestUri)).holds = true := by
    decide +kernel
  have hreported : (evaluate ⟨.on, .none⟩ askedTwice (partRule 2 .requestUri)).reported =
      [("REQUEST_URI", "/")] := by
    decide +kernel
  have hshows := (remembers_behind_what_was_left recalls_askedTwice ⟨.on, .none⟩
    (partRule 2 .requestUri) hyes (by rw [hreported]; exact List.cons_ne_nil _ _)).1
  rw [hreported] at hshows
  exact ⟨recalls_askedTwice, hyes, hreported, hshows⟩

/-- After two rules that match, the matches of the first one are still among those that are
remembered. -/
theorem earlier_match_remembered :
    Recalls askedTwice [("REQUEST_METHOD", "GET")] ∧
      (evaluate ⟨.on, .none⟩ askedTwice (partRule 2 .requestUri)).holds = true ∧
      (evaluate ⟨.on, .none⟩ askedTwice (partRule 2 .requestUri)).reported ≠ [] ∧
      ¬ (evaluate ⟨.on, .none⟩ askedTwice (partRule 2 .requestUri)).exchange.tx.matched.Shows
        (evaluate ⟨.on, .none⟩ askedTwice (partRule 2 .requestUri)).reported := by
  refine ⟨recalls_askedTwice, by decide +kernel, by decide +kernel, ?_⟩
  intro hshows
  have hvalues := hshows.values
  revert hvalues
  decide +kernel

end Engine

end Rampart
