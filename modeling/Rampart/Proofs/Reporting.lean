import Rampart.Proofs.PhaseRuns
import Rampart.Proofs.Spared

/-!
# What a phase reports

A phase evaluates chains and a chain evaluates rules, each in the state that the earlier ones have
left. Here every record that a phase logs for a match, and every name that it remembers, is traced
back to the evaluation of one rule, and so to a value that was spared by what was out of force at
that moment. The trace goes from the phase to a chain (`Visits`) and from the chain to a rule
(`Engine.Evaluates`).
-/

namespace Rampart

namespace Rule

variable {r : Rule} {e : Exceptions} {p : Progress}

theorem exists_logs {m : MatchRecord} (hm : m ∈ (r.evaluate e p).2.logged) :
    m ∈ p.logged ∨ ∃ q v, r.Notes e p q v ∧ r.Logs q v m := by
  obtain ⟨s, hadds, hs⟩ := r.evaluate_reports e p
  obtain ⟨more, hlogged, hmore⟩ := hadds.logged
  have hsame : (r.evaluate e p).2.logged = s.logged := by
    rcases hs with heq | heq
    · rw [heq]
    · rw [heq]
      rfl
  rw [hsame, hlogged] at hm
  rcases List.mem_append.1 hm with hm | hm
  · exact .inl hm
  · exact .inr (hmore m hm)

theorem exists_remembers {w : Value} (hw : w ∈ (r.evaluate e p).2.exchange.remembered) :
    w ∈ p.exchange.remembered ∨ ∃ q v, r.Notes e p q v ∧ r.Remembers q v w := by
  obtain ⟨s, hadds, heq | heq⟩ := r.evaluate_reports e p
  · obtain ⟨more, hnames, hmore⟩ := hadds.remembered
    rw [heq, hnames] at hw
    rcases List.mem_append.1 hw with hw | hw
    · exact .inl hw
    · exact .inr (hmore w hw)
  · -- the rule has forgotten all names
    rw [heq] at hw
    cases hw

end Rule

/-! ## Chains -/

namespace Engine

/-- The rule at a position of a chain is evaluated, with the progress that those before it have
made. -/
structure Evaluates (e : Engine) (x : Exchange) (c : Chain) (k : Nat) (r : Rule) (p : Progress) :
    Prop where
  enabled : e.mode ≠ .off
  inForce : x.tx.decision.overrides.removesRule c.id = false
  rule : c.links[k]? = some r
  reached : ∀ i < k, e.MatchesAt (.start x c) c.links i ∧
    ¬ EndsAt x.tx.decision.overrides c.links i
  progress : p = e.after (.start x c) (c.links.take k)

/-- Something is done while some rule of the chain is evaluated. -/
def ByRule (e : Engine) (x : Exchange) (c : Chain) (T : Rule → Progress → Prop) : Prop :=
  ∃ k r p, e.Evaluates x c k r p ∧ T r p

section Links

variable {e : Engine} {x : Exchange} {c : Chain}

/-- What the first rules of a chain have logged and remembered was done by one of them. -/
theorem byRule_after (henabled : e.mode ≠ .off)
    (hin : x.tx.decision.overrides.removesRule c.id = false) {n : Nat} (hn : n ≤ c.links.length)
    (hreached : ∀ i, i + 1 < n → e.MatchesAt (.start x c) c.links i ∧
      ¬ EndsAt x.tx.decision.overrides c.links i) :
    (∀ m ∈ (e.after (.start x c) (c.links.take n)).logged,
      e.ByRule x c fun r p =>
        ∃ q v, r.Notes e.exceptions p q v ∧ r.Logs q v m) ∧
    (∀ w ∈ (e.after (.start x c) (c.links.take n)).exchange.remembered,
      w ∈ x.remembered ∨ e.ByRule x c fun r p =>
        ∃ q v, r.Notes e.exceptions p q v ∧ r.Remembers q v w) := by
  -- on the number of rules: each leaves its own traces beside those of the rules before it
  induction n with
  | zero =>
      refine ⟨?_, fun w hw => .inl hw⟩
      intro m hm
      cases hm
  | succ n ih =>
      obtain ⟨hlogs, hnames⟩ := ih (by omega) fun i hi => hreached i (by omega)
      have hrule : c.links[n]? = some c.links[n] := List.getElem?_eq_getElem (by omega)
      have heval : e.Evaluates x c n c.links[n] (e.after (.start x c) (c.links.take n)) :=
        ⟨henabled, hin, hrule, fun i hi => hreached i (by omega), rfl⟩
      rw [e.after_take_succ _ hrule]
      refine ⟨?_, ?_⟩
      · intro m hm
        rcases Rule.exists_logs hm with hm | hfor
        · exact hlogs m hm
        · exact ⟨n, _, _, heval, hfor⟩
      · intro w hw
        rcases Rule.exists_remembers hw with hw | hfor
        · exact hnames w hw
        · exact .inr ⟨n, _, _, heval, hfor⟩

end Links

end Engine

namespace Engine

theorem matched_runClosing (e : Engine) (p : Progress) (r : Rule) :
    (e.runClosing p r).exchange.tx.matched = p.exchange.tx.matched := by
  have acted (p : Progress) (actions : List Action) :
      (p.runActions r actions).exchange.tx.matched = p.exchange.tx.matched := by
    refine runActions_induction (I := fun q => q.exchange.tx.matched = p.exchange.tx.matched)
      r actions rfl ?_
    intro q hq a _
    exact (matched_run a r.info q.exchange q.record).trans hq
  unfold runClosing
  dsimp only
  split
  · rw [acted, acted]
  · rw [acted]

theorem matched_close (e : Engine) (head : Rule) (matched : List Rule) (p : Progress) :
    (e.close head matched p).exchange.tx.matched = p.exchange.tx.matched :=
  close_induction (R := fun x y => y.tx.matched = x.tx.matched) (fun h₁ h₂ => h₂.trans h₁)
    (fun p r => (purges_expandMessage r p.exchange).onlyCollections.matched)
    e.matched_runClosing head matched p

theorem remembered_close (e : Engine) (head : Rule) (matched : List Rule) (p : Progress) :
    (e.close head matched p).exchange.remembered = p.exchange.remembered := by
  unfold Exchange.remembered
  rw [matched_close]

/-- **A chain**: whatever it logs without closing, and whatever it adds to the names that are
remembered, is done while one of its rules is evaluated. -/
theorem byRule_evaluate (e : Engine) (x : Exchange) (c : Chain) :
    (∀ m ∈ (e.evaluate x c).logged, m.isFinal = false →
      e.ByRule x c fun r p =>
        ∃ q v, r.Notes e.exceptions p q v ∧ r.Logs q v m) ∧
    (∀ w ∈ (e.evaluate x c).exchange.remembered,
      w ∈ x.remembered ∨ e.ByRule x c fun r p =>
        ∃ q v, r.Notes e.exceptions p q v ∧ r.Remembers q v w) := by
  have hcomes := e.comesTo_evaluate x c
  generalize e.evaluate x c = o at hcomes ⊢
  cases hcomes with
  | off _ =>
      refine ⟨?_, fun w hw => .inl hw⟩
      intro m hm
      cases hm
  | removed _ _ =>
      refine ⟨?_, fun w hw => .inl hw⟩
      intro m hm
      cases hm
  | broken hmode hin k h =>
      obtain ⟨hlogs, hnames⟩ := byRule_after hmode hin (n := k + 1) h.inside
        fun i hi => h.reached i (Nat.lt_of_succ_lt_succ hi)
      exact ⟨fun m hm _ => hlogs m hm, hnames⟩
  | closed hmode hin k h hq =>
      obtain ⟨hlogs, hnames⟩ := byRule_after hmode hin (n := k + 1) h.ends.inside fun i hi =>
        ⟨h.matched i (by omega), h.first i (Nat.lt_of_succ_lt_succ hi)⟩
      dsimp only
      rw [hq]
      refine ⟨?_, ?_⟩
      · intro m hm hfinal
        obtain ⟨last, hlast, _, hlog⟩ := e.logged_close c.head (c.links.take (k + 1))
          (e.after (.start x c) (c.links.take (k + 1)))
        rw [hlog] at hm
        rcases List.mem_append.1 hm with hm | hm
        · exact hlogs m hm
        · -- the record that closes the chain is final
          rw [List.mem_singleton.1 hm, hlast] at hfinal
          cases hfinal
      · intro w hw
        rw [remembered_close] at hw
        exact hnames w hw

end Engine

/-! ## Phases -/

/-- A phase over some chains evaluates the chain in the exchange. -/
inductive Visits (e : Engine) (isLogging : Bool) :
    List Chain → PhaseRun → Chain → Exchange → Prop where
  | here {c rest run} (hskip : run.exchange.tx.decision.skip = 0) :
      Visits e isLogging (c :: rest) run c run.exchange
  | passOver {d rest run c x} (hskip : 0 < run.exchange.tx.decision.skip)
      (h : Visits e isLogging rest run.passOver c x) : Visits e isLogging (d :: rest) run c x
  | goOn {d rest run c x} (hskip : run.exchange.tx.decision.skip = 0)
      (hopen : isLogging = true ∨ (run.evaluate e d).isDecided = false)
      (h : Visits e isLogging rest (run.evaluate e d) c x) : Visits e isLogging (d :: rest) run c x

/-- Something is done while some chain of the phase is evaluated. -/
def ByChain (e : Engine) (isLogging : Bool) (chains : List Chain) (run : PhaseRun)
    (T : Chain → Exchange → Prop) : Prop :=
  ∃ c x, Visits e isLogging chains run c x ∧ T c x

namespace Runs

variable {e : Engine} {isLogging : Bool} {chains : List Chain} {run run' : PhaseRun}

/-- What a phase logs is logged by one of its chains. -/
theorem byChain_logged (h : Runs e isLogging chains run run') {m : MatchRecord}
    (hm : m ∈ run'.logged) :
    m ∈ run.logged ∨
      ByChain e isLogging chains run fun c x => m ∈ (e.evaluate x c).logged := by
  induction h with
  | done run => exact .inl hm
  | passOver hskip _ ih =>
      rcases ih hm with hm | ⟨c, x, hvisits, hm⟩
      · exact .inl hm
      · exact .inr ⟨c, x, .passOver hskip hvisits, hm⟩
  | goOn hskip hopen _ ih =>
      rcases ih hm with hm | ⟨c, x, hvisits, hm⟩
      · rcases List.mem_append.1 hm with hm | hm
        · exact .inl hm
        · exact .inr ⟨_, _, .here hskip, hm⟩
      · exact .inr ⟨c, x, .goOn hskip hopen hvisits, hm⟩
  | stop hskip _ _ =>
      rcases List.mem_append.1 hm with hm | hm
      · exact .inl hm
      · exact .inr ⟨_, _, .here hskip, hm⟩

/-- What a phase adds to the names that are remembered is added by one of its chains. -/
theorem byChain_remembered (h : Runs e isLogging chains run run') {w : Value}
    (hw : w ∈ run'.exchange.remembered) :
    w ∈ run.exchange.remembered ∨
      ByChain e isLogging chains run fun c x =>
        w ∉ x.remembered ∧ w ∈ (e.evaluate x c).exchange.remembered := by
  induction h with
  | done run => exact .inl hw
  | passOver hskip _ ih =>
      rcases ih hw with hw | ⟨c, x, hvisits, hw⟩
      · exact .inl hw
      · exact .inr ⟨c, x, .passOver hskip hvisits, hw⟩
  | @goOn c _ run _ hskip hopen _ ih =>
      -- a name that was there before is of no chain, even if this chain adds it once more
      rcases ih hw with hw | ⟨c, x, hvisits, hw⟩
      · by_cases hbefore : w ∈ run.exchange.remembered
        · exact .inl hbefore
        · exact .inr ⟨_, _, .here hskip, hbefore, hw⟩
      · exact .inr ⟨c, x, .goOn hskip hopen hvisits, hw⟩
  | @stop c _ run hskip _ _ =>
      by_cases hbefore : w ∈ run.exchange.remembered
      · exact .inl hbefore
      · exact .inr ⟨_, _, .here hskip, hbefore, hw⟩

end Runs

namespace Handler

/-- A phase of a transaction evaluates the rule with the progress of its chain. -/
def Evaluates (h : Handler) (t : Transaction) (phase : Nat) (timing : Timing) (r : Rule)
    (p : Progress) : Prop :=
  h.runs t phase = true ∧
    ByChain h.engine (phase == loggingPhase) (h.rules.ofPhase phase) (h.begin t phase timing)
      fun c x => ∃ k, h.engine.Evaluates x c k r p

/--
**No target that is excluded or out of force is reported.**

Run a phase of a transaction, whatever earlier phases and other transactions have left of it and of
the handler. Every record that is logged without closing a chain, and every name that is remembered
and was not before, was written when one rule, on its way through its targets, noted a match of a
value of that name: one of the targets has found the value, and at that moment it was spared by the
targets out of force for the id and the tags of the rule, and by the exceptions that select the rule.
No rule that is evaluated writes anything else, even one that forgets all names because it does not
match.
-/
theorem no_excluded_target_reported (h : Handler) (t : Transaction) (phase : Nat)
    (timing : Timing) :
    (∀ m ∈ (h.processPhase t phase timing).logged, m.isFinal = false →
      ∃ r p q v, h.Evaluates t phase timing r p ∧ r.Notes h.rules.exceptions p q v ∧
        r.Logs q v m ∧ m.matchedName = v.name) ∧
    (∀ w ∈ (h.processPhase t phase timing).tx.matched.values.values, w ∈ t.matched.values.values ∨
      ∃ r p q v, h.Evaluates t phase timing r p ∧ r.Notes h.rules.exceptions p q v ∧
        r.Remembers q v w ∧ w.key = v.name) ∧
    (∀ r p, h.Evaluates t phase timing r p → ∃ s, r.Adds h.rules.exceptions p s ∧
      ((r.evaluate h.rules.exceptions p).2 = s ∨
        (r.evaluate h.rules.exceptions p).2 = s.clearMatches)) := by
  cases hruns : h.runs t phase with
  | false =>
      rw [processPhase_of_not_runs timing hruns]
      refine ⟨?_, fun w hw => .inl hw, fun r p _ => r.evaluate_reports h.rules.exceptions p⟩
      intro m hm
      cases hm
  | true =>
      have hrun := h.runs_ran t phase timing
      rw [processPhase_of_runs timing hruns]
      refine ⟨?_, ?_, fun r p _ => r.evaluate_reports h.rules.exceptions p⟩
      · intro m hm hfinal
        rcases hrun.byChain_logged hm with hm | ⟨c, x, hvisits, hm⟩
        · cases hm
        · obtain ⟨k, r, p, heval, q, v, hnotes, hlogs⟩ :=
            (h.engine.byRule_evaluate x c).1 m hm hfinal
          exact ⟨r, p, q, v, ⟨hruns, c, x, hvisits, k, heval⟩, hnotes, hlogs, hlogs.matchedName⟩
      · intro w hw
        rcases hrun.byChain_remembered hw with hw | ⟨c, x, hvisits, hbefore, hw⟩
        · exact .inl hw
        · obtain ⟨k, r, p, heval, q, v, hnotes, hremembers⟩ :=
            ((h.engine.byRule_evaluate x c).2 w hw).resolve_left hbefore
          exact .inr ⟨r, p, q, v, ⟨hruns, c, x, hvisits, k, heval⟩, hnotes, hremembers,
            hremembers.key⟩

/-- A handler with one rule, which matches every argument but `a`: an exception excludes that. -/
def sparing : Handler where
  name := "sparing"
  rules :=
    { RuleSet.empty.addAll
        [⟨{ Engine.plainRule 1 false with inspected := [.set .args .all .none] }, []⟩] with
      exceptions :=
        { Exceptions.none with byId := [(1, [.exclusion (.set .args (.key "a") .none)])] } }
  mode := .on
  registry := .empty
  shelf := .empty
  log := .empty {}
  environment := .empty
  statistics := .none

/-- A transaction with the arguments `a` and `b`. -/
def twoArguments : Transaction :=
  (Transaction.new "t" 0 .empty).learn fun r =>
    { r with args := (r.args.pushWhole "a" "1" 0).pushWhole "b" "2" 0 }

theorem no_excluded_target_reported_sparing :
    (sparing.processPhase twoArguments 2 ⟨0, 0⟩).logged.map (fun m => (m.matchedName, m.isFinal)) =
      [("ARGS:b", false), ("ARGS:b", true)] ∧
    ∀ m ∈ (sparing.processPhase twoArguments 2 ⟨0, 0⟩).logged, m.isFinal = false →
      ∃ r p q v, sparing.Evaluates twoArguments 2 ⟨0, 0⟩ r p ∧
        r.Notes sparing.rules.exceptions p q v ∧ r.Logs q v m ∧ m.matchedName = v.name :=
  ⟨by decide, (no_excluded_target_reported sparing twoArguments 2 ⟨0, 0⟩).1⟩

end Handler

end Rampart
