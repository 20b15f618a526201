import Rampart.Proofs.Compile
import Rampart.Proofs.LinkMatch
import Rampart.Proofs.Resolution

/-!
# Exclusions that a rule makes itself

A rule that leaves out more of what it inspects is hit by less, as long as something is left. Where
nothing is left there are no targets any more, and a rule without targets is tested once on the
empty text: the last exclusion of a list can turn a rule that did not match into one that does. That
is the only way in which an exclusion can make a rule match.
-/

namespace Rampart

/-- **A chain of one link holds** exactly if the engine is on and the rule is out of force, or else
matches and expects no successor. -/
theorem Engine.holds_single (e : Engine) (x : Exchange) {c : Chain} (hc : c.successors = []) :
    (e.evaluate x c).holds = true ↔
      e.mode ≠ .off ∧ (x.tx.decision.overrides.removesRule c.id = true ∨
        (c.head.evaluate e.exceptions (.start x c)).1 = true ∧ c.head.chained = false) := by
  unfold Engine.evaluate
  by_cases hmode : e.mode = .off
  · rw [if_pos hmode]
    exact ⟨fun h => Bool.noConfusion h, fun h => absurd hmode h.1⟩
  · rw [if_neg hmode]
    by_cases hremoved : x.tx.decision.overrides.removesRule c.id = true
    · rw [if_pos hremoved]
      exact ⟨fun _ => ⟨hmode, .inl hremoved⟩, fun _ => rfl⟩
    · rw [if_neg hremoved, hc]
      unfold evaluateLinks
      dsimp only
      cases hmatch : (c.head.evaluate e.exceptions (.start x c)).1 with
      | false =>
          refine ⟨fun h => Bool.noConfusion h, fun h => ?_⟩
          rcases h.2 with h | h
          · exact absurd h hremoved
          · exact Bool.noConfusion h.1
      | true =>
          cases hchained : c.head.chained with
          | false => exact ⟨fun _ => ⟨hmode, .inr ⟨rfl, rfl⟩⟩, fun _ => rfl⟩
          | true =>
              refine ⟨fun h => Bool.noConfusion h, fun h => ?_⟩
              rcases h.2 with h | h
              · exact absurd h hremoved
              · exact Bool.noConfusion h.2

namespace Rule

variable {r : Rule} {vs : List Variable} {p : Progress}

/-- Whatever hits a variable that leaves out more hits the variable that leaves out less. -/
theorem hitsVariable_of_narrows {v w : Variable} (h : v.Narrows w) (hw : w.WellRead)
    (hm : w.Unmarked) {t : Retargeting} {x : Exchange} (hv : r.hitsVariable t x v = true) :
    r.hitsVariable t x w = true := by
  obtain ⟨a, ha, hit⟩ := List.any_eq_true.1 hv
  exact List.any_eq_true.2 ⟨a, h.mem_evaluate hw hm ha, hit⟩

/-- The targets that are left are targets of the rule that leaves out less. -/
theorem exists_target_of_covered (h : Variable.Covered vs r.inspected)
    (hread : ∀ w ∈ r.inspected, w.WellRead ∧ w.Unmarked) {t : Retargeting} {o : Overrides}
    {v : Variable} (hv : v ∈ (r.aiming vs).targets t o) {x : Exchange}
    (hit : r.hitsVariable t x v = true) :
    ∃ w ∈ r.targets t o, r.hitsVariable t x w = true := by
  rcases List.mem_append.1 hv with hv | hv
  · obtain ⟨hmem, hkept⟩ := List.mem_filter.1 hv
    obtain ⟨w, hw, hvw⟩ := h v hmem
    obtain ⟨hwell, hplain⟩ := hread w hw
    have hin : v.isIn t.excluded = w.isIn t.excluded := by
      unfold Variable.isIn
      rw [hvw.fullName_eq]
    rw [hin, hvw.fullName_eq] at hkept
    refine ⟨w, ?_, hitsVariable_of_narrows hvw hwell hplain hit⟩
    exact List.mem_append_left _ (List.mem_filter.2 ⟨hw, hkept⟩)
  · exact ⟨v, List.mem_append_right _ hv, hit⟩

/-- **A rule that leaves out more matches less**, as long as it has targets. -/
theorem evaluate_of_covered (h : Variable.Covered vs r.inspected)
    (hread : ∀ w ∈ r.inspected, w.WellRead ∧ w.Unmarked) (hx : p.exchange.Fresh) (hvs : vs ≠ [])
    {e : Exceptions} (hmatch : ((r.aiming vs).evaluate e p).1 = true) :
    (r.evaluate e p).1 = true := by
  have hsome : r.inspected ≠ [] := by
    obtain ⟨v, hv⟩ := List.exists_mem_of_ne_nil vs hvs
    obtain ⟨w, hw, -⟩ := h v hv
    exact List.ne_nil_of_mem hw
  rw [evaluate_of_targets hx hvs] at hmatch
  rw [evaluate_of_targets hx hsome]
  obtain ⟨v, hv, hit⟩ := List.any_eq_true.1 hmatch
  obtain ⟨w, hw, hit⟩ := exists_target_of_covered h hread hv hit
  exact List.any_eq_true.2 ⟨w, hw, hit⟩

end Rule

/--
**An exclusion makes a rule match only by leaving it nothing to inspect.**

Take a rule of one link and put one more exclusion anywhere into its list of targets, which holds no
counts. Where nothing has expired and the rule did not match, it matches now exactly if the engine
is on, the rule expects no successor, its list of targets has become empty, and its test accepts the
empty text.
-/
theorem holds_of_one_more_exclusion {files : FileTree} (s : LinkSettings) (as bs : List String)
    {reference : String} {c c' : Chain} {e : Engine} {x : Exchange}
    (hcounts : ∀ ref ∈ as ++ bs, ¬ Variable.Counts ref) (hex : Variable.Excludes reference)
    (hc : Chain.ofSettings files ⟨{ s with references := as ++ bs }, []⟩ = .ok c)
    (hc' : Chain.ofSettings files ⟨{ s with references := as ++ reference :: bs }, []⟩ = .ok c')
    (hx : x.Fresh) (hno : (e.evaluate x c).holds = false) :
    (e.evaluate x c').holds = true ↔
      e.mode ≠ .off ∧ c'.head.chained = false ∧ c'.head.inspected = [] ∧
        c'.head.accepts x "" = true := by
  obtain ⟨hr, hsingle⟩ := Chain.ofSettings_single hc
  obtain ⟨hr', hsingle'⟩ := Chain.ofSettings_single hc'
  obtain ⟨hread, hother⟩ := Rule.ofSettings_references hr
  have hread' := (Rule.ofSettings_references hr').1
  have hhead : c'.head = c.head.aiming c'.head.inspected := by
    have := hother _ _ hread'
    rw [hr'] at this
    exact Except.ok.inj this
  have hcovered := Variable.covered_of_ofList hread hread' hex
  have hwell : ∀ w ∈ c.head.inspected, w.WellRead ∧ w.Unmarked := fun w hw =>
    ⟨Variable.wellRead_of_ofList hread hw, Variable.unmarked_of_ofList hread hcounts hw⟩
  have hid : c'.id = c.id := by
    unfold Chain.id
    rw [hhead]
    rfl
  have hchained : c'.head.chained = c.head.chained := by
    rw [hhead]
    rfl
  have hstart : Progress.start x c' = Progress.start x c := by
    unfold Progress.start
    rw [hhead]
    rfl
  -- the rule without the exclusion neither is out of force nor matches as a chain of its own
  have hbefore : ¬ (e.evaluate x c).holds = true := Bool.eq_false_iff.1 hno
  rw [e.holds_single x hsingle] at hbefore
  rw [e.holds_single x hsingle', hid]
  constructor
  · rintro ⟨hmode, hremoved | ⟨hmatch, hlast⟩⟩
    · exact absurd ⟨hmode, .inl hremoved⟩ hbefore
    · refine ⟨hmode, hlast, ?_⟩
      -- with a target left, the rule would have matched without the exclusion too
      have hnone : c'.head.inspected = [] := by
        by_contra hsome
        rw [hstart, hhead] at hmatch
        have hmatch' := Rule.evaluate_of_covered hcovered hwell hx hsome hmatch
        exact hbefore ⟨hmode, .inr ⟨hmatch', hchained ▸ hlast⟩⟩
      rw [Rule.evaluate_of_no_targets hnone] at hmatch
      exact ⟨hnone, hmatch⟩
  · rintro ⟨hmode, hlast, hnone, haccepts⟩
    refine ⟨hmode, .inr ⟨?_, hlast⟩⟩
    rw [Rule.evaluate_of_no_targets hnone]
    exact haccepts

/-- What an engine without exceptions says of a declared rule, if it can be read. -/
def verdict (s : RuleSettings) (x : Exchange) : Option Bool :=
  (Chain.ofSettings .empty s).toOption.map fun c => (Engine.evaluate ⟨.on, .none⟩ x c).holds

theorem exists_chain_of_verdict {s : RuleSettings} {x : Exchange} {holds : Bool}
    (h : verdict s x = some holds) :
    ∃ c, Chain.ofSettings .empty s = .ok c ∧ (Engine.evaluate ⟨.on, .none⟩ x c).holds = holds :=
  exists_ok_of_map h

/-- A rule that matches whatever is not `bob`. -/
def notBob (references : List String) : RuleSettings :=
  ⟨{ references := references, operator := "!@streq bob" }, []⟩

/-- A transaction whose one argument is `bob`. -/
def bobExchange : Exchange where
  tx := (Transaction.new "t" 0 .empty).learn (·.withQuery "name=bob")
  shelf := .empty
  now := 0

theorem bobExchange_fresh : bobExchange.Fresh where
  own := fun b hb => by cases hb
  shared := fun c hc => by cases hc

/-- Leaving out the only target makes the rule match. -/
theorem notBob_matches_without_targets :
    verdict (notBob ["ARGS"]) bobExchange = some false ∧
      verdict (notBob ["ARGS", "!ARGS"]) bobExchange = some true := by
  decide +kernel

/-- Once its only target is left out, the rule has nothing to inspect. -/
theorem holds_of_one_more_exclusion_notBob :
    ∃ c c', Chain.ofSettings .empty (notBob ["ARGS"]) = .ok c ∧
      Chain.ofSettings .empty (notBob ["ARGS", "!ARGS"]) = .ok c' ∧
      (Engine.evaluate ⟨.on, .none⟩ bobExchange c).holds = false ∧
      (Engine.evaluate ⟨.on, .none⟩ bobExchange c').holds = true ∧ c'.head.inspected = [] := by
  have hbefore : verdict (notBob ["ARGS"]) bobExchange = some false := by decide +kernel
  have hafter : verdict (notBob ["ARGS", "!ARGS"]) bobExchange = some true := by decide +kernel
  obtain ⟨c, hc, hno⟩ := exists_chain_of_verdict hbefore
  obtain ⟨c', hc', hyes⟩ := exists_chain_of_verdict hafter
  have hcounts : ∀ ref ∈ ["ARGS"] ++ [], ¬ Variable.Counts ref := by
    unfold Variable.Counts
    decide +kernel
  have hex : Variable.Excludes "!ARGS" := by
    unfold Variable.Excludes
    decide +kernel
  have hiff := holds_of_one_more_exclusion { operator := "!@streq bob" } ["ARGS"] [] hcounts hex hc
    hc' bobExchange_fresh hno
  exact ⟨c, c', hc, hc', hno, hyes, (hiff.1 hyes).2.2.1⟩

end Rampart
