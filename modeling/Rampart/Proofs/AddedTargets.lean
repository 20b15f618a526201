import Rampart.Proofs.LinkMatch
import Rampart.Proofs.Reference
import Rampart.Proofs.Spared
import Rampart.Rule.Compile

/-!
# Targets that exceptions add

An exception can add targets to a rule. They are inspected behind those of the rule itself, whatever
is left of these; so a rule with targets of its own always matches what an added target shows, if its
test accepts it. A rule without targets is tested on the empty text and never asks for exceptions:
added to it, a target is not inspected. That is also the case of a rule whose own exclusions have left
it nothing, although the same exclusions made by an exception do not keep the added target out.
-/

namespace Rampart

/-- Some exception that selects the rule adds the variable to its targets. -/
def Exceptions.AddsTarget (e : Exceptions) (r : RuleInfo) (message : Option String) (v : Variable) :
    Prop :=
  e.Targets r message v ∧ v.exclusionBase? = .none

namespace Rule

variable {r : Rule} {e : Exceptions} {x : Exchange}

/-- Where the evaluation starts, an added target shows a value that is spared, and the test of the
rule accepts a text that it is normalised to. -/
structure AddedHit (r : Rule) (e : Exceptions) (x : Exchange) (v : Variable) (value : Value)
    (text : String) : Prop where
  added : e.AddsTarget r.info (r.expandMessage x).1 v
  found : value ∈ (v.evaluate r.info x).1
  spared : r.Spares e x.tx.decision.overrides (r.expandMessage x).1 value
  normalised : text ∈ (r.pipeline.run value.text r.multiMatch).map (·.1)
  accepted : r.accepts x text = true

theorem exists_addedHit_iff :
    (∃ v value text, r.AddedHit e x v value text) ↔
      (e.forRule r x).1.added.any (r.hitsVariable (e.forRule r x).1 x) = true := by
  rw [List.any_eq_true]
  refine exists_congr fun v => ?_
  unfold hitsVariable
  rw [List.any_eq_true]
  constructor
  · rintro ⟨value, text, h⟩
    obtain ⟨t, ht, heq⟩ := List.mem_map.1 h.normalised
    refine ⟨Exceptions.mem_added_iff.2 h.added, value, h.found, ?_⟩
    unfold hitsValue
    rw [passesOver_eq_false_iff.2 h.spared, Bool.not_false, Bool.true_and]
    exact List.any_eq_true.2 ⟨t, ht, heq ▸ h.accepted⟩
  · rintro ⟨hv, value, hvalue, hit⟩
    obtain ⟨hkept, htexts⟩ := Bool.and_eq_true_iff.1 hit
    obtain ⟨t, ht, haccepts⟩ := List.any_eq_true.1 htexts
    rw [Bool.not_eq_true'] at hkept
    have hspared := passesOver_eq_false_iff.1 hkept
    exact ⟨value, t.1, Exceptions.mem_added_iff.1 hv, hvalue, hspared, List.mem_map_of_mem ht,
      haccepts⟩

instance : Decidable (∃ v value text, r.AddedHit e x v value text) :=
  decidable_of_iff _ exists_addedHit_iff.symm

/-- **A hit of an added target** makes the rule match exactly if the rule has targets of its own or
accepts the empty text. -/
theorem matches_added_target_iff {p : Progress} (hx : p.exchange.Fresh)
    (h : ∃ v value text, r.AddedHit e p.exchange v value text) :
    (r.evaluate e p).1 = true ↔ (r.inspected = [] → r.accepts p.exchange "" = true) := by
  by_cases hnone : r.inspected = []
  · rw [evaluate_of_no_targets hnone]
    exact ⟨fun haccepts _ => haccepts, fun haccepts => haccepts hnone⟩
  · rw [evaluate_of_targets hx hnone]
    constructor
    · intro _ hempty
      exact absurd hempty hnone
    · intro _
      -- what exceptions add stands behind the targets of the rule
      obtain ⟨v, hv, hit⟩ := List.any_eq_true.1 (exists_addedHit_iff.1 h)
      exact List.any_eq_true.2 ⟨v, List.mem_append_right _ hv, hit⟩

end Rule

/-- A rule that looks for a probe. -/
def probing (references : List String) : RuleSettings :=
  ⟨{ references := references, operator := "@contains probe" }, []⟩

/-- The exception that has the rule look into a header. -/
def scanHeader : Exceptions :=
  (Exceptions.ofSettings [{ id := some 0, targets := ["REQUEST_HEADERS:X-Scan"] }]).1

/-- A transaction whose one header is a probe. -/
def scanExchange : Exchange where
  tx := (Transaction.new "t" 0 .empty).learn (·.withHeader "X-Scan" "probe-v2")
  shelf := .empty
  now := 0

theorem scanExchange_fresh : scanExchange.Fresh where
  own := fun b hb => by cases hb
  shared := fun c hc => by cases hc

/-- A rule with a target of its own finds the probe in the header. -/
theorem matches_added_target_scanHeader :
    ∃ c, Chain.ofSettings .empty (probing ["ARGS"]) = .ok c ∧
      (∃ v value text, c.head.AddedHit scanHeader scanExchange v value text) ∧
      (c.head.evaluate scanHeader (.start scanExchange c)).1 = true := by
  have hcheck : (Chain.ofSettings .empty (probing ["ARGS"])).toOption.map (fun c =>
      decide (c.head.inspected ≠ [] ∧
        ∃ v value text, c.head.AddedHit scanHeader scanExchange v value text)) = some true := by
    decide +kernel
  obtain ⟨c, hc, hcheck⟩ := exists_ok_of_map hcheck
  obtain ⟨hsome, hit⟩ := of_decide_eq_true hcheck
  have hiff := Rule.matches_added_target_iff (p := .start scanExchange c) scanExchange_fresh hit
  exact ⟨c, hc, hit, hiff.2 fun hnone => absurd hnone hsome⟩

/-- Once the rule has left out its only target itself, the probe passes. -/
theorem added_target_not_inspected :
    ∃ c, Chain.ofSettings .empty (probing ["ARGS", "!ARGS"]) = .ok c ∧ scanExchange.Fresh ∧
      (∃ v value text, c.head.AddedHit scanHeader scanExchange v value text) ∧
      (c.head.evaluate scanHeader (.start scanExchange c)).1 = false := by
  have hcheck : (Chain.ofSettings .empty (probing ["ARGS", "!ARGS"])).toOption.map (fun c =>
      decide ((∃ v value text, c.head.AddedHit scanHeader scanExchange v value text) ∧
        (c.head.evaluate scanHeader (.start scanExchange c)).1 = false)) = some true := by
    decide +kernel
  obtain ⟨c, hc, hcheck⟩ := exists_ok_of_map hcheck
  obtain ⟨hit, hno⟩ := of_decide_eq_true hcheck
  exact ⟨c, hc, scanExchange_fresh, hit, hno⟩

end Rampart
