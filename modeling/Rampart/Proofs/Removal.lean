import Mathlib.Data.Nat.Find
import Rampart.Proofs.Tightening

/-!
# More rules out of force, no fewer matches

A rule that is out of force stands for one that matches: a chain holds if its head is out of force,
and a chain ends in front of a later rule that is. With more rules out of force a chain may end at more
positions, and up to the first of them its rules come to the same, since no rule looks at which rules
are out of force. So a chain that closes still closes, at the same position or before it.
-/

namespace Rampart

/-- The rules that were out of force stay so, and the same targets are. -/
structure Overrides.Widens (o o' : Overrides) : Prop where
  removes : ∀ id, o.removesRule id = true → o'.removesRule id = true
  byId : o'.targetsById = o.targetsById
  byTag : o'.targetsByTag = o.targetsByTag

/-- Other rules are out of force. -/
def Disguise.removing (o : Overrides) : Disguise where
  decision d := { d with overrides := { d.overrides with rules := o.rules, ranges := o.ranges } }
  shelf := id

theorem keepsTargets_removing (o : Overrides) : (Disguise.removing o).KeepsTargets :=
  ⟨fun _ => rfl, fun _ => rfl⟩

/-- Overrides that put other rules out of force, and the same targets, are a disguise. -/
theorem withOverrides_eq_under {x : Exchange} {o : Overrides}
    (h : x.tx.decision.overrides.Widens o) : x.withOverrides o = x.under (.removing o) := by
  have ho : o = { x.tx.decision.overrides with rules := o.rules, ranges := o.ranges } := by
    obtain ⟨rules, ranges, targetsById, targetsByTag⟩ := o
    obtain ⟨-, rfl, rfl⟩ := h
    rfl
  calc x.withOverrides o
      = x.withOverrides { x.tx.decision.overrides with rules := o.rules, ranges := o.ranges } :=
        congrArg x.withOverrides ho
    _ = x.under (.removing o) := rfl

namespace Engine

variable {e : Engine} {o o' : Overrides} {p : Progress} {rules : List Rule} {k : Nat}

/-! ## More rules out of force -/

theorem EndsAt.widen (h : o.Widens o') (he : EndsAt o rules k) : EndsAt o' rules k := by
  obtain ⟨r, hr, hend⟩ := he
  refine ⟨r, hr, hend.imp_right ?_⟩
  rintro ⟨next, hnext, hout⟩
  exact ⟨next, hnext, h.removes _ hout⟩

/-- A chain that closes at a position closes there or before it when more rules are out of force. -/
theorem ClosesAt.widen (h : o.Widens o') (hc : e.ClosesAt o p rules k) :
    ∃ j ≤ k, e.ClosesAt o' p rules j := by
  classical
  have hends : EndsAt o' rules k := hc.ends.widen h
  have hex : ∃ j, EndsAt o' rules j := ⟨k, hends⟩
  have hle : Nat.find hex ≤ k := Nat.find_min' hex hends
  exact ⟨Nat.find hex, hle,
    { matched := fun i hi => hc.matched i (hi.trans hle)
      ends := Nat.find_spec hex
      first := fun _ hi => Nat.find_min hex hi }⟩

/-- **Putting rules out of force never undoes a match**: a chain that holds goes on holding when more
rules, and the same targets, are out of force. -/
theorem holds_of_more_removed (e : Engine) (x : Exchange) (c : Chain) {o : Overrides}
    (ho : x.tx.decision.overrides.Widens o) (hyes : (e.evaluate x c).holds = true) :
    (e.evaluate (x.withOverrides o) c).holds = true := by
  by_cases hmode : e.mode = .off
  · rw [evaluate, if_pos hmode] at hyes
    cases hyes
  by_cases hout : o.removesRule c.id = true
  · have hout' : (x.withOverrides o).tx.decision.overrides.removesRule c.id = true := hout
    rw [evaluate, if_neg hmode, if_pos hout']
  · have hin' : (x.withOverrides o).tx.decision.overrides.removesRule c.id = false :=
      Bool.eq_false_iff.2 hout
    have hin : x.tx.decision.overrides.removesRule c.id = false :=
      Bool.eq_false_iff.2 fun h => hout (ho.removes _ h)
    rcases e.closesAt_or_breaksAt x c with ⟨k, hk⟩ | ⟨k, hk⟩
    · obtain ⟨j, -, hj⟩ := hk.widen ho
      have hclosed := hj.under (keepsTargets_removing o) (.inl rfl)
      have hstart : (Progress.start x c).under (.removing o) = .start (x.withOverrides o) c := by
        rw [withOverrides_eq_under ho]
        rfl
      rw [hstart] at hclosed
      exact (evaluate_of_closesAt hmode hin' hclosed).1
    · rw [evaluate_of_breaksAt hmode hin hk] at hyes
      cases hyes

/-- Three rules that match. -/
def threeRules : Chain := ⟨plainRule 7 true, [plainRule 8 true, plainRule 9 false]⟩

/-- A transaction in which every rule is in force. -/
def plainExchange : Exchange := ⟨.new "t" 0 .empty, .empty, 0⟩

/-- The chain holds without its last rule too. -/
theorem holds_of_more_removed_threeRules :
    let o := Overrides.none.removeRange 9 12
    plainExchange.tx.decision.overrides.Widens o ∧
      (Engine.evaluate ⟨.on, .none⟩ plainExchange threeRules).holds = true ∧
      (Engine.evaluate ⟨.on, .none⟩ (plainExchange.withOverrides o) threeRules).holds = true := by
  intro o
  have ho : plainExchange.tx.decision.overrides.Widens o := by
    refine ⟨?_, rfl, rfl⟩
    intro id hid
    cases hid
  have hyes : (Engine.evaluate ⟨.on, .none⟩ plainExchange threeRules).holds = true := rfl
  exact ⟨ho, hyes, holds_of_more_removed ⟨.on, .none⟩ plainExchange threeRules ho hyes⟩

end Engine

end Rampart
