import Rampart.Proofs.ChainVerdict
import Rampart.Proofs.Walk

/-!
# The footprint of a chain that does not match

A chain can break after any number of its rules have matched, and what these have done stays: they
have captured texts and changed variables in collections, and what matched last has been noted. The
rule that breaks the chain has only read. `Touches rules x y` says that `y` comes from `x` by such
steps of some rules, so every rule that is left out of the list has touched nothing.
-/

namespace Rampart

/-- Nothing is remembered of the values that matched. -/
structure Matches.Forgotten (m : Matches) : Prop where
  last : m.last.value = .none
  lastName : m.lastName.value = .none
  values : m.values.values = []
  names : m.names.values = []

theorem Matches.forgotten_clear (m : Matches) : m.clear.Forgotten := ⟨rfl, rfl, rfl, rfl⟩

/-- What evaluating some rules may do to an exchange before their chain is closed. -/
inductive Touches (rules : List Rule) (x : Exchange) : Exchange → Prop where
  /-- Nothing. -/
  | refl : Touches rules x x
  /-- Remove keys with an expired entry by a read. -/
  | read {y z} (h : Touches rules x y) (hz : Purges y z) : Touches rules x z
  /-- Change what is remembered of the values that matched. -/
  | note {y} (h : Touches rules x y) (m : Matches) :
      Touches rules x (y.update fun t => { t with matched := m })
  /-- Store a captured text under a number. -/
  | capture {y r} (h : Touches rules x y) (hr : r ∈ rules) (hc : r.capture = true) (n : Nat)
      (text : String) :
      Touches rules x (y.update fun t => { t with own := t.own.setFirst n.repr text })
  /-- Set a variable in a collection that can be reached. -/
  | set {y r name key change v k} (h : Touches rules x y) (hr : r ∈ rules)
      (ha : Action.setVar name key change ∈ r.actions) (hv : y.view? name.text = some v)
      (hk : ∃ z, (key.expand r.info z).1 = k) (text : String) :
      Touches rules x (y.writing v fun part c => part.setFirst c k text)
  /-- Remove a variable from a collection that can be reached. -/
  | erase {y r name key change v k} (h : Touches rules x y) (hr : r ∈ rules)
      (ha : Action.setVar name key change ∈ r.actions) (hv : y.view? name.text = some v)
      (hk : ∃ z, (key.expand r.info z).1 = k) :
      Touches rules x (y.writing v fun part c => part.erase c k)

namespace Touches

variable {rules rules' : List Rule} {x y z : Exchange}

theorem trans (h₁ : Touches rules x y) (h₂ : Touches rules y z) : Touches rules x z := by
  induction h₂ with
  | refl => exact h₁
  | read _ hz ih => exact .read ih hz
  | note _ m ih => exact .note ih m
  | capture _ hr hc n text ih => exact .capture ih hr hc n text
  | set _ hr ha hv hk text ih => exact .set ih hr ha hv hk text
  | erase _ hr ha hv hk ih => exact .erase ih hr ha hv hk

theorem mono (hsub : rules ⊆ rules') (h : Touches rules x y) : Touches rules' x y := by
  induction h with
  | refl => exact .refl
  | read _ hz ih => exact .read ih hz
  | note _ m ih => exact .note ih m
  | capture _ hr hc n text ih => exact .capture ih (hsub hr) hc n text
  | set _ hr ha hv hk text ih => exact .set ih (hsub hr) ha hv hk text
  | erase _ hr ha hv hk ih => exact .erase ih (hsub hr) ha hv hk

/-- The footprint lies within the collections and what is remembered of matches. -/
theorem undecided (h : Touches rules x y) : Undecided x y := by
  induction h with
  | refl => exact .refl x
  | read _ hz ih => exact ih.trans hz.onlyCollections.toUndecided
  | note _ m ih => exact ih.trans ⟨rfl, rfl, rfl, rfl, rfl, rfl⟩
  | capture _ _ _ _ _ ih => exact ih.trans ⟨rfl, rfl, rfl, rfl, rfl, rfl⟩
  | set _ _ _ _ _ _ ih => exact ih.trans (onlyCollections_writing _ _ _).toUndecided
  | erase _ _ _ _ _ ih => exact ih.trans (onlyCollections_writing _ _ _).toUndecided

end Touches

theorem Purges.touches {x y : Exchange} (h : Purges x y) (rules : List Rule) : Touches rules x y :=
  .read .refl h

/-- Reads do not change which collections can be reached. -/
theorem Undecided.view? {x y : Exchange} (h : Undecided x y) (name : String) :
    y.view? name = x.view? name := by
  unfold Exchange.view? Transaction.binding?
  rw [h.bindings, h.registry]

/-! ## The steps of a rule that matches -/

section Steps

variable {r : Rule}

theorem touches_applyChange {name : CollectionName} {key : MacroText} {change : Change}
    (ha : Action.setVar name key change ∈ r.actions) {x : Exchange} {v : View}
    (hv : x.view? name.text = some v) {k : String} (hk : ∃ z, (key.expand r.info z).1 = k) :
    Touches [r] x (Action.applyChange r.info v k x change) := by
  have hr : r ∈ [r] := List.mem_singleton_self r
  -- what the change reads before it writes leaves the collection where it was
  have writes {y : Exchange} (h : Purges x y) (text : String) :
      Touches [r] x (y.writing v fun part c => part.setFirst c k text) := by
    have hview := h.onlyCollections.toUndecided.view? name.text
    exact .set (h.touches [r]) hr ha (hview.trans hv) hk text
  have counts (delta : MacroText) (f : Int → Int → Int) :
      Touches [r] x (Action.applyChange.count r.info v k x delta f) := by
    have current : Purges x (x.reading v fun part c => part.readFirst c x.now k).2 :=
      purges_reading x v fun c => ⟨(Text.sameText · (v.compartment.key k)), rfl⟩
    have expanded := current.trans (purges_expand delta r.info _)
    exact writes expanded _
  cases change with
  | set text => exact writes (purges_expand text r.info x) _
  | one => exact writes (.refl x) "1"
  | erase => exact .erase .refl hr ha hv hk
  | add delta => exact counts delta _
  | sub delta => exact counts delta _

theorem touches_run {a : Action} (ha : a ∈ r.actions) (hs : a.stage = .everyMatch) (x : Exchange)
    (m : MatchRecord) : Touches [r] x (a.run r.info x m).1 := by
  cases a with
  | setVar name key change =>
      have hkey := purges_expand key r.info x
      rw [Action.run]
      split
      · exact hkey.touches [r]
      · rename_i v hv
        exact (hkey.touches [r]).trans (touches_applyChange ha hv ⟨x, rfl⟩)
  | logData text => exact (purges_expand text r.info x).touches [r]
  -- every other action runs when the chain is closed
  | _ => cases hs

theorem touches_runActions (p : Progress) (r : Rule) :
    Touches [r] p.exchange (p.runActions r (r.actionsOf .everyMatch)).exchange := by
  refine runActions_induction (I := fun q => Touches [r] p.exchange q.exchange) r _ .refl ?_
  intro q hq a ha
  have hmem : a ∈ r.actions := (List.mem_filter.1 ha).1
  exact hq.trans (touches_run hmem (stage_of_mem_actionsOf ha) q.exchange q.record)

theorem touches_storeCaptures (p : Progress) (hc : r.capture = true) (captures : List String) :
    Touches [r] p.exchange (p.storeCaptures captures).exchange := by
  have hr : r ∈ [r] := List.mem_singleton_self r
  -- one text after the other, on the exchange that the earlier ones have left
  have stored (texts : List (String × Nat)) (x : Exchange) :
      Touches [r] x (x.update fun t =>
        { t with own := texts.foldl (fun c text => c.setFirst text.2.repr text.1) t.own }) := by
    induction texts generalizing x with
    | nil => exact .refl
    | cons text texts ih =>
        have hfirst : Touches [r] x
            (x.update fun t => { t with own := t.own.setFirst text.2.repr text.1 }) :=
          .capture .refl hr hc text.2 text.1
        exact hfirst.trans (ih _)
  exact stored captures.zipIdx p.exchange

theorem touches_ruleNoteMatch (r : Rule) (value : Value) (text reference : String) (v : Verdict)
    (p : Progress) : Touches [r] p.exchange (r.noteMatch value text reference v p).exchange := by
  unfold Rule.noteMatch
  dsimp only
  refine Touches.trans ?_ (touches_runActions _ r)
  refine Touches.trans ?_ ((purges_expandMessage r _).touches [r])
  refine Touches.trans ?_ (.note .refl _)
  split
  · rename_i hc
    exact touches_storeCaptures _ hc v.captures
  · exact .refl

theorem touches_testOnce (r : Rule) (p : Progress) :
    Touches [r] p.exchange (r.testOnce p).2.exchange := by
  let tested : Progress :=
    { p with exchange := (r.test.evaluate r.info r.capture "" p.exchange).2 }
  have hread : Touches [r] p.exchange tested.exchange :=
    (purges_test r.test r.info r.capture "" p.exchange).touches [r]
  unfold Rule.testOnce
  dsimp only
  split
  · exact hread.trans (touches_runActions tested r)
  · exact hread

theorem touches_walk {r : Rule} {e : Exceptions} {p : Progress} {s : Bool × Progress}
    (h : r.Walk e p s) : Touches [r] p.exchange s.2.exchange := by
  induction h with
  | start => exact .refl
  | read _ hy ih => exact ih.trans (hy.touches [r])
  | note _ text reference v _ _ ih => exact ih.trans (touches_ruleNoteMatch r _ text reference v _)

/-- A rule touches no more than its captures and its changes of variables say. -/
theorem touches_evaluate (r : Rule) (e : Exceptions) (p : Progress) :
    Touches [r] p.exchange (r.evaluate e p).2.exchange := by
  obtain ⟨tested, hway, hcome⟩ := r.evaluate_cases e p
  have h : Touches [r] p.exchange tested.2.exchange := by
    rcases hway with ⟨_, rfl⟩ | ⟨_, rfl⟩
    · exact touches_testOnce r p
    · exact touches_walk (r.walk_testAll e p)
  rcases hcome with ⟨_, heq⟩ | ⟨_, heq⟩
  · rw [heq]
    exact h
  · rw [heq]
    exact .note h _

end Steps

/-! ## A rule that does not match -/

theorem purges_of_testOnce {r : Rule} {p : Progress} (hno : (r.testOnce p).1 = false) :
    Purges p.exchange (r.testOnce p).2.exchange := by
  have tested := purges_test r.test r.info r.capture "" p.exchange
  unfold Rule.testOnce at hno ⊢
  dsimp only at hno ⊢
  split at hno
  · cases hno
  · rename_i hfails
    rw [if_neg hfails]
    exact tested

theorem purges_of_walk {r : Rule} {e : Exceptions} {p : Progress} {s : Bool × Progress}
    (h : r.Walk e p s) (hno : s.1 = false) : Purges p.exchange s.2.exchange := by
  induction h with
  | start => exact .refl _
  | read _ hy ih => exact (ih hno).trans hy
  -- once a match is noted, the flag stays up
  | note => cases hno

/-- A rule that matches nothing has only read what it inspected. -/
theorem purges_of_not_matched {r : Rule} {e : Exceptions} {p : Progress}
    (h : (r.evaluate e p).1 = false) :
    ∃ y, Purges p.exchange y ∧
      (r.evaluate e p).2.exchange = y.update fun t => { t with matched := t.matched.clear } := by
  obtain ⟨tested, hway, ⟨hyes, heq⟩ | ⟨hno, heq⟩⟩ := r.evaluate_cases e p
  · rw [heq, hyes] at h
    cases h
  · refine ⟨tested.2.exchange, ?_, by rw [heq]; rfl⟩
    rcases hway with ⟨_, rfl⟩ | ⟨_, rfl⟩
    · exact purges_of_testOnce hno
    · exact purges_of_walk (r.walk_testAll e p) hno

/-! ## The rules of a chain -/

namespace Engine

theorem touches_after (e : Engine) {rules all : List Rule} (hsub : rules ⊆ all) (p : Progress) :
    Touches all p.exchange (e.after p rules).exchange := by
  unfold after
  refine List.foldlRecOn (motive := fun q : Progress => Touches all p.exchange q.exchange)
    _ _ .refl ?_
  intro q hq r hr
  have hrule := touches_evaluate r e.exceptions q
  exact hq.trans (hrule.mono (by simpa using hsub hr))

/-- What is left when the rule at a position does not match: what the rules before it have touched,
and no memory of the values that matched. -/
theorem touches_of_not_matchesAt (e : Engine) {p : Progress} {rules : List Rule} {k : Nat}
    (hk : k < rules.length) (hm : ¬ e.MatchesAt p rules k) :
    Touches (rules.take k) p.exchange (e.after p (rules.take (k + 1))).exchange ∧
      (e.after p (rules.take (k + 1))).exchange.tx.matched.Forgotten := by
  have hr : rules[k]? = some rules[k] := List.getElem?_eq_getElem hk
  have hno : (rules[k].evaluate e.exceptions (e.after p (rules.take k))).1 = false := by
    rw [← Bool.not_eq_true]
    exact fun hyes => hm ⟨rules[k], hr, hyes⟩
  obtain ⟨y, hread, hleft⟩ := purges_of_not_matched hno
  rw [e.after_take_succ p hr, hleft]
  have earlier := e.touches_after (List.Subset.refl (rules.take k)) p
  exact ⟨.note (.read earlier hread) _, Matches.forgotten_clear _⟩

/-- How a chain can fail to match: the engine is switched off, or some rule breaks the chain, because
it matches nothing or because it is the last one and expects a successor. -/
inductive FailsBy (e : Engine) (x : Exchange) (c : Chain) (y : Exchange) : Prop where
  | off (h : e.mode = .off) (hy : y = x)
  | unmatched (k : Nat) (hk : e.BreaksAt x.tx.decision.overrides (.start x c) c.links k)
      (hm : ¬ e.MatchesAt (.start x c) c.links k) (htouch : Touches (c.links.take k) x y)
      (hforgotten : y.tx.matched.Forgotten)
  | cut (hm : ∀ k < c.links.length, e.MatchesAt (.start x c) c.links k)
      (htouch : Touches c.links x y)

/--
**A chain that does not match decides nothing.**

What rules have decided, the request, the environment and the bindings of collections are what they
were. Collections can differ by what the rules that matched before the chain broke have captured and
set, and by what reads have removed; and if a rule broke the chain by matching nothing, no value that
matched is remembered.
-/
theorem failed_chain_decides_nothing (e : Engine) (x : Exchange) (c : Chain)
    (h : (e.evaluate x c).holds = false) :
    Undecided x (e.evaluate x c).exchange ∧ FailsBy e x c (e.evaluate x c).exchange := by
  have hfails : FailsBy e x c (e.evaluate x c).exchange := by
    have hcomes := e.comesTo_evaluate x c
    generalize e.evaluate x c = o at hcomes h ⊢
    cases hcomes with
    | off hmode => exact .off hmode rfl
    | removed _ _ => cases h
    | closed _ _ _ _ _ => cases h
    | broken _ _ k hk =>
        by_cases hm : e.MatchesAt (.start x c) c.links k
        · -- the chain broke although the rule matched: it is the last one
          have hlast : c.links.length = k + 1 := by
            rcases hk.broken with hno | ⟨hlen, _⟩
            · exact absurd hm hno
            · exact hlen
          refine .cut ?_ (e.touches_after (List.take_subset _ _) (.start x c))
          intro i hi
          rcases Nat.lt_or_ge i k with hlt | hge
          · exact (hk.reached i hlt).1
          · obtain rfl : i = k := by omega
            exact hm
        · obtain ⟨htouch, hforgotten⟩ := e.touches_of_not_matchesAt hk.inside hm
          exact .unmatched k hk hm htouch hforgotten
  refine ⟨?_, hfails⟩
  cases hfails with
  | off _ hy =>
      rw [hy]
      exact .refl x
  | unmatched k _ _ htouch _ => exact htouch.undecided
  | cut _ htouch => exact htouch.undecided

/-- A head that sets a variable, followed by a rule that never matches. -/
def forsakenChain : Chain where
  head :=
    { plainRule 1 true with actions := [.setVar .tx ⟨"seen", [.literal "seen".toList]⟩ .one] }
  successors := [{ plainRule 2 false with test := ⟨.never "", false⟩ }]

/-- What the head has set stays, although its chain does not match. -/
theorem failed_chain_decides_nothing_forsakenChain :
    (Engine.evaluate ⟨.on, .none⟩ cutExchange forsakenChain).holds = false ∧
    (Engine.evaluate ⟨.on, .none⟩ cutExchange forsakenChain).exchange.tx.own.contains "seen" = true ∧
    Undecided cutExchange (Engine.evaluate ⟨.on, .none⟩ cutExchange forsakenChain).exchange := by
  have hno : (Engine.evaluate ⟨.on, .none⟩ cutExchange forsakenChain).holds = false := by decide
  have hnothing := failed_chain_decides_nothing ⟨.on, .none⟩ cutExchange forsakenChain hno
  exact ⟨hno, by decide, hnothing.1⟩

end Engine

end Rampart
