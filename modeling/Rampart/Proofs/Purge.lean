import Rampart.Engine

/-!
# What reads leave behind

Nothing removes an entry at the moment it expires; a read does, when it meets one. So a read leaves
its collection without some of the keys that hold an expired entry, and otherwise as it was.

Resolving variables, expanding texts and putting tests to values read collections and do nothing
else. What they leave of an exchange is therefore told by the purges on the way, `Purges x y`, and
whatever purges keep is kept by all of them.
-/

namespace Rampart

/-! ## Collections -/

namespace Collection

/-- What a read may leave of a collection: it purges the keys that it selects. -/
def Leaves (now : Instant) (c c' : Collection) : Prop := ∃ selects, c' = c.purge now selects

variable {c : Collection} {now : Instant}

theorem keep_eq_self {p : Bucket → Bool} (h : ∀ b ∈ c.buckets, p b = true) : c.keep p = c := by
  cases c with
  | mk name buckets distinct =>
      simp only [keep, Collection.mk.injEq, true_and]
      exact List.filter_eq_self.2 h

theorem Leaves.refl (now : Instant) (c : Collection) : c.Leaves now c := by
  refine ⟨fun _ => false, (keep_eq_self ?_).symm⟩
  intro b _
  rfl

theorem leaves_readMany (c : Collection) (now : Instant) (key : String) (e : Exclusions) :
    c.Leaves now (c.readMany now key e).2 := by
  unfold readMany
  split
  · exact ⟨fun k => !e.omits k, rfl⟩
  · split
    · exact .refl now c
    · exact ⟨(Text.sameText · key), rfl⟩

end Collection

namespace Compartment

theorem leaves_readMany (part : Compartment) (c : Collection) (now : Instant) (key : String)
    (e : Exclusions) : c.Leaves now (part.readMany c now key e).2 := by
  unfold readMany
  split
  · exact c.leaves_readMany now key e
  · split
    · exact ⟨part.covers, rfl⟩
    · split
      · exact .refl now c
      · exact c.leaves_readMany now _ _

theorem leaves_readMatching (part : Compartment) (c : Collection) (now : Instant) (p : Pattern)
    (e : Exclusions) : c.Leaves now (part.readMatching c now p e).2 := by
  unfold readMatching
  split
  · exact ⟨fun k => p.isMatch k && !e.omits k, rfl⟩
  · exact ⟨part.covers, rfl⟩

end Compartment

theorem Selector.leaves_ofCollection (sel : Selector) (now : Instant) (e : Exclusions)
    (part : Compartment) (c : Collection) : c.Leaves now (sel.ofCollection now e part c).2 := by
  cases sel with
  | all => exact part.leaves_readMany c now "" e
  | key k => exact part.leaves_readMany c now k e
  | pattern p => exact part.leaves_readMatching c now p e

/-! ## Exchanges -/

/-- What reads leave of an exchange: keys with an expired entry may be gone. -/
inductive Purges : Exchange → Exchange → Prop where
  | refl (x : Exchange) : Purges x x
  | purge {x y : Exchange} (h : Purges x y) (home : Home) (selects : String → Bool) :
      Purges x (y.put home ((y.content home).purge y.now selects))

theorem Purges.trans {x y z : Exchange} (h₁ : Purges x y) (h₂ : Purges y z) : Purges x z := by
  induction h₂ with
  | refl => exact h₁
  | purge _ home selects ih => exact .purge ih home selects

theorem purges_reading {α : Type} (x : Exchange) (v : View)
    {f : Compartment → Collection → α × Collection}
    (h : ∀ c : Collection, c.Leaves x.now (f v.compartment c).2) :
    Purges x (x.reading v f).2 := by
  obtain ⟨selects, hleft⟩ := h (x.content v.home)
  have hread : (x.reading v f).2 = x.put v.home ((x.content v.home).purge x.now selects) := by
    unfold Exchange.reading
    dsimp only
    rw [hleft]
  rw [hread]
  exact .purge (.refl x) v.home selects

/-- **A variable is resolved by reads alone.** -/
theorem purges_variable (r : RuleInfo) (v : Variable) (x : Exchange) :
    Purges x (v.evaluate r x).2 := by
  -- on the marks; only collections are kept where a read can change them
  induction v generalizing x with
  | collection name sel omitted =>
      rw [Variable.evaluate]
      split
      · exact .refl x
      · exact purges_reading x _ fun c => sel.leaves_ofCollection x.now omitted _ c
  | count base ih => exact ih x
  | exclusion base => exact .refl x
  | set source sel omitted => exact .refl x
  | names source sel omitted => exact .refl x
  | single source => exact .refl x
  | env key omitted => exact .refl x
  | time field => exact .refl x
  | rule key => exact .refl x

theorem purges_expandSegments (r : RuleInfo) (segments : List Segment) (x : Exchange) :
    Purges x (MacroText.expandSegments r segments x).2 := by
  induction segments generalizing x with
  | nil => exact .refl x
  | cons s rest ih =>
      cases s with
      | literal cs => exact ih x
      | reference v =>
          have found := purges_variable r v x
          exact found.trans (ih _)

theorem purges_expand (m : MacroText) (r : RuleInfo) (x : Exchange) :
    Purges x (m.expand r x).2 :=
  purges_expandSegments r m.segments x

theorem purges_test (t : Test) (r : RuleInfo) (capture : Bool) (input : String) (x : Exchange) :
    Purges x (t.evaluate r capture input x).2 := by
  unfold Test.evaluate
  dsimp only
  cases t.operator with
  | text test param => exact purges_expand param r x
  | number test param literal =>
      cases literal with
      | none => exact purges_expand param r x
      | some n => exact .refl x
  | pattern p => exact .refl x
  | phrases source param phrases => exact .refl x
  | address source param networks => exact .refl x
  | digits check p => exact .refl x
  | always param => exact .refl x
  | never param => exact .refl x

theorem purges_expandMessage (r : Rule) (x : Exchange) : Purges x (r.expandMessage x).2 := by
  unfold Rule.expandMessage
  split
  · exact purges_expand _ r.info x
  · exact .refl x

theorem purges_forRule (e : Exceptions) (r : Rule) (x : Exchange) :
    Purges x (e.forRule r x).2 := by
  unfold Exceptions.forRule
  split
  · exact .refl x
  · exact purges_expandMessage r x

end Rampart
