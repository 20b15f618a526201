import Mathlib.Data.List.Destutter
import Mathlib.Data.List.DropRight
import Mathlib.Data.List.Infix
import Rampart.Proofs.Parts
import Rampart.Transform.Pipeline

/-!
# The stages of a pipeline

A value passes one stage after each step of its pipeline. A rule tests it at the last stage, or at every
stage that changed it. The second way goes through the same stages: listed from the untouched value to the
last step, they are what it tests once those are left out that show the text of the stage before. So it
misses no text on the way, tests none twice in a row, and ends where the first way ends. The reference beside
a text names exactly the steps that lead to it.
-/

namespace List

variable {α : Type*} [DecidableEq α] {x : α} {l : List α}

/-- A list without its repetitions has the same members. -/
theorem mem_destutter_ne (h : x ∈ l) : x ∈ l.destutter (· ≠ ·) := by
  have hbehind (a : α) (l : List α) (h : x ∈ a :: l) : x ∈ l.destutter' (· ≠ ·) a := by
    induction l generalizing a with
    | nil => exact h
    | cons b l ih =>
        by_cases hab : a ≠ b
        · rw [destutter'_cons_pos l hab]
          rcases mem_cons.1 h with rfl | h
          · exact mem_cons_self ..
          · exact mem_cons_of_mem a (ih b h)
        · rw [destutter'_cons_neg l hab]
          rw [not_not.1 hab] at h ⊢
          exact ih b ((mem_cons.1 h).elim (fun hx => hx ▸ mem_cons_self ..) id)
  cases l with
  | nil => cases h
  | cons a l => exact hbehind a l h

/-- A list without its repetitions has the same last member. -/
theorem getLast?_destutter_ne (l : List α) : (l.destutter (· ≠ ·)).getLast? = l.getLast? := by
  have hbehind (a : α) (l : List α) : (l.destutter' (· ≠ ·) a).getLast? = (a :: l).getLast? := by
    induction l generalizing a with
    | nil => rfl
    | cons b l ih =>
        by_cases hab : a ≠ b
        · rw [destutter'_cons_pos l hab, getLast?_cons, ih, getLast?_cons_cons, getLast?_cons]
          rfl
        · rw [destutter'_cons_neg l hab, ih, not_not.1 hab, getLast?_cons_cons]
  cases l with
  | nil => rfl
  | cons a l => exact hbehind a l

/-- The longest start of a list is the list. -/
theorem getLast?_inits {β : Type*} (l : List β) : l.inits.getLast? = some l := by
  induction l with
  | nil => rfl
  | cons b l ih => rw [inits_cons, getLast?_cons, getLast?_map, ih, Option.map_some, Option.getD_some]

end List

namespace Rampart

/-! ## References -/

namespace Transform

theorem name_injective : Function.Injective name := by
  intro t u h
  cases t <;> cases u <;> first | rfl | exact absurd h (by decide)

end Transform

namespace Pipeline

variable {s : String}

/-- A step as it is written in a reference. -/
def mention (t : Transform) : List Char := 't' :: ':' :: t.name.toList

theorem notMem_mention (t : Transform) : ',' ∉ mention t := by
  cases t <;> decide

theorem mention_injective : Function.Injective mention := by
  intro t u h
  exact Transform.name_injective (String.toList_inj.1 (List.cons.inj (List.cons.inj h).2).2)

theorem toList_reference (ts : List Transform) :
    (reference ts).toList = [','].intercalate (ts.map mention) := by
  have hmention (t : Transform) : ("t:" ++ t.name).toList = mention t := String.toList_append
  unfold reference
  rw [String.toList_intercalate, List.map_map]
  exact congrArg _ (List.map_congr_left fun t _ => hmention t)

/-- **A reference names its steps**: no other steps have it. -/
theorem reference_injective : Function.Injective reference := by
  intro ts us h
  have htext := congrArg String.toList h
  rw [toList_reference, toList_reference] at htext
  have hsplit (ts : List Transform) (hne : ts ≠ []) :
      Text.splitAt ',' ([','].intercalate (ts.map mention)) = ts.map mention :=
    Text.splitAt_intercalate (mt List.map_eq_nil_iff.1 hne) (List.forall_mem_map.2 fun t _ => notMem_mention t)
  -- only the reference of no steps has a blank part
  have hblank (ts : List Transform) (hnil : [','].intercalate (ts.map mention) = []) : ts = [] := by
    by_contra hne
    have hparts := hsplit ts hne
    rw [hnil] at hparts
    obtain ⟨t, ts, rfl⟩ := List.exists_cons_of_ne_nil hne
    exact nomatch (List.cons.inj hparts).1
  by_cases hts : ts = []
  · subst hts
    exact (hblank us htext.symm).symm
  · by_cases hus : us = []
    · subst hus
      exact hblank ts htext
    · have hmaps := congrArg (Text.splitAt ',') htext
      rw [hsplit ts hts, hsplit us hus] at hmaps
      exact List.map_injective_iff.2 mention_injective hmaps

/-! ## Stages -/

/-- The text after some steps, with the reference to them. -/
def stage (s : String) (done : List Transform) : String × String := (applyAll done s, reference done)

/-- The stages show different texts. -/
def Differ (a b : String × String) : Prop := a.1 ≠ b.1

instance : DecidableRel Differ := fun a b => inferInstanceAs (Decidable (a.1 ≠ b.1))

theorem applyAll_concat (ts : List Transform) (t : Transform) (s : String) :
    applyAll (ts ++ [t]) s = t.apply (applyAll ts s) := List.foldl_concat ..

/-- The stages behind a stage, one for each step to come. -/
def later (s : String) (done : List Transform) : List Transform → List (String × String)
  | [] => []
  | t :: ts => stage s (done ++ [t]) :: later s (done ++ [t]) ts

/-- There is a stage for each start of the steps. -/
theorem cons_later (s : String) (done ts : List Transform) :
    stage s done :: later s done ts = ts.inits.map fun start => stage s (done ++ start) := by
  induction ts generalizing done with
  | nil => rw [later, List.inits, List.map_singleton, List.append_nil]
  | cons t ts ih =>
      rw [later, ih, List.inits_cons, List.map_cons, List.map_map, List.append_nil]
      simp only [Function.comp_def, List.append_assoc, List.singleton_append]

/-- What is still to be tested behind a stage, or behind an earlier one with the same text. -/
theorem cons_changes {done : List Transform} {before : String × String}
    (h : before.1 = applyAll done s) (ts : List Transform) :
    before :: changes done (applyAll done s) ts = (later s done ts).destutter' Differ before := by
  induction ts generalizing done before with
  | nil => rfl
  | cons t ts ih =>
      rw [later, changes, ← applyAll_concat]
      split
      · rename_i hsame
        have hstays : ¬ Differ before (stage s (done ++ [t])) := fun hmoves => hmoves (h.trans hsame.symm)
        rw [List.destutter'_cons_neg _ hstays]
        exact ih (h.trans hsame.symm)
      · rename_i hmoved
        have hmoves : Differ before (stage s (done ++ [t])) := fun hsame => hmoved (hsame.symm.trans h)
        rw [List.destutter'_cons_pos _ hmoves, ← ih rfl]
        rfl

/-- **The texts that are tested on the way** are those of all stages, without the repetitions. -/
theorem run_multi (p : Pipeline) (s : String) :
    p.run s true = (p.steps.inits.map (stage s)).destutter Differ := by
  have hstages : p.steps.inits.map (stage s) = stage s [] :: later s [] p.steps :=
    (cons_later s [] p.steps).symm
  rw [hstages, List.destutter_cons', ← cons_changes rfl]
  rfl

/-- The texts alone. -/
theorem texts_run_multi (p : Pipeline) (s : String) :
    (p.run s true).map (·.1) = (p.steps.inits.map fun done => applyAll done s).destutter (· ≠ ·) := by
  have htexts (tests : List (String × String)) :
      (tests.destutter Differ).map (·.1) = (tests.map (·.1)).destutter (· ≠ ·) :=
    List.map_destutter fun _ _ _ _ => Iff.rfl
  rw [run_multi, htexts, List.map_map]
  rfl

/-- **What is pushed behind the last `none` is what is left.** -/
theorem steps_ofList (ts : List Transform) : (ofList ts).steps = ts.rtakeWhile (· != .none) := by
  induction ts using List.reverseRecOn with
  | nil => rfl
  | append_singleton ts t ih =>
      have hpush : ofList (ts ++ [t]) = (ofList ts).push t := List.foldl_concat ..
      rw [hpush, push, List.rtakeWhile_concat, ← ih]
      by_cases ht : t = .none
      · simp [ht, empty]
      · simp [ht]

/-- The tests of a text on its way through some steps. -/
structure Retraces (steps : List Transform) (s : String) (tests : List (String × String)) : Prop where
  /-- The untouched text comes first, with no step beside it. -/
  starts : tests.head? = some (s, "")
  /-- Each text differs from the one before it. -/
  moves : tests.IsChain Differ
  /-- Each text is what the steps named beside it make of the first, and these are the first steps. -/
  named : ∀ test ∈ tests, ∃ done, done <+: steps ∧ test.1 = applyAll done s ∧
    ∀ ts, reference ts = test.2 ↔ ts = done
  /-- No text on the way is left out. -/
  complete : ∀ done, done <+: steps → applyAll done s ∈ tests.map (·.1)
  /-- The last text is the one after all steps. -/
  ends : (tests.map (·.1)).getLast? = some (applyAll steps s)

/--
**Testing on the way extends testing at the end.**

Whatever is pushed, the pipeline consists of the steps behind the last `none`. Tested at the end, a text is
tested once, after all these steps and with a reference to all of them. Tested on the way, it is tested at
the stages that these steps lead through, from the untouched text to the same last one.
-/
theorem run_retraces (ts : List Transform) (s : String) :
    (ofList ts).steps = ts.rtakeWhile (· != .none) ∧
      (ofList ts).run s false = [(applyAll (ofList ts).steps s, reference (ofList ts).steps)] ∧
        Retraces (ofList ts).steps s ((ofList ts).run s true) := by
  refine ⟨steps_ofList ts, rfl, rfl, ?_, ?_, ?_, ?_⟩
  · rw [run_multi]
    exact List.isChain_destutter _ _
  · intro test htest
    rw [run_multi] at htest
    obtain ⟨done, hdone, rfl⟩ := List.mem_map.1 ((List.destutter_sublist _ _).mem htest)
    exact ⟨done, (List.mem_inits _ _).1 hdone, rfl, fun ts => reference_injective.eq_iff⟩
  · intro done hdone
    have hstage := List.mem_map_of_mem (f := fun done => applyAll done s) ((List.mem_inits _ _).2 hdone)
    rw [texts_run_multi]
    exact List.mem_destutter_ne hstage
  · rw [texts_run_multi, List.getLast?_destutter_ne, List.getLast?_map, List.getLast?_inits,
      Option.map_some]

end Pipeline

end Rampart
