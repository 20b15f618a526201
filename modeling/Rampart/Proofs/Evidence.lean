import Rampart.Proofs.Candidates
import Rampart.Proofs.Offsets

/-!
# Evidence

The verdict on a value shows where it matched, if the operator can tell, and the texts that were captured.
Each operator finds the place in its own way: in the value in small letters, by an expanded parameter, as a
difference of numbers of bytes, as the match of a pattern. Whatever it is, what is shown is a slice of the
value, and each text that is captured is cut out of it.

Of the matches of patterns only that is used which every matcher has.
-/

namespace Rampart

open Text

/-- What a verdict can show of a value. -/
inductive Verdict.Evident (input : List Char) : Verdict → Prop
  /-- Nothing but whether the value matched. -/
  | bare (matched : Bool) : Evident input ⟨matched, none, []⟩
  /-- A slice of the value. -/
  | placed {offset length : Nat} {part : List Char} (h : slice? offset length input = some part) :
      Evident input (.located (offset, length) [])
  /-- A slice of the value as the first one of some captured texts, all of which are slices. -/
  | captured {offset length : Nat} {first : String} {more : List String}
      (h : slice? offset length input = some first.toList)
      (hmore : ∀ s ∈ more, ∃ offset length, slice? offset length input = some s.toList)
      (hlimit : more.length < Operator.captureLimit) :
      Evident input (.located (offset, length) (first :: more))

namespace Verdict.Evident

variable {input : List Char} {v : Verdict} {offset length : Nat}

theorem of_bool (b : Bool) : Evident input (.ofBool b) := by
  cases b
  · exact .bare false
  · exact .bare true

/-- One text may be captured. -/
theorem of_slice {s : String} (h : slice? offset length input = some s.toList) (capture : Bool) :
    Evident input (.located (offset, length) (if capture then [s] else [])) := by
  cases capture
  · exact .placed h
  · exact .captured h (fun _ hs => nomatch hs) (by decide)

/-- A verdict that shows a place is on a value that matched, and the place is a slice of it. -/
theorem slice_of_span (h : v.Evident input) (hspan : v.span = some (offset, length)) :
    v.matched = true ∧ ∃ part, slice? offset length input = some part := by
  cases h with
  | bare => cases hspan
  | placed h =>
      cases hspan
      exact ⟨rfl, _, h⟩
  | captured h =>
      cases hspan
      exact ⟨rfl, _, h⟩

/-- Captured texts are few, and the first of them is the slice at the place that is shown. -/
theorem first_of_captures (h : v.Evident input) (hcaptures : v.captures ≠ []) :
    v.captures.length ≤ Operator.captureLimit ∧
      ∃ offset length first, v.span = some (offset, length) ∧ v.captures.head? = some first ∧
        slice? offset length input = some first.toList := by
  cases h with
  | bare => exact absurd rfl hcaptures
  | placed => exact absurd rfl hcaptures
  | captured h _ hlimit => exact ⟨hlimit, _, _, _, rfl, rfl, h⟩

theorem slice_of_capture (h : v.Evident input) {s : String} (hs : s ∈ v.captures) :
    ∃ offset length, slice? offset length input = some s.toList := by
  cases h with
  | bare => cases hs
  | placed => cases hs
  | captured h hmore =>
      rcases List.mem_cons.1 hs with rfl | hs
      · exact ⟨_, _, h⟩
      · exact hmore s hs

end Verdict.Evident

/-- **Where texts compare, a slice of the value is shown**: the value, or the parameter where it occurs in the
value. -/
theorem TextTest.slice?_of_span? {t : TextTest} {param input : List Char} {span : Nat × Nat}
    (h : t.span? param input = some span) : ∃ part, slice? span.1 span.2 input = some part := by
  cases t with
  | equals =>
      obtain ⟨-, hspan⟩ := Option.ite_none_right_eq_some.1 h
      cases hspan
      exact ⟨input, slice?_whole input⟩
  | contains =>
      obtain ⟨⟨before, after⟩, hcut, rfl⟩ := Option.map_eq_some_iff.1 h
      exact ⟨param, slice?_eq_some_iff.2
        ⟨before, after, (List.append_assoc .. ▸ append_of_cut? hcut).symm, rfl, rfl⟩⟩
  | beginsWith =>
      obtain ⟨hstart, hspan⟩ := Option.ite_none_right_eq_some.1 h
      obtain ⟨after, rfl⟩ := List.isPrefixOf_iff_prefix.1 hstart
      cases hspan
      exact ⟨param, slice?_append [] param after⟩
  | endsWith =>
      obtain ⟨hend, hspan⟩ := Option.ite_none_right_eq_some.1 h
      obtain ⟨before, rfl⟩ := List.isSuffixOf_iff_suffix.1 hend
      cases hspan
      refine ⟨param, slice?_eq_some_iff.2 ⟨before, [], by rw [List.append_nil], ?_, rfl⟩⟩
      rw [byteLength_append, Nat.add_sub_cancel]
  | within =>
      rw [TextTest.span?] at h
      obtain ⟨-, h⟩ := Option.ite_none_left_eq_some.1 h
      obtain ⟨-, -, rfl⟩ := Option.map_eq_some_iff.1 h
      exact ⟨input, slice?_whole input⟩

namespace Operator

open Verdict (Evident)

theorem evident_testMatch (m : Matcher) (capture : Bool) (input : String) :
    (testMatch m.find? m.captures? capture input).Evident input.toList := by
  unfold testMatch
  cases capture with
  | false =>
      rw [if_neg Bool.false_ne_true]
      cases hfind : m.find? input with
      | none => exact .bare false
      | some s => exact .placed (Matcher.in_of_findFrom? (.refl _) hfind).slice?
  | true =>
      rw [if_pos rfl]
      cases hcaptures : m.captures? input with
      | none => exact .bare false
      | some found =>
          obtain ⟨whole, groups⟩ := found
          obtain ⟨hwhole, hgroups, more, rfl⟩ := m.captures?_spec hcaptures
          refine .captured hwhole.slice? (fun s hs => ?_) ?_
          · obtain ⟨g, hg, rfl⟩ := List.mem_map.1 hs
            cases g with
            | none => exact ⟨0, 0, slice?_append [] [] input.toList⟩
            | some g =>
                exact ⟨_, _, (hgroups g (List.mem_cons_of_mem _ (List.mem_of_mem_take hg))).slice?⟩
          · rw [List.length_map, List.length_take]
            exact Nat.lt_succ_of_le (Nat.min_le_left ..)

theorem evident_testPhrases (phrases : List String) (capture : Bool) (input : String) :
    (testPhrases phrases capture input).Evident input.toList := by
  unfold testPhrases
  cases hfind : findPhrase (fold input) phrases with
  | none => exact .bare false
  | some found =>
      obtain ⟨after, hfold⟩ := append_of_findPhrase hfind
      exact .of_slice (by rw [String.toList_ofList]; exact slice?_of_fold hfold) capture

theorem evident_testPassing (check : DigitCheck) (m : Matcher) (capture : Bool) (input : String) :
    (testPassing check.passes (m.findFrom? input.toList) capture input).Evident input.toList := by
  unfold testPassing
  cases hscan : firstPassing (m.findFrom? input.toList) check.passes (input.toList.length + 1)
      (.start input.toList) with
  | none => exact .bare false
  | some s =>
      have hfound := found_of_firstPassing check.passes_empty hscan
      exact .of_slice (Matcher.in_of_matchAt? hfound.reached hfound.matched).slice? capture

theorem evident_testAddress (networks : List Network) (input : String) :
    (testAddress networks input).Evident input.toList := by
  unfold testAddress
  split
  · split
    · exact .placed (slice?_whole _)
    · exact .bare false
  · exact .bare false

/-- **Every operator shows slices of the value.** -/
theorem evident_evaluateBy (o : Operator) (m : Pattern → Matcher) (r : RuleInfo) (capture : Bool)
    (input : String) (x : Exchange) : (o.evaluateBy m r capture input x).1.Evident input.toList := by
  cases o with
  | pattern p => exact evident_testMatch (m p) capture input
  | phrases source param ps => exact evident_testPhrases ps capture input
  | text t param =>
      simp only [evaluateBy, evaluate]
      cases hspan : t.span? (param.expand r x).1.toList input.toList with
      | none => exact .bare false
      | some span =>
          obtain ⟨part, hpart⟩ := TextTest.slice?_of_span? hspan
          exact .placed hpart
  | number t param literal =>
      cases literal with
      | some literal =>
          simp only [evaluateBy, evaluate]
          exact .of_bool _
      | none =>
          simp only [evaluateBy, evaluate]
          exact .of_bool _
  | address source param networks =>
      simp only [evaluateBy, evaluate]
      exact evident_testAddress networks input
  | digits check p => exact evident_testPassing check (m p) capture input
  | always param => exact .bare true
  | never param => exact .bare false

end Operator

namespace Test

theorem evident_evaluateBy (t : Test) (m : Pattern → Matcher) (r : RuleInfo) (capture : Bool)
    (input : String) (x : Exchange) : (t.evaluateBy m r capture input x).1.Evident input.toList := by
  simp only [evaluateBy]
  split
  · exact .of_bool _
  · exact t.operator.evident_evaluateBy m r capture input x

/-- A negated test says no more than whether the value matched. -/
theorem evaluateBy_of_negated {t : Test} (h : t.negated = true) (m : Pattern → Matcher) (r : RuleInfo)
    (capture : Bool) (input : String) (x : Exchange) :
    ∃ b, (t.evaluateBy m r capture input x).1 = .ofBool b := by
  simp only [evaluateBy]
  exact ⟨_, if_pos h⟩

/--
**Evidence is a slice of the value.**

For every test of a value under a rule, whatever it was read from: a place that is shown is that of a match,
and it begins and ends between characters of the value; at most ten texts are captured, all of them slices of
the value, and the first one is the slice at the place that is shown; and a negated test shows neither. Each
cut that the test makes in the value on the way is made between two characters of it, so that the test by
offsets comes to this verdict too. This holds with any matchers for the patterns, and the tests are evaluated
with the patterns themselves.
-/
theorem evidence_is_sliced :
    (∀ t : Test, t.evaluateBy Pattern.matcher = t.evaluate) ∧
    ∀ (m : Pattern → Matcher) (t : Test) (r : RuleInfo) (capture : Bool) (input : String) (x : Exchange),
      let v := (t.evaluateBy m r capture input x).1
      (∀ offset length, v.span = some (offset, length) →
        v.matched = true ∧ offset + length ≤ size input ∧
          IsBoundary offset input.toList ∧ IsBoundary (offset + length) input.toList) ∧
      (v.captures ≠ [] →
        v.captures.length ≤ 10 ∧
          ∃ offset length first, v.span = some (offset, length) ∧ v.captures.head? = some first ∧
            slice? offset length input.toList = some first.toList) ∧
      (∀ s ∈ v.captures, ∃ offset length, slice? offset length input.toList = some s.toList) ∧
      (t.negated = true → v.span = none ∧ v.captures = []) ∧
      t.checkedEvaluate? m r capture input x = some (t.evaluateBy m r capture input x) := by
  refine ⟨evaluateBy_matcher, ?_⟩
  intro m t r capture input x v
  have hevident : v.Evident input.toList := t.evident_evaluateBy m r capture input x
  refine ⟨fun offset length hspan => ?_, hevident.first_of_captures, fun s => hevident.slice_of_capture,
    fun hnegated => ?_, t.checkedEvaluate?_eq m r capture input x⟩
  · obtain ⟨hmatched, part, hpart⟩ := hevident.slice_of_span hspan
    exact ⟨hmatched, boundaries_of_slice? hpart⟩
  · obtain ⟨b, hb⟩ := evaluateBy_of_negated hnegated m r capture input x
    rw [show v = .ofBool b from hb]
    cases b <;> exact ⟨rfl, rfl⟩

/-- A test for a phrase, negated or not. -/
def forPhrase (negated : Bool) : Test := ⟨.phrases .inline "union" ["union"], negated⟩

/-- The exchange of a request of which nothing is known yet. -/
def blankExchange : Exchange where
  tx := .new "blank" 0 .empty
  shelf := .empty
  now := 0

/-- Behind a character of two bytes a phrase is shown as the value spells it, and where it is missing, the
negated test shows nothing. -/
theorem evidence_is_sliced_accented :
    ((forPhrase false).evaluate {} true "éUNION" blankExchange).1 = .located (2, 5) ["UNION"] ∧
      2 + 5 ≤ size "éUNION" ∧ IsBoundary 2 "éUNION".toList ∧ IsBoundary (2 + 5) "éUNION".toList ∧
      slice? 2 5 "éUNION".toList = some "UNION".toList ∧
      ((forPhrase true).evaluate {} true "é" blankExchange).1.matched = true ∧
      ((forPhrase true).evaluate {} true "é" blankExchange).1.span = none := by
  have hverdict : ((forPhrase false).evaluate {} true "éUNION" blankExchange).1 =
      .located (2, 5) ["UNION"] :=
    show Operator.testPhrases ["union"] true "éUNION" = _ by decide +kernel
  have hopposite : ((forPhrase true).evaluate {} true "é" blankExchange).1 = .yes :=
    show negate (Operator.testPhrases ["union"] true "é") = _ by decide +kernel
  obtain ⟨hplace, hcaptures, -⟩ :=
    evidence_is_sliced.2 Pattern.matcher (forPhrase false) {} true "éUNION" blankExchange
  obtain ⟨-, -, -, hnegated, -⟩ :=
    evidence_is_sliced.2 Pattern.matcher (forPhrase true) {} true "é" blankExchange
  rw [evaluateBy_matcher] at hplace hcaptures hnegated
  rw [hverdict] at hplace hcaptures
  obtain ⟨-, hsize, hstart, hend⟩ := hplace 2 5 rfl
  obtain ⟨-, offset, length, first, hspan, hfirst, hslice⟩ := hcaptures (List.cons_ne_nil _ _)
  cases hspan
  cases hfirst
  exact ⟨hverdict, hsize, hstart, hend, hslice, congrArg Verdict.matched hopposite, (hnegated rfl).1⟩

end Test

end Rampart
