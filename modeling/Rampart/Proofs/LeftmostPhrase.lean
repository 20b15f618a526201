import Rampart.Operator.Reference
import Rampart.Proofs.Offsets

/-!
# The leftmost phrase

A test for phrases searches each of them for itself and keeps the find with the least offset, the first one
where two start together. The first occurrence of a phrase has no occurrence of it in front, so the least of
the first occurrences is the least of all, and a phrase that stands there has its own first occurrence
there. The search is made in a copy with small letters, whose characters take as many bytes as those of the
text, so offsets and slices are those of the text itself.
-/

namespace Rampart

namespace Text

/-- The phrase stands in the text at an offset, in any case. -/
def standsAt (phrase input : String) (offset : Nat) : Bool :=
  (slice? offset (size phrase) input.toList).any fun here => sameText (String.ofList here) phrase

/-- A phrase stands in a text where its small letters stand among those of the text. -/
theorem standsAt_iff {phrase input : String} {offset : Nat} :
    standsAt phrase input offset = true ↔
      ∃ before after, fold input = before ++ (fold phrase ++ after) ∧ byteLength before = offset := by
  unfold standsAt
  rw [Option.any_eq_true]
  constructor
  · rintro ⟨here, hslice, hsame⟩
    obtain ⟨before, after, hinput, hoffset, -⟩ := slice?_eq_some_iff.1 hslice
    rw [sameText_iff, fold, String.toList_ofList] at hsame
    refine ⟨before.map Char.toLower, after.map Char.toLower, ?_, ?_⟩
    · rw [fold, hinput, List.map_append, List.map_append, hsame]
    · rw [byteLength_map_toLower, hoffset]
  · rintro ⟨before, after, hfold, rfl⟩
    obtain ⟨front, rest, hfront, rfl, hrest⟩ := List.map_eq_append_iff.1 hfold
    obtain ⟨here, behind, rfl, hhere, rfl⟩ := List.map_eq_append_iff.1 hrest
    have hlength : byteLength here = size phrase := by
      rw [← byteLength_map_toLower, hhere, fold, byteLength_map_toLower, size]
    refine ⟨here, ?_, ?_⟩
    · rw [hfront, byteLength_map_toLower, ← hlength, slice?_append]
    · rw [sameText_iff, fold, String.toList_ofList, hhere]

end Text

open Text

/-- Among the phrases in the order of their list, this is the first that stands at the least offset. -/
structure LeftmostPhrase (phrases : List String) (input : String) (offset : Nat) (phrase : String) :
    Prop where
  stands : standsAt phrase input offset = true
  least : ∀ q ∈ phrases, ∀ n, standsAt q input n = true → offset ≤ n
  first : ∃ earlier later, phrases = earlier ++ phrase :: later ∧
    ∀ q ∈ earlier, standsAt q input offset = false

namespace Operator

/-! ## The best of the finds -/

/-- The first occurrence of a phrase in a text in small letters: what stands before it, and the phrase. -/
def occurrence? (text : List Char) (phrase : String) : Option (List Char × List Char) :=
  (cut? phrase.toList text).map fun r => (r.1, phrase.toList)

/-- What is kept of the finds of some phrases: nothing where there was none, or the first of those with the
least offset. -/
inductive Best (text : List Char) (phrases : List String) : Option (List Char × List Char) → Prop
  | none (h : ∀ q ∈ phrases, occurrence? text q = none) : Best text phrases none
  | some (earlier later : List String) {phrase : String} {found : List Char × List Char}
      (hlist : phrases = earlier ++ phrase :: later) (hfound : occurrence? text phrase = some found)
      (hearlier : ∀ q ∈ earlier, ∀ r, occurrence? text q = some r → byteLength found.1 < byteLength r.1)
      (hlater : ∀ q ∈ later, ∀ r, occurrence? text q = some r → byteLength found.1 ≤ byteLength r.1) :
      Best text phrases (some found)

section Best

variable {text : List Char} {phrases : List String} {best : Option (List Char × List Char)}

/-- One more phrase takes over only if it starts further to the left. -/
theorem Best.concat (h : Best text phrases best) (phrase : String) :
    Best text (phrases ++ [phrase]) (leftmost best (occurrence? text phrase)) := by
  cases hnew : occurrence? text phrase with
  | none =>
      cases h with
      | none h =>
          refine .none fun q hq => ?_
          rcases List.mem_append.1 hq with hq | hq
          · exact h q hq
          · rwa [List.mem_singleton.1 hq]
      | @some earlier later _ _ hlist hfound hearlier hlater =>
          refine .some earlier (later ++ [phrase]) (by rw [hlist]; simp) hfound hearlier ?_
          intro q hq r hr
          rcases List.mem_append.1 hq with hq | hq
          · exact hlater q hq r hr
          · rw [List.mem_singleton.1 hq, hnew] at hr
            cases hr
  | some new =>
      cases h with
      | none h =>
          refine .some phrases [] rfl hnew (fun q hq r hr => ?_) fun _ hq => nomatch hq
          rw [h q hq] at hr
          cases hr
      | @some earlier later _ _ hlist hfound hearlier hlater =>
          rw [leftmost]
          -- the new find takes over, or it is one more of those that start no further to the left
          split
          · rename_i hless
            refine .some phrases [] rfl hnew (fun q hq r hr => ?_) fun _ hq => nomatch hq
            rw [hlist] at hq
            rcases List.mem_append.1 hq with hq | hq
            · exact Nat.lt_trans hless (hearlier q hq r hr)
            rcases List.mem_cons.1 hq with rfl | hq
            · rw [hfound] at hr
              cases hr
              exact hless
            · exact Nat.lt_of_lt_of_le hless (hlater q hq r hr)
          · rename_i hless
            refine .some earlier (later ++ [phrase]) (by rw [hlist]; simp) hfound hearlier ?_
            intro q hq r hr
            rcases List.mem_append.1 hq with hq | hq
            · exact hlater q hq r hr
            · rw [List.mem_singleton.1 hq, hnew] at hr
              cases hr
              exact Nat.le_of_not_lt hless

/-- **The search keeps the best of the finds.** -/
theorem best_findPhrase (text : List Char) (phrases : List String) :
    Best text phrases (findPhrase text phrases) := by
  -- by the phrases that are still to be searched
  suffices hfold : ∀ searched best, Best text searched best →
      Best text (searched ++ phrases)
        (phrases.foldl (fun best p => leftmost best (occurrence? text p)) best) from
    hfold [] none (.none fun _ hq => nomatch hq)
  induction phrases with
  | nil =>
      intro searched best h
      rwa [List.append_nil]
  | cons p phrases ih =>
      intro searched best h
      rw [List.append_cons]
      exact ih _ _ (h.concat p)

end Best

/-! ## What the test reports -/

section Verdict

variable {written : List String} {input : String}

theorem occurrence?_lower (text : List Char) (phrase : String) :
    occurrence? text (lower phrase) = (cut? (fold phrase) text).map fun r => (r.1, fold phrase) := by
  rw [occurrence?, lower, String.toList_ofList]

/-- A phrase that stands somewhere has a first occurrence, which is not behind that place. -/
theorem occurrence?_of_standsAt {phrase : String} {n : Nat} (h : standsAt phrase input n = true) :
    ∃ before, occurrence? (fold input) (lower phrase) = some (before, fold phrase) ∧
      byteLength before ≤ n := by
  obtain ⟨front, rest, hfold, rfl⟩ := standsAt_iff.1 h
  rw [occurrence?_lower]
  cases hcut : cut? (fold phrase) (fold input) with
  | none =>
      refine absurd ?_ (cut?_eq_none_iff.1 hcut)
      rw [hfold]
      exact ⟨front, rest, List.append_assoc ..⟩
  | some cut =>
      obtain ⟨more, hmore⟩ := prefix_of_cut?_of_append hcut hfold
      refine ⟨cut.1, rfl, ?_⟩
      rw [← hmore, byteLength_append]
      exact Nat.le_add_right ..

/-- A first occurrence is a place where the phrase stands. -/
theorem standsAt_of_occurrence? {phrase : String} {found : List Char × List Char}
    (h : occurrence? (fold input) (lower phrase) = some found) :
    standsAt phrase input (byteLength found.1) = true ∧ found.2 = fold phrase := by
  rw [occurrence?_lower] at h
  obtain ⟨cut, hcut, rfl⟩ := Option.map_eq_some_iff.1 h
  have happ := append_of_cut? hcut
  rw [List.append_assoc] at happ
  exact ⟨standsAt_iff.2 ⟨cut.1, cut.2, happ.symm, rfl⟩, rfl⟩

/-- Nothing is found exactly if no phrase stands anywhere. -/
theorem findPhrase_eq_none (h : findPhrase (fold input) (written.map lower) = none) :
    ∀ p ∈ written, ∀ n, standsAt p input n = false := by
  intro p hp n
  have hbest := best_findPhrase (fold input) (written.map lower)
  rw [h] at hbest
  cases hbest with
  | none hnone =>
      rw [← Bool.not_eq_true]
      intro hstands
      obtain ⟨before, hfound, -⟩ := occurrence?_of_standsAt hstands
      exact nomatch (hnone _ (List.mem_map_of_mem hp)).symm.trans hfound

/-- What is found is the first listed phrase at the least offset. -/
theorem leftmostPhrase_of_findPhrase {found : List Char × List Char}
    (h : findPhrase (fold input) (written.map lower) = some found) :
    ∃ phrase, LeftmostPhrase written input (byteLength found.1) phrase ∧ found.2 = fold phrase := by
  have hbest := best_findPhrase (fold input) (written.map lower)
  rw [h] at hbest
  cases hbest with
  | some _ _ hlist hfound hearlier hlater =>
      obtain ⟨earlier, rest, rfl, rfl, hrest⟩ := List.map_eq_append_iff.1 hlist
      obtain ⟨phrase, later, rfl, rfl, rfl⟩ := List.map_eq_cons_iff.1 hrest
      obtain ⟨hstands, hphrase⟩ := standsAt_of_occurrence? hfound
      refine ⟨phrase, ⟨hstands, fun q hq n hn => ?_, earlier, later, rfl, fun q hq => ?_⟩, hphrase⟩
      · obtain ⟨before, hq', hle⟩ := occurrence?_of_standsAt hn
        refine Nat.le_trans ?_ hle
        rcases List.mem_append.1 hq with hq | hq
        · exact Nat.le_of_lt (hearlier _ (List.mem_map_of_mem hq) _ hq')
        rcases List.mem_cons.1 hq with rfl | hq
        · rw [hfound] at hq'
          cases hq'
          exact Nat.le_refl _
        · exact hlater _ (List.mem_map_of_mem hq) _ hq'
      · rw [← Bool.not_eq_true]
        intro hstands'
        obtain ⟨before, hq', hle⟩ := occurrence?_of_standsAt hstands'
        have hless := hearlier _ (List.mem_map_of_mem hq) _ hq'
        exact absurd hless (Nat.not_lt_of_le hle)

/-- **A test for phrases tells the leftmost one**, whatever is captured. -/
theorem testPhrases_lower (written : List String) (capture : Bool) (input : String) :
    (testPhrases (written.map lower) capture input = .no ∧
      ∀ p ∈ written, ∀ n, standsAt p input n = false) ∨
    ∃ offset phrase here, LeftmostPhrase written input offset phrase ∧
      slice? offset (size phrase) input.toList = some here ∧
      testPhrases (written.map lower) capture input =
        .located (offset, size phrase) (if capture then [String.ofList here] else []) := by
  unfold testPhrases
  cases hfind : findPhrase (fold input) (written.map lower) with
  | none => exact .inl ⟨rfl, findPhrase_eq_none hfind⟩
  | some found =>
      obtain ⟨phrase, hleftmost, hphrase⟩ := leftmostPhrase_of_findPhrase hfind
      obtain ⟨after, hfold⟩ := append_of_findPhrase hfind
      have hsize : byteLength found.2 = size phrase := by
        rw [hphrase, fold, byteLength_map_toLower, size]
      have hslice := slice?_of_fold hfold
      rw [hsize] at hslice
      refine .inr ⟨_, phrase, _, hleftmost, hslice, ?_⟩
      dsimp only
      rw [hsize]

/-- The phrases of a parameter are its words, and those of a file its entries, in small letters. -/
theorem phrasesOf_eq {param : String} (h : words param ≠ []) :
    phrasesOf param = .ok (.phrases .inline param ((words param).map lower)) := by
  obtain ⟨first, more, hwords⟩ := List.exists_cons_of_ne_nil h
  rw [phrasesOf, hwords, List.map_cons]

/--
**The leftmost phrase is found.**

The phrases of a parameter are its words, and those of a file its entries. For every list of phrases, a text
matches exactly if some phrase stands in it, in any case. Then the least offset at which one does is
reported, with the number of bytes of the first listed phrase that stands there, and what is captured is the
text itself at that place.
-/
theorem leftmost_phrase_found :
    (∀ param, words param ≠ [] →
      phrasesOf param = .ok (.phrases .inline param ((words param).map lower))) ∧
    (∀ files path lines, entriesOf files path = .ok lines →
      phrasesIn files path = .ok (.phrases .file path (lines.map lower))) ∧
    ∀ source param written r capture input x,
      let v := ((phrases source param (written.map lower)).evaluate r capture input x).1
      (v.matched = true ↔ ∃ p ∈ written, ∃ n, standsAt p input n = true) ∧
      (v.matched = true → ∃ offset phrase here, LeftmostPhrase written input offset phrase ∧
        slice? offset (size phrase) input.toList = some here ∧
        v = .located (offset, size phrase) (if capture then [String.ofList here] else [])) := by
  refine ⟨fun param => phrasesOf_eq, fun files path lines h => ?_, ?_⟩
  · rw [phrasesIn, h]
    rfl
  intro source param written r capture input x v
  have hv : v = testPhrases (written.map lower) capture input := rfl
  rcases testPhrases_lower written capture input with ⟨hno, hnowhere⟩ | ⟨offset, phrase, here, hfound⟩
  · rw [hv, hno]
    refine ⟨⟨fun h => (nomatch h), ?_⟩, fun h => nomatch h⟩
    rintro ⟨p, hp, n, hn⟩
    exact nomatch (hnowhere p hp n).symm.trans hn
  · obtain ⟨hleftmost, hslice, hlocated⟩ := hfound
    obtain ⟨earlier, later, hlist, -⟩ := hleftmost.first
    have hmem : phrase ∈ written := hlist ▸ List.mem_append_right _ (List.mem_cons_self ..)
    rw [hv, hlocated]
    refine ⟨⟨fun _ => ⟨phrase, hmem, offset, hleftmost.stands⟩, fun _ => rfl⟩, fun _ => ?_⟩
    exact ⟨offset, phrase, here, hleftmost, hslice, rfl⟩

/-- Two phrases stand at the same place, behind a character of two bytes; the one that is listed first is
reported, as it is written in the text. -/
theorem leftmost_phrase_found_union :
    words "select UNION un" ≠ [] ∧
      phrasesOf "select UNION un" =
        .ok (.phrases .inline "select UNION un" ((words "select UNION un").map lower)) ∧
      ∃ offset phrase here,
        LeftmostPhrase (words "select UNION un") "é uNion selected" offset phrase ∧
          slice? offset (size phrase) "é uNion selected".toList = some here ∧
          (offset, size phrase) = (3, 5) ∧ String.ofList here = "uNion" := by
  have hwords : words "select UNION un" ≠ [] := by decide +kernel
  have hv : testPhrases ((words "select UNION un").map lower) true "é uNion selected" =
      .located (3, 5) ["uNion"] := by
    decide +kernel
  obtain ⟨hread, -, hfound⟩ := leftmost_phrase_found
  obtain ⟨offset, phrase, here, hleftmost, hslice, hlocated⟩ :=
    (hfound .inline "select UNION un" (words "select UNION un") {} true "é uNion selected"
      ⟨.new "t" 0 .empty, .empty, 0⟩).2 (congrArg Verdict.matched hv)
  have hsame := hv.symm.trans hlocated
  exact ⟨hwords, hread _ hwords, offset, phrase, here, hleftmost, hslice,
    (Option.some.inj (congrArg Verdict.span hsame)).symm,
    (List.cons.inj (congrArg Verdict.captures hsame)).1.symm⟩

end Verdict

end Operator

end Rampart
