import Rampart.Proofs.Matchers

/-!
# Candidates

A check of digits is put to one match of the pattern after the other, from left to right. Matches may overlap:
behind a match that fails, the search goes on at the next character after its start. So each place of the
text at which a match starts is either tried or lies behind the match that passed, but for the end of the
text, where only the empty text can match, which has no digits to pass with.

Of the search for a match no more is used than what every matcher has.
-/

namespace Rampart

/-! ## The run of a scan -/

/-- A scan for a match that passes a check, turn by turn: from a place it ends with nothing, or with a match,
or it fails a match and goes on at the place behind the start of it. -/
inductive Scans (findFrom? : Cursor → Option Span) (passes : String → Bool) : Cursor → Option Span → Prop
  | ended {c : Cursor} (h : c.rest = []) : Scans findFrom? passes c none
  | missed {c : Cursor} (hmore : c.rest ≠ []) (h : findFrom? c = none) : Scans findFrom? passes c none
  | passed {c : Cursor} {s : Span} (hmore : c.rest ≠ []) (h : findFrom? c = some s)
      (hpasses : passes s.text = true) : Scans findFrom? passes c (some s)
  | last {c : Cursor} {s : Span} (hmore : c.rest ≠ []) (h : findFrom? c = some s)
      (hfails : passes s.text = false) (hend : s.first.next? = none) : Scans findFrom? passes c none
  | failed {c next : Cursor} {s : Span} {r : Option Span} (hmore : c.rest ≠ [])
      (h : findFrom? c = some s) (hfails : passes s.text = false) (hnext : s.first.next? = some next)
      (hrest : Scans findFrom? passes next r) : Scans findFrom? passes c r

/-- A match that starts at a place or behind it, and passes the check. -/
structure Passing (matchAt? : Cursor → Option Span) (passes : String → Bool) (c : Cursor) (s : Span) :
    Prop where
  reached : c.Reaches s.first
  matched : matchAt? s.first = some s
  passed : passes s.text = true

/-- The first of the matches that pass. -/
structure FirstPassing (matchAt? : Cursor → Option Span) (passes : String → Bool) (c : Cursor) (s : Span) :
    Prop extends Passing matchAt? passes c s where
  first : ∀ s', Passing matchAt? passes c s' → s.offset ≤ s'.offset

section Scans

variable {m : Matcher} {text : List Char} {passes : String → Bool}
variable {c next : Cursor} {s s' : Span} {r r' : Option Span}

/-- Behind the start of a match the scan is at a later place of the text, where less of it is left. -/
theorem behind_of_findFrom? (hc : (Cursor.start text).Reaches c) (hfind : m.findFrom? text c = some s)
    (hnext : s.first.next? = some next) :
    (Cursor.start text).Reaches next ∧ next.rest.length < c.rest.length := by
  have hfirst := Matcher.isFirst_of_findFrom? hc hfind
  have hle := hfirst.reached.length_le
  have hlength := Cursor.length_next hnext
  exact ⟨(hc.trans hfirst.reached).trans (Cursor.reaches_next hnext), by omega⟩

/-- **A scan ends**, after no more turns than there are characters. -/
theorem scans_firstPassing (hc : (Cursor.start text).Reaches c) {fuel : Nat} (h : c.rest.length < fuel) :
    Scans (m.findFrom? text) passes c (Operator.firstPassing (m.findFrom? text) passes fuel c) := by
  induction fuel generalizing c with
  | zero => exact absurd h (Nat.not_lt_zero _)
  | succ fuel ih =>
      rw [Operator.firstPassing]
      split
      · rename_i hend
        exact .ended (List.isEmpty_iff.1 hend)
      · rename_i hmore
        rw [List.isEmpty_iff] at hmore
        split
        · rename_i hfind
          exact .missed hmore hfind
        · rename_i s hfind
          split
          · rename_i hpasses
            exact .passed hmore hfind hpasses
          · rename_i hfails
            rw [Bool.not_eq_true] at hfails
            split
            · rename_i next hnext
              obtain ⟨hreached, hlength⟩ := behind_of_findFrom? hc hfind hnext
              exact .failed hmore hfind hfails hnext (ih hreached (by omega))
            · rename_i hend
              exact .last hmore hfind hfails hend

/-- A turn that finds a match. -/
theorem firstPassing_of_findFrom? {findFrom? : Cursor → Option Span} (hmore : c.rest ≠ [])
    (hfind : findFrom? c = some s) (fuel : Nat) :
    Operator.firstPassing findFrom? passes (fuel + 1) c =
      if passes s.text then some s
      else s.first.next?.bind (Operator.firstPassing findFrom? passes fuel) := by
  rw [Operator.firstPassing, if_neg (mt List.isEmpty_iff.1 hmore), hfind]
  dsimp only
  split
  · rfl
  · cases s.first.next? <;> rfl

/-- Every scan ends with what is found in turns enough. -/
theorem Scans.eq_firstPassing (h : Scans (m.findFrom? text) passes c r)
    (hc : (Cursor.start text).Reaches c) {fuel : Nat} (hfuel : c.rest.length ≤ fuel) :
    Operator.firstPassing (m.findFrom? text) passes (fuel + 1) c = r := by
  induction h generalizing fuel with
  | ended hend =>
      rw [Operator.firstPassing, hend]
      rfl
  | missed hmore hfind => rw [Operator.firstPassing, if_neg (mt List.isEmpty_iff.1 hmore), hfind]
  | passed hmore hfind hpasses => rw [firstPassing_of_findFrom? hmore hfind, if_pos hpasses]
  | last hmore hfind hfails hend =>
      rw [firstPassing_of_findFrom? hmore hfind, if_neg (ne_true_of_eq_false hfails), hend]
      rfl
  | failed hmore hfind hfails hnext _ ih =>
      obtain ⟨hreached, hlength⟩ := behind_of_findFrom? hc hfind hnext
      obtain ⟨fuel, rfl⟩ := Nat.exists_eq_succ_of_ne_zero (show fuel ≠ 0 by omega)
      rw [firstPassing_of_findFrom? hmore hfind, if_neg (ne_true_of_eq_false hfails), hnext, Option.bind_some]
      exact ih hreached (by omega)

/-- A scan ends in one way. -/
theorem Scans.unique (hc : (Cursor.start text).Reaches c) (h : Scans (m.findFrom? text) passes c r)
    (h' : Scans (m.findFrom? text) passes c r') : r = r' :=
  (h.eq_firstPassing hc (Nat.le_refl _)).symm.trans (h'.eq_firstPassing hc (Nat.le_refl _))

/-! ## What a scan finds -/

/-- Behind a first match that fails, all that pass start behind the next character. -/
theorem Passing.behind {matchAt? : Cursor → Option Span} (h : Passing matchAt? passes c s')
    (hfirst : s.IsFirst matchAt? c) (hfails : passes s.text = false) :
    ∃ next, s.first.next? = some next ∧ Passing matchAt? passes next s' := by
  have hle := hfirst.first s'.first h.reached (Option.isSome_of_eq_some h.matched)
  rcases (hfirst.reached.of_offset_le h.reached hle).eq_or_next with hsame | ⟨next, hnext, hreached⟩
  · have hmatched := h.matched
    rw [← hsame, hfirst.matched] at hmatched
    cases hmatched
    exact nomatch hfails.symm.trans h.passed
  · exact ⟨next, hnext, hreached, h.matched, h.passed⟩

/-- At the end of a text only the empty text matches. -/
theorem text_of_end (hc : (Cursor.start text).Reaches c) (hend : c.rest = [])
    (hs : Passing (m.matchAt? text) passes c s) : s.text = "" := by
  have hfirst := hs.reached.eq_of_end hend
  have hlast := (Matcher.in_of_matchAt? (hc.trans hs.reached) hs.matched).2.eq_of_end (hfirst ▸ hend)
  have hrest : s.first.rest = [] ++ s.last.rest := congrArg Cursor.rest hlast
  unfold Span.text
  rw [Cursor.textTo_of_reaches hrest]

/-- **A scan finds the first match that passes**, and nothing only if there is none. -/
theorem Scans.found (hempty : passes "" = false) (h : Scans (m.findFrom? text) passes c r)
    (hc : (Cursor.start text).Reaches c) :
    match r with
    | some s => FirstPassing (m.matchAt? text) passes c s
    | none => ∀ s, ¬ Passing (m.matchAt? text) passes c s := by
  induction h with
  | @ended c hend =>
      intro s hs
      have hpassed := hs.passed
      rw [text_of_end hc hend hs, hempty] at hpassed
      cases hpassed
  | missed _ hfind =>
      intro s hs
      exact nomatch (Matcher.matchAt?_eq_none_of_findFrom? hc hfind hs.reached).symm.trans hs.matched
  | passed _ hfind hpasses =>
      have hfirst := Matcher.isFirst_of_findFrom? hc hfind
      exact ⟨⟨hfirst.reached, hfirst.matched, hpasses⟩, fun s' hs' =>
        hfirst.first s'.first hs'.reached (Option.isSome_of_eq_some hs'.matched)⟩
  | last _ hfind hfails hend =>
      intro s' hs'
      obtain ⟨next, hnext, -⟩ := hs'.behind (Matcher.isFirst_of_findFrom? hc hfind) hfails
      exact nomatch hend.symm.trans hnext
  | @failed c next s r _ hfind hfails hnext _ ih =>
      have hfirst := Matcher.isFirst_of_findFrom? hc hfind
      have ih := ih (behind_of_findFrom? hc hfind hnext).1
      have hlater (s' : Span) (hs' : Passing (m.matchAt? text) passes c s') :
          Passing (m.matchAt? text) passes next s' := by
        obtain ⟨next', hnext', hs'⟩ := hs'.behind hfirst hfails
        exact Option.some.inj (hnext.symm.trans hnext') ▸ hs'
      cases r with
      | none => exact fun s' hs' => ih s' (hlater s' hs')
      | some found =>
          have hreached := (hfirst.reached.trans (Cursor.reaches_next hnext)).trans ih.reached
          exact ⟨⟨hreached, ih.matched, ih.passed⟩, fun s' hs' => ih.first s' (hlater s' hs')⟩

/-- What a scan of a whole text comes to is the first match that passes. -/
theorem found_of_firstPassing (hempty : passes "" = false)
    (h : Operator.firstPassing (m.findFrom? text) passes (text.length + 1) (.start text) = some s) :
    FirstPassing (m.matchAt? text) passes (.start text) s := by
  have hstart := Cursor.Reaches.refl (.start text)
  have hscans : Scans (m.findFrom? text) passes (.start text) _ :=
    scans_firstPassing hstart (Nat.lt_succ_self text.length)
  rw [h] at hscans
  exact hscans.found hempty hstart

theorem FirstPassing.unique {matchAt? : Cursor → Option Span} (h : FirstPassing matchAt? passes c s)
    (h' : FirstPassing matchAt? passes c s') : s = s' := by
  have hreached := h.reached.of_offset_le h'.reached (h.first s' h'.toPassing)
  have hmatched := h.matched
  rw [hreached.eq_of_offset (h'.first s h.toPassing), h'.matched] at hmatched
  exact (Option.some.inj hmatched).symm

end Scans

/-- No check of digits is passed by the empty text. -/
theorem DigitCheck.passes_empty (check : DigitCheck) : check.passes "" = false := by
  cases check <;> rfl

namespace Operator

/-- The verdict on what a scan ends with. -/
theorem testPassing_eq (passes : String → Bool) (m : Matcher) (capture : Bool) (input : String) :
    ∃ r, Scans (m.findFrom? input.toList) passes (.start input.toList) r ∧
      (testPassing passes (m.findFrom? input.toList) capture input).matched = r.isSome ∧
        (testPassing passes (m.findFrom? input.toList) capture input).span =
          r.map fun s => (s.offset, s.length) := by
  refine ⟨_, scans_firstPassing (.refl _) (Nat.lt_succ_self _), ?_⟩
  unfold testPassing
  dsimp only [Cursor.start]
  split
  · rename_i s hs
    rw [hs]
    exact ⟨rfl, rfl⟩
  · rename_i hnone
    rw [hnone]
    exact ⟨rfl, rfl⟩

/--
**A scan of candidates is complete.**

For every matcher, such as a pattern is, and every check that the empty text does not pass, as it does none of
those for digits, the scan of a text ends, and in one way. The text matches exactly if a match that starts
somewhere in it passes, and the place that is reported is that of the first of these.
-/
theorem candidates_complete :
    (∀ check : DigitCheck, check.passes "" = false ∧
      ∀ (p : Pattern) (capture : Bool) (input : String), testDigits check p capture input =
        testPassing check.passes (p.matcher.findFrom? input.toList) capture input) ∧
    ∀ (m : Matcher) (passes : String → Bool), passes "" = false → ∀ (capture : Bool) (input : String),
      (∃ r, ∀ r', Scans (m.findFrom? input.toList) passes (.start input.toList) r' ↔ r' = r) ∧
      ((testPassing passes (m.findFrom? input.toList) capture input).matched = true ↔
        ∃ s, Passing (m.matchAt? input.toList) passes (.start input.toList) s) ∧
      ∀ span, (testPassing passes (m.findFrom? input.toList) capture input).span = some span ↔
        ∃ s, FirstPassing (m.matchAt? input.toList) passes (.start input.toList) s ∧
          span = (s.offset, s.length) := by
  refine ⟨fun check => ⟨check.passes_empty, fun _ _ _ => rfl⟩, fun m passes hempty capture input => ?_⟩
  have hstart := Cursor.Reaches.refl (.start input.toList)
  obtain ⟨r, hscans, hmatched, hspan⟩ := testPassing_eq passes m capture input
  have hfound := hscans.found hempty hstart
  refine ⟨⟨r, fun r' => ⟨fun h => h.unique hstart hscans, fun h => h ▸ hscans⟩⟩, ?_, fun span => ?_⟩
  · rw [hmatched]
    cases r with
    | none => simpa using hfound
    | some s => simpa using ⟨s, hfound.toPassing⟩
  · rw [hspan]
    cases r with
    | none => simpa using fun s hs => absurd hs.toPassing (hfound s)
    | some found =>
        rw [Option.map_some, Option.some.injEq]
        constructor
        · rintro rfl
          exact ⟨found, hfound, rfl⟩
        · rintro ⟨s, hs, rfl⟩
          rw [hfound.unique hs]

/-- Two digits in a row. -/
def twoDigits : Pattern := ⟨"[0-9][0-9]", .seq (.one (.range 48 57)) (.one (.range 48 57))⟩

/-- Of two matches that overlap, the second one passes, behind a character of two bytes. -/
theorem candidates_complete_overlapping :
    DigitCheck.card.passes "" = false ∧
      (testDigits .card twoDigits false "é159").span = some (3, 2) ∧
      ∃ s, FirstPassing twoDigits.matchAt? DigitCheck.card.passes (.start "é159".toList) s ∧
        (3, 2) = (s.offset, s.length) := by
  have hempty := DigitCheck.card.passes_empty
  have hspan : (testDigits .card twoDigits false "é159").span = some (3, 2) := by decide +kernel
  obtain ⟨-, -, hplace⟩ := candidates_complete.2 twoDigits.matcher _ hempty false "é159"
  exact ⟨hempty, hspan, (hplace _).1 hspan⟩

end Operator

end Rampart
