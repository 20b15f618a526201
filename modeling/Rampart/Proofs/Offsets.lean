import Rampart.Proofs.CaseFolding
import Rampart.Proofs.LossyDecoding
import Rampart.Proofs.Matchers
import Rampart.Proofs.Numerals

/-!
# Tests by offsets

The tests can be carried out by offsets into the value alone: the stretches that a search for a pattern or a
phrase reports are cut out of the value, a scan of candidates keeps the offset of where it is, and an integer
is read behind its sign up to the first byte that is no digit. Then each cut has to be made within the value
and between two of its characters; where one is not, there is no verdict. That never happens: the tests by
offsets come to the same verdicts as the tests, whatever is captured and whichever matchers they use.
-/

namespace Rampart

/-! ## Integers by bytes -/

namespace Text

/-- The sign that the first byte of a text is, as a factor, and what follows it. -/
def signed? (text : List Char) : Option (Int × List Char) :=
  if (encode text).head? = some 0x2D then (from? 1 text).map fun digits => (-1, digits)
  else if (encode text).head? = some 0x2B then (from? 1 text).map fun digits => (1, digits)
  else some (1, text)

/-- The byte is a decimal digit. -/
def isDigitByte (b : UInt8) : Bool := decide (0x30 ≤ b.toNat ∧ b.toNat ≤ 0x39)

/-- The start of a text up to its first byte that is no digit. -/
def digitRun? (digits : List Char) : Option (List Char) :=
  slice? 0 ((encode digits).findIdx fun b => !isDigitByte b) digits

/-- The integer a text starts with after blanks and a sign, cut out by its bytes. -/
def leadingInt? (s : String) : Option Int :=
  (signed? (trimLeft s.toList)).bind fun p => (digitRun? p.2).map fun run => p.1 * leadingDigits 0 run

section Bytes

variable {c : Char} {cs : List Char}

/-- A first byte below 128 is the first character. -/
theorem eq_of_head?_encode {b : UInt8} (hb : b.toNat < 0x80) (h : (encode (c :: cs)).head? = some b) :
    c = Char.ofNat b.toNat := by
  rw [encode_cons] at h
  rcases firstByte_cases c with ⟨hascii, hbyte⟩ | ⟨-, first, more, hbytes, hhigh⟩
  · rw [hbyte] at h
    cases h
    rw [toNat_byte (by omega), Char.ofNat_toNat]
  · rw [hbytes] at h
    cases h
    omega

theorem signed?_minus (cs : List Char) : signed? ('-' :: cs) = some (-1, cs) := by
  have hhead : (encode ('-' :: cs)).head? = some 0x2D := rfl
  have hfrom : from? 1 ('-' :: cs) = some cs := from?_append ['-'] cs
  rw [signed?, if_pos hhead, hfrom, Option.map_some]

theorem signed?_plus (cs : List Char) : signed? ('+' :: cs) = some (1, cs) := by
  have hhead : (encode ('+' :: cs)).head? = some 0x2B := rfl
  have hfrom : from? 1 ('+' :: cs) = some cs := from?_append ['+'] cs
  rw [signed?, hhead, if_neg (by decide), if_pos rfl, hfrom, Option.map_some]

theorem signed?_of_unsigned (hminus : ∀ rest, cs = '-' :: rest → False)
    (hplus : ∀ rest, cs = '+' :: rest → False) : signed? cs = some (1, cs) := by
  cases cs with
  | nil => rfl
  | cons c cs =>
      have hne (b : UInt8) (hb : b.toNat < 0x80) (hc : c ≠ Char.ofNat b.toNat) :
          (encode (c :: cs)).head? ≠ some b := fun h => hc (eq_of_head?_encode hb h)
      rw [signed?, if_neg (hne 0x2D (by decide) fun hc => hminus cs (congrArg (· :: cs) hc)),
        if_neg (hne 0x2B (by decide) fun hc => hplus cs (congrArg (· :: cs) hc))]

theorem toNat_of_isDigit (h : c.isDigit = true) : 0x30 ≤ c.toNat ∧ c.toNat ≤ 0x39 := isDigit_iff.1 h

/-- The first byte of a character is a digit exactly if the character is one. -/
theorem isDigitByte_head (c : Char) (bs : List UInt8) :
    ∃ first bytes, String.utf8EncodeChar c ++ bs = first :: bytes ∧ isDigitByte first = c.isDigit ∧
      (c.isDigit = true → bytes = bs) := by
  rcases firstByte_cases c with ⟨hascii, hbyte⟩ | ⟨hlong, first, more, hbytes, hhigh⟩
  · refine ⟨UInt8.ofNat c.toNat, bs, by rw [hbyte]; rfl, ?_, fun _ => rfl⟩
    rw [isDigitByte, toNat_byte (by omega), Bool.eq_iff_iff, isDigit_iff, decide_eq_true_eq]
    exact Iff.rfl
  · have hdigit : ¬ c.isDigit = true := fun h => by
      have := toNat_of_isDigit h
      omega
    refine ⟨first, more ++ bs, by rw [hbytes, List.cons_append], ?_, fun h => absurd h hdigit⟩
    rw [Bool.eq_iff_iff, isDigitByte, decide_eq_true_eq]
    exact ⟨fun h => by omega, fun h => absurd h hdigit⟩

/-- The first byte that is no digit is that of the first character that is none. -/
theorem findIdx_encode (digits : List Char) :
    (encode digits).findIdx (fun b => !isDigitByte b) = byteLength (digits.takeWhile Char.isDigit) := by
  induction digits with
  | nil => rfl
  | cons c cs ih =>
      obtain ⟨first, bytes, hbytes, hdigit, hrest⟩ := isDigitByte_head c (encode cs)
      rw [encode_cons, hbytes, List.findIdx_cons, hdigit, List.takeWhile_cons]
      cases hc : c.isDigit with
      | false => rfl
      | true =>
          have hsize : c.utf8Size = 1 := by
            have := toNat_of_isDigit hc
            exact if_pos (show c.toNat ≤ 0x7F by omega)
          rw [hrest hc, ih, if_pos rfl, byteLength_cons, hsize, Nat.add_comm]
          rfl

theorem digitRun?_eq (digits : List Char) : digitRun? digits = some (digits.takeWhile Char.isDigit) := by
  have hslice := slice?_append [] (digits.takeWhile Char.isDigit) (digits.dropWhile Char.isDigit)
  rw [List.nil_append, List.takeWhile_append_dropWhile] at hslice
  rw [digitRun?, findIdx_encode]
  exact hslice

theorem leadingDigits_takeWhile (n : Int) (cs : List Char) :
    leadingDigits n (cs.takeWhile Char.isDigit) = leadingDigits n cs := by
  induction cs generalizing n with
  | nil => rfl
  | cons c cs ih =>
      rw [List.takeWhile_cons]
      cases hc : c.isDigit with
      | false =>
          rw [if_neg Bool.false_ne_true, leadingDigits, leadingDigits, digitValue?_ten, hc]
          rfl
      | true =>
          rw [if_pos rfl, leadingDigits, leadingDigits, digitValue?_ten, if_pos hc]
          exact ih _

/-- **An integer is cut out of a text between characters.** -/
theorem leadingInt?_eq (s : String) : leadingInt? s = some (leadingInt s) := by
  unfold leadingInt? leadingInt
  split
  · rename_i cs hcs
    rw [hcs, signed?_minus, Option.bind_some, digitRun?_eq, Option.map_some, leadingDigits_takeWhile,
      Int.neg_one_mul]
  · rename_i cs hcs
    rw [hcs, signed?_plus, Option.bind_some, digitRun?_eq, Option.map_some, leadingDigits_takeWhile,
      Int.one_mul]
  · rename_i hminus hplus
    rw [signed?_of_unsigned hminus hplus, Option.bind_some, digitRun?_eq, Option.map_some,
      leadingDigits_takeWhile, Int.one_mul]

end Bytes

/-! ## Small letters -/

/-- **What occurs in the text in small letters has its counterpart in the text**, in as many characters and
bytes, behind as many of both. -/
theorem slice?_of_fold {input : String} {before part after : List Char}
    (h : fold input = before ++ (part ++ after)) :
    slice? (byteLength before) (byteLength part) input.toList =
      some ((input.toList.drop before.length).take part.length) := by
  obtain ⟨front, rest, hfront, rfl, hrest⟩ := List.map_eq_append_iff.1 h
  obtain ⟨here, behind, rfl, rfl, rfl⟩ := List.map_eq_append_iff.1 hrest
  rw [hfront, byteLength_map_toLower, byteLength_map_toLower, slice?_append, List.length_map,
    List.length_map, List.drop_left, List.take_left]

end Text

/-! ## Places by their offsets -/

namespace Cursor

/-- The place at an offset, if no character is cut there. -/
def at? (text : List Char) (offset : Nat) : Option Cursor :=
  (Text.splitBytes? offset text).map fun p => ⟨offset, p.1.getLast?, p.2⟩

variable {text : List Char} {c : Cursor}

/-- **A place of a text is told by its offset.** -/
theorem at?_of_reaches (h : (start text).Reaches c) : at? text c.offset = some c := by
  obtain ⟨passed, htext, hoffset, hbefore⟩ := exists_passed h
  rw [at?, hoffset, htext, Text.splitBytes?_append, Option.map_some, ← hoffset, ← hbefore]

theorem from?_of_reaches (h : (start text).Reaches c) : Text.from? c.offset text = some c.rest := by
  obtain ⟨⟨before, after⟩, hsplit, hplace⟩ := Option.map_eq_some_iff.1 (at?_of_reaches h)
  rw [Text.from?, hsplit, Option.map_some, ← hplace]

/-- The next place is told by the next character. -/
theorem head_of_next? {next : Cursor} (h : c.next? = some next) :
    ∃ first, c.rest.head? = some first ∧ next.offset = c.offset + first.utf8Size := by
  unfold next? at h
  split at h
  · cases h
  · rename_i first rest hrest
    cases h
    exact ⟨first, by rw [hrest]; rfl, rfl⟩

/-- The end of a text is the one place that has no bytes of it behind it. -/
theorem byteLength_le_offset_iff (h : (start text).Reaches c) :
    Text.byteLength text ≤ c.offset ↔ c.rest = [] := by
  obtain ⟨passed, htext, hoffset, -⟩ := exists_passed h
  rw [← Text.byteLength_eq_zero, htext, Text.byteLength_append, hoffset]
  omega

end Cursor

/-! ## Tests by offsets -/

open Text

namespace TextTest

/-- The offset and the number of bytes of what matched, where no more bytes are taken off than there are. -/
def checkedSpan? (param input : List Char) : TextTest → Option (Option (Nat × Nat))
  | endsWith =>
    if param.isSuffixOf input then
      if byteLength param ≤ byteLength input then
        some (some (byteLength input - byteLength param, byteLength param))
      else none
    else some none
  | t => some (t.span? param input)

theorem checkedSpan?_eq (t : TextTest) (param input : List Char) :
    t.checkedSpan? param input = some (t.span? param input) := by
  cases t
  case endsWith =>
    rw [checkedSpan?, span?]
    by_cases hsuffix : param.isSuffixOf input
    · obtain ⟨before, rfl⟩ := List.isSuffixOf_iff_suffix.1 hsuffix
      have hle : byteLength param ≤ byteLength (before ++ param) := by
        rw [byteLength_append]
        exact Nat.le_add_left ..
      rw [if_pos hsuffix, if_pos hsuffix, if_pos hle]
    · rw [if_neg hsuffix, if_neg hsuffix]
  all_goals rfl

end TextTest

namespace Operator

/-- The text of a captured stretch, cut out of the value; nothing for a group that is not on the way. -/
def captured? (input : String) (g : Option Span) : Option String :=
  match g with
  | some s => (slice? s.offset s.length input.toList).map String.ofList
  | none => some ""

/-- The place and the captured texts of the match that is found in a text. -/
def checkedMatch? (m : Matcher) (capture : Bool) (input : String) : Option Verdict :=
  if capture then
    match m.captures? input with
    | some (whole, groups) =>
      ((groups.take captureLimit).mapM (captured? input)).map
        (.located (whole.offset, whole.length))
    | none => some .no
  else some (testMatch m.find? m.captures? false input)

/-- The place of the leftmost phrase, and the text that stands there. -/
def checkedPhrases? (phrases : List String) (capture : Bool) (input : String) : Option Verdict :=
  match findPhrase (fold input) phrases with
  | some (before, phrase) =>
    if capture then
      (slice? (byteLength before) (byteLength phrase) input.toList).map fun here =>
        .located (byteLength before, byteLength phrase) [String.ofList here]
    else some (.located (byteLength before, byteLength phrase) [])
  | none => some .no

/-- The offset, the number of bytes and the text of the first match at an offset or behind it whose text
passes a check. -/
def checkedPassing? (findFrom? : Cursor → Option Span) (passes : String → Bool) (input : List Char) :
    Nat → Nat → Option (Option (Nat × Nat × String))
  | 0, _ => some none
  | fuel + 1, offset =>
    if byteLength input ≤ offset then some none
    else
      (Cursor.at? input offset).bind fun c =>
        match findFrom? c with
        | none => some none
        | some s =>
          (slice? s.offset s.length input).bind fun text =>
            if passes (String.ofList text) then some (some (s.offset, s.length, String.ofList text))
            else
              (from? s.offset input).bind fun behind =>
                checkedPassing? findFrom? passes input fuel <|
                  match behind.head? with
                  | some first => s.offset + first.utf8Size
                  | none => byteLength input

/-- The place of the first match whose text passes a check of digits. -/
def checkedDigits? (check : DigitCheck) (m : Matcher) (capture : Bool) (input : String) :
    Option Verdict :=
  (checkedPassing? (m.findFrom? input.toList) check.passes input.toList (input.toList.length + 1) 0).map fun
    | some (offset, length, found) => .located (offset, length) (if capture then [found] else [])
    | none => .no

/-- Tests a value under a rule by offsets, capturing texts if asked to, where the matches of each pattern are
found by the given matcher. -/
def checkedEvaluate? (m : Pattern → Matcher) (r : RuleInfo) (capture : Bool) (input : String) :
    Operator → Exchange → Option (Verdict × Exchange)
  | pattern p, x => (checkedMatch? (m p) capture input).map fun v => (v, x)
  | phrases _ _ ps, x => (checkedPhrases? ps capture input).map fun v => (v, x)
  | text t param, x =>
    let expanded := param.expand r x
    (t.checkedSpan? expanded.1.toList input.toList).map fun
      | some span => (.located span [], expanded.2)
      | none => (.no, expanded.2)
  | number t _ (some literal), x =>
    (leadingInt? input).map fun actual => (.ofBool (t.holds actual literal), x)
  | number t param none, x =>
    let expanded := param.expand r x
    (leadingInt? expanded.1).bind fun expected =>
      (leadingInt? input).map fun actual => (.ofBool (t.holds actual expected), expanded.2)
  | digits check p, x => (checkedDigits? check (m p) capture input).map fun v => (v, x)
  | o, x => some (o.evaluate r capture input x)

section Checked

variable {phrases : List String}

theorem captured?_eq {input : String} {g : Option Span} (h : ∀ s, g = some s → s.In input.toList) :
    captured? input g = some ((g.map Span.text).getD "") := by
  cases g with
  | none => rfl
  | some s =>
      rw [captured?, (h s rfl).slice?, Option.map_some, String.ofList_toList]
      rfl

theorem mapM_captured? {input : String} {groups : List (Option Span)}
    (h : ∀ s, some s ∈ groups → s.In input.toList) :
    groups.mapM (captured? input) = some (groups.map fun g => (g.map Span.text).getD "") := by
  induction groups with
  | nil => rfl
  | cons g groups ih =>
      have hg := captured?_eq fun s hs => h s (hs ▸ List.mem_cons_self ..)
      rw [List.mapM_cons, hg, ih fun s hs => h s (List.mem_cons_of_mem _ hs)]
      rfl

theorem checkedMatch?_eq (m : Matcher) (capture : Bool) (input : String) :
    checkedMatch? m capture input = some (testMatch m.find? m.captures? capture input) := by
  cases capture with
  | false => rfl
  | true =>
      unfold checkedMatch? testMatch
      rw [if_pos rfl, if_pos rfl]
      cases hcaptures : m.captures? input with
      | none => rfl
      | some found =>
          obtain ⟨-, hgroups, -⟩ := m.captures?_spec hcaptures
          dsimp only
          rw [mapM_captured? fun s hs => hgroups s (List.mem_of_mem_take hs), Option.map_some]

theorem eq_of_leftmost {a b : Option (List Char × List Char)} {r : List Char × List Char}
    (h : leftmost a b = some r) : a = some r ∨ b = some r := by
  unfold leftmost at h
  split at h
  · split at h
    · exact .inr h
    · exact .inl h
  · exact .inl h
  · exact .inr h

/-- The phrase that is found stands in the text. -/
theorem append_of_findPhrase {text before phrase : List Char}
    (h : findPhrase text phrases = some (before, phrase)) :
    ∃ after, text = before ++ (phrase ++ after) := by
  -- what is best so far stands in the text
  suffices hfold : ∀ best : Option (List Char × List Char),
      (∀ r, best = some r → ∃ after, text = r.1 ++ (r.2 ++ after)) →
      ∀ r, phrases.foldl (fun best p => leftmost best ((cut? p.toList text).map fun r => (r.1, p.toList)))
        best = some r → ∃ after, text = r.1 ++ (r.2 ++ after) from
    hfold none (fun _ hnone => nomatch hnone) _ h
  clear h
  induction phrases with
  | nil => exact fun best hbest => hbest
  | cons p phrases ih =>
      intro best hbest
      refine ih _ fun r hr => ?_
      rcases eq_of_leftmost hr with hr | hr
      · exact hbest r hr
      · obtain ⟨⟨front, after⟩, hcut, rfl⟩ := Option.map_eq_some_iff.1 hr
        exact ⟨after, (List.append_assoc .. ▸ append_of_cut? hcut).symm⟩

theorem checkedPhrases?_eq (phrases : List String) (capture : Bool) (input : String) :
    checkedPhrases? phrases capture input = some (testPhrases phrases capture input) := by
  unfold checkedPhrases? testPhrases
  cases hfind : findPhrase (fold input) phrases with
  | none => rfl
  | some found =>
      obtain ⟨after, hfold⟩ := append_of_findPhrase hfind
      cases capture with
      | false => rfl
      | true =>
          dsimp only
          rw [if_pos rfl, slice?_of_fold hfold, Option.map_some, if_pos rfl]

theorem checkedPassing?_end (findFrom? : Cursor → Option Span) (passes : String → Bool)
    (input : List Char) (fuel : Nat) :
    checkedPassing? findFrom? passes input fuel (byteLength input) = some none := by
  cases fuel with
  | zero => rfl
  | succ fuel => rw [checkedPassing?, if_pos (Nat.le_refl _)]

/-- **A scan stays between the characters of the value.** -/
theorem checkedPassing?_eq (m : Matcher) (passes : String → Bool) {input : List Char} (fuel : Nat)
    {c : Cursor} (h : (Cursor.start input).Reaches c) :
    checkedPassing? (m.findFrom? input) passes input fuel c.offset =
      some ((firstPassing (m.findFrom? input) passes fuel c).map fun s => (s.offset, s.length, s.text)) := by
  -- by the turns that are left; the offset stays that of a place of the value
  induction fuel generalizing c with
  | zero => rfl
  | succ fuel ih =>
      rw [checkedPassing?, firstPassing]
      by_cases hend : c.rest = []
      · rw [if_pos ((Cursor.byteLength_le_offset_iff h).2 hend), hend]
        rfl
      rw [if_neg (mt (Cursor.byteLength_le_offset_iff h).1 hend), if_neg (mt List.isEmpty_iff.1 hend),
        Cursor.at?_of_reaches h, Option.bind_some]
      cases hfind : m.findFrom? input c with
      | none => rfl
      | some s =>
          have hin := Matcher.in_of_findFrom? h hfind
          have hreached := hin.1
          have hslice := hin.slice?
          dsimp only
          rw [hslice, Option.bind_some, String.ofList_toList]
          cases hpasses : passes s.text with
          | true => rfl
          | false =>
              rw [if_neg Bool.false_ne_true, if_neg Bool.false_ne_true]
              have hfrom : from? s.offset input = some s.first.rest := Cursor.from?_of_reaches hreached
              rw [hfrom, Option.bind_some]
              cases hnext : s.first.next? with
              | none =>
                  rw [Cursor.next?_eq_none_iff.1 hnext]
                  exact checkedPassing?_end _ passes input fuel
              | some next =>
                  obtain ⟨first, hhead, hoffset⟩ := Cursor.head_of_next? hnext
                  rw [hhead]
                  have hlater := ih (hreached.trans (Cursor.reaches_next hnext))
                  rw [hoffset] at hlater
                  exact hlater

theorem checkedDigits?_eq (check : DigitCheck) (m : Matcher) (capture : Bool) (input : String) :
    checkedDigits? check m capture input =
      some (testPassing check.passes (m.findFrom? input.toList) capture input) := by
  unfold checkedDigits? testPassing
  have hscan := checkedPassing?_eq m check.passes (input.toList.length + 1) (.refl (.start input.toList))
  rw [show (Cursor.start input.toList).offset = 0 from rfl] at hscan
  rw [hscan]
  cases firstPassing (m.findFrom? input.toList) check.passes (input.toList.length + 1)
    (.start input.toList) <;> rfl

/-- **Tested by offsets, a value gets the same verdict**: no cut is made behind the end of the value or into
a character. -/
theorem checkedEvaluate?_eq (o : Operator) (m : Pattern → Matcher) (r : RuleInfo) (capture : Bool)
    (input : String) (x : Exchange) :
    o.checkedEvaluate? m r capture input x = some (o.evaluateBy m r capture input x) := by
  cases o with
  | pattern p => exact congrArg (Option.map fun v => (v, x)) (checkedMatch?_eq (m p) capture input)
  | phrases source param ps =>
      exact congrArg (Option.map fun v => (v, x)) (checkedPhrases?_eq ps capture input)
  | text t param =>
      change _ = some ((text t param).evaluate r capture input x)
      rw [checkedEvaluate?, evaluate, TextTest.checkedSpan?_eq, Option.map_some]
      cases t.span? (param.expand r x).1.toList input.toList <;> rfl
  | number t param literal =>
      change _ = some ((number t param literal).evaluate r capture input x)
      cases literal with
      | some literal => rw [checkedEvaluate?, evaluate, leadingInt?_eq, Option.map_some]
      | none =>
          rw [checkedEvaluate?, evaluate, leadingInt?_eq, leadingInt?_eq, Option.bind_some, Option.map_some]
  | address source param networks => rfl
  | digits check p =>
      exact congrArg (Option.map fun v => (v, x)) (checkedDigits?_eq check (m p) capture input)
  | always param => rfl
  | never param => rfl

end Checked

end Operator

namespace Test

/-- Tests a value under a rule by offsets, where the matches of each pattern are found by the given
matcher. -/
def checkedEvaluate? (t : Test) (m : Pattern → Matcher) (r : RuleInfo) (capture : Bool) (input : String)
    (x : Exchange) : Option (Verdict × Exchange) :=
  (t.operator.checkedEvaluate? m r capture input x).map fun v =>
    (if t.negated then negate v.1 else v.1, v.2)

theorem checkedEvaluate?_eq (t : Test) (m : Pattern → Matcher) (r : RuleInfo) (capture : Bool)
    (input : String) (x : Exchange) :
    t.checkedEvaluate? m r capture input x = some (t.evaluateBy m r capture input x) := by
  rw [checkedEvaluate?, Operator.checkedEvaluate?_eq]
  rfl

end Test

end Rampart
