import Rampart.Operator.Reference
import Rampart.Proofs.Exhibit
import Rampart.Proofs.Numerals
import Rampart.Proofs.ReaderAgreement

/-!
# Comparisons with written integers

The parameter of a comparison is an integer, or a reference to a key that holds one. The integer is
read strictly when the rule is compiled, the text under the key leniently when the rule is asked. The
two agree on every integer of 64 bits but the least one; and since no value is ever read as the least
integer, they make a difference there only for the values that are read as the one above it.
-/

namespace Rampart

/-! ## What a comparison compares to -/

/-- A transaction always reaches the whole of its own collection. -/
theorem Exchange.view?_own (x : Exchange) :
    x.view? CollectionName.tx.text = some ⟨.own, .whole⟩ := by
  unfold Exchange.view?
  rw [if_pos (by decide +kernel)]

theorem Compartment.key_whole (k : String) : Compartment.whole.key k = k := String.empty_append

/-- A variable shows the texts under a key of the collection of the transaction, the last one first. -/
theorem Variable.texts_evaluate_own {k : String} (hk : k.isEmpty = false) (r : RuleInfo)
    (x : Exchange) :
    ((collection .tx (.key k) .none).evaluate r x).1.map Value.text = CollectionName.tx.textsAt x k := by
  have hread : ((collection .tx (.key k) .none).evaluate r x).1 =
      (x.tx.own.readMany x.now k .none).1 := by
    unfold evaluate
    rw [x.view?_own]
    rfl
  have hid : Value.text ∘ Value.keyed x.tx.own.name k = id := rfl
  rw [hread, Collection.readMany_key _ _ hk, Exclusions.omits_none, if_neg Bool.false_ne_true,
    List.map_map, hid, List.map_id]
  unfold CollectionName.textsAt
  rw [x.view?_own]
  dsimp only
  rw [Compartment.key_whole]
  rfl

namespace Operator

variable {n : Int}

/-- A written integer is its own parameter. -/
theorem numberOf_decimal (test : NumberTest) (hmin : Text.minInt ≤ n) (hmax : n ≤ Text.maxInt) :
    numberOf test (Text.decimal n) =
      .ok (.number test (.literal (Text.decimal n)) (some n)) := by
  have hunopened : Text.cut? ['%', '\x7b'] (Text.decimal n).toList = none :=
    Text.cut?_eq_none (fun h => absurd (Text.numeric_decimal n _ h).1 (by decide)) _
  have htrim : Text.trim (MacroText.literal (Text.decimal n)).raw = Text.decimal n := by
    unfold Text.trim MacroText.literal
    dsimp only
    rw [Text.trimChars_eq_self fun c hc => (Text.numeric_decimal n c hc).not_blank,
      String.ofList_toList]
  unfold numberOf
  rw [MacroText.ofText_of_unopened hunopened]
  dsimp only [bind, Except.bind]
  rw [MacroText.hasReference_literal, if_neg Bool.false_ne_true, htrim,
    Text.integer?_decimal hmin hmax]

/-- A reference to a plain key is expanded when the rule is asked. -/
theorem numberOf_reference (test : NumberTest) {c : CollectionName} {name k : String}
    (hname : Text.upper name = c.text) (hk : PlainKey k) :
    let written := "%\x7b" ++ name ++ "." ++ k ++ "\x7d"
    numberOf test written =
      .ok (.number test ⟨written, [.reference (.collection c (.key k) .none)]⟩ none) := by
  intro written
  unfold numberOf
  rw [MacroText.ofText_plainKey hname hk]
  rfl

/-- The reference compares to the integer that the last text under the key starts with. -/
theorem evaluate_reference (test : NumberTest) (raw : String) {k text : String}
    (hk : k.isEmpty = false) {x : Exchange}
    (htext : (CollectionName.tx.textsAt x k).head? = some text) (r : RuleInfo) (capture : Bool)
    (input : String) :
    ((number test ⟨raw, [.reference (.collection .tx (.key k) .none)]⟩ none).evaluate
      r capture input x).1 =
      .ofBool (test.holds (Text.leadingInt input) (Text.leadingInt text)) := by
  rw [evaluate]
  dsimp only
  rw [MacroText.expand_reference, Variable.texts_evaluate_own hk, htext, Option.getD_some]

end Operator

namespace NumberTest

/-- A value is never below the integer above the least one, so only the comparisons that tell apart
what is equal to it and what is above it notice whether they compare to it or to the least one. -/
theorem holds_least_iff (test : NumberTest) {a : Int} (ha : Text.minInt < a) :
    test.holds a Text.minInt = test.holds a (Text.minInt + 1) ↔
      test = .ge ∨ test = .lt ∨ a ≠ Text.minInt + 1 := by
  cases test with
  | eq =>
      have hleast : (a == Text.minInt) = false := beq_false_of_ne (Int.ne_of_gt ha)
      simp [holds, hleast]
  | ge =>
      have habove : Text.minInt + 1 ≤ a := ha
      simp [holds, habove, Int.le_of_lt ha]
  | gt =>
      simp only [holds, decide_eq_decide, reduceCtorEq, false_or]
      omega
  | le =>
      simp only [holds, decide_eq_decide, reduceCtorEq, false_or]
      omega
  | lt =>
      simp only [holds, decide_eq_decide, reduceCtorEq, false_or, true_or, iff_true]
      omega

/--
**Integers read back as they were written, but for the least one.**

Behind any blanks and in front of anything but a digit, the decimal text of an integer of 64 bits is
read as that integer, except that the least integer is read as the one above it. So a comparison with
a written integer and one with a reference to a key under which the integer stands give the same
verdict on every value, unless the integer is the least one, the value is read as the one above it and
the comparison tells the two apart.
-/
theorem integers_read_back_iff {n : Int} (hmin : Text.minInt ≤ n) (hmax : n ≤ Text.maxInt) :
    (∀ blanks suffix : List Char, Text.AllBlank blanks → (∀ c ∈ suffix.head?, c.isDigit = false) →
      Text.leadingInt (String.ofList (blanks ++ (Text.decimal n).toList ++ suffix)) =
        if n = Text.minInt then Text.minInt + 1 else n) ∧
    ∀ (test : NumberTest) (name k : String), Text.upper name = CollectionName.tx.text → PlainKey k →
      ∃ written reference,
        Operator.numberOf test (Text.decimal n) = .ok written ∧
        Operator.numberOf test ("%\x7b" ++ name ++ "." ++ k ++ "\x7d") = .ok reference ∧
        ∀ (r : RuleInfo) (capture : Bool) (input : String) (x : Exchange),
          (CollectionName.tx.textsAt x k).head? = some (Text.decimal n) →
            ((written.evaluate r capture input x).1 = (reference.evaluate r capture input x).1 ↔
              n ≠ Text.minInt ∨ test = .ge ∨ test = .lt ∨
                Text.leadingInt input ≠ Text.minInt + 1) := by
  refine ⟨fun blanks suffix => Text.leadingInt_decimal_of_fits hmin hmax, fun test name k hname hk => ?_⟩
  refine ⟨_, _, Operator.numberOf_decimal test hmin hmax, Operator.numberOf_reference test hname hk,
    fun r capture input x htext => ?_⟩
  have hverdicts (b b' : Bool) : Verdict.ofBool b = Verdict.ofBool b' ↔ b = b' := by
    cases b <;> cases b' <;> decide
  rw [Operator.evaluate_reference test _ hk.nonempty htext,
    Text.leadingInt_decimal_self hmin hmax, Operator.evaluate]
  dsimp only
  rw [hverdicts]
  split
  · rename_i hleast
    rw [hleast, holds_least_iff test (Text.leadingInt_between input).1]
    simp
  · rename_i hother
    simp [hother]

/-- An exchange that keeps a text under one key of the collection of the transaction. -/
def tallied (text : String) : Exchange where
  tx :=
    { Transaction.new "tallied" 0 .empty with
      own := (Collection.empty Transaction.ownName).store "tally" text }
  shelf := .empty
  now := 0

theorem textsAt_tallied (text : String) : CollectionName.tx.textsAt (tallied text) "tally" = [text] := by
  unfold CollectionName.textsAt
  rw [Exchange.view?_own]
  dsimp only
  rw [Compartment.key_whole]
  exact (textsAt_store_empty _ "tally" text "tally" _).trans (if_pos (Text.sameText_refl _))

/-- A negative number between a blank and a letter reads back, and the comparisons agree on it. -/
theorem integers_read_back_iff_negative :
    Text.minInt ≤ -7 ∧ -7 ≤ Text.maxInt ∧ Text.AllBlank [' '] ∧
      Text.leadingInt (String.ofList ([' '] ++ (Text.decimal (-7)).toList ++ ['s'])) = -7 ∧
      Text.upper "tx" = CollectionName.tx.text ∧ PlainKey "tally" ∧
      (CollectionName.tx.textsAt (tallied (Text.decimal (-7))) "tally").head? =
        some (Text.decimal (-7)) ∧
      ∃ written reference,
        Operator.numberOf .eq (Text.decimal (-7)) = .ok written ∧
        Operator.numberOf .eq ("%\x7b" ++ "tx" ++ "." ++ "tally" ++ "\x7d") = .ok reference ∧
        ∀ input, (written.evaluate {} false input (tallied (Text.decimal (-7)))).1 =
          (reference.evaluate {} false input (tallied (Text.decimal (-7)))).1 := by
  have hmin : Text.minInt ≤ -7 := by decide
  have hmax : -7 ≤ Text.maxInt := by decide
  have hblank : Text.AllBlank [' '] := List.forall_mem_singleton.2 (by decide +kernel)
  have hletter : ∀ c ∈ ['s'].head?, c.isDigit = false := by
    rintro c ⟨⟩
    rfl
  have hname : Text.upper "tx" = CollectionName.tx.text := by decide +kernel
  have htext : (CollectionName.tx.textsAt (tallied (Text.decimal (-7))) "tally").head? =
      some (Text.decimal (-7)) := by
    rw [textsAt_tallied]
    rfl
  obtain ⟨hread, hagree⟩ := integers_read_back_iff hmin hmax
  obtain ⟨written, reference, hwritten, hreference, hverdicts⟩ :=
    hagree .eq "tx" "tally" hname Session.plainKey_tally
  exact ⟨hmin, hmax, hblank, hread [' '] ['s'] hblank hletter, hname, Session.plainKey_tally, htext,
    written, reference, hwritten, hreference,
    fun input => (hverdicts {} false input _ htext).2 (.inl (by decide))⟩

/-- The least integer is not read back, and a value that is equal to it is found unequal to it. -/
theorem least_integer_misread :
    Text.leadingInt (Text.decimal Text.minInt) ≠ Text.minInt ∧
      ∃ written reference,
        Operator.numberOf .eq (Text.decimal Text.minInt) = .ok written ∧
        Operator.numberOf .eq ("%\x7b" ++ "TX" ++ "." ++ "tally" ++ "\x7d") = .ok reference ∧
        CollectionName.tx.textsAt (tallied (Text.decimal Text.minInt)) "tally" =
          [Text.decimal Text.minInt] ∧
        (written.evaluate {} false (Text.decimal Text.minInt)
            (tallied (Text.decimal Text.minInt))).1 = .no ∧
        (reference.evaluate {} false (Text.decimal Text.minInt)
            (tallied (Text.decimal Text.minInt))).1 = .yes := by
  have hleast : Text.leadingInt (Text.decimal Text.minInt) = Text.minInt + 1 := by decide +kernel
  have hname : Text.upper "TX" = CollectionName.tx.text := by decide +kernel
  have htexts := textsAt_tallied (Text.decimal Text.minInt)
  refine ⟨by rw [hleast]; decide, _, _, Operator.numberOf_decimal .eq (by decide) (by decide),
    Operator.numberOf_reference .eq hname Session.plainKey_tally, htexts, ?_, ?_⟩
  · rw [Operator.evaluate, hleast]
    rfl
  · rw [Operator.evaluate_reference .eq _ Session.plainKey_tally.nonempty
      (congrArg List.head? htexts), hleast]
    rfl

end NumberTest

end Rampart
