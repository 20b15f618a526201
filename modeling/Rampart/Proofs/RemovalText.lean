import Rampart.Proofs.Numerals

/-!
# The removal of rules as it is written

An action removes a rule by its id, or the rules of a range by its ends with a minus sign between
them. The text is cut at its first minus sign, and that is also the sign of a negative number: before
the cut then stands nothing, which is no number, and the action is refused.

So what can be removed starts at an id that is written without a sign, and is not negative. What is
read is removed exactly: the ids of the interval are out of force, and beside them those that were
before.
-/

namespace Rampart

namespace Text

/-- What is read as a negative number holds a minus sign. -/
theorem nonneg_of_integer? {cs : List Char} {n : Int} (hminus : '-' ∉ cs)
    (h : integer? cs = some n) : 0 ≤ n := by
  obtain ⟨hvalue, -⟩ := Option.filter_eq_some_iff.1 h
  split at hvalue
  · exact absurd (List.mem_cons_self ..) hminus
  · obtain ⟨m, hm, rfl⟩ := Option.map_eq_some_iff.1 hvalue
    obtain ⟨k, -, hk⟩ := Option.bind_eq_some_iff.1 hm
    rw [← Option.some.inj hk]
    exact Int.natCast_nonneg k
  · obtain ⟨m, hm, rfl⟩ := Option.map_eq_some_iff.1 hvalue
    obtain ⟨k, -, hk⟩ := Option.bind_eq_some_iff.1 hm
    rw [← Option.some.inj hk]
    exact Int.natCast_nonneg k

end Text

/-! ## What a removal does -/

theorem Overrides.removesRule_removeRule {o : Overrides} {n id : Int} :
    (o.removeRule n).removesRule id = true ↔ id = n ∨ o.removesRule id = true := by
  have hrules : id ∈ (o.removeRule n).rules ↔ id = n ∨ id ∈ o.rules := by
    unfold removeRule
    dsimp only
    split
    · rename_i hold
      refine ⟨.inr, ?_⟩
      rintro (rfl | hid)
      · exact List.contains_iff_mem.1 hold
      · exact hid
    · rw [List.mem_append, List.mem_singleton, or_comm]
  have hranges : (o.removeRule n).ranges = o.ranges := rfl
  unfold removesRule
  rw [Bool.or_eq_true, Bool.or_eq_true, List.contains_iff_mem, List.contains_iff_mem, hrules, hranges,
    or_assoc]

namespace Action

/-- The action puts the rules of an interval out of force, whatever rule it belongs to and whenever it
runs. The others that are out of force afterwards were so before. -/
def Removes (a : Action) (first last : Int) : Prop :=
  ∀ r x m id, (run r x m a).1.tx.decision.overrides.removesRule id = true ↔
    (first ≤ id ∧ id ≤ last) ∨ x.tx.decision.overrides.removesRule id = true

theorem removes_removeRules (first last : Int) :
    (Action.control (.removeRules first last)).Removes first last := by
  intro r x m id
  have hrun : (run r x m (.control (.removeRules first last))).1.tx.decision.overrides =
      applyControl x.tx.decision.overrides (.removeRules first last) := rfl
  rw [hrun, applyControl]
  split
  · rename_i hone
    rw [Overrides.removesRule_removeRule, ← hone, Int.le_antisymm_iff, and_comm]
  · rw [Overrides.removesRule_removeRange, Bool.or_eq_true, Bool.and_eq_true, decide_eq_true_iff,
      decide_eq_true_iff, or_comm]

/-! ## How it is read -/

/-- The removal of the rules that a value names. -/
def removalText (value : String) : String := "ctl:" ++ ("ruleRemoveById=" ++ value)

/-- A range of ids as a value. -/
def rangeText (first last : Int) : String := Text.decimal first ++ "-" ++ Text.decimal last

/-- The error of a value that has nothing before its first minus sign. -/
def nothingBeforeMinus : Error := .invalidParameter "ctl" "" "expected a number"

end Action

/-- An entry with a colon is read by the name before its first colon and the value behind it. -/
theorem Directive.ofText_of_cut {s : String} {name value : List Char} {d : Except Error Directive}
    (htext : Text.trimChars s.toList = name ++ ':' :: value) (hname : ':' ∉ name)
    (hd : ofName? (Text.lower (String.ofList (Text.trimChars name)))
      (String.ofList (Action.unquote (Text.trimChars value))) = some d) : ofText s = d := by
  unfold ofText
  rw [htext]
  dsimp only
  rw [Text.cutAt?_append_cons hname]
  dsimp only
  rw [hd]

namespace Action

theorem controlOf_removal (value : List Char) :
    controlOf (String.ofList ("ruleRemoveById=".toList ++ value)) =
      (removeRulesOf (Text.trim (String.ofList value))).map .control := by
  have hoption : "ruleRemoveById=".toList ++ value = "ruleRemoveById".toList ++ '=' :: value := by
    simp
  have hunequal : '=' ∉ "ruleRemoveById".toList := by decide +kernel
  have hcut : Text.splitOnce? '=' (String.ofList ("ruleRemoveById=".toList ++ value)) =
      some ("ruleRemoveById", String.ofList value) := by
    unfold Text.splitOnce?
    rw [String.toList_ofList, hoption, Text.cutAt?_append_cons hunequal, Option.map_some,
      String.ofList_toList]
  have hlower : Text.lower (Text.trim "ruleRemoveById") = "ruleremovebyid" := by decide +kernel
  unfold controlOf
  rw [hcut]
  dsimp only
  rw [hlower]
  rfl

/-- **A removal is read** as its trimmed value is. -/
theorem ofText_removalText (value : String) :
    Directive.ofText (removalText value) =
      ((removeRulesOf (Text.trim value)).map .control).map .action := by
  have hctl : ∀ c ∈ "ctl:".toList, Text.isBlank c = false := fun c hc =>
    Bool.eq_false_iff.2 (List.any_eq_false.1 (by decide +kernel) c hc)
  have hoption : ∀ c ∈ "ruleRemoveById=".toList, Text.isBlank c = false := fun c hc =>
    Bool.eq_false_iff.2 (List.any_eq_false.1 (by decide +kernel) c hc)
  have hne : "ruleRemoveById=".toList ≠ [] := by decide +kernel
  have htext : Text.trimChars (removalText value).toList =
      "ctl".toList ++ ':' :: ("ruleRemoveById=".toList ++ Text.trimRight value.toList) := by
    unfold removalText
    rw [String.toList_append, String.toList_append, Text.trimChars_of_unblank (by decide +kernel) hctl,
      Text.trimRight_of_unblank hoption]
    simp
  have hunquoted : unquote (Text.trimChars ("ruleRemoveById=".toList ++ Text.trimRight value.toList)) =
      "ruleRemoveById=".toList ++ Text.trimRight (Text.trimRight value.toList) := by
    rw [Text.trimChars_of_unblank hne hoption]
    exact if_neg fun hquoted => absurd hquoted.2.1 (by simp)
  have hname : Text.lower (String.ofList (Text.trimChars "ctl".toList)) = "ctl" := by decide +kernel
  have hvalue : Text.trim (String.ofList (Text.trimRight (Text.trimRight value.toList))) =
      Text.trim value := by
    unfold Text.trim
    rw [String.toList_ofList, Text.trimChars_trimRight, Text.trimChars_trimRight]
  refine Directive.ofText_of_cut htext (by decide +kernel) ?_
  rw [hname, hunquoted]
  change some ((controlOf _).map Directive.action) = _
  rw [controlOf_removal, hvalue]

/-! ## One id, and a range -/

section Values

variable {n first last : Int}

theorem trim_decimal (n : Int) : Text.trim (Text.decimal n) = Text.decimal n := by
  unfold Text.trim
  rw [Text.trimChars_eq_self fun c hc => (Text.numeric_decimal n c hc).not_blank, String.ofList_toList]

theorem trim_rangeText (first last : Int) :
    Text.trim (rangeText first last) = rangeText first last := by
  have hunblank : ∀ c ∈ (rangeText first last).toList, Text.isBlank c = false := by
    intro c hc
    unfold rangeText at hc
    rw [String.toList_append, String.toList_append, List.mem_append, List.mem_append] at hc
    rcases hc with (hc | hc) | hc
    · exact (Text.numeric_decimal first c hc).not_blank
    · rw [List.mem_singleton.1 hc]
      decide +kernel
    · exact (Text.numeric_decimal last c hc).not_blank
  unfold Text.trim
  rw [Text.trimChars_eq_self hunblank, String.ofList_toList]

theorem integer_decimal (hmin : Text.minInt ≤ n) (hmax : n ≤ Text.maxInt) (name : String) :
    integer name (Text.decimal n) = .ok n := by
  unfold integer
  rw [Text.trimChars_eq_self fun c hc => (Text.numeric_decimal n c hc).not_blank,
    Text.integer?_decimal hmin hmax]

/-- A number that is not negative is written without a minus sign. -/
theorem minus_notMem_decimal (h : 0 ≤ n) : '-' ∉ (Text.decimal n).toList := by
  rw [Text.toList_decimal, if_neg (Int.not_lt.2 h), List.nil_append]
  intro hminus
  exact absurd (Text.isDigit_of_mem_toDigits _ hminus) (by decide)

/-- A value that starts with a minus sign has no number before it. -/
theorem removeRulesOf_of_minus {value : String} (h : value.toList.head? = some '-') :
    removeRulesOf value = .error nothingBeforeMinus := by
  obtain ⟨rest, hrest⟩ := List.head?_eq_some_iff.1 h
  unfold removeRulesOf Text.splitOnce?
  rw [hrest]
  rfl

theorem removeRulesOf_decimal (hmin : Text.minInt ≤ n) (hmax : n ≤ Text.maxInt) :
    removeRulesOf (Text.decimal n) =
      if n < 0 then .error nothingBeforeMinus else .ok (.removeRules n n) := by
  split
  · rename_i hneg
    refine removeRulesOf_of_minus ?_
    rw [Text.toList_decimal, if_pos hneg, List.singleton_append, List.head?_cons]
  · rename_i hneg
    unfold removeRulesOf Text.splitOnce?
    rw [Text.cutAt?_eq_none (minus_notMem_decimal (Int.not_lt.1 hneg)), Option.map_none]
    dsimp only
    rw [integer_decimal hmin hmax]
    rfl

theorem removeRulesOf_rangeText (hmin : Text.minInt ≤ first) (hle : first ≤ last)
    (hmax : last ≤ Text.maxInt) :
    removeRulesOf (rangeText first last) =
      if first < 0 then .error nothingBeforeMinus else .ok (.removeRules first last) := by
  have htext : (rangeText first last).toList =
      (Text.decimal first).toList ++ '-' :: (Text.decimal last).toList := by
    unfold rangeText
    rw [String.toList_append, String.toList_append, List.append_assoc]
    rfl
  split
  · rename_i hneg
    refine removeRulesOf_of_minus ?_
    rw [htext, Text.toList_decimal, if_pos hneg, List.singleton_append, List.cons_append,
      List.head?_cons]
  · rename_i hneg
    have hcut : Text.splitOnce? '-' (rangeText first last) =
        some (Text.decimal first, Text.decimal last) := by
      unfold Text.splitOnce?
      rw [htext, Text.cutAt?_append_cons (minus_notMem_decimal (Int.not_lt.1 hneg)), Option.map_some,
        String.ofList_toList, String.ofList_toList]
    unfold removeRulesOf
    rw [hcut]
    dsimp only
    rw [integer_decimal hmin (Int.le_trans hle hmax),
      integer_decimal (Int.le_trans hmin hle) hmax]
    rfl

/-- Whatever the value is, the rules it names start at an id that is not negative. -/
theorem nonneg_of_removeRulesOf {value : String} {c : Control} (h : removeRulesOf value = .ok c) :
    ∃ first last, c = .removeRules first last ∧ 0 ≤ first := by
  -- a number before the first minus sign, or in a text without one, holds none
  have key {name text : String} {n : Int} (hminus : '-' ∉ text.toList)
      (hn : integer name text = .ok n) : 0 ≤ n := by
    have htrimmed : '-' ∉ Text.trimChars text.toList := by
      obtain ⟨l, r, -, -, hcs⟩ := Text.exists_blanks_around text.toList
      intro hmem
      refine hminus ?_
      rw [hcs]
      exact List.mem_append_left _ (List.mem_append_right _ hmem)
    unfold integer at hn
    split at hn
    · rename_i m hm
      obtain rfl := Except.ok.inj hn
      exact Text.nonneg_of_integer? htrimmed hm
    · cases hn
  unfold removeRulesOf at h
  split at h
  · rename_i first last hcut
    obtain ⟨⟨before, after⟩, hcut, hparts⟩ := Option.map_eq_some_iff.1 hcut
    obtain ⟨hfirst, -⟩ := Prod.mk.inj hparts
    obtain ⟨a, ha, h⟩ := bind_eq_ok.1 h
    obtain ⟨b, -, h⟩ := bind_eq_ok.1 h
    refine ⟨a, b, (Except.ok.inj h).symm, key ?_ ha⟩
    rw [← hfirst, String.toList_ofList]
    intro hmem
    exact nomatch Text.stop_eq_false_of_cutAt? hcut '-' hmem
  · rename_i hcut
    obtain ⟨n, hn, h⟩ := map_eq_ok.1 h
    refine ⟨n, n, h.symm, key ?_ hn⟩
    intro hmem
    exact nomatch Text.stop_eq_false_of_cutAt?_eq_none (Option.map_eq_none_iff.1 hcut) '-' hmem

theorem ofText_removal_decimal (hmin : Text.minInt ≤ n) (hmax : n ≤ Text.maxInt) :
    Directive.ofText (removalText (Text.decimal n)) =
      if n < 0 then .error nothingBeforeMinus else .ok (.action (.control (.removeRules n n))) := by
  rw [ofText_removalText, trim_decimal, removeRulesOf_decimal hmin hmax]
  split
  · rfl
  · rfl

theorem ofText_removal_rangeText (hmin : Text.minInt ≤ first) (hle : first ≤ last)
    (hmax : last ≤ Text.maxInt) :
    Directive.ofText (removalText (rangeText first last)) =
      if first < 0 then .error nothingBeforeMinus
      else .ok (.action (.control (.removeRules first last))) := by
  rw [ofText_removalText, trim_rangeText, removeRulesOf_rangeText hmin hle hmax]
  split
  · rfl
  · rfl

end Values

/--
**What a written removal reaches.**

The removal of an id of 64 bits can be read exactly if the id is not negative, and that of a range of
such ids exactly if its first one is not; what is read puts the id, or the ids of the interval, out of
force and leaves the others as they were. Otherwise it is refused for having no number before its
first minus sign. Whatever value a removal has, if it can be read, it starts at an id that is not
negative.
-/
theorem removal_reaches_iff (n first last : Int) :
    (Text.minInt ≤ n → n ≤ Text.maxInt →
      ((∃ a, Directive.ofText (removalText (Text.decimal n)) = .ok (.action a) ∧ a.Removes n n) ↔
        0 ≤ n) ∧
      (n < 0 → Directive.ofText (removalText (Text.decimal n)) = .error nothingBeforeMinus)) ∧
    (Text.minInt ≤ first → first < last → last ≤ Text.maxInt →
      ((∃ a, Directive.ofText (removalText (rangeText first last)) = .ok (.action a) ∧
        a.Removes first last) ↔ 0 ≤ first) ∧
      (first < 0 →
        Directive.ofText (removalText (rangeText first last)) = .error nothingBeforeMinus)) ∧
    ∀ value d, Directive.ofText (removalText value) = .ok d →
      ∃ a lowest highest, d = .action a ∧ a.Removes lowest highest ∧ 0 ≤ lowest := by
  -- what can be read if it is not negative, and is refused otherwise, is read exactly then
  have key {text : String} {first last : Int} (h : Directive.ofText text =
      if first < 0 then .error nothingBeforeMinus
      else .ok (.action (.control (.removeRules first last)))) :
      ((∃ a, Directive.ofText text = .ok (.action a) ∧ a.Removes first last) ↔ 0 ≤ first) ∧
        (first < 0 → Directive.ofText text = .error nothingBeforeMinus) := by
    refine ⟨⟨?_, fun hfirst => ?_⟩, fun hneg => h.trans (if_pos hneg)⟩
    · rintro ⟨a, ha, -⟩
      by_contra hneg
      rw [h, if_pos (Int.not_le.1 hneg)] at ha
      cases ha
    · exact ⟨_, h.trans (if_neg (Int.not_lt.2 hfirst)), removes_removeRules first last⟩
  refine ⟨fun hmin hmax => key (ofText_removal_decimal hmin hmax), ?_, ?_⟩
  · intro hmin hlt hmax
    exact key (ofText_removal_rangeText hmin (Int.le_of_lt hlt) hmax)
  · intro value d hd
    rw [ofText_removalText] at hd
    obtain ⟨a, ha, rfl⟩ := map_eq_ok.1 hd
    obtain ⟨c, hc, rfl⟩ := map_eq_ok.1 ha
    obtain ⟨lowest, highest, rfl, hlowest⟩ := nonneg_of_removeRulesOf hc
    exact ⟨_, lowest, highest, rfl, removes_removeRules lowest highest, hlowest⟩

/-- The removal of the greatest id, and of all ids that are not negative. -/
theorem removal_reaches_iff_greatest :
    Text.minInt ≤ 0 ∧ (0 : Int) < Text.maxInt ∧ Text.maxInt ≤ Text.maxInt ∧
    (∃ a, Directive.ofText (removalText (Text.decimal Text.maxInt)) = .ok (.action a) ∧
      a.Removes Text.maxInt Text.maxInt) ∧
    (∃ a, Directive.ofText (removalText (rangeText 0 Text.maxInt)) = .ok (.action a) ∧
      a.Removes 0 Text.maxInt) ∧
    ∃ a first last, Directive.action (.control (.removeRules 100 200)) = .action a ∧
      a.Removes first last ∧ 0 ≤ first := by
  have hread : Directive.ofText (removalText (rangeText 100 200)) =
      .ok (.action (.control (.removeRules 100 200))) := by
    rw [ofText_removal_rangeText (by decide) (by decide) (by decide), if_neg (by decide)]
  obtain ⟨hone, hrange, hany⟩ := removal_reaches_iff Text.maxInt 0 Text.maxInt
  exact ⟨by decide, by decide, by decide, (hone (by decide) (by decide)).1.2 (by decide),
    (hrange (by decide) (by decide) (by decide)).1.2 (by decide), hany _ _ hread⟩

end Action

/-- A rule with a negative id is taken into a set, but its removal cannot be read, and neither can
that of a range from it on. -/
theorem RuleSet.negative_id_not_removed :
    ∃ c, Chain.ofSettings .empty ⟨{ id := -5 }, []⟩ = .ok c ∧ c.id = -5 ∧
      (empty.add c).1 = .ok () ∧ empty.size + 1 = (empty.add c).2.size ∧
      Action.removalText (Text.decimal c.id) = "ctl:ruleRemoveById=-5" ∧
      (∀ a, Directive.ofText (Action.removalText (Text.decimal c.id)) ≠ .ok (.action a)) ∧
      Action.removalText (Action.rangeText c.id (-3)) = "ctl:ruleRemoveById=-5--3" ∧
      ∀ a, Directive.ofText (Action.removalText (Action.rangeText c.id (-3))) ≠ .ok (.action a) := by
  have hread : (Chain.ofSettings .empty ⟨{ id := -5 }, []⟩).toOption.map (fun c =>
      (c.id, (empty.add c).2.size)) = some (-5, 1) := by decide +kernel
  obtain ⟨c, hc, hadded⟩ := exists_ok_of_map hread
  obtain ⟨hid, hsize⟩ := Prod.mk.inj hadded
  have hone : Directive.ofText (Action.removalText (Text.decimal c.id)) =
      .error Action.nothingBeforeMinus := by
    rw [hid, Action.ofText_removal_decimal (by decide) (by decide), if_pos (by decide)]
  have hrange : Directive.ofText (Action.removalText (Action.rangeText c.id (-3))) =
      .error Action.nothingBeforeMinus := by
    rw [hid, Action.ofText_removal_rangeText (by decide) (by decide) (by decide),
      if_pos (by decide)]
  have hrefused {text : String} (h : Directive.ofText text = .error Action.nothingBeforeMinus)
      (a : Action) : Directive.ofText text ≠ .ok (.action a) := by
    rw [h]
    exact nofun
  refine ⟨c, hc, hid, ?_, hsize.symm, ?_, hrefused hone, ?_, hrefused hrange⟩
  · rw [add_eq_ok_iff, hid]
    exact ⟨by decide, rfl⟩
  · rw [hid]
    decide +kernel
  · rw [hid]
    decide +kernel

end Rampart
