import Rampart.Text.Cut

/-!
# Parts and occurrences

A separator divides a text into parts, and what does not hold the separator occurs in the text exactly
if it occurs in one of the parts. A cut is made at the first occurrence, so there is none before it.
-/

namespace Rampart.Text

variable {separator : Char} {part needle : List Char}

/-! ## Parts -/

theorem splitAt_of_notMem (h : separator ∉ part) : splitAt separator part = [part] := by
  induction part with
  | nil => rfl
  | cons c part ih =>
      obtain ⟨hc, hpart⟩ := not_or.1 (mt List.mem_cons.2 h)
      rw [splitAt, if_neg (Ne.symm hc), ih hpart]

/-- The parts of a text are those on either side of any separator in it. -/
theorem splitAt_append (separator : Char) (as bs : List Char) :
    splitAt separator (as ++ separator :: bs) = splitAt separator as ++ splitAt separator bs := by
  induction as with
  | nil => exact if_pos rfl
  | cons a as ih =>
      rw [List.cons_append, splitAt, splitAt, ih]
      split
      · rfl
      · obtain ⟨part, parts, hparts⟩ := List.exists_cons_of_ne_nil (splitAt_ne_nil separator as)
        rw [hparts]
        rfl

/-- **Parts that are joined by a separator come apart again**, if it occurs in none of them. -/
theorem splitAt_intercalate {parts : List (List Char)} (hne : parts ≠ [])
    (h : ∀ part ∈ parts, separator ∉ part) :
    splitAt separator ([separator].intercalate parts) = parts := by
  induction parts with
  | nil => exact absurd rfl hne
  | cons part parts ih =>
      obtain ⟨hpart, hparts⟩ := List.forall_mem_cons.1 h
      cases parts with
      | nil => rw [List.intercalate_singleton, splitAt_of_notMem hpart]
      | cons next parts =>
          rw [List.intercalate_cons_cons, List.append_assoc, List.singleton_append, splitAt_append,
            splitAt_of_notMem hpart, ih (List.cons_ne_nil _ _) hparts, List.singleton_append]

/-! ## Occurrences -/

/-- What does not hold a character does not reach beyond it. -/
theorem prefix_append_cons_iff (h : separator ∉ needle) (as bs : List Char) :
    needle <+: as ++ separator :: bs ↔ needle <+: as := by
  refine ⟨fun hprefix => ?_, fun hprefix => hprefix.trans (List.prefix_append _ _)⟩
  have hwhole : as ++ [separator] <+: as ++ separator :: bs :=
    ⟨bs, List.append_cons as separator bs ▸ rfl⟩
  rcases List.prefix_or_prefix_of_prefix hprefix hwhole with hshort | hlong
  · rcases List.prefix_concat_iff.1 hshort with heq | hprefix
    · exact absurd (heq ▸ List.mem_append_right _ (List.mem_singleton_self _)) h
    · exact hprefix
  · exact absurd (hlong.subset (List.mem_append_right _ (List.mem_singleton_self _))) h

/-- What does not hold a character occurs on one side of it. -/
theorem infix_append_cons_iff (h : separator ∉ needle) {as bs : List Char} :
    needle <:+: as ++ separator :: bs ↔ needle <:+: as ∨ needle <:+: bs := by
  induction as with
  | nil =>
      have hstart : needle <+: separator :: bs ↔ needle <+: [] :=
        prefix_append_cons_iff h [] bs
      rw [List.nil_append, List.infix_cons_iff, hstart, List.prefix_nil, List.infix_nil]
  | cons a as ih =>
      have hstart : needle <+: a :: (as ++ separator :: bs) ↔ needle <+: a :: as :=
        prefix_append_cons_iff h (a :: as) bs
      rw [List.cons_append, List.infix_cons_iff, List.infix_cons_iff, hstart, ih, or_assoc]

/-- **What does not hold the separator occurs in a text exactly if it occurs in one of its parts.** -/
theorem infix_iff_exists_part (h : separator ∉ needle) (cs : List Char) :
    needle <:+: cs ↔ ∃ part ∈ splitAt separator cs, needle <:+: part := by
  have hjoined (parts : List (List Char)) (hne : parts ≠ []) :
      needle <:+: [separator].intercalate parts ↔ ∃ part ∈ parts, needle <:+: part := by
    induction parts with
    | nil => exact absurd rfl hne
    | cons part parts ih =>
        cases parts with
        | nil => simp only [List.intercalate_singleton, List.mem_singleton, exists_eq_left]
        | cons next parts =>
            rw [List.intercalate_cons_cons, List.append_assoc, List.singleton_append,
              infix_append_cons_iff h, ih (List.cons_ne_nil _ _)]
            simp only [List.mem_cons (b := part), exists_eq_or_imp]
  rw [← hjoined _ (splitAt_ne_nil separator cs), intercalate_splitAt]

/-- A text is not cut exactly if there is nothing to cut it at. -/
theorem cut?_eq_none_iff {cs : List Char} : cut? needle cs = none ↔ ¬ needle <:+: cs := by
  induction cs with
  | nil =>
      rw [cut?, List.infix_nil]
      cases needle <;> simp
  | cons c cs ih =>
      rw [cut?, List.infix_cons_iff, ← List.isPrefixOf_iff_prefix]
      split
      · rename_i hstart
        simp [hstart]
      · rename_i hstart
        rw [Option.map_eq_none_iff, ih]
        simp [hstart]

theorem isSome_cut?_iff {cs : List Char} : (cut? needle cs).isSome = true ↔ needle <:+: cs := by
  rw [Option.isSome_iff_ne_none, ne_eq, cut?_eq_none_iff, Classical.not_not]

theorem prefix_of_cut? {cs before after : List Char} (h : cut? needle cs = some (before, after)) :
    before <+: cs := by
  rw [← append_of_cut? h, List.append_assoc]
  exact List.prefix_append _ _

/-- A cut is made in front of every other occurrence. -/
theorem prefix_of_cut?_of_append {needle cs before after front rest : List Char}
    (h : cut? needle cs = some (before, after)) (hoccurs : cs = front ++ (needle ++ rest)) :
    before <+: front := by
  induction cs generalizing before front with
  | nil =>
      have hbefore := (List.prefix_nil.1 (prefix_of_cut? h))
      exact hbefore ▸ List.nil_prefix
  | cons c cs ih =>
      rw [cut?] at h
      split at h
      · cases h
        exact List.nil_prefix
      · rename_i hstart
        obtain ⟨⟨later, after⟩, hlater, heq⟩ := Option.map_eq_some_iff.1 h
        cases heq
        cases front with
        | nil => exact absurd (List.isPrefixOf_iff_prefix.2 ⟨rest, hoccurs.symm⟩) hstart
        | cons d front =>
            obtain ⟨rfl, hcs⟩ := List.cons.inj hoccurs
            exact List.cons_prefix_cons.2 ⟨rfl, ih hlater hcs⟩

/-- A text is cut at the first occurrence. -/
theorem not_infix_of_cut? (hne : needle ≠ []) {cs before after : List Char}
    (h : cut? needle cs = some (before, after)) : ¬ needle <:+: before := by
  induction cs generalizing before with
  | nil =>
      rw [cut?] at h
      split at h
      · rename_i hempty
        exact absurd (List.isEmpty_iff.1 hempty) hne
      · cases h
  | cons c cs ih =>
      have hwhole := append_of_cut? h
      rw [cut?] at h
      split at h
      · cases h
        rwa [List.infix_nil]
      · rename_i hstart
        obtain ⟨⟨later, after⟩, hlater, heq⟩ := Option.map_eq_some_iff.1 h
        cases heq
        rw [List.infix_cons_iff, not_or]
        refine ⟨fun hbefore => hstart ?_, ih hlater⟩
        rw [List.isPrefixOf_iff_prefix, ← hwhole, List.append_assoc]
        exact hbefore.trans (List.prefix_append _ _)

/-- A text is cut where the first character of the needle stands for the first time, if the needle
does. -/
theorem cut?_append_of_notMem {first : Char} {before : List Char} (h : first ∉ before)
    (after : List Char) :
    cut? (first :: needle) (before ++ (first :: needle ++ after)) = some (before, after) := by
  induction before with
  | nil =>
      have hprefix : (first :: needle).isPrefixOf (first :: (needle ++ after)) = true :=
        List.isPrefixOf_iff_prefix.2 (List.prefix_append (first :: needle) after)
      rw [List.nil_append, List.cons_append, cut?, if_pos hprefix, List.length_cons,
        List.drop_succ_cons, List.drop_left]
  | cons c before ih =>
      obtain ⟨hne, hbefore⟩ := List.ne_and_not_mem_of_not_mem_cons h
      rw [List.cons_append, cut?, List.isPrefixOf, beq_false_of_ne hne, Bool.false_and,
        if_neg Bool.false_ne_true, ih hbefore]
      rfl

/-- What follows a text does not move its first cut. -/
theorem cut?_append_of_some {cs before after : List Char} (h : cut? needle cs = some (before, after))
    (rest : List Char) : cut? needle (cs ++ rest) = some (before, after ++ rest) := by
  induction cs generalizing before with
  | nil =>
      rw [cut?] at h
      split at h
      · rename_i hempty
        cases h
        rw [List.isEmpty_iff.1 hempty]
        cases rest <;> rfl
      · cases h
  | cons c cs ih =>
      have hwhole := append_of_cut? h
      rw [cut?] at h
      rw [List.cons_append, cut?]
      split at h
      · rename_i hstart
        cases h
        have hprefix := List.isPrefixOf_iff_prefix.1 hstart
        have hlonger : needle <+: c :: (cs ++ rest) := hprefix.trans (List.prefix_append _ rest)
        rw [if_pos (List.isPrefixOf_iff_prefix.2 hlonger), ← List.cons_append,
          List.drop_append_of_le_length hprefix.length_le]
      · rename_i hstart
        obtain ⟨⟨later, after⟩, hlater, heq⟩ := Option.map_eq_some_iff.1 h
        cases heq
        have hlength : needle.length ≤ (c :: cs).length := by
          rw [← hwhole, List.length_append, List.length_append]
          omega
        rw [if_neg, ih hlater]
        · rfl
        · rw [List.isPrefixOf_iff_prefix] at hstart ⊢
          rw [← List.cons_append]
          exact fun hprefix => hstart
            (List.prefix_of_prefix_length_le hprefix (List.prefix_append _ _) hlength)

/-- Where there is nothing to cut at, the cut is made behind the separator that follows. -/
theorem cut?_append_of_not_infix (h : separator ∉ needle) {cs : List Char} (hcs : ¬ needle <:+: cs)
    (rest : List Char) :
    cut? needle (cs ++ separator :: rest) =
      (cut? needle rest).map fun p => (cs ++ separator :: p.1, p.2) := by
  have hstep (c : Char) (cs : List Char) (hcs : ¬ needle <+: c :: cs) :
      cut? needle (c :: (cs ++ separator :: rest)) =
        (cut? needle (cs ++ separator :: rest)).map fun p => (c :: p.1, p.2) := by
    rw [cut?, if_neg]
    rw [List.isPrefixOf_iff_prefix, ← List.cons_append, prefix_append_cons_iff h]
    exact hcs
  induction cs with
  | nil =>
      rw [List.nil_append, cut?, if_neg]
      · rfl
      · rw [List.isPrefixOf_iff_prefix, ← List.nil_append (separator :: rest),
          prefix_append_cons_iff h]
        exact fun hprefix => hcs hprefix.isInfix
  | cons c cs ih =>
      rw [List.infix_cons_iff, not_or] at hcs
      rw [List.cons_append, hstep c cs hcs.1, ih hcs.2, Option.map_map]
      rfl

/-! ## Numbers of bytes -/

theorem splitBytes?_append (as bs : List Char) :
    splitBytes? (byteLength as) (as ++ bs) = some (as, bs) := by
  induction as with
  | nil => cases bs <;> rfl
  | cons c as ih =>
      obtain ⟨n, hn⟩ : ∃ n, byteLength (c :: as) = n + 1 := by
        have hpos := c.utf8Size_pos
        refine ⟨byteLength (c :: as) - 1, ?_⟩
        rw [byteLength_cons]
        omega
      have hrest : n + 1 - c.utf8Size = byteLength as := by
        rw [← hn, byteLength_cons]
        omega
      have hlong : ¬ n + 1 < c.utf8Size := by
        rw [← hn, byteLength_cons]
        omega
      rw [hn, List.cons_append, splitBytes?, if_neg hlong, hrest, ih]
      rfl

theorem byteLength_of_splitBytes? {n : Nat} {cs start rest : List Char}
    (h : splitBytes? n cs = some (start, rest)) : byteLength start = n := by
  induction cs generalizing n start with
  | nil =>
      cases n with
      | zero =>
          rw [splitBytes?] at h
          cases h
          rfl
      | succ n => cases h
  | cons c cs ih =>
      cases n with
      | zero =>
          rw [splitBytes?] at h
          cases h
          rfl
      | succ n =>
          rw [splitBytes?] at h
          split at h
          · cases h
          · obtain ⟨⟨later, rest⟩, hlater, heq⟩ := Option.map_eq_some_iff.1 h
            cases heq
            rw [byteLength_cons, ih hlater]
            omega

/-- A character below 128 takes one byte. -/
theorem byteLength_of_ascii {cs : List Char} (h : ∀ c ∈ cs, c.toNat < 0x80) :
    byteLength cs = cs.length := by
  induction cs with
  | nil => rfl
  | cons c cs ih =>
      obtain ⟨hc, hcs⟩ := List.forall_mem_cons.1 h
      have hsize : c.utf8Size = 1 := if_pos (Nat.le_of_lt_succ hc)
      rw [byteLength_cons, ih hcs, hsize, List.length_cons, Nat.add_comm]

end Rampart.Text
