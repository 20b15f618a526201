import Mathlib.Data.List.DropRight
import Rampart.Text.Blank
import Rampart.Text.Cut

/-!
# Trimmed texts and cuts

Readers trim what they are given, cut it and trim the parts. Blanks at the ends of the whole make no
difference to that, since no blank is a mark at which a text is cut.
-/

namespace Rampart.Text

/-- A text of blanks alone. -/
def AllBlank (cs : List Char) : Prop := ∀ c ∈ cs, isBlank c = true

/-! ## Trimming -/

theorem trimLeft_append_of_allBlank {l : List Char} (h : AllBlank l) (cs : List Char) :
    trimLeft (l ++ cs) = trimLeft cs := List.dropWhile_append_of_pos h

theorem trimRight_append_of_allBlank {r : List Char} (h : AllBlank r) (cs : List Char) :
    trimRight (cs ++ r) = trimRight cs := by
  unfold trimRight
  rw [List.reverse_append, List.dropWhile_append_of_pos fun c hc => h c (List.mem_reverse.1 hc)]

theorem trimLeft_eq_nil_of_allBlank {cs : List Char} (h : AllBlank cs) : trimLeft cs = [] :=
  List.dropWhile_eq_nil_iff.2 h

/-- Blanks before a text are trimmed away. -/
theorem trimChars_append_left {l : List Char} (h : AllBlank l) (cs : List Char) :
    trimChars (l ++ cs) = trimChars cs := by
  unfold trimChars
  rw [trimLeft_append_of_allBlank h]

/-- Blanks behind a text are trimmed away. -/
theorem trimChars_append_right {r : List Char} (h : AllBlank r) (cs : List Char) :
    trimChars (cs ++ r) = trimChars cs := by
  have happ : trimLeft (cs ++ r) = if (trimLeft cs).isEmpty then trimLeft r else trimLeft cs ++ r :=
    List.dropWhile_append
  unfold trimChars
  rw [happ]
  split
  · rename_i hcs
    rw [trimLeft_eq_nil_of_allBlank h, List.isEmpty_iff.1 hcs]
  · exact trimRight_append_of_allBlank h (trimLeft cs)

/-- Trimming takes blanks off both ends, and nothing else. -/
theorem exists_blanks_around (cs : List Char) :
    ∃ l r, AllBlank l ∧ AllBlank r ∧ cs = l ++ trimChars cs ++ r := by
  have hl : AllBlank (cs.takeWhile isBlank) := fun c hc => List.mem_takeWhile_imp hc
  have hr : AllBlank ((trimLeft cs).rtakeWhile isBlank) := fun c hc => List.mem_rtakeWhile_imp hc
  refine ⟨_, _, hl, hr, ?_⟩
  have hright : trimChars cs ++ (trimLeft cs).rtakeWhile isBlank = trimLeft cs :=
    List.rdropWhile_append_rtakeWhile
  rw [List.append_assoc, hright]
  exact List.takeWhile_append_dropWhile.symm

/-- Where there is no blank, there is nothing to trim. -/
theorem trimChars_eq_self {cs : List Char} (h : ∀ c ∈ cs, isBlank c = false) : trimChars cs = cs := by
  obtain ⟨l, r, hl, hr, hcs⟩ := exists_blanks_around cs
  have hnil (as : List Char) (has : AllBlank as) (hsub : ∀ c ∈ as, c ∈ cs) : as = [] := by
    rw [List.eq_nil_iff_forall_not_mem]
    intro c hc
    exact nomatch (has c hc).symm.trans (h c (hsub c hc))
  have hl' := hnil l hl fun c hc => by rw [hcs]; simp [hc]
  have hr' := hnil r hr fun c hc => by rw [hcs]; simp [hc]
  rw [hl', hr', List.nil_append, List.append_nil] at hcs
  exact hcs.symm

/-- **A trimmed text is trimmed already.** -/
theorem trimChars_trimChars (cs : List Char) : trimChars (trimChars cs) = trimChars cs := by
  obtain ⟨l, r, hl, hr, hcs⟩ := exists_blanks_around cs
  conv_rhs => rw [hcs, trimChars_append_right hr, trimChars_append_left hl]

/-- A text that starts with a mark keeps it when it is trimmed. -/
theorem trimChars_cons {c : Char} (h : isBlank c = false) (cs : List Char) :
    ∃ rest, trimChars (c :: cs) = c :: rest := by
  have hleft : trimLeft (c :: cs) = c :: cs := by
    unfold trimLeft
    rw [List.dropWhile_cons, h]
    rfl
  refine ⟨(cs.reverse.dropWhile isBlank).reverse, ?_⟩
  unfold trimChars trimRight
  rw [hleft, List.reverse_cons, List.dropWhile_append]
  split
  · rename_i hcs
    rw [List.isEmpty_iff.1 hcs, List.dropWhile_cons, h]
    rfl
  · rw [List.reverse_append]
    rfl

/-! ## Behind a text without blanks -/

theorem trimLeft_of_unblank {p : List Char} (hne : p ≠ []) (h : ∀ c ∈ p, isBlank c = false)
    (cs : List Char) : trimLeft (p ++ cs) = p ++ cs := by
  obtain ⟨c, p, rfl⟩ := List.exists_cons_of_ne_nil hne
  unfold trimLeft
  rw [List.cons_append, List.dropWhile_cons, h c (List.mem_cons_self ..)]
  rfl

theorem trimRight_of_unblank {p : List Char} (h : ∀ c ∈ p, isBlank c = false) (cs : List Char) :
    trimRight (p ++ cs) = p ++ trimRight cs := by
  have hstop : p.reverse.dropWhile isBlank = p.reverse := by
    cases hp : p.reverse with
    | nil => rfl
    | cons c rest =>
        have hc : c ∈ p := List.mem_reverse.1 (hp ▸ List.mem_cons_self ..)
        rw [List.dropWhile_cons, h c hc]
        rfl
  unfold trimRight
  rw [List.reverse_append, List.dropWhile_append]
  split
  · rename_i hcs
    rw [hstop, List.isEmpty_iff.1 hcs, List.reverse_reverse, List.reverse_nil, List.append_nil]
  · rw [List.reverse_append, List.reverse_reverse]

/-- Behind a text without blanks only the end is trimmed. -/
theorem trimChars_of_unblank {p : List Char} (hne : p ≠ []) (h : ∀ c ∈ p, isBlank c = false)
    (cs : List Char) : trimChars (p ++ cs) = p ++ trimRight cs := by
  unfold trimChars
  rw [trimLeft_of_unblank hne h, trimRight_of_unblank h]

/-- The blanks at the end of a text are among those that trimming takes off. -/
theorem trimChars_trimRight (cs : List Char) : trimChars (trimRight cs) = trimChars cs := by
  have hblank : AllBlank (cs.rtakeWhile isBlank) := fun c hc => List.mem_rtakeWhile_imp hc
  have hcs : trimRight cs ++ cs.rtakeWhile isBlank = cs := List.rdropWhile_append_rtakeWhile
  calc trimChars (trimRight cs)
      = trimChars (trimRight cs ++ cs.rtakeWhile isBlank) := (trimChars_append_right hblank _).symm
    _ = trimChars cs := by rw [hcs]

/-! ## Cuts at a character -/

variable {stop : Char → Bool}

theorem cutAt?_append_left {l : List Char} (h : ∀ c ∈ l, stop c = false) (cs : List Char) :
    cutAt? stop (l ++ cs) = (cutAt? stop cs).map fun p => (l ++ p.1, p.2) := by
  induction l with
  | nil => exact (congrFun Option.map_id (cutAt? stop cs)).symm
  | cons c l ih =>
      rw [List.cons_append, cutAt?, h c (List.mem_cons_self ..),
        ih fun d hd => h d (List.mem_cons_of_mem _ hd)]
      cases cutAt? stop cs <;> rfl

theorem cutAt?_append_right {r : List Char} (h : ∀ c ∈ r, stop c = false) (cs : List Char) :
    cutAt? stop (cs ++ r) = (cutAt? stop cs).map fun p => (p.1, p.2 ++ r) := by
  induction cs with
  | nil =>
      have := cutAt?_append_left h []
      rw [List.append_nil] at this
      exact this
  | cons c cs ih =>
      rw [List.cons_append, cutAt?, cutAt?]
      split
      · rfl
      · rw [ih, Option.map_map, Option.map_map]
        rfl

/-- A text is cut at the first character of the kind that stands in it. -/
theorem cutAt?_append_cons {c : Char} {l : List Char} (h : c ∉ l) (cs : List Char) :
    cutAt? (· == c) (l ++ c :: cs) = some (l, cs) := by
  have hstop : ∀ d ∈ l, (d == c) = false := fun d hd => beq_false_of_ne fun heq => h (heq ▸ hd)
  rw [cutAt?_append_left hstop, cutAt?, if_pos (beq_self_eq_true c), Option.map_some, List.append_nil]

/-- A text that does not hold the character is not cut at it. -/
theorem cutAt?_eq_none {c : Char} {cs : List Char} (h : c ∉ cs) : cutAt? (· == c) cs = none := by
  have hstop : ∀ d ∈ cs, (d == c) = false := fun d hd => beq_false_of_ne fun heq => h (heq ▸ hd)
  have happ := cutAt?_append_left hstop []
  rwa [List.append_nil] at happ

/-- What starts with a character that a text does not hold is not found in it. -/
theorem cut?_eq_none {c : Char} {cs : List Char} (h : c ∉ cs) (needle : List Char) :
    cut? (c :: needle) cs = none := by
  induction cs with
  | nil => rfl
  | cons d cs ih =>
      obtain ⟨hne, hrest⟩ := List.ne_and_not_mem_of_not_mem_cons h
      rw [cut?, List.isPrefixOf, beq_false_of_ne hne, Bool.false_and, if_neg Bool.false_ne_true,
        ih hrest]
      rfl

end Rampart.Text
