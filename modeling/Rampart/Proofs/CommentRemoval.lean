import Mathlib.Data.List.Infix
import Rampart.Proofs.Parts
import Rampart.Transform.Basic

/-!
# What the removal of comments leaves

Blocks are removed until none is left, the blocks of pages after those of database statements. Of the
comments that end with their line, only the first of each kind is removed. So a text is free of comments
afterwards if these were all of them, and if the removal of a page's block brought no other block together.
-/

namespace Rampart.Comments

open Text (cut?)

/-- The mark of a comment up to the end of its line, and the other such mark. -/
def dashes : List Char := ['-', '-']
@[inherit_doc dashes] def hash : List Char := ['#']

/-- The mark of a block in a database statement, and that of one in a page. -/
def slashStar : List Char := ['/', '*']
@[inherit_doc slashStar] def arrow : List Char := ['<', '!', '-', '-']

/-- The text holds no mark at which a comment starts. -/
def Uncommented (cs : List Char) : Prop := ∀ mark ∈ [slashStar, arrow, dashes, hash], ¬ mark <:+: cs

theorem starSlash_ne_nil : ['*', '/'] ≠ [] := List.cons_ne_nil _ _

theorem arrowhead_ne_nil : ['-', '-', '>'] ≠ [] := List.cons_ne_nil _ _

/-- A text without its blocks. -/
def removeBoth (cs : List Char) : List Char :=
  removeBlocks arrow ['-', '-', '>'] arrowhead_ne_nil
    (removeBlocks slashStar ['*', '/'] starSlash_ne_nil cs)

theorem remove_eq (cs : List Char) : remove cs = removeLine hash (removeLine dashes (removeBoth cs)) :=
  rfl

/-! ## Blocks -/

section Blocks

variable {opener closer : List Char} (hcloser : closer ≠ [])

/-- **No block is left.** -/
theorem not_infix_removeBlocks (hopener : opener ≠ []) (cs : List Char) :
    ¬ opener <:+: removeBlocks opener closer hcloser cs := by
  fun_induction removeBlocks opener closer hcloser cs with
  | case1 cs hnone => exact Text.cut?_eq_none_iff.1 hnone
  | case2 cs before after hopen hclose => exact Text.not_infix_of_cut? hopener hopen
  | case3 cs before after hopen inside rest hclose ih => exact ih

theorem removeBlocks_eq_self {cs : List Char} (h : ¬ opener <:+: cs) :
    removeBlocks opener closer hcloser cs = cs := by
  rw [removeBlocks]
  split
  · rfl
  · rename_i hopen
    exact absurd (Text.cut?_eq_none_iff.2 h) (by rw [hopen]; exact Option.some_ne_none _)

theorem length_removeBlocks (hopener : opener ≠ []) (cs : List Char) :
    (removeBlocks opener closer hcloser cs).length ≤ cs.length ∧
      (opener <:+: cs → (removeBlocks opener closer hcloser cs).length < cs.length) := by
  have hpos := List.length_pos_iff.2 hopener
  have hpos' := List.length_pos_iff.2 hcloser
  fun_induction removeBlocks opener closer hcloser cs with
  | case1 cs hnone => exact ⟨Nat.le_refl _, fun h => absurd h (Text.cut?_eq_none_iff.1 hnone)⟩
  | case2 cs before after hopen hclose =>
      have hwhole := congrArg List.length (Text.append_of_cut? hopen)
      simp only [List.length_append] at hwhole
      exact ⟨by omega, fun _ => by omega⟩
  | case3 cs before after hopen inside rest hclose ih =>
      have hwhole := congrArg List.length (Text.append_of_cut? hopen)
      have hblock := congrArg List.length (Text.append_of_cut? hclose)
      have hrest := ih.1
      simp only [List.length_append] at hwhole hblock hrest
      exact ⟨by omega, fun _ => by omega⟩

end Blocks

/-! ## Removal in general -/

/-- What takes something out of the texts that hold a mark, and nothing out of the others. -/
structure Removes (f : List Char → List Char) (mark : List Char) : Prop where
  keeps {cs : List Char} (h : ¬ mark <:+: cs) : f cs = cs
  shortens {cs : List Char} (h : mark <:+: cs) : (f cs).length < cs.length

namespace Removes

variable {f g : List Char → List Char} {mark : List Char}

theorem length_le (hf : Removes f mark) (cs : List Char) : (f cs).length ≤ cs.length := by
  by_cases h : mark <:+: cs
  · exact Nat.le_of_lt (hf.shortens h)
  · exact Nat.le_of_eq (congrArg List.length (hf.keeps h))

/-- A text stays as it is exactly if no step takes anything out of it. -/
theorem comp_eq_self_iff (hf : Removes f mark) (hg : ∀ cs, (g cs).length ≤ cs.length)
    (cs : List Char) : g (f cs) = cs ↔ ¬ mark <:+: cs ∧ g cs = cs := by
  constructor
  · intro heq
    have hmark : ¬ mark <:+: cs := fun h => by
      have hshort := Nat.lt_of_le_of_lt (hg (f cs)) (hf.shortens h)
      rw [heq] at hshort
      exact Nat.lt_irrefl _ hshort
    rw [hf.keeps hmark] at heq
    exact ⟨hmark, heq⟩
  · rintro ⟨hmark, heq⟩
    rw [hf.keeps hmark, heq]

end Removes

theorem removes_blocks {opener closer : List Char} (hopener : opener ≠ []) (hcloser : closer ≠ []) :
    Removes (removeBlocks opener closer hcloser) opener where
  keeps h := removeBlocks_eq_self hcloser h
  shortens h := (length_removeBlocks hcloser hopener _).2 h

theorem removes_line {mark : List Char} (hmark : mark ≠ []) : Removes (removeLine mark) mark where
  keeps h := by
    unfold removeLine
    rw [Text.cut?_eq_none_iff.2 h]
  shortens {cs} h := by
    unfold removeLine
    split
    · rename_i hnone
      exact absurd h (Text.cut?_eq_none_iff.1 hnone)
    · rename_i before after hcut
      have hwhole := congrArg List.length (Text.append_of_cut? hcut)
      have hpos := List.length_pos_iff.2 hmark
      have hrest : (after.dropWhile (· != '\n')).length ≤ after.length :=
        (List.dropWhile_sublist _).length_le
      simp only [List.length_append] at hwhole ⊢
      omega

/-- **Only a text without comments stays as it is.** -/
theorem remove_eq_self_iff (cs : List Char) : remove cs = cs ↔ Uncommented cs := by
  have hblocks : Removes _ slashStar := removes_blocks (by decide) starSlash_ne_nil
  have hpages : Removes _ arrow := removes_blocks (by decide) arrowhead_ne_nil
  have hdashes : Removes _ dashes := removes_line (by decide)
  have hhash : Removes _ hash := removes_line (by decide)
  have hlines (cs : List Char) := Nat.le_trans (hhash.length_le _) (hdashes.length_le cs)
  have hrest (cs : List Char) := Nat.le_trans (hlines _) (hpages.length_le cs)
  have hlast : removeLine hash cs = cs ↔ ¬ hash <:+: cs := by
    have h := hhash.comp_eq_self_iff (g := id) (fun _ => Nat.le_refl _) cs
    simpa using h
  rw [remove_eq, removeBoth,
    hblocks.comp_eq_self_iff
      (g := fun cs => removeLine hash (removeLine dashes (removeBlocks arrow _ _ cs))) hrest,
    hpages.comp_eq_self_iff (g := fun cs => removeLine hash (removeLine dashes cs)) hlines,
    hdashes.comp_eq_self_iff hhash.length_le, hlast]
  simp only [Uncommented, List.forall_mem_cons, List.not_mem_nil, false_imp_iff, implies_true, and_true]

/-! ## Lines -/

/-- The lines of a text, of which the first with the mark is cut there. -/
def cutFirst (mark : List Char) : List (List Char) → List (List Char)
  | [] => []
  | line :: lines =>
    match cut? mark line with
    | some (before, _) => before :: lines
    | none => line :: cutFirst mark lines

section Lines

variable {mark line before after : List Char} {lines : List (List Char)}

theorem cutFirst_cons_of_some (h : cut? mark line = some (before, after)) :
    cutFirst mark (line :: lines) = before :: lines := by
  rw [cutFirst, h]

theorem cutFirst_cons_of_none (h : cut? mark line = none) :
    cutFirst mark (line :: lines) = line :: cutFirst mark lines := by
  rw [cutFirst, h]

/-- A line is cut at its first mark. What follows the line, if anything, starts with its end. -/
theorem removeLine_append_of_some (hline : '\n' ∉ line)
    (h : cut? mark line = some (before, after)) (rest : List Char)
    (hrest : rest.dropWhile (· != '\n') = rest) : removeLine mark (line ++ rest) = before ++ rest := by
  have hafter : ∀ c ∈ after, (c != '\n') = true := by
    rintro c hc
    rw [bne_iff_ne]
    rintro rfl
    exact hline (Text.append_of_cut? h ▸ List.mem_append_right _ hc)
  unfold removeLine
  rw [Text.cut?_append_of_some h]
  dsimp only
  rw [List.dropWhile_append_of_pos hafter, hrest]

theorem removeLine_append_of_none (hmark : '\n' ∉ mark) (h : ¬ mark <:+: line) (rest : List Char) :
    removeLine mark (line ++ '\n' :: rest) = line ++ '\n' :: removeLine mark rest := by
  unfold removeLine
  rw [Text.cut?_append_of_not_infix hmark h]
  cases cut? mark rest with
  | none => rfl
  | some p => exact List.append_assoc _ _ _

/-- **The removal of a comment up to the end of its line** touches the first line with the mark only. -/
theorem splitAt_removeLine (hmark : '\n' ∉ mark) (cs : List Char) :
    Text.splitAt '\n' (removeLine mark cs) = cutFirst mark (Text.splitAt '\n' cs) := by
  have hlines (lines : List (List Char)) (hne : lines ≠ []) (h : ∀ line ∈ lines, '\n' ∉ line) :
      Text.splitAt '\n' (removeLine mark (['\n'].intercalate lines)) = cutFirst mark lines := by
    induction lines with
    | nil => exact absurd rfl hne
    | cons line lines ih =>
        obtain ⟨hline, hrest⟩ := List.forall_mem_cons.1 h
        have hbefore {before after : List Char} (h : cut? mark line = some (before, after)) :
            '\n' ∉ before := fun hmem =>
          hline (Text.append_of_cut? h ▸ List.mem_append_left _ (List.mem_append_left _ hmem))
        cases lines with
        | nil =>
            rw [List.intercalate_singleton]
            cases hcut : cut? mark line with
            | none =>
                rw [cutFirst_cons_of_none hcut, removeLine, hcut]
                exact Text.splitAt_of_notMem hline
            | some p =>
                have hremoved := removeLine_append_of_some hline hcut [] rfl
                rw [List.append_nil, List.append_nil] at hremoved
                rw [cutFirst_cons_of_some hcut, hremoved]
                exact Text.splitAt_of_notMem (hbefore hcut)
        | cons next lines =>
            rw [List.intercalate_cons_cons, List.append_assoc, List.singleton_append]
            cases hcut : cut? mark line with
            | none =>
                rw [removeLine_append_of_none hmark (Text.cut?_eq_none_iff.1 hcut),
                  Text.splitAt_append, Text.splitAt_of_notMem hline,
                  ih (List.cons_ne_nil _ _) hrest, cutFirst_cons_of_none hcut]
                rfl
            | some p =>
                rw [cutFirst_cons_of_some hcut, removeLine_append_of_some hline hcut _ rfl, Text.splitAt_append,
                  Text.splitAt_of_notMem (hbefore hcut),
                  Text.splitAt_intercalate (List.cons_ne_nil _ _) hrest]
                rfl
  have h := hlines _ (Text.splitAt_ne_nil '\n' cs) fun line => Text.notMem_of_mem_splitAt
  rwa [Text.intercalate_splitAt] at h

/-- No line gets longer. -/
theorem prefix_of_mem_cutFirst (h : line ∈ cutFirst mark lines) :
    ∃ whole ∈ lines, line <+: whole := by
  induction lines with
  | nil => cases h
  | cons first lines ih =>
      rw [cutFirst] at h
      split at h
      · rename_i before after hcut
        rcases List.mem_cons.1 h with rfl | hlater
        · exact ⟨first, List.mem_cons_self .., Text.prefix_of_cut? hcut⟩
        · exact ⟨line, List.mem_cons_of_mem _ hlater, List.prefix_refl _⟩
      · rcases List.mem_cons.1 h with rfl | hlater
        · exact ⟨line, List.mem_cons_self .., List.prefix_refl _⟩
        · obtain ⟨whole, hwhole, hprefix⟩ := ih hlater
          exact ⟨whole, List.mem_cons_of_mem _ hwhole, hprefix⟩

end Lines

/-! ## Lines with marks -/

/-- A comment up to its end starts in the line. -/
def marked (line : List Char) : Bool := (cut? dashes line).isSome || (cut? hash line).isSome

/-- The mark stands in the line, and the other one does not stand before it. -/
def StartsWith (mark other line : List Char) : Prop :=
  ∃ before after, cut? mark line = some (before, after) ∧ ¬ other <:+: before

/-- Lines with marks that are all cut at their first mark: the first line with dashes is cut at them, and
then the first one in which a hash sign is left. So there are two at most; and if a hash sign comes first,
no dashes may stand behind it, since its line would be taken for that with the dashes. -/
inductive AllCut : List (List Char) → Prop
  | none : AllCut []
  | one (line : List Char) : AllCut [line]
  | dashesFirst {first second : List Char} (h : StartsWith dashes hash first)
      (h' : StartsWith hash dashes second) : AllCut [first, second]
  | hashFirst {first second : List Char} (h : ¬ dashes <:+: first)
      (h' : StartsWith dashes hash second) : AllCut [first, second]

/-- A line up to the mark, if it stands there. -/
def upTo (mark line : List Char) : List Char :=
  match cut? mark line with
  | some (before, _) => before
  | none => line

/-- A line up to its first mark. -/
def code (line : List Char) : List Char := upTo hash (upTo dashes line)

theorem marked_iff {line : List Char} : marked line = true ↔ dashes <:+: line ∨ hash <:+: line := by
  rw [marked, Bool.or_eq_true, Text.isSome_cut?_iff, Text.isSome_cut?_iff]

theorem not_marked_iff {line : List Char} :
    ¬ marked line = true ↔ ¬ dashes <:+: line ∧ ¬ hash <:+: line := by
  rw [marked_iff, not_or]

section Marked

variable {mark other line before after : List Char}

theorem not_startsWith (h : cut? mark line = none) : ¬ StartsWith mark other line := by
  rintro ⟨before, after, hsome, -⟩
  rw [h] at hsome
  cases hsome

theorem startsWith_iff (h : cut? mark line = some (before, after)) :
    StartsWith mark other line ↔ ¬ other <:+: before := by
  constructor
  · rintro ⟨before', after', hsome, hother⟩
    rw [h] at hsome
    cases hsome
    exact hother
  · exact fun hother => ⟨before, after, h, hother⟩

theorem infix_of_some (h : cut? mark line = some (before, after)) : mark <:+: line :=
  Text.isSome_cut?_iff.1 (Option.isSome_of_eq_some h)

/-- What stands before a hash sign is not marked, unless with dashes. -/
theorem not_marked_of_hash (h : cut? hash line = some (before, after)) (hnone : ¬ dashes <:+: before) :
    ¬ marked before = true :=
  not_marked_iff.2 ⟨hnone, Text.not_infix_of_cut? (by decide) h⟩

/-- Cutting at one of the marks leaves no mark if no more than one line has marks, and the first one in it
is this. -/
theorem unmarked_cutFirst_iff (hmark : mark ≠ [])
    (hmarks : ∀ line, marked line = true ↔ mark <:+: line ∨ other <:+: line)
    (lines : List (List Char)) :
    (∀ line ∈ cutFirst mark lines, ¬ marked line = true) ↔
      lines.filter marked = [] ∨ ∃ line, lines.filter marked = [line] ∧ StartsWith mark other line := by
  induction lines with
  | nil => simp [cutFirst]
  | cons line lines ih =>
      cases hcut : cut? mark line with
      | none =>
          rw [cutFirst_cons_of_none hcut, List.forall_mem_cons, ih]
          by_cases hline : marked line = true
          · rw [List.filter_cons_of_pos hline]
            simp [hline, not_startsWith hcut]
          · rw [List.filter_cons_of_neg hline]
            simp [hline]
      | some p =>
          obtain ⟨before, after⟩ := p
          have hline : marked line = true := (hmarks line).2 (.inl (infix_of_some hcut))
          have hbefore : ¬ marked before = true ↔ StartsWith mark other line := by
            rw [hmarks, not_or, and_iff_right (Text.not_infix_of_cut? hmark hcut),
              startsWith_iff hcut]
          have hrest : (∀ line ∈ lines, ¬ marked line = true) ↔ lines.filter marked = [] :=
            List.filter_eq_nil_iff.symm
          rw [cutFirst_cons_of_some hcut, List.forall_mem_cons, List.filter_cons_of_pos hline, hrest,
            hbefore]
          constructor
          · rintro ⟨hstarts, hnone⟩
            exact .inr ⟨line, congrArg (line :: ·) hnone, hstarts⟩
          · rintro (hnil | ⟨first, hone, hstarts⟩)
            · cases hnil
            · obtain ⟨rfl, hnone⟩ := List.cons.inj hone
              exact ⟨hstarts, hnone⟩

theorem allCut_cons_iff {lines : List (List Char)} :
    AllCut (line :: lines) ↔
      lines = [] ∨
        (StartsWith dashes hash line ∧ ∃ second, lines = [second] ∧ StartsWith hash dashes second) ∨
        (¬ dashes <:+: line ∧ ∃ second, lines = [second] ∧ StartsWith dashes hash second) := by
  constructor
  · intro h
    cases h with
    | one => exact .inl rfl
    | dashesFirst h h' => exact .inr (.inl ⟨h, _, rfl, h'⟩)
    | hashFirst h h' => exact .inr (.inr ⟨h, _, rfl, h'⟩)
  · rintro (rfl | ⟨h, second, rfl, h'⟩ | ⟨h, second, rfl, h'⟩)
    · exact .one line
    · exact .dashesFirst h h'
    · exact .hashFirst h h'

theorem unmarked_cutFirst_dashes_iff (lines : List (List Char)) :
    (∀ line ∈ cutFirst dashes lines, ¬ marked line = true) ↔
      lines.filter marked = [] ∨
        ∃ line, lines.filter marked = [line] ∧ StartsWith dashes hash line :=
  unmarked_cutFirst_iff (by decide) (fun _ => marked_iff) lines

theorem unmarked_cutFirst_hash_iff (lines : List (List Char)) :
    (∀ line ∈ cutFirst hash lines, ¬ marked line = true) ↔
      lines.filter marked = [] ∨
        ∃ line, lines.filter marked = [line] ∧ StartsWith hash dashes line :=
  unmarked_cutFirst_iff (by decide) (fun _ => marked_iff.trans or_comm) lines

/-- **No mark is left** exactly if the lines with marks are all cut. The first of these decides: what it
is cut at, and at what another one may be. -/
theorem unmarked_iff_allCut (lines : List (List Char)) :
    (∀ line ∈ cutFirst hash (cutFirst dashes lines), ¬ marked line = true) ↔
      AllCut (lines.filter marked) := by
  induction lines with
  | nil => exact iff_of_true (List.forall_mem_nil _) .none
  | cons line lines ih =>
      cases hdash : cut? dashes line with
      | none =>
          have hnone := Text.cut?_eq_none_iff.1 hdash
          rw [cutFirst_cons_of_none hdash]
          cases hsharp : cut? hash line with
          | none =>
              have hline := not_marked_iff.2 ⟨hnone, Text.cut?_eq_none_iff.1 hsharp⟩
              rw [cutFirst_cons_of_none hsharp, List.filter_cons_of_neg hline, List.forall_mem_cons,
                and_iff_right hline]
              exact ih
          | some p =>
              have hline := marked_iff.2 (.inr (infix_of_some hsharp))
              have hbefore := not_marked_of_hash hsharp fun h =>
                hnone (h.trans (Text.prefix_of_cut? hsharp).isInfix)
              rw [cutFirst_cons_of_some hsharp, List.filter_cons_of_pos hline, List.forall_mem_cons,
                and_iff_right hbefore, allCut_cons_iff, and_iff_right hnone, unmarked_cutFirst_dashes_iff]
              simp only [not_startsWith hdash, false_and, false_or]
      | some p =>
          have hdashed := infix_of_some hdash
          have hundashed := Text.not_infix_of_cut? (by decide) hdash
          rw [cutFirst_cons_of_some hdash, List.filter_cons_of_pos (marked_iff.2 (.inl hdashed)),
            allCut_cons_iff, startsWith_iff hdash]
          cases hsharp : cut? hash p.1 with
          | none =>
              have hunhashed := Text.cut?_eq_none_iff.1 hsharp
              rw [cutFirst_cons_of_none hsharp, List.forall_mem_cons,
                and_iff_right (not_marked_iff.2 ⟨hundashed, hunhashed⟩), and_iff_right hunhashed,
                unmarked_cutFirst_hash_iff]
              simp only [hdashed, not_true_eq_false, false_and, or_false]
          | some q =>
              have hbefore := not_marked_of_hash hsharp fun h =>
                hundashed (h.trans (Text.prefix_of_cut? hsharp).isInfix)
              rw [cutFirst_cons_of_some hsharp, List.forall_mem_cons, and_iff_right hbefore]
              simp only [infix_of_some hsharp, hdashed, not_true_eq_false, false_and, or_false]
              exact List.filter_eq_nil_iff.symm

/-! ## Lines without marks -/

theorem upTo_of_some (h : cut? mark line = some (before, after)) : upTo mark line = before := by
  rw [upTo, h]

theorem upTo_of_not_infix (h : ¬ mark <:+: line) : upTo mark line = line := by
  rw [upTo, Text.cut?_eq_none_iff.2 h]

theorem code_of_not_marked (h : ¬ marked line = true) : code line = line := by
  obtain ⟨hdashes, hhash⟩ := not_marked_iff.1 h
  rw [code, upTo_of_not_infix hdashes, upTo_of_not_infix hhash]

theorem code_of_dashes (h : cut? dashes line = some (before, after)) (hbefore : ¬ hash <:+: before) :
    code line = before := by
  rw [code, upTo_of_some h, upTo_of_not_infix hbefore]

/-- Dashes behind a hash sign make no difference. -/
theorem code_of_hash (h : cut? hash line = some (before, after)) (hbefore : ¬ dashes <:+: before) :
    code line = before := by
  have hunhashed : '#' ∉ before := fun hmem =>
    Text.not_infix_of_cut? (by decide) h ((List.singleton_infix_iff _ _).2 hmem)
  have hwhole : line = before ++ '#' :: after := by
    rw [← Text.append_of_cut? h, List.append_assoc]
    rfl
  have hupTo : ∃ rest, upTo dashes line = before ++ '#' :: rest := by
    rw [hwhole, upTo, Text.cut?_append_of_not_infix (by decide) hbefore]
    cases cut? dashes after with
    | none => exact ⟨after, rfl⟩
    | some p => exact ⟨p.1, rfl⟩
  obtain ⟨rest, hrest⟩ := hupTo
  rw [code, hrest]
  exact upTo_of_some (Text.cut?_append_of_notMem hunhashed rest)

theorem map_code_of_not_marked {lines : List (List Char)} (h : ∀ line ∈ lines, ¬ marked line = true) :
    lines.map code = lines :=
  (List.map_congr_left fun line hline => code_of_not_marked (h line hline)).trans (List.map_id lines)

theorem cutFirst_eq_map
    (hcode : ∀ {line before after : List Char}, cut? mark line = some (before, after) →
      ¬ marked before = true → code line = before)
    {lines : List (List Char)} (h : ∀ line ∈ cutFirst mark lines, ¬ marked line = true) :
    cutFirst mark lines = lines.map code := by
  induction lines with
  | nil => rfl
  | cons line lines ih =>
      cases hcut : cut? mark line with
      | none =>
          rw [cutFirst_cons_of_none hcut] at h ⊢
          obtain ⟨hline, hlines⟩ := List.forall_mem_cons.1 h
          rw [List.map_cons, code_of_not_marked hline, ih hlines]
      | some p =>
          rw [cutFirst_cons_of_some hcut] at h ⊢
          obtain ⟨hline, hlines⟩ := List.forall_mem_cons.1 h
          rw [List.map_cons, hcode hcut hline, map_code_of_not_marked hlines]

/-- **If no mark is left**, every line has been cut at its first mark. -/
theorem cutFirst_cutFirst_eq_map {lines : List (List Char)}
    (h : ∀ line ∈ cutFirst hash (cutFirst dashes lines), ¬ marked line = true) :
    cutFirst hash (cutFirst dashes lines) = lines.map code := by
  induction lines with
  | nil => rfl
  | cons line lines ih =>
      cases hdash : cut? dashes line with
      | none =>
          rw [cutFirst_cons_of_none hdash] at h ⊢
          cases hsharp : cut? hash line with
          | none =>
              rw [cutFirst_cons_of_none hsharp] at h ⊢
              obtain ⟨hline, hlines⟩ := List.forall_mem_cons.1 h
              rw [List.map_cons, code_of_not_marked hline, ih hlines]
          | some p =>
              rw [cutFirst_cons_of_some hsharp] at h ⊢
              obtain ⟨hline, hlines⟩ := List.forall_mem_cons.1 h
              rw [List.map_cons, code_of_hash hsharp (not_marked_iff.1 hline).1,
                cutFirst_eq_map (fun hcut hbefore => code_of_dashes hcut (not_marked_iff.1 hbefore).2)
                  hlines]
      | some p =>
          rw [cutFirst_cons_of_some hdash] at h ⊢
          cases hsharp : cut? hash p.1 with
          | none =>
              rw [cutFirst_cons_of_none hsharp] at h ⊢
              obtain ⟨hline, hlines⟩ := List.forall_mem_cons.1 h
              rw [List.map_cons, code_of_dashes hdash (not_marked_iff.1 hline).2,
                cutFirst_eq_map (fun hcut hbefore => code_of_hash hcut (not_marked_iff.1 hbefore).1)
                  hlines]
          | some q =>
              rw [cutFirst_cons_of_some hsharp] at h ⊢
              obtain ⟨-, hlines⟩ := List.forall_mem_cons.1 h
              rw [List.map_cons, code, upTo_of_some hdash, upTo_of_some hsharp,
                map_code_of_not_marked hlines]

end Marked

/-! ## The whole text -/

theorem splitAt_remove (cs : List Char) :
    Text.splitAt '\n' (remove cs) =
      cutFirst hash (cutFirst dashes (Text.splitAt '\n' (removeBoth cs))) := by
  rw [remove_eq, splitAt_removeLine (by decide), splitAt_removeLine (by decide)]

/-- **No block of a page is left**, since the removal of lines brings nothing together. -/
theorem not_arrow_infix_remove (cs : List Char) : ¬ arrow <:+: remove cs := by
  have hnewline : '\n' ∉ arrow := by decide
  intro h
  obtain ⟨line, hline, harrow⟩ := (Text.infix_iff_exists_part hnewline _).1 h
  rw [splitAt_remove] at hline
  obtain ⟨longer, hlonger, hshort⟩ := prefix_of_mem_cutFirst hline
  obtain ⟨whole, hwhole, hlong⟩ := prefix_of_mem_cutFirst hlonger
  have hleft : arrow <:+: removeBoth cs := (Text.infix_iff_exists_part hnewline _).2
    ⟨whole, hwhole, harrow.trans (hshort.trans hlong).isInfix⟩
  exact not_infix_removeBlocks _ (by decide) _ hleft

theorem uncommented_remove_iff (cs : List Char) :
    Uncommented (remove cs) ↔
      AllCut ((Text.splitAt '\n' (removeBoth cs)).filter marked) ∧
        ∀ line ∈ Text.splitAt '\n' (removeBoth cs), ¬ slashStar <:+: code line := by
  have hpart (mark : List Char) (hmark : '\n' ∉ mark) := Text.infix_iff_exists_part hmark (remove cs)
  have hmarks : ¬ dashes <:+: remove cs ∧ ¬ hash <:+: remove cs ↔
      ∀ line ∈ Text.splitAt '\n' (remove cs), ¬ marked line = true := by
    simp only [not_marked_iff, hpart dashes (by decide), hpart hash (by decide),
      not_exists, not_and, ← forall_and]
  have huncommented : Uncommented (remove cs) ↔
      ¬ slashStar <:+: remove cs ∧ ∀ line ∈ Text.splitAt '\n' (remove cs), ¬ marked line = true := by
    rw [← hmarks]
    simp [Uncommented, not_arrow_infix_remove cs]
  rw [huncommented, hpart slashStar (by decide), splitAt_remove, ← unmarked_iff_allCut, and_comm]
  refine and_congr_right fun hunmarked => ?_
  rw [cutFirst_cutFirst_eq_map hunmarked]
  simp

/--
**Which texts are free of comments afterwards.**

What the removal of comments leaves never holds the opener of a page's block. It holds no opener of a
comment at all exactly if, once the blocks are removed, the lines with marks are all cut at their first
mark, and in no line the opener of a block, put together by the removal of another one, stands before it.
And only then a second removal changes nothing.
-/
theorem remove_uncommented_iff (s : String) :
    ¬ arrow <:+: (Transform.removeComments.apply s).toList ∧
      (Uncommented (Transform.removeComments.apply s).toList ↔
        AllCut ((Text.splitAt '\n' (removeBoth s.toList)).filter marked) ∧
          ∀ line ∈ Text.splitAt '\n' (removeBoth s.toList), ¬ slashStar <:+: code line) ∧
      (Transform.removeComments.apply (Transform.removeComments.apply s) =
          Transform.removeComments.apply s ↔
        Uncommented (Transform.removeComments.apply s).toList) := by
  have happly (s : String) :
      Transform.removeComments.apply s = String.ofList (remove s.toList) := rfl
  rw [happly s, String.toList_ofList]
  refine ⟨not_arrow_infix_remove _, uncommented_remove_iff _, ?_⟩
  rw [happly, String.toList_ofList, ← remove_eq_self_iff, String.ofList_inj]

/-- The second line with dashes, the second one with a hash sign, and a block that is put together by the
removal of another one stay. -/
theorem comments_left :
    Transform.removeComments.apply "a--b\nc--d" = "a\nc--d" ∧
      Transform.removeComments.apply "a\nc--d" = "a\nc" ∧
      Transform.removeComments.apply "#a\n#b" = "\n#b" ∧
      Transform.removeComments.apply "/<!-- -->*x*/y" = "/*x*/y" := by
  decide +kernel

end Rampart.Comments
