import Mathlib.Data.List.Basic
import Rampart.Proofs.Parts
import Rampart.Transform.Basic

/-!
# The canonical form of a path

The parts of a path lead from place to place: a name leads on, two points lead back, and an empty part
or a single point leads nowhere. The canonical form of a path consists of the names of the place that it
leads to. So nothing is left to resolve in it, and a path that starts at the root can be replaced by its
canonical form in front of any other.
-/

namespace Rampart.Path

/-- A part that leads on. -/
def IsName (part : List Char) : Prop := part ≠ [] ∧ part ≠ ['.'] ∧ part ≠ ['.', '.']

/-- The parts lead from one place to another, a place being the names on the way to it. There is no way
back from the root. -/
inductive Leads : List (List Char) → List (List Char) → List (List Char) → Prop
  | arrived (place : List (List Char)) : Leads place [] place
  | stay {place parts goal : List (List Char)} {part : List Char} (h : part = [] ∨ part = ['.'])
      (hrest : Leads place parts goal) : Leads place (part :: parts) goal
  | back {place parts goal : List (List Char)} (hrest : Leads place.dropLast parts goal) :
      Leads place (['.', '.'] :: parts) goal
  | onward {place parts goal : List (List Char)} {part : List Char} (h : IsName part)
      (hrest : Leads (place ++ [part]) parts goal) : Leads place (part :: parts) goal

/-- Parts without the first one, if it is empty. -/
def dropEmpty : List (List Char) → List (List Char)
  | [] :: parts => parts
  | parts => parts

/-- The parts of a path, without an empty one before a slash at the start and an empty one behind a slash
at the end. -/
def segments (cs : List Char) : List (List Char) :=
  (dropEmpty (dropEmpty (Text.splitAt '/' cs)).reverse).reverse

/-! ## Where the parts lead -/

theorem enter_of_isName {part : List Char} (h : IsName part) (stack : List (List Char)) :
    enter stack part = part :: stack := by
  unfold enter
  rw [if_neg (not_or.2 ⟨h.1, h.2.1⟩), if_neg h.2.2]

@[simp] theorem enter_nil (stack : List (List Char)) : enter stack [] = stack := if_pos (.inl rfl)

theorem foldl_enter_of_isName {names : List (List Char)} (h : ∀ part ∈ names, IsName part)
    (stack : List (List Char)) : names.foldl enter stack = names.reverse ++ stack := by
  induction names generalizing stack with
  | nil => rfl
  | cons part names ih =>
      obtain ⟨hpart, hnames⟩ := List.forall_mem_cons.1 h
      rw [List.foldl_cons, enter_of_isName hpart, ih hnames, List.reverse_cons, List.append_assoc]
      rfl

/-- The stack, whose top comes first, is the place turned around. -/
theorem leads_foldl (parts stack : List (List Char)) :
    Leads stack.reverse parts (parts.foldl enter stack).reverse := by
  induction parts generalizing stack with
  | nil => exact .arrived _
  | cons part parts ih =>
      rw [List.foldl_cons]
      by_cases hstay : part = [] ∨ part = ['.']
      · rw [enter, if_pos hstay]
        exact .stay hstay (ih stack)
      · by_cases hback : part = ['.', '.']
        · rw [enter, if_neg hstay, if_pos hback, hback]
          refine .back ?_
          rw [List.dropLast_reverse]
          exact ih stack.tail
        · have hname : IsName part := ⟨fun h => hstay (.inl h), fun h => hstay (.inr h), hback⟩
          rw [enter_of_isName hname]
          refine .onward hname ?_
          rw [← List.reverse_cons]
          exact ih (part :: stack)

/-- Only names are entered. -/
theorem mem_foldl_enter {parts stack : List (List Char)} {part : List Char}
    (h : part ∈ parts.foldl enter stack) : part ∈ stack ∨ part ∈ parts ∧ IsName part := by
  induction parts generalizing stack with
  | nil => exact .inl h
  | cons first parts ih =>
      rw [List.foldl_cons] at h
      rcases ih h with hentered | ⟨hlater, hname⟩
      · unfold enter at hentered
        split at hentered
        · exact .inl hentered
        · rename_i hstay
          split at hentered
          · exact .inl (List.mem_of_mem_tail hentered)
          · rename_i hback
            rcases List.mem_cons.1 hentered with rfl | hbefore
            · exact .inr ⟨List.mem_cons_self .., fun h => hstay (.inl h), fun h => hstay (.inr h), hback⟩
            · exact .inl hbefore
      · exact .inr ⟨List.mem_cons_of_mem _ hlater, hname⟩

theorem isName_of_mem_parts {cs part : List Char} (h : part ∈ parts cs) :
    IsName part ∧ '/' ∉ part := by
  rcases mem_foldl_enter (List.mem_reverse.1 h) with hnone | ⟨hpart, hname⟩
  · cases hnone
  · exact ⟨hname, Text.notMem_of_mem_splitAt hpart⟩

/-- Behind a slash the way goes on from where the path before it has led. -/
theorem parts_append (as bs : List Char) :
    parts (as ++ '/' :: bs) = ((Text.splitAt '/' bs).foldl enter (parts as).reverse).reverse := by
  unfold parts
  rw [Text.splitAt_append, List.foldl_append, List.reverse_reverse]

/-! ## Names with slashes between them -/

theorem join_eq_intercalate (names : List (List Char)) : join names = ['/'].intercalate names := by
  induction names with
  | nil => rfl
  | cons part names ih =>
      cases names with
      | nil => exact List.intercalate_singleton.symm
      | cons next names =>
          rw [join, ih, List.intercalate_cons_cons, List.append_assoc]
          · rfl
          · exact List.cons_ne_nil _ _

section Names

variable {names : List (List Char)}

/-- A name neither starts nor ends with a slash, so names with slashes between them do not either. -/
theorem ends_join (hne : names ≠ []) (h : ∀ part ∈ names, IsName part ∧ '/' ∉ part) :
    join names ≠ [] ∧ (join names).head? ≠ some '/' ∧ (join names).getLast? ≠ some '/' := by
  induction names with
  | nil => exact absurd rfl hne
  | cons part names ih =>
      obtain ⟨⟨hname, hslash⟩, hnames⟩ := List.forall_mem_cons.1 h
      cases names with
      | nil =>
          exact ⟨hname.1, fun heq => hslash (List.mem_of_head? heq),
            fun heq => hslash (List.mem_of_getLast? heq)⟩
      | cons next names =>
          obtain ⟨hrest, -, hlast⟩ := ih (List.cons_ne_nil _ _) hnames
          have hjoin : join (part :: next :: names) = part ++ '/' :: join (next :: names) := rfl
          rw [hjoin]
          refine ⟨List.append_ne_nil_of_left_ne_nil hname.1 _, ?_, ?_⟩
          · obtain ⟨c, rest, hpart⟩ := List.exists_cons_of_ne_nil hname.1
            rw [hpart] at hslash ⊢
            exact fun heq => hslash (List.mem_of_head? heq)
          · rwa [List.getLast?_append_cons, List.getLast?_cons_of_ne_nil hrest]

theorem splitAt_join (hne : names ≠ []) (h : ∀ part ∈ names, IsName part ∧ '/' ∉ part) :
    Text.splitAt '/' (join names) = names := by
  rw [join_eq_intercalate]
  exact Text.splitAt_intercalate hne fun part hpart => (h part hpart).2

end Names

/-! ## The canonical form -/

/-- The form depends on the place that the path leads to, and on whether the path starts and ends with a
slash. -/
theorem normalize_congr {as bs : List Char} (hparts : parts as = parts bs)
    (hstart : as.head? = some '/' ↔ bs.head? = some '/')
    (hend : as.getLast? = some '/' ↔ bs.getLast? = some '/') : normalize as = normalize bs := by
  unfold normalize
  simp only [hparts, hstart, hend]

/-- A slash, if the condition holds. -/
def slashIf (b : Bool) : List Char := if b then ['/'] else []

section Form

variable {cs : List Char}

/-- The root has one form for both slashes. -/
theorem normalize_of_root (h : parts cs = []) : normalize cs = ['/'] ∨ normalize cs = [] := by
  unfold normalize
  rw [h]
  by_cases hstart : cs.head? = some '/' <;> by_cases hend : cs.getLast? = some '/' <;>
    simp [hstart, hend, join]

theorem normalize_of_names (h : parts cs ≠ []) :
    normalize cs =
      slashIf (cs.head? == some '/') ++ join (parts cs) ++ slashIf (cs.getLast? == some '/') := by
  obtain ⟨hne, -, hlast⟩ := ends_join h fun part => isName_of_mem_parts
  have hrooted : ('/' :: join (parts cs)).getLast? ≠ some '/' := by
    rwa [List.getLast?_cons_of_ne_nil hne]
  unfold normalize slashIf
  by_cases hstart : cs.head? = some '/' <;> by_cases hend : cs.getLast? = some '/' <;>
    simp [hstart, hend, hlast, hrooted]

theorem splitAt_normalize (h : parts cs ≠ []) :
    ∃ before after, Text.splitAt '/' (normalize cs) = before ++ parts cs ++ after ∧
      (before = [] ∨ before = [[]]) ∧ (after = [] ∨ after = [[]]) := by
  have hjoin := splitAt_join h fun part => isName_of_mem_parts
  have hbehind (closed : Bool) : ∃ after, (after = [] ∨ after = [[]]) ∧
      Text.splitAt '/' (join (parts cs) ++ slashIf closed) = parts cs ++ after := by
    cases closed with
    | false => exact ⟨[], .inl rfl, by rw [slashIf, if_neg Bool.false_ne_true]; simpa using hjoin⟩
    | true =>
        refine ⟨[[]], .inr rfl, ?_⟩
        exact (Text.splitAt_append '/' (join (parts cs)) []).trans (by rw [hjoin]; rfl)
  obtain ⟨after, hafter, hsplit⟩ := hbehind (cs.getLast? == some '/')
  rw [normalize_of_names h, List.append_assoc]
  cases cs.head? == some '/' with
  | false => exact ⟨[], after, hsplit, .inl rfl, hafter⟩
  | true => exact ⟨[[]], after, congrArg ([] :: ·) hsplit, .inr rfl, hafter⟩

/-- **Nothing is left to resolve in the canonical form**, and it leads to the same place. -/
theorem parts_normalize (cs : List Char) : parts (normalize cs) = parts cs := by
  by_cases hroot : parts cs = []
  · rcases normalize_of_root hroot with hslash | hnil
    · rw [hslash, hroot]
      rfl
    · rw [hnil, hroot]
      rfl
  · have hnames := foldl_enter_of_isName
      (fun part (hpart : part ∈ parts cs) => (isName_of_mem_parts hpart).1) []
    have hempty (stack : List (List Char)) {empty : List (List Char)} (h : empty = [] ∨ empty = [[]]) :
        empty.foldl enter stack = stack := by
      rcases h with rfl | rfl
      · rfl
      · exact enter_nil stack
    obtain ⟨before, after, hsplit, hbefore, hafter⟩ := splitAt_normalize hroot
    rw [parts, hsplit, List.foldl_append, List.foldl_append, hempty [] hbefore, hnames,
      hempty _ hafter, List.append_nil, List.reverse_reverse]

theorem dropEmpty_append {before names : List (List Char)} (hbefore : before = [] ∨ before = [[]])
    (hne : names ≠ []) (h : ∀ part ∈ names, IsName part) (after : List (List Char)) :
    dropEmpty (before ++ (names ++ after)) = names ++ after := by
  rcases hbefore with rfl | rfl
  · cases names with
    | nil => exact absurd rfl hne
    | cons part names =>
        obtain ⟨c, rest, hpart⟩ := List.exists_cons_of_ne_nil (h part (List.mem_cons_self ..)).1
        rw [hpart]
        rfl
  · rfl

/-- **The canonical form consists of the names of the place.** -/
theorem segments_normalize (cs : List Char) : segments (normalize cs) = parts cs := by
  by_cases hroot : parts cs = []
  · rcases normalize_of_root hroot with hslash | hnil
    · rw [hslash, hroot]
      rfl
    · rw [hnil, hroot]
      rfl
  · have hnames (part : List Char) (h : part ∈ parts cs) : IsName part := (isName_of_mem_parts h).1
    obtain ⟨before, after, hsplit, hbefore, hafter⟩ := splitAt_normalize hroot
    have hreversed : after.reverse = [] ∨ after.reverse = [[]] := by
      rcases hafter with rfl | rfl
      · exact .inl rfl
      · exact .inr rfl
    have hend := dropEmpty_append hreversed (mt List.reverse_eq_nil_iff.1 hroot)
      (fun part h => hnames part (List.mem_reverse.1 h)) []
    rw [List.append_nil] at hend
    rw [segments, hsplit, List.append_assoc, dropEmpty_append hbefore hroot hnames,
      List.reverse_append, hend, List.reverse_reverse]

theorem head?_normalize_of_names (h : parts cs ≠ []) :
    (normalize cs).head? = some '/' ↔ cs.head? = some '/' := by
  obtain ⟨hne, hhead, -⟩ := ends_join h fun part => isName_of_mem_parts
  obtain ⟨c, rest, hjoin⟩ := List.exists_cons_of_ne_nil hne
  rw [hjoin] at hhead
  rw [normalize_of_names h, hjoin]
  unfold slashIf
  by_cases hstart : cs.head? = some '/' <;> simp_all

theorem getLast?_normalize_of_names (h : parts cs ≠ []) :
    (normalize cs).getLast? = some '/' ↔ cs.getLast? = some '/' := by
  obtain ⟨hne, -, hlast⟩ := ends_join h fun part => isName_of_mem_parts
  rw [normalize_of_names h]
  unfold slashIf
  by_cases hend : cs.getLast? = some '/'
  · simp [hend]
  · simp [hend, List.getLast?_append, hne, hlast]

/-- A path that starts at the root keeps its slash. -/
theorem head?_normalize (h : cs.head? = some '/') : (normalize cs).head? = some '/' := by
  unfold normalize
  simp only [h, if_true]
  split <;> rfl

/-- **The canonical form is its own canonical form.** -/
theorem normalize_normalize (cs : List Char) : normalize (normalize cs) = normalize cs := by
  by_cases hroot : parts cs = []
  · rcases normalize_of_root hroot with hslash | hnil
    · rw [hslash]
      rfl
    · rw [hnil]
      rfl
  · exact normalize_congr (parts_normalize cs) (head?_normalize_of_names hroot)
      (getLast?_normalize_of_names hroot)

/-- **In front of a slash**, the canonical form stands for a path that starts at the root. -/
theorem normalize_append (h : cs.head? = some '/') (rest : List Char) :
    normalize (cs ++ '/' :: rest) = normalize (normalize cs ++ '/' :: rest) := by
  have hhead {as : List Char} (has : as.head? = some '/') : (as ++ '/' :: rest).head? = some '/' := by
    rw [List.head?_append, has]
    rfl
  refine normalize_congr ?_ ?_ ?_
  · rw [parts_append, parts_append, parts_normalize]
  · exact iff_of_true (hhead h) (hhead (head?_normalize h))
  · rw [List.getLast?_append_cons, List.getLast?_append_cons]

end Form

/--
**Canonical paths.**

The parts of the canonical form of a path, without an empty one before a slash at its start and an empty
one behind a slash at its end, are names; and they are the place that the parts of the path lead to. The
canonical form is its own canonical form. In front of a slash and any other path, it can stand for a path
that starts at the root.
-/
theorem normalize_canonical (s : String) :
    (∀ part ∈ segments (Transform.normalizePath.apply s).toList, IsName part) ∧
    Leads [] (Text.splitAt '/' s.toList) (segments (Transform.normalizePath.apply s).toList) ∧
    Transform.normalizePath.apply (Transform.normalizePath.apply s) =
      Transform.normalizePath.apply s ∧
    ∀ p q : String, p.toList.head? = some '/' →
      Transform.normalizePath.apply (p ++ "/" ++ q) =
        Transform.normalizePath.apply (Transform.normalizePath.apply p ++ "/" ++ q) := by
  have happly (s : String) :
      Transform.normalizePath.apply s = String.ofList (normalize s.toList) := rfl
  have hjoined (p q : String) : (p ++ "/" ++ q).toList = p.toList ++ '/' :: q.toList := by
    rw [String.toList_append, String.toList_append, List.append_assoc]
    rfl
  have hsegments : segments (Transform.normalizePath.apply s).toList = parts s.toList := by
    rw [happly, String.toList_ofList, segments_normalize]
  refine ⟨?_, ?_, ?_, fun p q hp => ?_⟩
  · rw [hsegments]
    exact fun part hpart => (isName_of_mem_parts hpart).1
  · rw [hsegments]
    exact leads_foldl (Text.splitAt '/' s.toList) []
  · rw [happly, happly, String.toList_ofList, normalize_normalize]
  · rw [happly, happly, happly, hjoined, hjoined, String.toList_ofList, normalize_append hp]

/-- A way back beyond the root, a point and two slashes in a row; what is left leads on to a name. -/
theorem normalize_canonical_etc :
    segments (Transform.normalizePath.apply "/../a//./../etc/").toList = ["etc".toList] ∧
    IsName "etc".toList ∧
    Leads [] (Text.splitAt '/' "/../a//./../etc/".toList) ["etc".toList] ∧
    "/../a//./../etc/".toList.head? = some '/' ∧
    Transform.normalizePath.apply ("/../a//./../etc/" ++ "/" ++ "../x") =
      Transform.normalizePath.apply
        (Transform.normalizePath.apply "/../a//./../etc/" ++ "/" ++ "../x") := by
  have hsegments : segments (Transform.normalizePath.apply "/../a//./../etc/").toList =
      ["etc".toList] := by decide +kernel
  obtain ⟨hnames, hleads, -, hfront⟩ := normalize_canonical "/../a//./../etc/"
  rw [hsegments] at hnames hleads
  exact ⟨hsegments, hnames _ (List.mem_singleton_self _), hleads, rfl, hfront _ "../x" rfl⟩

end Rampart.Path
