/-!
# Cutting texts

Search, division and replacement in lists of characters. Positions count the bytes of the UTF-8
form, so the position of a find is the `byteLength` of what stands before it.
-/

namespace Rampart.Text

/-- The number of bytes of a text in UTF-8. -/
def byteLength (cs : List Char) : Nat := cs.foldr (fun c n => c.utf8Size + n) 0

@[simp] theorem byteLength_nil : byteLength [] = 0 := rfl

@[simp] theorem byteLength_cons (c : Char) (cs : List Char) :
    byteLength (c :: cs) = c.utf8Size + byteLength cs := rfl

@[simp] theorem byteLength_append (as bs : List Char) :
    byteLength (as ++ bs) = byteLength as + byteLength bs := by
  induction as with
  | nil => rw [List.nil_append, byteLength_nil, Nat.zero_add]
  | cons a as ih => rw [List.cons_append, byteLength_cons, byteLength_cons, ih, Nat.add_assoc]

/-- The number of bytes of a text in UTF-8. -/
def size (s : String) : Nat := byteLength s.toList

/-- What stands before the first place where `needle` occurs, and what follows it. -/
def cut? (needle : List Char) : List Char → Option (List Char × List Char)
  | [] => if needle.isEmpty then some ([], []) else none
  | c :: cs =>
    if needle.isPrefixOf (c :: cs) then some ([], (c :: cs).drop needle.length)
    else (cut? needle cs).map fun p => (c :: p.1, p.2)

/-- A cut loses nothing but the text it was made at. -/
theorem append_of_cut? {needle before after : List Char} {cs : List Char}
    (h : cut? needle cs = some (before, after)) : before ++ needle ++ after = cs := by
  induction cs generalizing before with
  | nil =>
    simp only [cut?] at h
    split at h
    · simp_all
    · simp at h
  | cons c cs ih =>
    simp only [cut?] at h
    split at h
    · rename_i hp
      simp only [Option.some.injEq, Prod.mk.injEq] at h
      obtain ⟨rfl, rfl⟩ := h
      have := List.prefix_iff_eq_append.1 (List.isPrefixOf_iff_prefix.1 hp)
      simpa using this
    · obtain ⟨⟨b, a⟩, hb, he⟩ := Option.map_eq_some_iff.1 h
      simp only [Prod.mk.injEq] at he
      obtain ⟨rfl, rfl⟩ := he
      simpa using ih hb

/-- What stands before the first character that `stop` accepts, and what follows it. -/
def cutAt? (stop : Char → Bool) : List Char → Option (List Char × List Char)
  | [] => none
  | c :: cs => if stop c then some ([], cs) else (cutAt? stop cs).map fun p => (c :: p.1, p.2)

/-- A cut at a character loses nothing but that character. -/
theorem append_of_cutAt? {stop : Char → Bool} {cs before after : List Char}
    (h : cutAt? stop cs = some (before, after)) :
    ∃ c, stop c = true ∧ before ++ c :: after = cs := by
  induction cs generalizing before with
  | nil => simp [cutAt?] at h
  | cons c cs ih =>
    simp only [cutAt?] at h
    split at h
    · rename_i hc
      simp only [Option.some.injEq, Prod.mk.injEq] at h
      obtain ⟨rfl, rfl⟩ := h
      exact ⟨c, hc, rfl⟩
    · obtain ⟨⟨b, a⟩, hb, he⟩ := Option.map_eq_some_iff.1 h
      simp only [Prod.mk.injEq] at he
      obtain ⟨rfl, rfl⟩ := he
      obtain ⟨d, hd, happ⟩ := ih hb
      exact ⟨d, hd, congrArg (c :: ·) happ⟩

/-- No character before the cut is one at which the text is cut. -/
theorem stop_eq_false_of_cutAt? {stop : Char → Bool} {cs before after : List Char}
    (h : cutAt? stop cs = some (before, after)) : ∀ c ∈ before, stop c = false := by
  induction cs generalizing before with
  | nil => cases h
  | cons c cs ih =>
    rw [cutAt?] at h
    split at h
    · cases h
      exact fun _ hc => nomatch hc
    · rename_i hstop
      obtain ⟨⟨b, a⟩, hb, he⟩ := Option.map_eq_some_iff.1 h
      cases he
      exact List.forall_mem_cons.2 ⟨Bool.eq_false_iff.2 hstop, ih hb⟩

/-- A text that is not cut has no character at which it would be. -/
theorem stop_eq_false_of_cutAt?_eq_none {stop : Char → Bool} {cs : List Char}
    (h : cutAt? stop cs = none) : ∀ c ∈ cs, stop c = false := by
  induction cs with
  | nil => exact fun _ hc => nomatch hc
  | cons c cs ih =>
    rw [cutAt?] at h
    split at h
    · cases h
    · rename_i hstop
      exact List.forall_mem_cons.2 ⟨Bool.eq_false_iff.2 hstop, ih (Option.map_eq_none_iff.1 h)⟩

/-- What follows a cut at a character is shorter than the whole. -/
theorem length_of_cutAt? {stop : Char → Bool} {cs before after : List Char}
    (h : cutAt? stop cs = some (before, after)) : before.length + after.length + 1 = cs.length := by
  obtain ⟨c, -, rfl⟩ := append_of_cutAt? h
  rw [List.length_append, List.length_cons, Nat.add_assoc]

/-- The parts of a text between the characters equal to `separator`. -/
def splitAt (separator : Char) : List Char → List (List Char)
  | [] => [[]]
  | c :: cs =>
    if c = separator then [] :: splitAt separator cs
    else
      match splitAt separator cs with
      | part :: parts => (c :: part) :: parts
      | [] => [[c]]

/-- A text has at least one part. -/
theorem splitAt_ne_nil (separator : Char) (cs : List Char) : splitAt separator cs ≠ [] := by
  cases cs with
  | nil => exact List.cons_ne_nil _ _
  | cons c cs =>
    rw [splitAt]
    split
    · exact List.cons_ne_nil _ _
    · split <;> exact List.cons_ne_nil _ _

/-- The parts of a text with the separators between them are the text. -/
theorem intercalate_splitAt (separator : Char) (cs : List Char) :
    [separator].intercalate (splitAt separator cs) = cs := by
  induction cs with
  | nil => exact List.intercalate_singleton
  | cons c cs ih =>
    rw [splitAt]
    split
    · rename_i hc
      rw [List.intercalate_cons_of_ne_nil (splitAt_ne_nil separator cs), ih, hc]
      rfl
    · split
      · rename_i part parts hparts
        rw [hparts] at ih
        -- the first part is the last one, or a separator follows it
        cases parts with
        | nil =>
          rw [List.intercalate_singleton] at ih ⊢
          rw [ih]
        | cons next parts =>
          rw [List.intercalate_cons_cons] at ih ⊢
          rw [← ih]
          rfl
      · rename_i hnil
        exact absurd hnil (splitAt_ne_nil separator cs)

/-- No part of a text contains the separator. -/
theorem notMem_of_mem_splitAt {separator : Char} {cs part : List Char}
    (h : part ∈ splitAt separator cs) : separator ∉ part := by
  induction cs generalizing part with
  | nil =>
    rw [splitAt, List.mem_singleton] at h
    exact h ▸ List.not_mem_nil
  | cons c cs ih =>
    rw [splitAt] at h
    split at h
    · rcases List.mem_cons.1 h with rfl | hlater
      · exact List.not_mem_nil
      · exact ih hlater
    · rename_i hc
      split at h
      · rename_i first parts hparts
        rcases List.mem_cons.1 h with rfl | hlater
        · have hfirst := ih (hparts ▸ List.mem_cons_self ..)
          exact fun hmem => (List.mem_cons.1 hmem).elim (fun heq => hc heq.symm) hfirst
        · exact ih (hparts ▸ List.mem_cons_of_mem _ hlater)
      · rename_i hnil
        exact absurd hnil (splitAt_ne_nil separator cs)

/-- A part between others that a separator divides. -/
theorem intercalate_append_cons (separator : Char) (l : List (List Char)) (part : List Char)
    (r : List (List Char)) :
    [separator].intercalate (l ++ part :: r) =
      l.flatMap (· ++ [separator]) ++ part ++ r.flatMap (separator :: ·) := by
  induction l with
  | nil =>
      rw [List.nil_append, List.flatMap_nil, List.nil_append]
      induction r generalizing part with
      | nil => rw [List.intercalate_singleton, List.flatMap_nil, List.append_nil]
      | cons next r ih =>
          rw [List.intercalate_cons_cons, ih, List.flatMap_cons]
          simp only [List.append_assoc, List.cons_append, List.nil_append]
  | cons first l ih =>
      rw [List.cons_append, List.intercalate_cons_of_ne_nil (by simp), ih, List.flatMap_cons]
      simp only [List.append_assoc]

/-- A text with the occurrences of `needle` replaced from left to right, after the first `skip`
characters are passed over. -/
def replaceFrom (needle replacement : List Char) : Nat → List Char → List Char
  | _, [] => []
  | skip + 1, _ :: cs => replaceFrom needle replacement skip cs
  | 0, c :: cs =>
    if needle.isPrefixOf (c :: cs) then
      replacement ++ replaceFrom needle replacement (needle.length - 1) cs
    else c :: replaceFrom needle replacement 0 cs

/-- A text with the occurrences of the non-empty `needle` replaced from left to right. -/
def replaceAll (needle replacement cs : List Char) : List Char := replaceFrom needle replacement 0 cs

/-- A text without the given start, if it has it. -/
def dropPrefix? (start : List Char) (cs : List Char) : Option (List Char) :=
  if start.isPrefixOf cs then some (cs.drop start.length) else none

/-- The text cut at the first `separator`, as a pair of texts. -/
def splitOnce? (separator : Char) (s : String) : Option (String × String) :=
  (cutAt? (· == separator) s.toList).map fun p => (String.ofList p.1, String.ofList p.2)

/-- The lines of a text, without their ends. -/
def lines (s : String) : List String := (splitAt '\n' s.toList).map String.ofList

/-- The first bytes of a text up to a boundary, and the rest, if a character ends exactly there. -/
def splitBytes? : Nat → List Char → Option (List Char × List Char)
  | 0, cs => some ([], cs)
  | _ + 1, [] => none
  | n + 1, c :: cs =>
    if n + 1 < c.utf8Size then none
    else (splitBytes? (n + 1 - c.utf8Size) cs).map fun p => (c :: p.1, p.2)

/-- A cut at a number of bytes loses nothing. -/
theorem append_of_splitBytes? {n : Nat} {cs start rest : List Char}
    (h : splitBytes? n cs = some (start, rest)) : start ++ rest = cs := by
  induction cs generalizing n start with
  | nil =>
    cases n with
    | zero => simp_all [splitBytes?]
    | succ n => simp [splitBytes?] at h
  | cons c cs ih =>
    cases n with
    | zero =>
      simp only [splitBytes?, Option.some.injEq, Prod.mk.injEq] at h
      simp [← h.1, ← h.2]
    | succ n =>
      simp only [splitBytes?] at h
      split at h
      · simp at h
      · obtain ⟨⟨b, a⟩, hb, he⟩ := Option.map_eq_some_iff.1 h
        simp only [Prod.mk.injEq] at he
        obtain ⟨rfl, rfl⟩ := he
        simpa using ih hb

end Rampart.Text
