import Rampart.Proofs.CodePoints
import Rampart.Proofs.Trim
import Rampart.Transform.Basic

/-!
# Reading back an escaped text

References by name are resolved one name after the other, the ampersand last, so that what one of them
stands for is never taken for the start of another. References by number are resolved after all of
them. So an escaped text is read back, except that the references by number which stood in it are
resolved as well.
-/

namespace Rampart

/-! ## Replacement -/

namespace Text

variable {needle replacement : List Char}

theorem replaceFrom_length (skipped cs : List Char) :
    replaceFrom needle replacement skipped.length (skipped ++ cs) =
      replaceAll needle replacement cs := by
  induction skipped with
  | nil => rfl
  | cons c skipped ih => exact ih

theorem replaceAll_append_needle (hne : needle ≠ []) (cs : List Char) :
    replaceAll needle replacement (needle ++ cs) =
      replacement ++ replaceAll needle replacement cs := by
  obtain ⟨c, rest, rfl⟩ := List.exists_cons_of_ne_nil hne
  have hprefix : (c :: rest).isPrefixOf (c :: (rest ++ cs)) = true :=
    List.isPrefixOf_iff_prefix.2 (List.prefix_append (c :: rest) cs)
  rw [replaceAll, List.cons_append, replaceFrom, if_pos hprefix]
  exact congrArg (replacement ++ ·) (replaceFrom_length rest cs)

theorem replaceAll_cons {c : Char} {cs : List Char} (h : needle.isPrefixOf (c :: cs) = false) :
    replaceAll needle replacement (c :: cs) = c :: replaceAll needle replacement cs := by
  rw [replaceAll, replaceFrom, h]
  rfl

/-- Where the first character of the needle is missing, nothing is replaced. -/
theorem replaceAll_append_of_notMem {first : Char} {piece : List Char} (h : first ∉ piece)
    (cs : List Char) :
    replaceAll (first :: needle) replacement (piece ++ cs) =
      piece ++ replaceAll (first :: needle) replacement cs := by
  induction piece with
  | nil => rfl
  | cons c piece ih =>
      obtain ⟨hne, hpiece⟩ := List.ne_and_not_mem_of_not_mem_cons h
      have hstart : (first :: needle).isPrefixOf (c :: (piece ++ cs)) = false := by
        rw [List.isPrefixOf, beq_false_of_ne hne, Bool.false_and]
      rw [List.cons_append, replaceAll_cons hstart, ih hpiece]
      rfl

/-- A text that is written piece by piece is replaced piece by piece, if each piece is, whatever
follows it. -/
theorem replaceAll_flatMap {before after : Char → List Char}
    (h : ∀ c cs, replaceAll needle replacement (before c ++ cs) =
      after c ++ replaceAll needle replacement cs) (cs : List Char) :
    replaceAll needle replacement (cs.flatMap before) = cs.flatMap after := by
  induction cs with
  | nil => rfl
  | cons c cs ih => rw [List.flatMap_cons, h, ih, List.flatMap_cons]

end Text

namespace Entity

/-! ## References by name -/

/-- The characters that are written as references, the ampersand last. -/
def special : List Char := ['<', '>', '"', '\'', '&']

/-- A character, written as a reference if it is one of some. -/
def escapeOnly (chars : List Char) (c : Char) : List Char := if c ∈ chars then escapeChar c else [c]

theorem escapeChar_of_notMem {c : Char} (h : c ∉ special) : escapeChar c = [c] := by
  unfold escapeChar
  split
  all_goals first | rfl | exact absurd (by decide) h

theorem escape_eq_flatMap (cs : List Char) : escape cs = cs.flatMap (escapeOnly special) := by
  unfold escape escapeOnly
  congr 1
  funext c
  split
  · rfl
  · rename_i hplain
    exact escapeChar_of_notMem hplain

theorem exists_name {c : Char} (h : c ∈ special) :
    ∃ name, escapeChar c = '&' :: name ∧ '&' ∉ name := by
  simp only [special, List.mem_cons, List.not_mem_nil, or_false] at h
  rcases h with rfl | rfl | rfl | rfl | rfl
  all_goals exact ⟨_, rfl, by decide⟩

variable {needle replacement : List Char}

/-- A reference by name is passed over when another name is looked for. -/
theorem replaceAll_escapeChar {c : Char} (hc : c ∈ special)
    (h : ∀ cs, ('&' :: needle).isPrefixOf (escapeChar c ++ cs) = false) (cs : List Char) :
    Text.replaceAll ('&' :: needle) replacement (escapeChar c ++ cs) =
      escapeChar c ++ Text.replaceAll ('&' :: needle) replacement cs := by
  obtain ⟨name, hescape, hamp⟩ := exists_name hc
  have hstart := h cs
  rw [hescape, List.cons_append] at hstart
  rw [hescape, List.cons_append, Text.replaceAll_cons hstart,
    Text.replaceAll_append_of_notMem hamp]
  rfl

/-- Of two different references by name neither is the start of the other. -/
theorem not_prefix_escapeChar {c d : Char} (hc : c ∈ special) (hd : d ∈ special) (hne : c ≠ d)
    (cs : List Char) : (escapeChar c).isPrefixOf (escapeChar d ++ cs) = false := by
  simp only [special, List.mem_cons, List.not_mem_nil, or_false] at hc hd
  rcases hc with rfl | rfl | rfl | rfl | rfl <;> rcases hd with rfl | rfl | rfl | rfl | rfl
  all_goals first | exact absurd rfl hne | rfl

/-- **Resolving one name** leaves the characters written as references that come behind it, as long as
the ampersand is among them or it is the one. -/
theorem replaceAll_escapeOnly (d : Char) (chars : List Char) (hsub : d :: chars ⊆ special)
    (hd : d ∉ chars) (hamp : '&' ∈ d :: chars) (cs : List Char) :
    Text.replaceAll (escapeChar d) [d] (cs.flatMap (escapeOnly (d :: chars))) =
      cs.flatMap (escapeOnly chars) := by
  have hspecial := hsub (List.mem_cons_self ..)
  obtain ⟨name, hname, -⟩ := exists_name hspecial
  refine Text.replaceAll_flatMap (fun c rest => ?_) cs
  by_cases hcd : c = d
  · rw [hcd, escapeOnly, escapeOnly, if_pos (List.mem_cons_self ..), if_neg hd]
    refine Text.replaceAll_append_needle ?_ rest
    rw [hname]
    exact List.cons_ne_nil _ _
  · by_cases hc : c ∈ chars
    · have hc' := List.mem_cons_of_mem d hc
      rw [escapeOnly, escapeOnly, if_pos hc', if_pos hc, hname]
      refine replaceAll_escapeChar (hsub hc') (fun cs => ?_) rest
      rw [← hname]
      exact not_prefix_escapeChar hspecial (hsub hc') (Ne.symm hcd) cs
    · have hc' : c ∉ d :: chars := List.not_mem_cons_of_ne_of_not_mem hcd hc
      have hplain : '&' ∉ [c] := fun h => hc' (List.mem_singleton.1 h ▸ hamp)
      rw [escapeOnly, escapeOnly, if_neg hc', if_neg hc, hname]
      exact Text.replaceAll_append_of_notMem hplain rest

/-- No character is written as a blank that does not break. -/
theorem replaceAll_blank (cs : List Char) :
    Text.replaceAll "&nbsp;".toList " ".toList (cs.flatMap (escapeOnly ['&'])) =
      cs.flatMap (escapeOnly ['&']) := by
  refine Text.replaceAll_flatMap (fun c rest => ?_) cs
  unfold escapeOnly
  split
  · rename_i hc
    rw [List.mem_singleton.1 hc]
    exact replaceAll_escapeChar (by decide) (fun _ => rfl) rest
  · rename_i hc
    have hplain : '&' ∉ [c] := fun h => hc (List.mem_singleton.1 h ▸ List.mem_singleton_self _)
    exact Text.replaceAll_append_of_notMem hplain rest

/-- **The names give an escaped text back.** -/
theorem decodeNamed_escape (cs : List Char) : decodeNamed (escape cs) = cs := by
  have hlt := replaceAll_escapeOnly '<' ['>', '"', '\'', '&'] (by decide) (by decide) (by decide) cs
  have hgt := replaceAll_escapeOnly '>' ['"', '\'', '&'] (by decide) (by decide) (by decide) cs
  have hquot := replaceAll_escapeOnly '"' ['\'', '&'] (by decide) (by decide) (by decide) cs
  have hapos := replaceAll_escapeOnly '\'' ['&'] (by decide) (by decide) (by decide) cs
  have hamp := replaceAll_escapeOnly '&' [] (by decide) (by decide) (by decide) cs
  have hdone : cs.flatMap (escapeOnly []) = cs := by
    have hplain : escapeOnly [] = fun c => [c] := funext fun c => if_neg List.not_mem_nil
    rw [hplain, List.flatMap_singleton']
  calc decodeNamed (escape cs)
      = Text.replaceAll (escapeChar '&') ['&']
          (Text.replaceAll "&nbsp;".toList " ".toList
            (Text.replaceAll (escapeChar '\'') ['\'']
              (Text.replaceAll (escapeChar '"') ['"']
                (Text.replaceAll (escapeChar '>') ['>']
                  (Text.replaceAll (escapeChar '<') ['<'] (escape cs)))))) := rfl
    _ = cs := by
        rw [escape_eq_flatMap, special, hlt, hgt, hquot, hapos, replaceAll_blank, hamp, hdone]

/-! ## References by number -/

/-- The number of a character, in decimal digits or behind an x in hexadecimal ones, with a sign or
without. -/
inductive Names (c : Char) : List Char → Prop
  | decimal {sign digits : List Char} (hsign : Text.IsSign sign)
      (h : Text.digits? 10 digits = some c.toNat) : Names c (sign ++ digits)
  | hexadecimal {x : Char} {sign digits : List Char} (hx : x = 'x' ∨ x = 'X')
      (hsign : Text.IsSign sign) (h : Text.digits? 16 digits = some c.toNat) :
      Names c (x :: (sign ++ digits))

/-- A reference by number and what follows it. -/
def StartsReference (cs : List Char) : Prop :=
  ∃ number c after, Names c number ∧ cs = '&' :: '#' :: (number ++ ';' :: after)

/-- A reference by number stands in the text. -/
def HasReference (cs : List Char) : Prop := ∃ before rest, StartsReference rest ∧ cs = before ++ rest

variable {c : Char} {number : List Char}

theorem Names.notMem (h : Names c number) : ';' ∉ number := by
  cases h with
  | decimal hsign h => exact Text.notMem_number hsign h (by decide) rfl
  | hexadecimal hx hsign h =>
      refine List.not_mem_cons_of_ne_of_not_mem ?_ (Text.notMem_number hsign h (by decide) rfl)
      rcases hx with rfl | rfl <;> decide

/-- **The numbers that are read** are those that name a character. -/
theorem names_iff : Names c number ↔ (number? number).bind Text.char? = some c := by
  have hbound : c.toNat ≤ 4294967295 := Nat.le_of_lt_succ c.val.toNat_lt
  constructor
  · intro h
    refine Option.bind_eq_some_iff.2 ⟨c.toNat, ?_, Text.char?_eq_some_iff.2 rfl⟩
    cases h with
    | @decimal sign digits hsign h =>
        have hread := Text.natural?_eq_some_iff.2 ⟨sign, digits, hsign, rfl, h, hbound⟩
        unfold number?
        split
        · rename_i hx
          exact absurd (hx ▸ List.mem_cons_self ..) (Text.notMem_number hsign h (by decide) rfl)
        · rename_i hx
          exact absurd (hx ▸ List.mem_cons_self ..) (Text.notMem_number hsign h (by decide) rfl)
        · exact hread
    | @hexadecimal x sign digits hx hsign h =>
        have hread := Text.natural?_eq_some_iff.2 ⟨sign, digits, hsign, rfl, h, hbound⟩
        rcases hx with rfl | rfl
        · exact hread
        · exact hread
  · intro h
    obtain ⟨n, hn, hc⟩ := Option.bind_eq_some_iff.1 h
    rw [Text.char?_eq_some_iff] at hc
    subst hc
    unfold number? at hn
    split at hn
    · obtain ⟨sign, digits, hsign, rfl, hread, -⟩ := Text.natural?_eq_some_iff.1 hn
      exact .hexadecimal (.inl rfl) hsign hread
    · obtain ⟨sign, digits, hsign, rfl, hread, -⟩ := Text.natural?_eq_some_iff.1 hn
      exact .hexadecimal (.inr rfl) hsign hread
    · obtain ⟨sign, digits, hsign, rfl, hread, -⟩ := Text.natural?_eq_some_iff.1 hn
      exact .decimal hsign hread

/-- A text with the references by number in it resolved. -/
def decodeNumbered (cs : List Char) : List Char := decodeNumberedFrom 0 cs

theorem decodeNumberedFrom_length (skipped cs : List Char) :
    decodeNumberedFrom skipped.length (skipped ++ cs) = decodeNumbered cs := by
  induction skipped with
  | nil => rfl
  | cons c skipped ih => exact ih

theorem reference?_eq_some_iff {cs : List Char} {length : Nat} :
    reference? cs = some (c, length) ↔
      ∃ number after, Names c number ∧ cs = number ++ ';' :: after ∧ length = number.length := by
  unfold reference?
  constructor
  · intro h
    split at h
    · rename_i number after hcut
      obtain ⟨d, hd, heq⟩ := Option.map_eq_some_iff.1 h
      cases heq
      obtain ⟨mark, hmark, hwhole⟩ := Text.append_of_cutAt? hcut
      rw [eq_of_beq hmark] at hwhole
      exact ⟨number, after, names_iff.2 hd, hwhole.symm, rfl⟩
    · cases h
  · rintro ⟨number, after, hnumber, rfl, rfl⟩
    rw [Text.cutAt?_append_cons hnumber.notMem]
    dsimp only
    rw [names_iff.1 hnumber, Option.map_some]

theorem decodeNumbered_reference (h : Names c number) (after : List Char) :
    decodeNumbered ('&' :: '#' :: (number ++ ';' :: after)) = c :: decodeNumbered after := by
  have hread : reference? (number ++ ';' :: after) = some (c, number.length) :=
    reference?_eq_some_iff.2 ⟨number, after, h, rfl, rfl⟩
  have hskip := decodeNumberedFrom_length ('#' :: (number ++ [';'])) after
  rw [List.cons_append, List.append_assoc, List.singleton_append, List.length_cons,
    List.length_append, List.length_singleton] at hskip
  rw [decodeNumbered, decodeNumberedFrom, if_pos rfl, hread]
  exact congrArg (c :: ·) hskip

theorem decodeNumbered_cons {cs : List Char} (h : ¬ StartsReference (c :: cs)) :
    decodeNumbered (c :: cs) = c :: decodeNumbered cs := by
  unfold decodeNumbered
  rw [decodeNumberedFrom.eq_def]
  dsimp only
  split
  · rename_i hamp
    rw [hamp]
    split
    · rename_i tail
      split
      · rename_i d length hread
        obtain ⟨number, after, hnumber, htail, -⟩ := reference?_eq_some_iff.1 hread
        exact absurd ⟨number, d, after, hnumber, by rw [hamp, htail]⟩ h
      · rfl
    · rfl
  · rfl

/-- A reference is longer than the character that it names. -/
theorem length_decodeNumbered_le (cs : List Char) : (decodeNumbered cs).length ≤ cs.length := by
  induction hlength : cs.length using Nat.strong_induction_on generalizing cs with
  | _ length ih =>
    cases cs with
    | nil => exact Nat.zero_le _
    | cons c cs =>
        by_cases hstarts : StartsReference (c :: cs)
        · obtain ⟨number, d, after, hnumber, hcs⟩ := hstarts
          rw [hcs] at hlength ⊢
          simp only [List.length_cons, List.length_append] at hlength
          rw [decodeNumbered_reference hnumber, List.length_cons]
          have := ih after.length (by omega) after rfl
          omega
        · rw [List.length_cons] at hlength
          rw [decodeNumbered_cons hstarts, List.length_cons]
          have := ih cs.length (by omega) cs rfl
          omega

theorem length_decodeNumbered_lt {cs : List Char} (h : HasReference cs) :
    (decodeNumbered cs).length < cs.length := by
  obtain ⟨before, rest, hstarts, rfl⟩ := h
  induction before with
  | nil =>
      obtain ⟨number, d, after, hnumber, rfl⟩ := hstarts
      have := length_decodeNumbered_le after
      rw [List.nil_append, decodeNumbered_reference hnumber]
      simp only [List.length_cons, List.length_append]
      omega
  | cons c before ih =>
      by_cases hearlier : StartsReference (c :: (before ++ rest))
      · obtain ⟨number, d, after, hnumber, hcs⟩ := hearlier
        have := length_decodeNumbered_le after
        rw [List.cons_append, hcs, decodeNumbered_reference hnumber]
        simp only [List.length_cons, List.length_append]
        omega
      · rw [List.cons_append, decodeNumbered_cons hearlier, List.length_cons, List.length_cons]
        exact Nat.succ_lt_succ ih

/-- **Only a text without references by number stays as it is.** -/
theorem decodeNumbered_eq_self_iff {cs : List Char} : decodeNumbered cs = cs ↔ ¬ HasReference cs := by
  constructor
  · intro heq hreference
    have := length_decodeNumbered_lt hreference
    rw [heq] at this
    exact Nat.lt_irrefl _ this
  · intro hnone
    induction cs with
    | nil => rfl
    | cons c cs ih =>
        have hstart : ¬ StartsReference (c :: cs) := fun h => hnone ⟨[], _, h, rfl⟩
        rw [decodeNumbered_cons hstart, ih]
        rintro ⟨before, rest, hrest, rfl⟩
        exact hnone ⟨c :: before, rest, hrest, rfl⟩

/--
**An escaped text is read back, but for the references by number in it.**

What decoding makes of an escaped text is the text with the references by number that stand in it
resolved. So it is the text itself exactly if no reference by number stands in it, whatever else it holds
that looks like a reference.
-/
theorem unescape_iff (s : String) :
    Transform.htmlEntityDecode.apply (String.ofList (escape s.toList)) =
        String.ofList (decodeNumbered s.toList) ∧
      (Transform.htmlEntityDecode.apply (String.ofList (escape s.toList)) = s ↔
        ¬ HasReference s.toList) := by
  have hdecoded : Transform.htmlEntityDecode.apply (String.ofList (escape s.toList)) =
      String.ofList (decodeNumbered s.toList) := by
    change String.ofList (decode (String.ofList (escape s.toList)).toList) = _
    rw [String.toList_ofList, decode, decodeNamed_escape]
    rfl
  refine ⟨hdecoded, ?_⟩
  rw [hdecoded, ← decodeNumbered_eq_self_iff, ← String.toList_inj, String.toList_ofList]

/-- A reference by number that is escaped is decoded twice. -/
theorem escaped_reference_decoded_twice :
    String.ofList (escape "&#60;".toList) = "&amp;#60;" ∧
      Transform.htmlEntityDecode.apply "&amp;#60;" = "<" ∧
        Transform.htmlEntityDecode.apply (String.ofList (escape "&#60;".toList)) ≠ "&#60;" := by
  decide +kernel

end Entity

end Rampart
