import Rampart.Proofs.SequentialDecoding
import Rampart.Transform.Basic

/-!
# Where long codes are misread

The decoder of long codes and the one pass that takes nothing else for a long code than the letter, in
either case, and four digits, read a text differently in two cases: the decoder overlooks a code with the
capital letter, if the small one announces a code further on, and it takes a plus sign for the first of the
digits.

In neither case can the rest of the text make up for it. What the two readings make of a code that is
misread differs by five characters, in one direction if it is overlooked and in the other one if it has a
sign. So texts that are equal in the end hold as many codes of either kind; but the sign is a blank in one of
the readings, and none of the codes brings a blank into the other one ahead of it.
-/

namespace Rampart.Percent

/-- The text that is read in one pass. -/
def sequential (cs : List Char) : List Char := Text.decodeLossy (readBytes code? cs)

/-- What stands behind a percent sign and is not read as one pass reads it: a long code with the capital
letter before an announcement with the small one, or an announcement with a sign for its first digit. -/
inductive Departs : List Char → Prop
  | overlooked {code : List Char} (hcode : (named (Text.digits? 16) code).isSome)
      (h : announcement <:+: code) : Departs ('U' :: code)
  | signed {letter : Char} {digits rest : List Char} (hlength : digits.length = 3)
      (hdigits : Text.AllDigits 16 digits)
      (h : letter = 'u' ∨ letter = 'U' ∧ ¬ announcement <:+: '+' :: (digits ++ rest)) :
      Departs (letter :: '+' :: (digits ++ rest))

/-- Somewhere in the text a long code is misread. -/
def Misread (cs : List Char) : Prop := ∃ before after, Departs after ∧ cs = before ++ '%' :: after

/-! ## Signs -/

section Signs

variable {c d letter : Char} {cs code digits rest : List Char}

theorem ne_of_digitValue? (h : (Text.digitValue? 16 c).isSome) (hd : Text.digitValue? 16 d = none) :
    c ≠ d := by
  rintro rfl
  rw [hd] at h
  cases h

theorem notMem_of_allDigits (h : Text.AllDigits 16 cs) (hc : Text.digitValue? 16 c = none) : c ∉ cs :=
  fun hmem => ne_of_digitValue? (h c hmem) hc rfl

theorem plain_of_allDigits (h : Text.AllDigits 16 cs) : ∀ c ∈ cs, c ≠ '%' ∧ c ≠ '+' := fun c hc =>
  ⟨ne_of_digitValue? (h c hc) rfl, ne_of_digitValue? (h c hc) rfl⟩

theorem allDigits_of_named (h : named (Text.digits? 16) cs = some d) :
    ∃ digits rest, cs = digits ++ rest ∧ digits.length = 4 ∧ Text.AllDigits 16 digits := by
  obtain ⟨digits, rest, hcs, hlength, hread⟩ := named_eq_some_iff.1 h
  exact ⟨digits, rest, hcs, hlength, Text.allDigits_of_digits? hread⟩

/-- Three digits behind a sign name a character, but are no four digits. -/
theorem named_signed (hlength : digits.length = 3) (hdigits : Text.AllDigits 16 digits) :
    (∃ d, named (Text.natural? 16 4294967295) ('+' :: (digits ++ rest)) = some d) ∧
      named (Text.digits? 16) ('+' :: (digits ++ rest)) = none := by
  constructor
  · have hne : digits ≠ [] := by
      rintro rfl
      cases hlength
    obtain ⟨n, hn⟩ := Option.isSome_iff_exists.1 (Text.isSome_digits?_iff.2 ⟨hne, hdigits⟩)
    have hlt := Text.digits?_lt_pow hn
    rw [hlength] at hlt
    have hvalid : n.isValidChar := .inl (by omega)
    refine ⟨Char.ofNat n, named_eq_some_iff.2 ⟨'+' :: digits, rest, rfl, congrArg Nat.succ hlength, ?_⟩⟩
    rw [Text.toNat_ofNat hvalid]
    exact Text.natural?_eq_some_iff.2 ⟨['+'], digits, .inr rfl, rfl, hn, by omega⟩
  · rw [Option.eq_none_iff_forall_ne_some]
    intro d hd
    obtain ⟨four, rest', heq, hfour, hall⟩ := allDigits_of_named hd
    obtain ⟨c, four, rfl⟩ := List.exists_cons_of_ne_nil (List.ne_nil_of_length_eq_add_one hfour)
    have hplus := hall c (List.mem_cons_self ..)
    rw [← (List.cons.inj heq).1] at hplus
    cases hplus

/-- Where there is no sign, the decoder reads four digits as they are. -/
theorem named_eq_or_signed (code : List Char) :
    named (Text.natural? 16 4294967295) code = named (Text.digits? 16) code ∨
      ∃ digits rest, code = '+' :: (digits ++ rest) ∧ digits.length = 3 ∧ Text.AllDigits 16 digits := by
  by_cases hsigned : ∃ digits rest, code = '+' :: (digits ++ rest) ∧ digits.length = 3 ∧
      Text.AllDigits 16 digits
  · exact .inr hsigned
  · refine .inl (Option.ext fun d => ?_)
    rw [named_eq_some_iff, named_eq_some_iff]
    constructor
    · rintro ⟨number, rest, rfl, hlength, hread⟩
      obtain ⟨sign, digits, hsign, rfl, hdigits, -⟩ := Text.natural?_eq_some_iff.1 hread
      rcases hsign with rfl | rfl
      · exact ⟨digits, rest, rfl, hlength, hdigits⟩
      · exact absurd ⟨digits, rest, rfl, Nat.succ.inj hlength, Text.allDigits_of_digits? hdigits⟩ hsigned
    · rintro ⟨number, rest, rfl, hlength, hread⟩
      have hbound : d.toNat ≤ 4294967295 := Nat.le_of_lt_succ d.val.toNat_lt
      exact ⟨number, rest, rfl, hlength,
        Text.natural?_eq_some_iff.2 ⟨[], number, .inl rfl, rfl, hread, hbound⟩⟩

theorem code?_of_letter (h : letter = 'u' ∨ letter = 'U') (code : List Char) :
    code? (letter :: code) = named (Text.digits? 16) code := by
  rw [code?, if_pos h]

theorem exists_of_code? (h : code? cs = some d) :
    ∃ code rest, cs = code ++ rest ∧ code.length = 5 ∧ '%' ∉ code := by
  cases cs with
  | nil => cases h
  | cons letter cs =>
      rw [code?] at h
      split at h
      · rename_i hletter
        obtain ⟨digits, rest, rfl, hlength, hdigits⟩ := allDigits_of_named h
        refine ⟨letter :: digits, rest, rfl, congrArg Nat.succ hlength, ?_⟩
        rintro hmem
        rcases List.mem_cons.1 hmem with rfl | hmem
        · rcases hletter with hletter | hletter <;> cases hletter
        · exact notMem_of_allDigits hdigits rfl hmem
      · cases h

/-- **Everywhere else the decoder takes for a long code what one pass does.** -/
theorem takenCode?_eq_code? (h : ¬ Departs cs) : takenCode? cs = code? cs := by
  cases cs with
  | nil => rfl
  | cons letter code =>
      by_cases hletter : letter = 'u' ∨ letter = 'U' ∧ ¬ announcement <:+: code
      · have heq : named (Text.natural? 16 4294967295) code = named (Text.digits? 16) code := by
          rcases named_eq_or_signed code with heq | ⟨digits, rest, rfl, hlength, hdigits⟩
          · exact heq
          · exact absurd (.signed hlength hdigits hletter) h
        rw [takenCode?, if_pos hletter, code?_of_letter (hletter.imp_right And.left), heq]
      · rw [takenCode?, if_neg hletter]
        by_cases hcapital : letter = 'U'
        · subst hcapital
          have hlater : announcement <:+: code := by
            by_contra hnone
            exact hletter (.inr ⟨rfl, hnone⟩)
          rw [code?_of_letter (.inr rfl), eq_comm, ← Option.not_isSome_iff_eq_none]
          exact fun hcode => h (.overlooked hcode hlater)
        · rw [code?, if_neg]
          rintro (hsmall | hcapital')
          · exact hletter (.inl hsmall)
          · exact hcapital hcapital'

end Signs

/-! ## Pieces of two readings -/

/-- What two readings make of a part of a text: the same of most parts, five characters more or less of a
long code that is misread. -/
inductive Piece where
  | same (text : List Char)
  | overlooked (digits : List Char) (c : Char) (hlength : digits.length = 4) (hblank : ' ' ∉ digits)
  | signed (letter : Char) (digits : List Char) (c : Char) (hletter : letter ≠ ' ')
      (hlength : digits.length = 3) (hblank : ' ' ∉ digits)

namespace Piece

/-- What the decoder makes of it. -/
def taken : Piece → List Char
  | same text => text
  | overlooked digits _ _ _ => '%' :: 'U' :: digits
  | signed _ _ c _ _ _ => [c]

/-- What one pass makes of it. -/
def meant : Piece → List Char
  | same text => text
  | overlooked _ c _ _ => [c]
  | signed letter digits _ _ _ _ => '%' :: letter :: ' ' :: digits

/-- It is read in the same way. -/
def IsSame : Piece → Prop
  | same _ => True
  | _ => False

theorem ne_nil {p : Piece} (h : ¬ p.IsSame) : p.taken ≠ [] ∧ p.meant ≠ [] := by
  cases p with
  | same text => exact absurd trivial h
  | overlooked => exact ⟨List.cons_ne_nil _ _, List.cons_ne_nil _ _⟩
  | signed => exact ⟨List.cons_ne_nil _ _, List.cons_ne_nil _ _⟩

/-- One pass makes no fewer blanks of a piece, and of a sign it makes one. -/
theorem count_taken_le (p : Piece) : p.taken.count ' ' ≤ p.meant.count ' ' := by
  cases p with
  | same text => exact Nat.le_refl _
  | overlooked digits c hlength hblank =>
      have hnone : List.count ' ' ('%' :: 'U' :: digits) = 0 := by
        rw [List.count_eq_zero]
        simpa using hblank
      rw [taken, hnone]
      exact Nat.zero_le _
  | signed letter digits c hletter hlength hblank =>
      have hone : 1 ≤ List.count ' ' ('%' :: letter :: ' ' :: digits) :=
        List.count_pos_iff.2 (by simp)
      exact Nat.le_trans (List.count_le_length ..) hone

theorem count_flatMap_le (ps : List Piece) :
    (ps.flatMap taken).count ' ' ≤ (ps.flatMap meant).count ' ' := by
  induction ps with
  | nil => exact Nat.le_refl _
  | cons p ps ih =>
      rw [List.flatMap_cons, List.flatMap_cons, List.count_append, List.count_append]
      exact Nat.add_le_add p.count_taken_le ih

/-- So in readings that are equal, every piece has its blanks in both. -/
theorem count_eq_of_flatMap_eq {ps : List Piece}
    (h : (ps.flatMap taken).count ' ' = (ps.flatMap meant).count ' ') :
    ∀ p ∈ ps, p.taken.count ' ' = p.meant.count ' ' := by
  induction ps with
  | nil => exact List.forall_mem_nil _
  | cons p ps ih =>
      rw [List.flatMap_cons, List.flatMap_cons, List.count_append, List.count_append] at h
      have hp := p.count_taken_le
      have hps := count_flatMap_le ps
      exact List.forall_mem_cons.2 ⟨by omega, ih (by omega)⟩

/-- Of two equal texts, the one that runs ahead still does so behind a text that they share, and by the
same characters. -/
theorem exists_lag {lag text as bs : List Char} (h : lag ++ (text ++ as) = text ++ bs) :
    ∃ later : List Char, later.Perm lag ∧ later ++ as = bs := by
  rw [← List.append_assoc] at h
  have hbehind : text <+: lag ++ text ++ as := h ▸ List.prefix_append _ _
  have hahead : lag ++ text <+: lag ++ text ++ as := List.prefix_append _ _
  have hlength : text.length ≤ (lag ++ text).length := by
    rw [List.length_append]
    exact Nat.le_add_left _ _
  obtain ⟨later, hlater⟩ := List.prefix_of_prefix_length_le hbehind hahead hlength
  have hperm : (text ++ later).Perm (text ++ lag) := hlater ▸ List.perm_append_comm
  refine ⟨later, (List.perm_append_left_iff text).1 hperm, ?_⟩
  rw [← hlater, List.append_assoc] at h
  exact List.append_cancel_left h

/-- A sign is read as a blank, so what the decoder makes of the code has none only if it is one. -/
theorem eq_blank_of_count {letter c : Char} {digits : List Char}
    (h : [c].count ' ' = ('%' :: letter :: ' ' :: digits).count ' ') : c = ' ' := by
  by_contra hne
  have hnone : List.count ' ' [c] = 0 := List.count_eq_zero.2 (by simpa using Ne.symm hne)
  have hone : 0 < List.count ' ' ('%' :: letter :: ' ' :: digits) := List.count_pos_iff.2 (by simp)
  omega

/--
**A reading does not fall in with the other one again.**

While the decoder has made five characters, or ten, or any such number, more of the text so far than one
pass, there is no blank among them, and so a sign cannot be what comes next.
-/
theorem isSame_of_lag {ps : List Piece} {lag : List Char}
    (hcount : ∀ p ∈ ps, p.taken.count ' ' = p.meant.count ' ') (hblank : ' ' ∉ lag)
    (hfive : 5 ∣ lag.length) (h : lag ++ ps.flatMap taken = ps.flatMap meant) :
    lag = [] ∧ ∀ p ∈ ps, p.IsSame := by
  induction ps generalizing lag with
  | nil => exact ⟨(List.append_eq_nil_iff.1 h).1, List.forall_mem_nil _⟩
  | cons p ps ih =>
      obtain ⟨hp, hps⟩ := List.forall_mem_cons.1 hcount
      rw [List.flatMap_cons, List.flatMap_cons] at h
      cases p with
      | same text =>
          obtain ⟨later, hperm, hrest⟩ := exists_lag h
          have hlater : ' ' ∉ later := mt hperm.mem_iff.1 hblank
          obtain ⟨hnil, hsame⟩ := ih hps hlater (hperm.length_eq ▸ hfive) hrest
          rw [hnil] at hperm
          exact ⟨hperm.nil_eq.symm, List.forall_mem_cons.2 ⟨trivial, hsame⟩⟩
      | overlooked digits c hlength hdigits =>
          -- the first character is common to both readings, and the other five are added to the lag
          obtain ⟨first, later, hlater⟩ : ∃ first later, lag ++ '%' :: 'U' :: digits = first :: later :=
            List.exists_cons_of_ne_nil (List.append_ne_nil_of_right_ne_nil _ (List.cons_ne_nil _ _))
          have hrest : later ++ ps.flatMap taken = ps.flatMap meant := by
            rw [taken, meant, ← List.append_assoc, hlater] at h
            exact (List.cons.inj h).2
          have hlength' := congrArg List.length hlater
          simp only [List.length_append, List.length_cons, hlength] at hlength'
          have hlater' : ' ' ∉ later := by
            have hall : ' ' ∉ lag ++ '%' :: 'U' :: digits := by simpa [hblank] using hdigits
            rw [hlater] at hall
            exact (List.ne_and_not_mem_of_not_mem_cons hall).2
          obtain ⟨hnil, -⟩ := ih hps hlater' (by omega) hrest
          rw [hnil, List.length_nil] at hlength'
          omega
      | signed letter digits c hletter hlength hdigits =>
          have hc : c = ' ' := eq_blank_of_count hp
          -- without a lag the readings differ at once, and with one the blank falls into it
          match lag, hfive with
          | [], _ =>
              rw [hc] at h
              cases h
          | [_], hfive => exact absurd hfive (by omega : ¬ 5 ∣ 1)
          | [_, _], hfive => exact absurd hfive (by omega : ¬ 5 ∣ 2)
          | _ :: _ :: third :: lag, _ =>
              have hthird : third = ' ' := by
                have := (List.cons.inj (List.cons.inj h).2).2
                exact (List.cons.inj this).1
              rw [hthird] at hblank
              exact absurd (by simp) hblank

/-- **Readings that are equal in the end** are equal piece by piece. -/
theorem isSame_of_flatMap_eq {ps : List Piece} (h : ps.flatMap taken = ps.flatMap meant) :
    ∀ p ∈ ps, p.IsSame :=
  (isSame_of_lag (count_eq_of_flatMap_eq (congrArg (List.count ' ') h)) List.not_mem_nil
    (Nat.dvd_zero 5) h).2

end Piece

/-! ## The two readings of a text -/

section Readings

variable {c : Char} {cs plain : List Char}

theorem misread_of_append (hplain : '%' ∉ plain) (h : Misread (plain ++ cs)) : Misread cs := by
  induction plain with
  | nil => exact h
  | cons c plain ih =>
      obtain ⟨hne, hrest⟩ := List.ne_and_not_mem_of_not_mem_cons hplain
      obtain ⟨before, after, hdeparts, heq⟩ := h
      cases before with
      | nil => exact absurd (List.cons.inj heq).1.symm hne
      | cons first before => exact ih hrest ⟨before, after, hdeparts, (List.cons.inj heq).2⟩

theorem misread_of_percent (hdeparts : ¬ Departs cs) (h : Misread ('%' :: cs)) : Misread cs := by
  obtain ⟨before, after, hafter, heq⟩ := h
  cases before with
  | nil => exact absurd ((List.cons.inj heq).2 ▸ hafter) hdeparts
  | cons first before => exact ⟨before, after, hafter, (List.cons.inj heq).2⟩

/-- Digits behind an announcement stand for themselves, if it does. -/
theorem readBytes_digits {long? : List Char → Option Char} {letter : Char} {digits rest : List Char}
    (hletter : letter = 'u' ∨ letter = 'U') (hdigits : Text.AllDigits 16 digits)
    (h : long? (letter :: (digits ++ rest)) = none) :
    readBytes long? ('%' :: letter :: (digits ++ rest)) =
      Text.encode ('%' :: letter :: digits) ++ readBytes long? rest := by
  have hsplit := Text.encode_append ['%', letter] digits
  rw [readBytes_announcement hletter h, readBytes_append_of_plain (plain_of_allDigits hdigits),
    ← List.append_assoc, ← hsplit]
  rfl

/-- The two readings of a text behind the bytes `bs` are made of pieces, and all of these are the same only
if the text is not misread. -/
def InPieces (bs : List UInt8) (cs : List Char) : Prop :=
  ∃ ps : List Piece,
    Text.decodeLossy (bs ++ readBytes takenCode? cs) = ps.flatMap Piece.taken ∧
      Text.decodeLossy (bs ++ readBytes code? cs) = ps.flatMap Piece.meant ∧
        ((∀ p ∈ ps, p.IsSame) → ¬ Misread cs)

namespace InPieces

variable {bs : List UInt8} {rest : List Char}

theorem nil (bs : List UInt8) : InPieces bs [] := by
  refine ⟨[.same (Text.decodeLossy bs)], ?_, ?_, ?_⟩
  · rw [List.flatMap_singleton]
    exact congrArg Text.decodeLossy (List.append_nil bs)
  · rw [List.flatMap_singleton]
    exact congrArg Text.decodeLossy (List.append_nil bs)
  · rintro - ⟨before, after, -, heq⟩
    cases before <;> cases heq

/-- What both readings make of the first characters joins the bytes before them. -/
theorem common (bytes : List UInt8) (htaken : readBytes takenCode? cs = bytes ++ readBytes takenCode? rest)
    (hmeant : readBytes code? cs = bytes ++ readBytes code? rest) (hmisread : Misread cs → Misread rest)
    (h : InPieces (bs ++ bytes) rest) : InPieces bs cs := by
  obtain ⟨ps, hps, hps', hsame⟩ := h
  refine ⟨ps, ?_, ?_, fun h hmis => hsame h (hmisread hmis)⟩
  · rw [htaken, ← List.append_assoc, hps]
  · rw [hmeant, ← List.append_assoc, hps']

/-- What they make of a code that is misread is a piece of its own. -/
theorem apart (p : Piece) (hp : ¬ p.IsSame)
    (htaken : readBytes takenCode? cs = Text.encode p.taken ++ readBytes takenCode? rest)
    (hmeant : readBytes code? cs = Text.encode p.meant ++ readBytes code? rest)
    (h : InPieces [] rest) : InPieces bs cs := by
  obtain ⟨ps, hps, hps', -⟩ := h
  obtain ⟨hne, hne'⟩ := Piece.ne_nil hp
  rw [List.nil_append] at hps hps'
  refine ⟨.same (Text.decodeLossy bs) :: p :: ps, ?_, ?_, fun hall => ?_⟩
  · rw [htaken, Text.decodeLossy_append_encode _ hne, hps]
    rfl
  · rw [hmeant, Text.decodeLossy_append_encode _ hne', hps']
    rfl
  · exact absurd (hall p (List.mem_cons_of_mem _ (List.mem_cons_self ..))) hp

theorem departs (hdeparts : Departs cs)
    (h : ∀ rest : List Char, rest.length < cs.length → InPieces [] rest) : InPieces bs ('%' :: cs) := by
  have hlong {long? : List Char → Option Char} {code rest : List Char} {d : Char}
      (hlength : code.length = 5) (h : long? (code ++ rest) = some d) :
      readBytes long? ('%' :: (code ++ rest)) = Text.encode [d] ++ readBytes long? rest := by
    rw [readBytes_long hlength h, Text.encode, List.flatMap_singleton]
  cases hdeparts with
  | @overlooked code hcode hlater =>
      obtain ⟨d, hd⟩ := Option.isSome_iff_exists.1 hcode
      obtain ⟨digits, rest, rfl, hlength, hdigits⟩ := allDigits_of_named hd
      have hblank : ' ' ∉ digits := notMem_of_allDigits hdigits rfl
      have hfive : ('U' :: digits).length = 5 := congrArg Nat.succ hlength
      have hmeant : code? ('U' :: digits ++ rest) = some d := (code?_of_letter (.inr rfl) _).trans hd
      refine apart (.overlooked digits d hlength hblank) id ?_ (hlong hfive hmeant) (h rest ?_)
      · exact readBytes_digits (.inr rfl) hdigits (takenCode?_eq_none (by simp) fun _ => hlater)
      · simp only [List.length_cons, List.length_append]
        omega
  | @signed letter digits rest hlength hdigits hletter =>
      obtain ⟨⟨d, hd⟩, hnone⟩ : _ ∧ named (Text.digits? 16) ('+' :: (digits ++ rest)) = none :=
        named_signed hlength hdigits
      have hblank : ' ' ∉ digits := notMem_of_allDigits hdigits rfl
      have hletter' : letter = 'u' ∨ letter = 'U' := hletter.imp_right And.left
      have hne : letter ≠ ' ' := by rcases hletter' with rfl | rfl <;> simp
      have hfive : (letter :: '+' :: digits).length = 5 := congrArg (· + 2) hlength
      have htaken : takenCode? (letter :: '+' :: digits ++ rest) = some d := (if_pos hletter).trans hd
      refine apart (.signed letter digits d hne hlength hblank) id (hlong hfive htaken) ?_ (h rest ?_)
      · have hsplit := Text.encode_append ['%', letter] (' ' :: digits)
        rw [readBytes_announcement hletter' ((code?_of_letter hletter' _).trans hnone), readBytes_plus,
          readBytes_append_of_plain (plain_of_allDigits hdigits), ← List.cons_append,
          ← List.append_assoc]
        exact congrArg (· ++ readBytes code? rest) hsplit.symm
      · simp only [List.length_cons, List.length_append]
        omega

end InPieces

/-- **The two readings of a text are made of pieces.** -/
theorem inPieces (cs : List Char) (bs : List UInt8) : InPieces bs cs := by
  induction hlength : cs.length using Nat.strong_induction_on generalizing cs bs with
  | _ length ih =>
    cases cs with
    | nil => exact .nil bs
    | cons c cs =>
        rw [List.length_cons] at hlength
        by_cases hpercent : c = '%'
        · subst hpercent
          by_cases hdeparts : Departs cs
          · exact .departs hdeparts fun rest hrest => ih rest.length (by omega) rest [] rfl
          · -- both readings take the same step here
            have hcode := takenCode?_eq_code? hdeparts
            cases hlong : code? cs with
            | some d =>
                obtain ⟨code, rest, rfl, hfive, hplain⟩ := exists_of_code? hlong
                rw [List.length_append] at hlength
                exact .common _ (readBytes_long hfive (hcode.trans hlong)) (readBytes_long hfive hlong)
                  (fun h => misread_of_append hplain (misread_of_percent hdeparts h))
                  (ih rest.length (by omega) rest _ rfl)
            | none =>
                have hlong' := hcode.trans hlong
                cases htwo : twoDigits? cs with
                | none =>
                    have htaken := readBytes_percent hlong' htwo
                    have hmeant := readBytes_percent hlong htwo
                    exact .common [0x25] htaken hmeant (misread_of_percent hdeparts)
                      (ih cs.length (by omega) cs _ rfl)
                | some byte =>
                    obtain ⟨a, b, rest, rfl, ha, hb⟩ := exists_of_twoDigits? htwo
                    have hall : Text.AllDigits 16 [a, b] := by
                      simp [Text.AllDigits, ha, hb]
                    have hdigits : '%' ∉ [a, b] := notMem_of_allDigits hall rfl
                    simp only [List.length_cons] at hlength
                    exact .common [byte] (readBytes_two hlong' htwo) (readBytes_two hlong htwo)
                      (fun h => misread_of_append hdigits (misread_of_percent hdeparts h))
                      (ih rest.length (by omega) rest _ rfl)
        · have hplain : '%' ∉ [c] := by simpa using Ne.symm hpercent
          have hmisread : Misread (c :: cs) → Misread cs := misread_of_append hplain
          by_cases hplus : c = '+'
          · subst hplus
            exact .common [0x20] (readBytes_plus cs) (readBytes_plus cs) hmisread
              (ih cs.length (by omega) cs _ rfl)
          · exact .common _ (readBytes_cons hpercent hplus cs) (readBytes_cons hpercent hplus cs) hmisread
              (ih cs.length (by omega) cs _ rfl)

theorem decodeLong_eq_sequential_iff (cs : List Char) : decodeLong cs = sequential cs ↔ ¬ Misread cs := by
  constructor
  · intro h
    obtain ⟨ps, htaken, hmeant, hsame⟩ := inPieces cs []
    refine hsame (Piece.isSame_of_flatMap_eq ?_)
    rw [decodeLong_eq, sequential] at h
    exact htaken.symm.trans (h.trans hmeant)
  · intro h
    rw [decodeLong_eq]
    refine congrArg Text.decodeLossy (readFrom_congr (fun before after hcs => ?_) 0)
    exact takenCode?_eq_code? fun hdeparts => h ⟨before, after, hdeparts, hcs⟩

end Readings

/--
**Which texts the decoder of long codes reads in one pass.**

The decoder makes of a text what one pass makes of it that takes `takenCode?` for its long codes. It makes
of it what one pass makes that takes nothing but the letter and four digits for one exactly if no long code
in the text is misread: none with the capital letter stands before an announcement with the small one, and
none has a sign for its first digit.
-/
theorem decodeLong_sequential_iff (s : String) :
    Transform.urlDecodeUni.apply s = String.ofList (Text.decodeLossy (readBytes takenCode? s.toList)) ∧
      (Transform.urlDecodeUni.apply s = String.ofList (sequential s.toList) ↔ ¬ Misread s.toList) := by
  have happly : Transform.urlDecodeUni.apply s = String.ofList (decodeLong s.toList) := rfl
  rw [happly, String.ofList_inj, String.ofList_inj]
  exact ⟨decodeLong_eq _, decodeLong_eq_sequential_iff _⟩

/-- A code with the capital letter is overlooked before one with the small letter, and a sign is taken for a
digit. -/
theorem codes_misread :
    (Transform.urlDecodeUni.apply "%U0041%u0042" = "%U0041B" ∧
        String.ofList (sequential "%U0041%u0042".toList) = "AB") ∧
      Transform.urlDecodeUni.apply "%u+041" = "A" ∧
        String.ofList (sequential "%u+041".toList) = "%u 041" := by
  decide +kernel

end Rampart.Percent
