import Mathlib.Data.List.Infix
import Rampart.Proofs.CodePoints
import Rampart.Proofs.LossyDecoding
import Rampart.Proofs.Parts
import Rampart.Transform.Percent

/-!
# Decoding in one pass

A text with percent signs can be read once from left to right: behind a percent sign a long code names a
character, two digits name a byte, and everything else stands for itself. The decoder of long codes works
differently. It looks for the next announcement of one, decodes what stands before it, and starts again
behind it. It comes to the same as one pass that takes another view of what a long code is: for the capital
letter to announce one, no small letter may do so anywhere behind it, and one of the four digits may be a
sign.
-/

namespace Rampart.Percent

/-! ## One pass -/

/-- The character whose number is read from the first four characters. -/
def named (read : List Char → Option Nat) : List Char → Option Char
  | a :: b :: c :: d :: _ => (read [a, b, c, d]).bind Text.char?
  | _ => none

/-- The byte that the first two characters name in hexadecimal digits. -/
def twoDigits? : List Char → Option UInt8
  | a :: b :: _ => (Text.digits? 16 [a, b]).map UInt8.ofNat
  | _ => none

/-- The bytes that a text stands for, read from left to right after the first `skip` characters are passed
over. What stands behind a percent sign is a long code if `long?` names a character for it. -/
def readFrom (long? : List Char → Option Char) : Nat → List Char → List UInt8
  | _, [] => []
  | skip + 1, _ :: cs => readFrom long? skip cs
  | 0, c :: cs =>
    if c = '%' then
      match long? cs with
      | some d => String.utf8EncodeChar d ++ readFrom long? 5 cs
      | none =>
        match twoDigits? cs with
        | some b => b :: readFrom long? 2 cs
        | none => 0x25 :: readFrom long? 0 cs
    else if c = '+' then 0x20 :: readFrom long? 0 cs
    else String.utf8EncodeChar c ++ readFrom long? 0 cs

/-- The bytes that a text stands for. -/
def readBytes (long? : List Char → Option Char) (cs : List Char) : List UInt8 := readFrom long? 0 cs

/-- The announcement of a long code in its small form. -/
def announcement : List Char := ['%', 'u']

/-- A long code behind a percent sign: the letter in either case, and four digits. -/
def code? : List Char → Option Char
  | [] => none
  | letter :: cs => if letter = 'u' ∨ letter = 'U' then named (Text.digits? 16) cs else none

/-- What the decoder takes for a long code behind a percent sign. -/
def takenCode? : List Char → Option Char
  | [] => none
  | letter :: cs =>
    if letter = 'u' ∨ letter = 'U' ∧ ¬ announcement <:+: cs then named (Text.natural? 16 4294967295) cs
    else none

section Reading

variable {long? : List Char → Option Char} {c d : Char} {cs : List Char}

theorem readFrom_length (long? : List Char → Option Char) (skipped cs : List Char) :
    readFrom long? skipped.length (skipped ++ cs) = readBytes long? cs := by
  induction skipped with
  | nil => rfl
  | cons c skipped ih => exact ih

theorem readBytes_plus (cs : List Char) :
    readBytes long? ('+' :: cs) = 0x20 :: readBytes long? cs := rfl

theorem readBytes_cons (hpercent : c ≠ '%') (hplus : c ≠ '+') (cs : List Char) :
    readBytes long? (c :: cs) = String.utf8EncodeChar c ++ readBytes long? cs :=
  (if_neg hpercent).trans (if_neg hplus)

/-- What a percent sign stands for: a long code, two digits, or itself. -/
theorem readBytes_mark (long? : List Char → Option Char) (cs : List Char) :
    readBytes long? ('%' :: cs) =
      match long? cs with
      | some d => String.utf8EncodeChar d ++ readFrom long? 5 cs
      | none =>
        match twoDigits? cs with
        | some b => b :: readFrom long? 2 cs
        | none => 0x25 :: readBytes long? cs := rfl

theorem readBytes_long {code : List Char} (hlength : code.length = 5)
    (h : long? (code ++ cs) = some d) :
    readBytes long? ('%' :: (code ++ cs)) = String.utf8EncodeChar d ++ readBytes long? cs := by
  have hskip := readFrom_length long? code cs
  rw [hlength] at hskip
  rw [readBytes_mark, h, ← hskip]

theorem readBytes_two {a b : Char} {byte : UInt8} (hlong : long? (a :: b :: cs) = none)
    (h : twoDigits? (a :: b :: cs) = some byte) :
    readBytes long? ('%' :: a :: b :: cs) = byte :: readBytes long? cs := by
  rw [readBytes_mark, hlong, h]
  rfl

theorem readBytes_percent (hlong : long? cs = none) (h : twoDigits? cs = none) :
    readBytes long? ('%' :: cs) = 0x25 :: readBytes long? cs := by
  rw [readBytes_mark, hlong, h]

theorem readBytes_append_of_plain {plain : List Char} (h : ∀ c ∈ plain, c ≠ '%' ∧ c ≠ '+')
    (cs : List Char) :
    readBytes long? (plain ++ cs) = Text.encode plain ++ readBytes long? cs := by
  induction plain with
  | nil => rfl
  | cons c plain ih =>
      obtain ⟨⟨hpercent, hplus⟩, hplain⟩ := List.forall_mem_cons.1 h
      rw [List.cons_append, readBytes_cons hpercent hplus, ih hplain, Text.encode_cons,
        List.append_assoc]

/-- Two passes agree if they see the same long codes behind the percent signs of the text. -/
theorem readFrom_congr {long?' : List Char → Option Char}
    (h : ∀ before after, cs = before ++ '%' :: after → long? after = long?' after) (skip : Nat) :
    readFrom long? skip cs = readFrom long?' skip cs := by
  induction cs generalizing skip with
  | nil => rw [readFrom, readFrom]
  | cons c cs ih =>
      have hrest (skip : Nat) := ih (fun before after heq => h (c :: before) after (by rw [heq]; rfl)) skip
      cases skip with
      | succ skip => exact hrest skip
      | zero =>
          rw [readFrom, readFrom]
          split
          · rename_i hc
            rw [h [] cs (by rw [hc]; rfl)]
            split
            · rw [hrest]
            · split
              · rw [hrest]
              · rw [hrest]
          · rw [hrest]

end Reading

/-! ## Bytes and characters -/

section Bytes

variable {c : Char} {cs : List Char} {bs : List UInt8}

/-- The first byte of a character stands for a digit exactly if the character does, and is then its only
one. -/
theorem exists_firstByte (c : Char) :
    ∃ b bs, String.utf8EncodeChar c = b :: bs ∧ hexByte? b = Text.digitValue? 16 c ∧
      (bs ≠ [] → hexByte? b = none) := by
  by_cases hascii : c.toNat < 0x80
  · refine ⟨UInt8.ofNat c.toNat, [], Text.utf8EncodeChar_of_lt hascii, ?_, fun h => absurd rfl h⟩
    rw [hexByte?, Text.toNat_byte (by omega), Char.ofNat_toNat]
  · have hnone : Text.digitValue? 16 c = none := by
      rw [← Option.not_isSome_iff_eq_none]
      exact mt Text.toNat_lt_of_digitValue? hascii
    have hall : ∀ n < 256, 0x80 ≤ n → Text.digitValue? 16 (Char.ofNat n) = none := by
      decide +kernel
    obtain ⟨b, bs, hbytes⟩ := List.exists_cons_of_ne_nil (String.utf8EncodeChar_ne_nil (c := c))
    have hb : hexByte? b = none := hall b.toNat b.toNat_lt
      (Text.le_of_mem_utf8EncodeChar (Nat.le_of_not_lt hascii) b (hbytes ▸ List.mem_cons_self ..))
    exact ⟨b, bs, hbytes, hb.trans hnone.symm, fun _ => hb⟩

theorem twoDigits?_cons (a b : Char) (cs : List Char) :
    twoDigits? (a :: b :: cs) =
      (Text.digitValue? 16 a).bind fun high =>
        (Text.digitValue? 16 b).map fun low => UInt8.ofNat (high * 16 + low) := by
  rw [twoDigits?, Text.digits?, List.isEmpty_cons, if_neg Bool.false_ne_true, List.foldlM_cons]
  cases Text.digitValue? 16 a with
  | none => rfl
  | some high =>
      rw [Option.map_some, Nat.zero_mul, Nat.zero_add, Option.bind_eq_bind, Option.bind_some,
        List.foldlM_cons]
      cases Text.digitValue? 16 b <;> rfl

theorem exists_of_twoDigits? {byte : UInt8} (h : twoDigits? cs = some byte) :
    ∃ a b rest, cs = a :: b :: rest ∧ (Text.digitValue? 16 a).isSome ∧
      (Text.digitValue? 16 b).isSome := by
  match cs with
  | [] => cases h
  | [_] => cases h
  | a :: b :: rest =>
      rw [twoDigits?_cons] at h
      obtain ⟨high, hhigh, hrest⟩ := Option.bind_eq_some_iff.1 h
      obtain ⟨low, hlow, -⟩ := Option.map_eq_some_iff.1 hrest
      exact ⟨a, b, rest, rfl, Option.isSome_of_eq_some hhigh, Option.isSome_of_eq_some hlow⟩

/-- Two digits are found among the bytes as among the characters. -/
theorem leadingPair?_encode (cs : List Char) : leadingPair? (Text.encode cs) = twoDigits? cs := by
  have hnone (b : UInt8) (hb : hexByte? b = none) (bs : List UInt8) : leadingPair? (b :: bs) = none := by
    cases bs with
    | nil => rfl
    | cons b' bs => rw [leadingPair?, hexPair?, hb]
  cases cs with
  | nil => rfl
  | cons a cs =>
      obtain ⟨b, bs, hbytes, hdigit, hlong⟩ := exists_firstByte a
      rw [Text.encode_cons, hbytes, List.cons_append]
      cases bs with
      | cons b' bs =>
          have hb := hlong (List.cons_ne_nil _ _)
          rw [hnone b hb]
          rw [hb] at hdigit
          cases cs with
          | nil => rfl
          | cons c cs => rw [twoDigits?_cons, ← hdigit, Option.bind_none]
      | nil =>
          cases cs with
          | nil => rfl
          | cons c cs =>
              obtain ⟨b', bs, hbytes', hdigit', -⟩ := exists_firstByte c
              rw [Text.encode_cons, hbytes', List.cons_append, List.nil_append, leadingPair?, hexPair?,
                hdigit, hdigit', twoDigits?_cons]
              cases Text.digitValue? 16 a <;> cases Text.digitValue? 16 c <;> rfl

theorem decodeBytes_cons {b : UInt8} (hplus : b ≠ 0x2B) (hpercent : b ≠ 0x25) (bs : List UInt8) :
    decodeBytes (b :: bs) = b :: decodeBytes bs := by
  rw [decodeBytes, decodeBytesFrom, if_neg hplus, if_neg hpercent]
  rfl

/-- A character that is no mark stands for itself. -/
theorem decodeBytes_utf8EncodeChar (hpercent : c ≠ '%') (hplus : c ≠ '+') (bs : List UInt8) :
    decodeBytes (String.utf8EncodeChar c ++ bs) = String.utf8EncodeChar c ++ decodeBytes bs := by
  have hunmarked : ∀ b ∈ String.utf8EncodeChar c, b ≠ 0x2B ∧ b ≠ 0x25 := by
    by_cases hascii : c.toNat < 0x80
    · have hne {b : UInt8} (h : UInt8.ofNat c.toNat = b) : c = Char.ofNat b.toNat := by
        rw [← h, Text.toNat_byte (by omega), Char.ofNat_toNat]
      rw [Text.utf8EncodeChar_of_lt hascii, List.forall_mem_singleton]
      exact ⟨fun h => hplus (hne h), fun h => hpercent (hne h)⟩
    · intro b hb
      have hhigh := Text.le_of_mem_utf8EncodeChar (Nat.le_of_not_lt hascii) b hb
      exact ⟨by rintro rfl; simp at hhigh, by rintro rfl; simp at hhigh⟩
  generalize String.utf8EncodeChar c = bytes at hunmarked ⊢
  induction bytes with
  | nil => rfl
  | cons b bytes ih =>
      obtain ⟨⟨hplus, hpercent⟩, hbytes⟩ := List.forall_mem_cons.1 hunmarked
      rw [List.cons_append, decodeBytes_cons hplus hpercent, ih hbytes, List.cons_append]

/-- **The decoder of bytes** reads a text without long codes. -/
theorem decodeBytes_encode (cs : List Char) :
    decodeBytes (Text.encode cs) = readBytes (fun _ => none) cs := by
  induction hlength : cs.length using Nat.strong_induction_on generalizing cs with
  | _ length ih =>
    cases cs with
    | nil => rfl
    | cons c cs =>
        rw [List.length_cons] at hlength
        have hrest := ih cs.length (by omega) cs rfl
        rw [Text.encode_cons]
        by_cases hpercent : c = '%'
        · rw [hpercent]
          cases htwo : twoDigits? cs with
          | none =>
              have hpair := (leadingPair?_encode cs).trans htwo
              have hstep : decodeBytesFrom 0 (0x25 :: Text.encode cs) =
                  0x25 :: decodeBytesFrom 0 (Text.encode cs) := by
                rw [decodeBytesFrom, if_neg (by simp), if_pos rfl, hpair]
              rw [readBytes_percent rfl htwo, ← hrest]
              exact hstep
          | some byte =>
              have hpair := (leadingPair?_encode cs).trans htwo
              have hstep : decodeBytesFrom 0 (0x25 :: Text.encode cs) =
                  byte :: decodeBytesFrom 2 (Text.encode cs) := by
                rw [decodeBytesFrom, if_neg (by simp), if_pos rfl, hpair]
              obtain ⟨a, b, rest, rfl, ha, hb⟩ := exists_of_twoDigits? htwo
              have hskip : decodeBytesFrom 2 (Text.encode (a :: b :: rest)) =
                  decodeBytes (Text.encode rest) := by
                rw [Text.encode_cons, Text.encode_cons,
                  Text.utf8EncodeChar_of_lt (Text.toNat_lt_of_digitValue? ha),
                  Text.utf8EncodeChar_of_lt (Text.toNat_lt_of_digitValue? hb)]
                rfl
              simp only [List.length_cons] at hlength
              rw [readBytes_two rfl htwo, ← ih rest.length (by omega) rest rfl, ← hskip]
              exact hstep
        · by_cases hplus : c = '+'
          · rw [hplus, readBytes_plus, ← hrest]
            rfl
          · rw [decodeBytes_utf8EncodeChar hpercent hplus, readBytes_cons hpercent hplus, hrest]

end Bytes

/-! ## Long codes -/

section LongCodes

variable {c d letter : Char} {cs rest before after : List Char}

theorem named_eq_some_iff {read : List Char → Option Nat} :
    named read cs = some d ↔
      ∃ number rest, cs = number ++ rest ∧ number.length = 4 ∧ read number = some d.toNat := by
  constructor
  · intro h
    match cs with
    | [] => cases h
    | [_] => cases h
    | [_, _] => cases h
    | [_, _, _] => cases h
    | w :: x :: y :: z :: rest =>
        rw [named] at h
        obtain ⟨n, hn, hd⟩ := Option.bind_eq_some_iff.1 h
        exact ⟨[w, x, y, z], rest, rfl, rfl, Text.char?_eq_some_iff.1 hd ▸ hn⟩
  · rintro ⟨number, rest, rfl, hlength, hread⟩
    match number, hlength with
    | [w, x, y, z], _ =>
        exact Option.bind_eq_some_iff.2 ⟨d.toNat, hread, Text.char?_eq_some_iff.2 rfl⟩

/-- Four bytes that are read as a number are four characters. -/
theorem longCode?_eq_some_iff :
    longCode? cs = some (d, rest) ↔
      ∃ number, cs = number ++ rest ∧ number.length = 4 ∧
        Text.natural? 16 4294967295 number = some d.toNat := by
  unfold longCode?
  constructor
  · intro h
    split at h
    · rename_i four rest' hsplit
      obtain ⟨c, hc, heq⟩ := Option.map_eq_some_iff.1 h
      cases heq
      obtain ⟨n, hn, hd⟩ := Option.bind_eq_some_iff.1 hc
      rw [Text.char?_eq_some_iff] at hd
      subst hd
      refine ⟨four, (Text.append_of_splitBytes? hsplit).symm, ?_, hn⟩
      rw [← Text.byteLength_of_ascii (Text.ascii_of_natural? hn), Text.byteLength_of_splitBytes? hsplit]
    · cases h
  · rintro ⟨number, rfl, hlength, hread⟩
    have hsplit := Text.splitBytes?_append number rest
    rw [Text.byteLength_of_ascii (Text.ascii_of_natural? hread), hlength] at hsplit
    rw [hsplit]
    dsimp only
    rw [hread, Option.bind_some, Text.char?_eq_some_iff.2 rfl, Option.map_some]

/-- Where the text is announced to hold a long code, none is announced before; and if the capital letter
announces it, the small one does so nowhere. -/
theorem announced?_eq_some (h : announced? cs = some (before, letter, after)) :
    cs = before ++ '%' :: letter :: after ∧
      (letter = 'u' ∧ ¬ announcement <:+: before ∨
        letter = 'U' ∧ ¬ announcement <:+: cs ∧ ¬ ['%', 'U'] <:+: before) := by
  unfold announced? at h
  split at h
  · rename_i hcut
    cases h
    refine ⟨?_, .inl ⟨rfl, Text.not_infix_of_cut? (List.cons_ne_nil _ _) hcut⟩⟩
    rw [← Text.append_of_cut? hcut, List.append_assoc]
    rfl
  · rename_i hnone
    obtain ⟨⟨before', after'⟩, hcut, heq⟩ := Option.map_eq_some_iff.1 h
    cases heq
    refine ⟨?_, .inr ⟨rfl, Text.cut?_eq_none_iff.1 hnone, Text.not_infix_of_cut? (List.cons_ne_nil _ _) hcut⟩⟩
    rw [← Text.append_of_cut? hcut, List.append_assoc]
    rfl

theorem announced?_eq_none (h : announced? cs = none) :
    ¬ announcement <:+: cs ∧ ¬ ['%', 'U'] <:+: cs := by
  unfold announced? at h
  split at h
  · cases h
  · rename_i hnone
    exact ⟨Text.cut?_eq_none_iff.1 hnone, Text.cut?_eq_none_iff.1 (Option.map_eq_none_iff.1 h)⟩

theorem twoDigits?_append (cs rest : List Char) : twoDigits? (cs ++ '%' :: rest) = twoDigits? cs := by
  match cs with
  | [] =>
      cases rest with
      | nil => rfl
      | cons a rest => exact (twoDigits?_cons '%' a rest).trans rfl
  | [a] =>
      refine (twoDigits?_cons a '%' rest).trans ?_
      cases Text.digitValue? 16 a <;> rfl
  | _ :: _ :: _ => rfl

/-- Up to a percent sign the text is read without long codes, if there are none. -/
theorem readBytes_append {long? : List Char → Option Char}
    (h : ∀ start stop, before = start ++ '%' :: stop → long? (stop ++ '%' :: rest) = none) :
    readBytes long? (before ++ '%' :: rest) =
      readBytes (fun _ => none) before ++ readBytes long? ('%' :: rest) := by
  induction hlength : before.length using Nat.strong_induction_on generalizing before with
  | _ length ih =>
    cases before with
    | nil => rfl
    | cons c before =>
        rw [List.length_cons] at hlength
        have hrest (skipped before' : List Char) (heq : before = skipped ++ before') :
            readBytes long? (before' ++ '%' :: rest) =
              readBytes (fun _ => none) before' ++ readBytes long? ('%' :: rest) := by
          refine ih before'.length ?_ ?_ rfl
          · have := congrArg List.length heq
            rw [List.length_append] at this
            omega
          · rintro start stop rfl
            refine h (c :: (skipped ++ start)) stop ?_
            rw [heq, List.cons_append, List.append_assoc]
        rw [List.cons_append]
        by_cases hpercent : c = '%'
        · subst hpercent
          have hlong := h [] before rfl
          cases htwo : twoDigits? before with
          | none =>
              rw [readBytes_percent hlong ((twoDigits?_append before rest).trans htwo),
                readBytes_percent rfl htwo, hrest [] before rfl]
              rfl
          | some byte =>
              obtain ⟨a, b, before', rfl, -, -⟩ := exists_of_twoDigits? htwo
              rw [readBytes_two rfl htwo]
              exact (readBytes_two hlong htwo).trans
                (congrArg (byte :: ·) (hrest [a, b] before' rfl))
        · by_cases hplus : c = '+'
          · rw [hplus, readBytes_plus, readBytes_plus, hrest [] before rfl]
            rfl
          · rw [readBytes_cons hpercent hplus, readBytes_cons hpercent hplus, hrest [] before rfl,
              List.append_assoc]

/-- An announcement without a long code stands for itself. -/
theorem readBytes_announcement {long? : List Char → Option Char} (hletter : letter = 'u' ∨ letter = 'U')
    (h : long? (letter :: after) = none) :
    readBytes long? ('%' :: letter :: after) =
      Text.encode ['%', letter] ++ readBytes long? after := by
  have hplain : letter ≠ '%' ∧ letter ≠ '+' ∧ Text.digitValue? 16 letter = none := by
    rcases hletter with rfl | rfl <;> decide
  have htwo : twoDigits? (letter :: after) = none := by
    cases after with
    | nil => rfl
    | cons a after => rw [twoDigits?_cons, hplain.2.2, Option.bind_none]
  rw [readBytes_percent h htwo, readBytes_cons hplain.1 hplain.2.1, Text.encode_cons, Text.encode_cons,
    List.append_assoc, List.append_assoc]
  rfl

theorem decode_eq (cs : List Char) : decode cs = Text.decodeLossy (readBytes (fun _ => none) cs) := by
  rw [decode, decodeBytes_encode]

/-- Behind the percent sign of an announcement, it is the letter that decides. -/
theorem takenCode?_small (after : List Char) :
    takenCode? ('u' :: after) = named (Text.natural? 16 4294967295) after := by
  rw [takenCode?, if_pos (.inl rfl)]

theorem takenCode?_capital (h : ¬ announcement <:+: after) :
    takenCode? ('U' :: after) = named (Text.natural? 16 4294967295) after := by
  rw [takenCode?, if_pos (.inr ⟨rfl, h⟩)]

theorem takenCode?_eq_none (hsmall : letter ≠ 'u') (hcapital : letter = 'U' → announcement <:+: after) :
    takenCode? (letter :: after) = none := by
  refine if_neg ?_
  rintro (h | ⟨h, hnone⟩)
  · exact hsmall h
  · exact hnone (hcapital h)

/-- Before an announcement that is the next one, there is no long code; nor is there one in a text without
announcements. -/
theorem takenCode?_before {start stop rest : List Char} (hrest : ∀ letter ∈ rest.head?, letter = '%')
    (hsmall : ¬ announcement <:+: start ++ '%' :: stop)
    (hcapital : ['%', 'U'] <:+: start ++ '%' :: stop → announcement <:+: rest) :
    takenCode? (stop ++ rest) = none := by
  have hannounced {letter : Char} {stop : List Char} :
      ['%', letter] <:+: start ++ '%' :: letter :: stop := ⟨start, stop, by simp⟩
  cases stop with
  | nil =>
      cases rest with
      | nil => rfl
      | cons letter rest =>
          have hletter : letter = '%' := hrest letter rfl
          refine takenCode?_eq_none ?_ ?_
          · rw [hletter]
            simp
          · rw [hletter]
            intro h
            cases h
  | cons letter stop =>
      refine takenCode?_eq_none ?_ ?_
      · rintro rfl
        exact hsmall hannounced
      · rintro rfl
        exact (hcapital hannounced).trans (List.suffix_append stop rest).isInfix

/-- Where nothing is announced, one pass meets no long code. -/
theorem readBytes_of_unannounced (h : announced? cs = none) :
    readBytes takenCode? cs = readBytes (fun _ => none) cs := by
  obtain ⟨hsmall, hcapital⟩ := announced?_eq_none h
  refine readFrom_congr (fun start stop hcs => ?_) 0
  rw [hcs] at hsmall hcapital
  have hnil : ∀ c ∈ ([] : List Char).head?, c = '%' := by
    intro c hc
    cases hc
  have hnone := takenCode?_before hnil hsmall fun h => absurd h hcapital
  rwa [List.append_nil] at hnone

/-- What is announced is the next thing that one pass can take for a long code, and it is taken for one if
four digits follow. -/
theorem readBytes_of_announced (h : announced? cs = some (before, letter, after)) :
    readBytes takenCode? cs =
        readBytes (fun _ => none) before ++ readBytes takenCode? ('%' :: letter :: after) ∧
      takenCode? (letter :: after) = named (Text.natural? 16 4294967295) after := by
  obtain ⟨rfl, hfirst⟩ := announced?_eq_some h
  constructor
  · have hhead : ∀ c ∈ ('%' :: letter :: after).head?, c = '%' := by
      rintro c ⟨⟩
      rfl
    refine readBytes_append fun start stop hbefore => ?_
    rw [hbefore] at hfirst
    rcases hfirst with ⟨rfl, hsmall⟩ | ⟨rfl, hsmall, hcapital⟩
    · exact takenCode?_before hhead hsmall fun _ => ⟨[], after, rfl⟩
    · exact takenCode?_before hhead
        (fun h => hsmall (h.trans (List.prefix_append _ _).isInfix)) fun h => absurd h hcapital
  · rcases hfirst with ⟨rfl, -⟩ | ⟨rfl, hsmall, -⟩
    · exact takenCode?_small after
    · refine takenCode?_capital fun h => hsmall (h.trans ?_)
      exact ⟨before ++ ['%', 'U'], [], by simp⟩

/-- **What the decoder of long codes does is one pass.** -/
theorem decodeLong_eq (cs : List Char) :
    decodeLong cs = Text.decodeLossy (readBytes takenCode? cs) := by
  induction hlength : cs.length using Nat.strong_induction_on generalizing cs with
  | _ length ih =>
    rw [decodeLong]
    split
    · rename_i hnone
      rw [decode_eq, readBytes_of_unannounced hnone]
    · rename_i before letter after hsome
      obtain ⟨hread, htaken⟩ := readBytes_of_announced hsome
      obtain ⟨hcs, hfirst⟩ := announced?_eq_some hsome
      have hletter : letter = 'u' ∨ letter = 'U' := hfirst.imp And.left And.left
      rw [hread]
      rw [hcs] at hlength
      simp only [List.length_append, List.length_cons] at hlength
      split
      · rename_i c rest hcode
        obtain ⟨number, rfl, hnumber, hread⟩ := longCode?_eq_some_iff.1 hcode
        have hlong : takenCode? (letter :: number ++ rest) = some c :=
          htaken.trans (named_eq_some_iff.2 ⟨number, rest, rfl, hnumber, hread⟩)
        have hfive : (letter :: number).length = 5 := congrArg Nat.succ hnumber
        have hone : Text.encode [c] = String.utf8EncodeChar c := List.flatMap_singleton ..
        have hpass := readBytes_long hfive hlong
        rw [List.cons_append, ← hone] at hpass
        rw [List.length_append] at hlength
        -- the character is whole, so the bytes before it can be read on their own
        rw [decode_eq, hpass, Text.decodeLossy_append_encode _ (List.cons_ne_nil _ _),
          ih rest.length (by omega) rest rfl]
        rfl
      · rename_i hcode
        have hnone : takenCode? (letter :: after) = none := by
          rw [htaken, Option.eq_none_iff_forall_ne_some]
          intro c hc
          obtain ⟨number, rest, hafter, hnumber, hread⟩ := named_eq_some_iff.1 hc
          rw [longCode?_eq_some_iff.2 ⟨number, hafter, hnumber, hread⟩] at hcode
          cases hcode
        have hplain : readBytes (fun _ => none) (before ++ ['%', letter]) =
            readBytes (fun _ => none) before ++ (Text.encode ['%', letter] ++ []) :=
          (readBytes_append fun _ _ _ => rfl).trans
            (congrArg (readBytes (fun _ => none) before ++ ·) (readBytes_announcement hletter rfl))
        rw [decode_eq, hplain, readBytes_announcement hletter hnone,
          ih after.length (by omega) after rfl,
          Text.decodeLossy_append_encode _ (List.cons_ne_nil _ _),
          Text.decodeLossy_append_encode _ (List.cons_ne_nil _ _), List.append_assoc]
        rfl

end LongCodes

end Rampart.Percent
