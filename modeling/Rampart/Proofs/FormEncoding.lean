import Rampart.Proofs.LossyDecoding
import Rampart.Proofs.Parts
import Rampart.Proofs.Trim

/-!
# Reading a form that was encoded

A form can be written in many ways. Each character may stand for itself if it is a letter or a digit, a
space may be a plus sign, and the bytes of any character may be written in hexadecimal, with digits in
either case. However its pairs are written, a query string gives back exactly these pairs: reading
undoes the encoding byte by byte, and none of the characters that are written is one that divides
pairs or ends a name.
-/

namespace Rampart

open List (Forall₂)

/-! ## Written forms -/

namespace Percent

/-- The hexadecimal digits, each at its number. -/
def smallDigits : List Char :=
  ['0', '1', '2', '3', '4', '5', '6', '7', '8', '9', 'a', 'b', 'c', 'd', 'e', 'f']
@[inherit_doc smallDigits] def capitalDigits : List Char := smallDigits.map Char.toUpper

/-- The character is the hexadecimal digit of a number, in either case. -/
def IsDigit (n : Nat) (c : Char) : Prop := smallDigits[n]? = some c ∨ capitalDigits[n]? = some c

/-- Each byte is written as a percent sign and two digits. -/
inductive Escapes : List UInt8 → List Char → Prop
  | nil : Escapes [] []
  | cons {b : UInt8} {bs : List UInt8} {high low : Char} {written : List Char}
      (hhigh : IsDigit (b.toNat / 16) high) (hlow : IsDigit (b.toNat % 16) low)
      (h : Escapes bs written) : Escapes (b :: bs) ('%' :: high :: low :: written)

/-- A character is written as itself, as a plus sign, or byte by byte. -/
inductive Writes (c : Char) : List Char → Prop
  | itself (h : c.isAlphanum = true) : Writes c [c]
  | plus (h : c = ' ') : Writes c ['+']
  | bytes {written : List Char} (h : Escapes (String.utf8EncodeChar c) written) : Writes c written

/-- The characters of a text are written one after the other. -/
inductive Encodes : List Char → List Char → Prop
  | nil : Encodes [] []
  | cons {c : Char} {cs first rest : List Char} (hc : Writes c first) (h : Encodes cs rest) :
      Encodes (c :: cs) (first ++ rest)

/-! ## The digits -/

variable {n : Nat} {c : Char}

theorem IsDigit.lt (h : IsDigit n c) : n < 16 := by
  rcases h with h | h
  · exact (List.getElem?_eq_some_iff.1 h).1
  · exact (List.getElem?_eq_some_iff.1 h).1

/-- A digit is one byte, which is read as the number, and does not divide a form. -/
theorem IsDigit.byte (h : IsDigit n c) :
    ∃ b, String.utf8EncodeChar c = [b] ∧ hexByte? b = some n ∧ c ≠ '&' ∧ c ≠ '=' := by
  have hall : ∀ n < 16, ∀ o ∈ [smallDigits[n]?, capitalDigits[n]?],
      o.all (fun c => (String.utf8EncodeChar c).map hexByte? == [some n] && c != '&' && c != '=') =
        true := by
    decide +kernel
  have hc : (String.utf8EncodeChar c).map hexByte? = [some n] ∧ c ≠ '&' ∧ c ≠ '=' := by
    have hn := hall n h.lt
    rcases h with h | h
    · have := hn _ (List.mem_cons_self ..)
      rw [h] at this
      simpa [and_assoc] using this
    · have := hn _ (List.mem_cons_of_mem _ (List.mem_singleton_self _))
      rw [h] at this
      simpa [and_assoc] using this
  obtain ⟨b, hb, hread⟩ := List.map_eq_singleton_iff.1 hc.1
  exact ⟨b, hb, hread, hc.2⟩

theorem exists_isDigit (h : n < 16) : ∃ c, IsDigit n c := ⟨_, .inl (List.getElem?_eq_getElem h)⟩

/-- The two digits of a byte are two bytes, which are read as that byte. -/
theorem hexPair?_of_isDigit {b : UInt8} {high low : Char} (hhigh : IsDigit (b.toNat / 16) high)
    (hlow : IsDigit (b.toNat % 16) low) :
    ∃ h l, String.utf8EncodeChar high = [h] ∧ String.utf8EncodeChar low = [l] ∧
      hexPair? h l = some b := by
  obtain ⟨h, hbyte, hread, -⟩ := hhigh.byte
  obtain ⟨l, lbyte, lread, -⟩ := hlow.byte
  refine ⟨h, l, hbyte, lbyte, ?_⟩
  rw [hexPair?, hread, lread]
  dsimp only
  rw [Nat.div_add_mod', UInt8.ofNat_toNat]

/-! ## Reading what is written -/

theorem decodeBytes_append_escaped {bs : List UInt8} {written : List Char} (h : Escapes bs written)
    (rest : List UInt8) :
    decodeBytes (Text.encode written ++ rest) = bs ++ decodeBytes rest := by
  induction h with
  | nil => rfl
  | @cons b bs high low written hhigh hlow _ ih =>
      obtain ⟨h, l, hbyte, lbyte, hpair⟩ := hexPair?_of_isDigit hhigh hlow
      have hwritten : Text.encode ('%' :: high :: low :: written) ++ rest =
          0x25 :: h :: l :: (Text.encode written ++ rest) := by
        unfold Text.encode
        rw [List.flatMap_cons, List.flatMap_cons, List.flatMap_cons, hbyte, lbyte]
        rfl
      have hpair : leadingPair? (h :: l :: (Text.encode written ++ rest)) = some b := hpair
      rw [hwritten, List.cons_append, ← ih]
      unfold decodeBytes
      rw [decodeBytesFrom, if_neg (by simp), if_pos rfl, hpair]
      rfl

/-- A letter or a digit is one byte, which stands for itself, and does not divide a form. -/
theorem byte_of_isAlphanum (h : c.isAlphanum = true) :
    (∃ b, String.utf8EncodeChar c = [b] ∧ b ≠ 0x2B ∧ b ≠ 0x25) ∧ c ≠ '&' ∧ c ≠ '=' := by
  have hall : ∀ n < 128, (Char.ofNat n).isAlphanum = true →
      String.utf8EncodeChar (Char.ofNat n) = [UInt8.ofNat n] ∧ UInt8.ofNat n ≠ 0x2B ∧
        UInt8.ofNat n ≠ 0x25 ∧ Char.ofNat n ≠ '&' ∧ Char.ofNat n ≠ '=' := by
    decide +kernel
  have hlt : c.toNat < 128 := by
    unfold Char.isAlphanum Char.isAlpha Char.isUpper Char.isLower Char.isDigit at h
    simp only [Bool.or_eq_true, Bool.and_eq_true, decide_eq_true_eq, UInt32.le_iff_toNat_le,
      ge_iff_le] at h
    have hbounds : c.toNat ≤ 122 := by
      rcases h with (h | h) | h
      · exact Nat.le_trans h.2 (by simp)
      · exact h.2
      · exact Nat.le_trans h.2 (by simp)
    omega
  have hc := hall c.toNat hlt
  rw [Char.ofNat_toNat] at hc
  obtain ⟨hbyte, hplus, hpercent, hunmarked⟩ := hc h
  exact ⟨⟨_, hbyte, hplus, hpercent⟩, hunmarked⟩

theorem decodeBytes_append_written {written : List Char} (h : Writes c written) (rest : List UInt8) :
    decodeBytes (Text.encode written ++ rest) = String.utf8EncodeChar c ++ decodeBytes rest := by
  cases h with
  | itself h =>
      obtain ⟨⟨b, hb, hplus, hpercent⟩, -⟩ := byte_of_isAlphanum h
      have hwritten : Text.encode [c] ++ rest = b :: rest := by
        unfold Text.encode
        rw [List.flatMap_singleton, hb]
        rfl
      rw [hwritten, hb]
      unfold decodeBytes
      rw [decodeBytesFrom, if_neg hplus, if_neg hpercent]
      rfl
  | plus h =>
      rw [h]
      rfl
  | bytes h => exact decodeBytes_append_escaped h rest

/-- **Decoding undoes any encoding of a text.** -/
theorem decode_of_encodes {cs written : List Char} (h : Encodes cs written) :
    decode written = cs := by
  have hbytes : decodeBytes (Text.encode written) = Text.encode cs := by
    induction h with
    | nil => rfl
    | @cons c cs first rest hc _ ih =>
        rw [Text.encode_append, decodeBytes_append_written hc, ih]
        rfl
  unfold decode
  rw [hbytes, Text.decodeLossy_encode]

/-! ## What is not written -/

/-- No character that is written divides a form. -/
theorem Encodes.unmarked {cs written : List Char} (h : Encodes cs written) :
    '&' ∉ written ∧ '=' ∉ written := by
  have escaped {bs : List UInt8} {written : List Char} (h : Escapes bs written) :
      '&' ∉ written ∧ '=' ∉ written := by
    induction h with
    | nil => exact ⟨List.not_mem_nil, List.not_mem_nil⟩
    | cons hhigh hlow _ ih =>
        obtain ⟨-, -, -, hhigh⟩ := hhigh.byte
        obtain ⟨-, -, -, hlow⟩ := hlow.byte
        simp only [List.mem_cons, not_or]
        exact ⟨⟨by simp, hhigh.1.symm, hlow.1.symm, ih.1⟩,
          ⟨by simp, hhigh.2.symm, hlow.2.symm, ih.2⟩⟩
  induction h with
  | nil => exact ⟨List.not_mem_nil, List.not_mem_nil⟩
  | @cons c cs first rest hc _ ih =>
      have hfirst : '&' ∉ first ∧ '=' ∉ first := by
        cases hc with
        | itself h =>
            obtain ⟨-, hand, heq⟩ := byte_of_isAlphanum h
            exact ⟨fun hmem => hand (List.mem_singleton.1 hmem).symm,
              fun hmem => heq (List.mem_singleton.1 hmem).symm⟩
        | plus _ => exact ⟨by simp, by simp⟩
        | bytes h => exact escaped h
      simp only [List.mem_append, not_or]
      exact ⟨⟨hfirst.1, ih.1⟩, ⟨hfirst.2, ih.2⟩⟩

/-- Every text can be written, if need be byte by byte. -/
theorem exists_encodes (cs : List Char) : ∃ written, Encodes cs written := by
  have escaped (bs : List UInt8) : ∃ written, Escapes bs written := by
    induction bs with
    | nil => exact ⟨[], .nil⟩
    | cons b bs ih =>
        have hb := b.toNat_lt
        obtain ⟨high, hhigh⟩ := exists_isDigit (show b.toNat / 16 < 16 by omega)
        obtain ⟨low, hlow⟩ := exists_isDigit (show b.toNat % 16 < 16 by omega)
        obtain ⟨written, h⟩ := ih
        exact ⟨_, .cons hhigh hlow h⟩
  induction cs with
  | nil => exact ⟨[], .nil⟩
  | cons c cs ih =>
      obtain ⟨first, hfirst⟩ := escaped (String.utf8EncodeChar c)
      obtain ⟨rest, hrest⟩ := ih
      exact ⟨_, .cons (.bytes hfirst) hrest⟩

end Percent

/-! ## Pairs and forms -/

/-- A pair is written as its name and its value, with an equals sign between them. -/
def EncodesPair (p : String × String) (part : List Char) : Prop :=
  ∃ name text, Percent.Encodes p.1.toList name ∧ Percent.Encodes p.2.toList text ∧
    part = name ++ '=' :: text

/-- The pairs are written in their order, with an ampersand between one and the next. -/
def EncodesForm (pairs : List (String × String)) (form : String) : Prop :=
  ∃ parts, Forall₂ EncodesPair pairs parts ∧ form.toList = ['&'].intercalate parts

namespace EncodesPair

variable {p : String × String} {part : List Char}

theorem notMem (h : EncodesPair p part) : '&' ∉ part := by
  obtain ⟨name, text, hname, htext, rfl⟩ := h
  simp only [List.mem_append, List.mem_cons, not_or]
  exact ⟨hname.unmarked.1, by simp, htext.unmarked.1⟩

theorem notMem_of_mem {pairs : List (String × String)} {parts : List (List Char)}
    (h : Forall₂ EncodesPair pairs parts) : ∀ part ∈ parts, '&' ∉ part := by
  induction h with
  | nil => exact List.forall_mem_nil _
  | cons hp _ ih => exact List.forall_mem_cons.2 ⟨hp.notMem, ih⟩

/-- What is written of a pair is not blank, even if its name and its value are. -/
theorem trimChars_ne_nil (h : EncodesPair p part) : Text.trimChars part ≠ [] := by
  obtain ⟨name, text, -, -, rfl⟩ := h
  obtain ⟨l, r, hl, hr, hcs⟩ := Text.exists_blanks_around (name ++ '=' :: text)
  intro hnil
  rw [hnil, List.append_nil] at hcs
  have hmem : '=' ∈ l ++ r := hcs ▸ List.mem_append_right name (List.mem_cons_self ..)
  rcases List.mem_append.1 hmem with hmem | hmem
  · exact absurd (hl _ hmem) (by decide +kernel)
  · exact absurd (hr _ hmem) (by decide +kernel)

/-- **A pair is read back from what is written of it.** -/
theorem ofPart (h : EncodesPair p part) (offset : Nat) :
    ((Pair.ofPart offset part).key, (Pair.ofPart offset part).text) = p := by
  obtain ⟨name, text, hname, htext, rfl⟩ := h
  unfold Pair.ofPart
  rw [Text.cutAt?_append_cons hname.unmarked.2]
  dsimp only
  rw [Percent.decode_of_encodes hname, Percent.decode_of_encodes htext, String.ofList_toList,
    String.ofList_toList]

end EncodesPair

/-- The pairs of parts that are written are read in their order, wherever they stand. -/
theorem Pair.ofParts_of_encodes {pairs : List (String × String)} {parts : List (List Char)}
    (h : Forall₂ EncodesPair pairs parts) (offset : Nat) :
    (ofParts offset parts).map (fun p => (p.key, p.text)) = pairs := by
  induction h generalizing offset with
  | nil => rfl
  | @cons p part pairs parts hp _ ih =>
      have hshown : ¬ (Text.trimChars part).isEmpty = true :=
        fun hempty => hp.trimChars_ne_nil (List.isEmpty_iff.1 hempty)
      rw [ofParts, if_neg hshown, List.map_cons, hp.ofPart, ih]

namespace EncodesForm

variable {pairs : List (String × String)} {form : String}

theorem exists_form (pairs : List (String × String)) : ∃ form, EncodesForm pairs form := by
  have hparts : ∃ parts, Forall₂ EncodesPair pairs parts := by
    induction pairs with
    | nil => exact ⟨[], .nil⟩
    | cons p pairs ih =>
        obtain ⟨parts, hparts⟩ := ih
        obtain ⟨name, hname⟩ := Percent.exists_encodes p.1.toList
        obtain ⟨text, htext⟩ := Percent.exists_encodes p.2.toList
        exact ⟨_, .cons ⟨name, text, hname, htext, rfl⟩ hparts⟩
  obtain ⟨parts, hparts⟩ := hparts
  exact ⟨String.ofList (['&'].intercalate parts), parts, hparts, String.toList_ofList⟩

/-- **A form gives back the pairs that it was written for.** -/
theorem ofText (h : EncodesForm pairs form) :
    (Pair.ofText '&' form).map (fun p => (p.key, p.text)) = pairs := by
  obtain ⟨parts, hparts, hform⟩ := h
  unfold Pair.ofText
  rw [hform]
  cases hparts with
  -- the empty form has one part, which is blank
  | nil => rfl
  | @cons p part pairs parts hp hrest =>
      have hall := Forall₂.cons hp hrest
      rw [Text.splitAt_intercalate (List.cons_ne_nil _ _) (EncodesPair.notMem_of_mem hall)]
      exact Pair.ofParts_of_encodes hall 0

end EncodesForm

namespace Request

/-- **Reading a query string undoes its encoding.** Every list of pairs can be written as a form, in many
ways, and each of them as a query string gives the request exactly these arguments, in their order. -/
theorem query_undoes_encoding (id : String) (time : Int) (pairs : List (String × String)) :
    (∃ form, EncodesForm pairs form) ∧
      ∀ form, EncodesForm pairs form →
        ((new id time).withQuery form).args.pairs = pairs ∧
          ((new id time).withQuery form).argsGet.pairs = pairs := by
  refine ⟨EncodesForm.exists_form pairs, fun form h => ?_⟩
  unfold withQuery
  dsimp only
  rw [AnchoredSet.pairs_pushPairs, AnchoredSet.pairs_pushPairs, h.ofText]
  exact ⟨rfl, rfl⟩

/-- A name of two bytes in digits of either case, a value that is written in all three ways, and a pair
of empty texts. -/
theorem query_undoes_encoding_mixed :
    EncodesForm [("é", "a +"), ("", "")] "%c3%A9=a+%2B&=" ∧
      ((new "r" 0).withQuery "%c3%A9=a+%2B&=").args.pairs = [("é", "a +"), ("", "")] ∧
        ((new "r" 0).withQuery "%c3%A9=a+%2B&=").argsGet.pairs = [("é", "a +"), ("", "")] := by
  have hescaped : Percent.Escapes (String.utf8EncodeChar 'é') ['%', 'c', '3', '%', 'A', '9'] := by
    have hbytes : String.utf8EncodeChar 'é' = [0xC3, 0xA9] := rfl
    rw [hbytes]
    exact .cons (.inl rfl) (.inl rfl) (.cons (.inr rfl) (.inl rfl) .nil)
  have hplus : Percent.Escapes (String.utf8EncodeChar '+') ['%', '2', 'B'] :=
    .cons (b := 0x2B) (.inl rfl) (.inr rfl) .nil
  have hname : Percent.Encodes ['é'] ['%', 'c', '3', '%', 'A', '9'] := .cons (.bytes hescaped) .nil
  have htext : Percent.Encodes ['a', ' ', '+'] ['a', '+', '%', '2', 'B'] :=
    .cons (.itself rfl) (.cons (.plus rfl) (.cons (.bytes hplus) .nil))
  have hform : EncodesForm [("é", "a +"), ("", "")] "%c3%A9=a+%2B&=" :=
    ⟨_, .cons ⟨_, _, hname, htext, rfl⟩ (.cons ⟨_, _, .nil, .nil, rfl⟩ .nil), rfl⟩
  exact ⟨hform, (query_undoes_encoding "r" 0 _).2 _ hform⟩

end Request

end Rampart
