import Rampart.Proofs.FormEncoding
import Rampart.Transform.Basic

/-!
# What the decoders undo

A text can be written by its bytes in three ways: each byte as two hexadecimal digits, three bytes at a time
as four characters with six bits each, or with percent signs for what is no letter or digit. Whichever way it
is written, the transformation of that name gives the text back. Base64 writes none but its own characters,
so blanks around it are told from it.
-/

namespace Rampart

/-! ## Hexadecimal digits -/

namespace Transform

/-- Each byte is written as two hexadecimal digits, in either case. -/
inductive Hexadecimal : List UInt8 → List Char → Prop
  | nil : Hexadecimal [] []
  | cons {b : UInt8} {bs : List UInt8} {high low : Char} {written : List Char}
      (hhigh : Percent.IsDigit (b.toNat / 16) high) (hlow : Percent.IsDigit (b.toNat % 16) low)
      (h : Hexadecimal bs written) : Hexadecimal (b :: bs) (high :: low :: written)

theorem exists_hexadecimal (bs : List UInt8) : ∃ written, Hexadecimal bs written := by
  induction bs with
  | nil => exact ⟨[], .nil⟩
  | cons b bs ih =>
      have hb := b.toNat_lt
      obtain ⟨high, hhigh⟩ := Percent.exists_isDigit (show b.toNat / 16 < 16 by omega)
      obtain ⟨low, hlow⟩ := Percent.exists_isDigit (show b.toNat % 16 < 16 by omega)
      obtain ⟨written, h⟩ := ih
      exact ⟨_, .cons hhigh hlow h⟩

/-- Two digits are read as the byte that they are written for. -/
theorem hexBytes_of_hexadecimal {bs : List UInt8} {written : List Char} (h : Hexadecimal bs written) :
    hexBytes (Text.encode written) = bs := by
  induction h with
  | nil => rfl
  | @cons b bs high low written hhigh hlow _ ih =>
      obtain ⟨first, second, hfirst, hsecond, hpair⟩ := Percent.hexPair?_of_isDigit hhigh hlow
      rw [Text.encode_cons, hfirst, Text.encode_cons, hsecond]
      simp only [List.cons_append, List.nil_append]
      rw [hexBytes, hpair, ih]

end Transform

/-! ## Base64 -/

namespace Base64

theorem sextet?_sextetChar {n : Nat} (h : n < 64) : sextet? (sextetChar n) = some n := by
  have hall : ∀ n < 64, sextet? (sextetChar n) = some n := by decide +kernel
  exact hall n h

theorem isBlank_sextetChar {n : Nat} (h : n < 64) : Text.isBlank (sextetChar n) = false := by
  have hall : ∀ n < 64, Text.isBlank (sextetChar n) = false := by decide +kernel
  exact hall n h

/-- **Decoding gives back the bytes that were written**, whether the last four characters hold three of them
or are filled up. -/
theorem decode?_encode (bs : List UInt8) : decode? (encode bs) = some bs := by
  have hpad : sextet? '=' = none := rfl
  fun_induction encode bs with
  | case1 => rfl
  | case2 a n =>
      have ha := a.toNat_lt
      have hbyte : n / 64 * 4 + n % 64 / 16 = a.toNat := by omega
      rw [decode?, sextet?_sextetChar (by omega), sextet?_sextetChar (by omega), hpad]
      dsimp only
      rw [if_pos ⟨rfl, rfl, rfl, by omega⟩, hbyte, UInt8.ofNat_toNat]
  | case3 a b n =>
      have ha := a.toNat_lt
      have hb := b.toNat_lt
      have hsextets : (n / 4096 * 64 + n / 64 % 64) * 16 + n % 64 / 4 = a.toNat * 256 + b.toNat := by
        omega
      rw [decode?, sextet?_sextetChar (by omega), sextet?_sextetChar (by omega),
        sextet?_sextetChar (by omega), hpad]
      dsimp only
      rw [if_pos ⟨rfl, rfl, by omega⟩, hsextets, show (a.toNat * 256 + b.toNat) / 256 = a.toNat by omega,
        show (a.toNat * 256 + b.toNat) % 256 = b.toNat by omega, UInt8.ofNat_toNat, UInt8.ofNat_toNat]
  | case4 a b c rest n ih =>
      have ha := a.toNat_lt
      have hb := b.toNat_lt
      have hc := c.toNat_lt
      have hsextets : ((n / 262144 * 64 + n / 4096 % 64) * 64 + n / 64 % 64) * 64 + n % 64 = n := by omega
      rw [decode?, sextet?_sextetChar (by omega), sextet?_sextetChar (by omega),
        sextet?_sextetChar (by omega), sextet?_sextetChar (by omega), ih]
      dsimp only
      rw [hsextets, Option.map_some, show n / 65536 = a.toNat by omega,
        show n / 256 % 256 = b.toNat by omega, show n % 256 = c.toNat by omega, UInt8.ofNat_toNat,
        UInt8.ofNat_toNat, UInt8.ofNat_toNat]

/-- No blank is written. -/
theorem isBlank_of_mem_encode (bs : List UInt8) : ∀ c ∈ encode bs, Text.isBlank c = false := by
  have hpad : Text.isBlank '=' = false := by decide +kernel
  fun_induction encode bs with
  | case1 => exact List.forall_mem_nil _
  | case2 a n =>
      have ha := a.toNat_lt
      simp [hpad, isBlank_sextetChar (show n / 64 < 64 by omega),
        isBlank_sextetChar (show n % 64 < 64 by omega)]
  | case3 a b n =>
      have ha := a.toNat_lt
      have hb := b.toNat_lt
      simp [hpad, isBlank_sextetChar (show n / 4096 < 64 by omega),
        isBlank_sextetChar (show n / 64 % 64 < 64 by omega), isBlank_sextetChar (show n % 64 < 64 by omega)]
  | case4 a b c rest n ih =>
      have ha := a.toNat_lt
      have hb := b.toNat_lt
      have hc := c.toNat_lt
      simpa [isBlank_sextetChar (show n / 262144 < 64 by omega),
        isBlank_sextetChar (show n / 4096 % 64 < 64 by omega),
        isBlank_sextetChar (show n / 64 % 64 < 64 by omega),
        isBlank_sextetChar (show n % 64 < 64 by omega)] using ih

/-- Blanks around what is written are trimmed away, and nothing else is. -/
theorem trimChars_encode {l r : List Char} (hl : Text.AllBlank l) (hr : Text.AllBlank r)
    (bs : List UInt8) : Text.trimChars (l ++ encode bs ++ r) = encode bs := by
  rw [Text.trimChars_append_right hr, Text.trimChars_append_left hl,
    Text.trimChars_eq_self (isBlank_of_mem_encode bs)]

end Base64

/-! ## The transformations -/

namespace Transform

/--
**Each decoder undoes its encoding.**

Every text can be written in hexadecimal digits, in base64 and with percent signs. However that is done, with
digits in either case and with blanks around base64, the decoder gives back the text.
-/
theorem decoders_undo_encodings (s : String) :
    ((∃ written, Hexadecimal (Text.encode s.toList) written) ∧
      ∀ written : String, Hexadecimal (Text.encode s.toList) written.toList →
        hexDecode.apply written = s) ∧
    (∀ (written : String) (l r : List Char), Text.AllBlank l → Text.AllBlank r →
      written.toList = l ++ Base64.encode (Text.encode s.toList) ++ r →
        base64Decode.apply written = s) ∧
    (∃ written, Percent.Encodes s.toList written) ∧
      ∀ written : String, Percent.Encodes s.toList written.toList → urlDecode.apply written = s := by
  refine ⟨⟨exists_hexadecimal _, fun written h => ?_⟩, fun written l r hl hr h => ?_,
    Percent.exists_encodes _, fun written h => ?_⟩
  · have happly : hexDecode.apply written =
        String.ofList (Text.decodeLossy (hexBytes (Text.encode written.toList))) := rfl
    rw [happly, hexBytes_of_hexadecimal h, Text.decodeLossy_encode, String.ofList_toList]
  · have happly : base64Decode.apply written = String.ofList (base64Decode.applyChars written.toList) := rfl
    have hdecode : base64Decode.applyChars written.toList = s.toList := by
      rw [h, applyChars, Base64.trimChars_encode hl hr, Base64.decode?_encode]
      exact Text.decodeLossy_encode _
    rw [happly, hdecode, String.ofList_toList]
  · have happly : urlDecode.apply written = String.ofList (Percent.decode written.toList) := rfl
    rw [happly, Percent.decode_of_encodes h, String.ofList_toList]

/-- An accented letter and a blank: digits in either case, blanks around base64, and a plus sign. -/
theorem decoders_undo_encodings_accented :
    Hexadecimal (Text.encode "é ".toList) "c3A920".toList ∧ hexDecode.apply "c3A920" = "é " ∧
    (Text.AllBlank ['\n'] ∧ Text.AllBlank [' '] ∧
      "\nw6kg ".toList = ['\n'] ++ Base64.encode (Text.encode "é ".toList) ++ [' ']) ∧
      base64Decode.apply "\nw6kg " = "é " ∧
    Percent.Encodes "é ".toList "%c3%A9+".toList ∧ urlDecode.apply "%c3%A9+" = "é " := by
  have hhex : Hexadecimal (Text.encode "é ".toList) "c3A920".toList :=
    .cons (b := 0xC3) (.inl rfl) (.inl rfl) (.cons (b := 0xA9) (.inr rfl) (.inl rfl)
      (.cons (b := 0x20) (.inl rfl) (.inl rfl) .nil))
  have hescaped : Percent.Escapes (String.utf8EncodeChar 'é') ['%', 'c', '3', '%', 'A', '9'] :=
    .cons (b := 0xC3) (.inl rfl) (.inl rfl) (.cons (b := 0xA9) (.inr rfl) (.inl rfl) .nil)
  have hpercent : Percent.Encodes "é ".toList "%c3%A9+".toList :=
    .cons (.bytes hescaped) (.cons (.plus rfl) .nil)
  have hbefore : Text.AllBlank ['\n'] := List.forall_mem_singleton.2 (by decide +kernel)
  have hafter : Text.AllBlank [' '] := List.forall_mem_singleton.2 (by decide +kernel)
  have hbase64 : "\nw6kg ".toList = ['\n'] ++ Base64.encode (Text.encode "é ".toList) ++ [' '] := by
    decide +kernel
  obtain ⟨⟨-, hex⟩, base64, -, percent⟩ := decoders_undo_encodings "é "
  exact ⟨hhex, hex _ hhex, ⟨hbefore, hafter, hbase64⟩, base64 _ _ _ hbefore hafter hbase64, hpercent,
    percent _ hpercent⟩

end Transform

end Rampart
