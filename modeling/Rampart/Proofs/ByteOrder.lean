import Rampart.Proofs.LossyDecoding
import Mathlib.Data.String.Basic

/-!
# The order of texts and of their bytes

A first byte announces more bytes the larger it is, and the bytes behind it hold the bits of the code
point from the highest to the lowest. So the first byte at which two characters differ tells which of
them has the smaller code point, and texts are ordered as their bytes are.
-/

namespace Rampart.Text

/-- Bytes that do not fall decide the order of what starts with them, unless they are the same. -/
theorem ofNat_cons_lt {m n : Nat} {as bs : List UInt8} (hm : m < 256) (hn : n < 256) (hle : m ≤ n)
    (h : m = n → as < bs) : UInt8.ofNat m :: as < UInt8.ofNat n :: bs := by
  rcases Nat.lt_or_eq_of_le hle with hlt | rfl
  · refine List.Lex.rel (UInt8.lt_iff_toNat_lt.2 ?_)
    rwa [toNat_byte hm, toNat_byte hn]
  · exact List.Lex.cons (h rfl)

/-- A byte behind a first one holds the low six bits of a code point, and tells code points apart that
have the higher bits in common. -/
theorem tailByte_cons_lt {m n : Nat} {as bs : List UInt8} (hle : m ≤ n) (hhigh : m / 64 = n / 64)
    (h : m = n → as < bs) :
    UInt8.ofNat (m % 64 + 128) :: as < UInt8.ofNat (n % 64 + 128) :: bs :=
  ofNat_cons_lt (by omega) (by omega) (by omega) fun heq => h (by omega)

/-- **The bytes of a character come before those of a later one**, whatever follows either. -/
theorem utf8EncodeChar_append_lt {c d : Char} (h : c < d) (as bs : List UInt8) :
    String.utf8EncodeChar c ++ as < String.utf8EncodeChar d ++ bs := by
  have hlt : c.toNat < d.toNat := h
  have hvalid : d.toNat < 0xD800 ∨ (0xDFFF < d.toNat ∧ d.toNat < 0x110000) := d.valid
  unfold String.utf8EncodeChar
  rw [show c.val.toNat = c.toNat from rfl, show d.val.toNat = d.toNat from rfl]
  generalize c.toNat = m, d.toNat = n at hlt hvalid
  dsimp only
  repeat' split
  -- no character takes more bytes than a later one
  all_goals try omega
  all_goals simp only [List.cons_append, List.nil_append]
  -- one that takes fewer bytes, or only one, is told by the first byte
  all_goals try exact ofNat_cons_lt (by omega) (by omega) (by omega) fun hfirst => by omega
  · exact ofNat_cons_lt (by omega) (by omega) (by omega) fun hfirst =>
      tailByte_cons_lt (by omega) (by omega) fun heq => by omega
  · exact ofNat_cons_lt (by omega) (by omega) (by omega) fun hfirst =>
      tailByte_cons_lt (by omega) (by omega) fun hsecond =>
        tailByte_cons_lt (by omega) (by omega) fun heq => by omega
  · exact ofNat_cons_lt (by omega) (by omega) (by omega) fun hfirst =>
      tailByte_cons_lt (by omega) (by omega) fun hsecond =>
        tailByte_cons_lt (by omega) (by omega) fun hthird =>
          tailByte_cons_lt (by omega) (by omega) fun heq => by omega

theorem encode_lt_of_lt {as bs : List Char} (h : as < bs) : encode as < encode bs := by
  change List.Lex (· < ·) as bs at h
  induction h with
  | @nil b bs =>
      obtain ⟨first, more, hbytes⟩ := List.exists_cons_of_ne_nil (String.utf8EncodeChar_ne_nil (c := b))
      rw [encode_cons, hbytes, List.cons_append]
      exact List.nil_lt_cons ..
  | rel hlt =>
      rw [encode_cons, encode_cons]
      exact utf8EncodeChar_append_lt hlt _ _
  | cons _ ih =>
      rw [encode_cons, encode_cons]
      exact List.append_left_lt ih

/-- **Texts are ordered as their bytes are.** -/
theorem encode_lt_encode_iff {as bs : List Char} : encode as < encode bs ↔ as < bs := by
  refine ⟨fun h => ?_, encode_lt_of_lt⟩
  rcases lt_trichotomy as bs with hlt | rfl | hgt
  · exact hlt
  · exact absurd h (List.lt_irrefl _)
  · exact absurd h (List.lt_asymm (encode_lt_of_lt hgt))

end Rampart.Text
