import Rampart.Proofs.Origins
import Mathlib.Data.List.Forall2

/-!
# Reading back what was encoded

A text is encoded character by character. A character below 128 is its own byte; any other takes a
first byte that announces how many follow, and in which bounds, and the bits of all of them make up its
code point. So each character is read back from its bytes, and the replacement character never stands
for a character of a text that was encoded.
-/

namespace Rampart.Text

open List (Forall₂)

/-! ## Bytes behind a first byte -/

/-- The byte lies within the bounds. -/
def Within (bounds : Nat × Nat) (b : UInt8) : Prop := bounds.1 ≤ b.toNat ∧ b.toNat ≤ bounds.2

/-- The bits of a code point with those of one more byte. -/
def pushBits (code : Nat) (b : UInt8) : Nat := code * 64 + (b.toNat - 0x80)

theorem takeFollowers_cons {lo hi : Nat} {b : UInt8} (h : Within (lo, hi) b) (code : Nat)
    (owed : List (Nat × Nat)) (bs : List UInt8) :
    takeFollowers code ((lo, hi) :: owed) (b :: bs) =
      ((takeFollowers (pushBits code b) owed bs).1 + 1,
        (takeFollowers (pushBits code b) owed bs).2) := by
  have hwithin : (decide (lo ≤ b.toNat) && decide (b.toNat ≤ hi)) = true := by
    rw [Bool.and_eq_true, decide_eq_true_eq, decide_eq_true_eq]
    exact h
  rw [takeFollowers, if_pos hwithin]
  unfold pushBits
  rfl

/-- Bytes that are all within their bounds are all taken. -/
theorem takeFollowers_append {owed : List (Nat × Nat)} {tail : List UInt8}
    (h : Forall₂ Within owed tail) (code : Nat) (bs : List UInt8) :
    takeFollowers code owed (tail ++ bs) = (tail.length, some (tail.foldl pushBits code)) := by
  induction h generalizing code with
  | nil =>
      rw [List.nil_append, takeFollowers]
      rfl
  | @cons bounds b owed tail hb _ ih =>
      rw [List.cons_append, takeFollowers_cons hb, ih, List.foldl_cons, List.length_cons]

theorem readChars_append (skipped bs : List UInt8) :
    readChars skipped.length (skipped ++ bs) = readChars 0 bs := by
  induction skipped with
  | nil => rfl
  | cons b skipped ih => exact ih

/-- The bytes of a character that takes several: a first byte, the bytes that it announces, and the code
point that their bits make up. -/
structure Multibyte (lead : UInt8) (tail : List UInt8) (code : Nat) : Prop where
  high : 0x80 ≤ lead.toNat
  several : tail ≠ []
  announced : Forall₂ Within (followers lead.toNat) tail
  bits : tail.foldl pushBits (leadBits lead.toNat) = code

theorem Multibyte.readChars {lead : UInt8} {tail : List UInt8} {code : Nat}
    (h : Multibyte lead tail code) (bs : List UInt8) :
    readChars 0 (lead :: (tail ++ bs)) = some (Char.ofNat code) :: readChars 0 bs := by
  have hhigh := h.high
  have htaken := takeFollowers_append h.announced (leadBits lead.toNat) bs
  rw [Text.readChars, if_neg (by omega)]
  split
  · rename_i hnone
    have hannounced := h.announced
    rw [hnone] at hannounced
    cases hannounced
    exact absurd rfl h.several
  · dsimp only
    rw [htaken]
    dsimp only
    rw [readChars_append, h.bits, Option.map_some]

/-! ## The bytes of a code point -/

section CodePoints

variable {v : Nat}

theorem toNat_byte {n : Nat} (h : n < 256) : (UInt8.ofNat n).toNat = n := UInt8.toNat_ofNat_of_lt' h

theorem toNat_tailByte (n : Nat) : (UInt8.ofNat (n % 64 + 128)).toNat = n % 64 + 128 :=
  toNat_byte (by omega)

/-- A byte behind the first one lies within the bounds that its low six bits lie in. -/
theorem within_tailByte {bounds : Nat × Nat} {n : Nat}
    (h : bounds.1 ≤ n % 64 + 128 ∧ n % 64 + 128 ≤ bounds.2) :
    Within bounds (UInt8.ofNat (n % 64 + 128)) := by
  unfold Within
  rwa [toNat_tailByte]

theorem within_tail (n : Nat) : Within (0x80, 0xBF) (UInt8.ofNat (n % 64 + 128)) :=
  within_tailByte ⟨by dsimp only; omega, by dsimp only; omega⟩

theorem multibyte_two (hlow : 0x80 ≤ v) (hhigh : v < 0x800) :
    Multibyte (UInt8.ofNat (v / 64 % 32 + 192)) [UInt8.ofNat (v % 64 + 128)] v := by
  have hlead : (UInt8.ofNat (v / 64 % 32 + 192)).toNat = v / 64 + 192 := by
    rw [toNat_byte (by omega)]
    omega
  refine ⟨by omega, List.cons_ne_nil _ _, ?_, ?_⟩
  · rw [hlead, followers, if_neg (by omega), if_pos (by omega)]
    exact .cons (within_tail v) .nil
  · rw [hlead, List.foldl_cons, List.foldl_nil]
    unfold pushBits leadBits
    rw [toNat_tailByte, if_pos (by omega)]
    omega

/-- The code points that stand for no character are those that the narrower bounds behind the first
byte `0xED` leave out. -/
theorem multibyte_three (hlow : 0x800 ≤ v) (hhigh : v < 0x10000) (hvalid : v < 0xD800 ∨ 0xDFFF < v) :
    Multibyte (UInt8.ofNat (v / 4096 % 16 + 224))
      [UInt8.ofNat (v / 64 % 64 + 128), UInt8.ofNat (v % 64 + 128)] v := by
  have hlead : (UInt8.ofNat (v / 4096 % 16 + 224)).toNat = v / 4096 + 224 := by
    rw [toNat_byte (by omega)]
    omega
  refine ⟨by omega, List.cons_ne_nil _ _, ?_, ?_⟩
  · rw [hlead, followers, if_neg (by omega), if_neg (by omega)]
    -- the second byte is bounded from below behind `0xE0`, and from above behind `0xED`
    by_cases hfirst : v / 4096 + 224 = 0xE0
    · rw [if_pos hfirst]
      exact .cons (within_tailByte ⟨by dsimp only; omega, by dsimp only; omega⟩)
        (.cons (within_tail v) .nil)
    · rw [if_neg hfirst]
      by_cases hgap : v / 4096 + 224 = 0xED
      · rw [if_pos hgap]
        exact .cons (within_tailByte ⟨by dsimp only; omega, by dsimp only; omega⟩)
          (.cons (within_tail v) .nil)
      · rw [if_neg hgap, if_pos (by omega)]
        exact .cons (within_tail (v / 64)) (.cons (within_tail v) .nil)
  · rw [hlead, List.foldl_cons, List.foldl_cons, List.foldl_nil]
    unfold pushBits leadBits
    rw [toNat_tailByte, toNat_tailByte, if_neg (by omega), if_pos (by omega)]
    omega

theorem multibyte_four (hlow : 0x10000 ≤ v) (hhigh : v < 0x110000) :
    Multibyte (UInt8.ofNat (v / 262144 % 8 + 240))
      [UInt8.ofNat (v / 4096 % 64 + 128), UInt8.ofNat (v / 64 % 64 + 128),
        UInt8.ofNat (v % 64 + 128)] v := by
  have hlead : (UInt8.ofNat (v / 262144 % 8 + 240)).toNat = v / 262144 + 240 := by
    rw [toNat_byte (by omega)]
    omega
  refine ⟨by omega, List.cons_ne_nil _ _, ?_, ?_⟩
  · rw [hlead, followers, if_neg (by omega), if_neg (by omega), if_neg (by omega), if_neg (by omega),
      if_neg (by omega)]
    have hlater := List.Forall₂.cons (within_tail (v / 64)) (.cons (within_tail v) .nil)
    -- the second byte is bounded from below behind `0xF0`, and from above behind `0xF4`
    by_cases hfirst : v / 262144 + 240 = 0xF0
    · rw [if_pos hfirst]
      exact .cons (within_tailByte ⟨by dsimp only; omega, by dsimp only; omega⟩) hlater
    · rw [if_neg hfirst]
      by_cases hlast : v / 262144 + 240 < 0xF4
      · rw [if_pos hlast]
        exact .cons (within_tail (v / 4096)) hlater
      · rw [if_neg hlast, if_pos (by omega)]
        exact .cons (within_tailByte ⟨by dsimp only; omega, by dsimp only; omega⟩) hlater
  · rw [hlead, List.foldl_cons, List.foldl_cons, List.foldl_cons, List.foldl_nil]
    unfold pushBits leadBits
    rw [toNat_tailByte, toNat_tailByte, toNat_tailByte, if_neg (by omega), if_neg (by omega)]
    omega

end CodePoints

/-! ## Characters and texts -/

theorem utf8EncodeChar_of_lt {c : Char} (h : c.toNat < 0x80) :
    String.utf8EncodeChar c = [UInt8.ofNat c.toNat] := by
  unfold String.utf8EncodeChar
  rw [show c.val.toNat = c.toNat from rfl]
  dsimp only
  rw [if_pos (by omega)]

/-- No byte of a character that takes several is a character of its own. -/
theorem le_of_mem_utf8EncodeChar {c : Char} (h : 0x80 ≤ c.toNat) :
    ∀ b ∈ String.utf8EncodeChar c, 0x80 ≤ b.toNat := by
  have hvalid : c.toNat < 0xD800 ∨ (0xDFFF < c.toNat ∧ c.toNat < 0x110000) := c.valid
  unfold String.utf8EncodeChar
  rw [show c.val.toNat = c.toNat from rfl]
  dsimp only
  repeat' split
  · omega
  all_goals
    intro b hb
    simp only [List.mem_cons, List.not_mem_nil, or_false] at hb
    rcases hb with rfl | rfl | rfl | rfl <;>
    · rw [toNat_byte (by omega)]
      omega

/-- A character is one byte below 128, or starts with a byte that is not. -/
theorem firstByte_cases (c : Char) :
    (c.toNat < 0x80 ∧ String.utf8EncodeChar c = [UInt8.ofNat c.toNat]) ∨
      0x80 ≤ c.toNat ∧ ∃ first more, String.utf8EncodeChar c = first :: more ∧ 0x80 ≤ first.toNat := by
  rcases Nat.lt_or_ge c.toNat 0x80 with hascii | hlong
  · exact .inl ⟨hascii, utf8EncodeChar_of_lt hascii⟩
  · obtain ⟨first, more, hbytes⟩ := List.exists_cons_of_ne_nil (String.utf8EncodeChar_ne_nil (c := c))
    exact .inr ⟨hlong, first, more, hbytes,
      le_of_mem_utf8EncodeChar hlong first (hbytes ▸ List.mem_cons_self ..)⟩

/-- **A character is read back from its bytes**, whatever follows. -/
theorem readChars_utf8EncodeChar (c : Char) (bs : List UInt8) :
    readChars 0 (String.utf8EncodeChar c ++ bs) = some c :: readChars 0 bs := by
  have hback : Char.ofNat c.toNat = c := Char.ofNat_toNat c
  have hvalid : c.toNat < 0xD800 ∨ (0xDFFF < c.toNat ∧ c.toNat < 0x110000) := c.valid
  unfold String.utf8EncodeChar
  rw [show c.val.toNat = c.toNat from rfl]
  dsimp only
  split
  · rw [List.cons_append, List.nil_append, readChars, toNat_byte (by omega), if_pos (by omega), hback]
  · split
    · rw [List.cons_append, (multibyte_two (by omega) (by omega)).readChars, hback]
    · split
      · rw [List.cons_append, (multibyte_three (by omega) (by omega) (by omega)).readChars, hback]
      · rw [List.cons_append, (multibyte_four (by omega) (by omega)).readChars, hback]

/-- **Nothing is lost of a text that was encoded**, whatever follows. -/
theorem decodeLossy_encode_append (cs : List Char) (bs : List UInt8) :
    decodeLossy (encode cs ++ bs) = cs ++ decodeLossy bs := by
  induction cs with
  | nil => rfl
  | cons c cs ih =>
      have hread : readChars 0 (encode (c :: cs) ++ bs) = some c :: readChars 0 (encode cs ++ bs) := by
        rw [encode_cons, List.append_assoc]
        exact readChars_utf8EncodeChar c _
      unfold decodeLossy at ih ⊢
      rw [hread, List.map_cons, ih]
      rfl

theorem decodeLossy_encode (cs : List Char) : decodeLossy (encode cs) = cs := by
  have h := decodeLossy_encode_append cs []
  rw [List.append_nil] at h
  exact h.trans (List.append_nil cs)

/-! ## Where a character starts -/

/-- The first byte is none of those that follow another one in a character. -/
def Fresh (bs : List UInt8) : Prop := ∀ b ∈ bs.head?, b.toNat < 0x80 ∨ 0xBF < b.toNat

theorem followers_within (first : UInt8) :
    ∀ bounds ∈ followers first.toNat, 0x80 ≤ bounds.1 ∧ bounds.2 ≤ 0xBF := by
  have hall : ∀ n < 256, ∀ bounds ∈ followers n, 0x80 ≤ bounds.1 ∧ bounds.2 ≤ 0xBF := by
    decide +kernel
  exact hall first.toNat first.toNat_lt

section Fresh

variable {rest : List UInt8} (hrest : Fresh rest)

include hrest

/-- No byte is taken beyond a place where a character starts. -/
theorem takeFollowers_append_of_fresh {owed : List (Nat × Nat)}
    (howed : ∀ bounds ∈ owed, 0x80 ≤ bounds.1 ∧ bounds.2 ≤ 0xBF) (code : Nat) (bs : List UInt8) :
    takeFollowers code owed (bs ++ rest) = takeFollowers code owed bs ∧
      (takeFollowers code owed bs).1 ≤ bs.length := by
  induction owed generalizing code bs with
  | nil => exact ⟨by cases bs <;> rfl, Nat.zero_le _⟩
  | cons bounds owed ih =>
      obtain ⟨lo, hi⟩ := bounds
      obtain ⟨⟨hlo, hhi⟩, howed⟩ := List.forall_mem_cons.1 howed
      cases bs with
      | nil =>
          refine ⟨?_, Nat.le_refl _⟩
          cases rest with
          | nil => rfl
          | cons b rest =>
              have hb := hrest b rfl
              have hout : ¬ (decide (lo ≤ b.toNat) && decide (b.toNat ≤ hi)) = true := by
                rw [Bool.and_eq_true, decide_eq_true_eq, decide_eq_true_eq]
                dsimp only at hlo hhi
                omega
              exact if_neg hout
      | cons b bs =>
          rw [List.cons_append, takeFollowers, takeFollowers]
          split
          · obtain ⟨heq, hle⟩ := ih howed (code * 64 + (b.toNat - 0x80)) bs
            rw [heq]
            exact ⟨rfl, Nat.succ_le_succ hle⟩
          · exact ⟨rfl, Nat.zero_le _⟩

theorem readChars_append_of_fresh {skip : Nat} {bs : List UInt8} (h : skip ≤ bs.length) :
    readChars skip (bs ++ rest) = readChars skip bs ++ readChars 0 rest := by
  induction bs generalizing skip with
  | nil =>
      rw [Nat.le_zero.1 h]
      rfl
  | cons b bs ih =>
      cases skip with
      | succ skip => exact ih (Nat.le_of_succ_le_succ h)
      | zero =>
          rw [List.cons_append, readChars, readChars]
          split
          · rw [ih (Nat.zero_le _)]
            rfl
          · obtain ⟨htake, hle⟩ :=
              takeFollowers_append_of_fresh hrest (followers_within b) (leadBits b.toNat) bs
            split
            · rw [ih (Nat.zero_le _)]
              rfl
            · dsimp only
              rw [htake, ih hle]
              rfl

end Fresh

theorem fresh_encode (c : Char) (cs : List Char) (bs : List UInt8) :
    Fresh (encode (c :: cs) ++ bs) := by
  have hvalid : c.toNat < 0xD800 ∨ (0xDFFF < c.toNat ∧ c.toNat < 0x110000) := c.valid
  rw [encode_cons, List.append_assoc]
  unfold String.utf8EncodeChar
  rw [show c.val.toNat = c.toNat from rfl]
  dsimp only
  repeat' split
  all_goals
    rintro b ⟨⟩
    rw [toNat_byte (by omega)]
    omega

/-- **A text among bytes stands for itself**, and the bytes on either side are read on their own. -/
theorem decodeLossy_append_encode (bs : List UInt8) {cs : List Char} (hne : cs ≠ [])
    (rest : List UInt8) :
    decodeLossy (bs ++ (encode cs ++ rest)) = decodeLossy bs ++ (cs ++ decodeLossy rest) := by
  obtain ⟨c, cs, rfl⟩ := List.exists_cons_of_ne_nil hne
  rw [← decodeLossy_encode_append]
  unfold decodeLossy
  rw [readChars_append_of_fresh (fresh_encode c cs rest) (Nat.zero_le _), List.map_append]

end Rampart.Text
