import Rampart.Text.Cut
import Rampart.Text.Numeral
import Rampart.Text.Utf8

/-!
# Percent encoding

Texts in which a byte can be written as `%` and two hexadecimal digits and a space as `+`. The longer
form `%u` with four digits names a character.
-/

namespace Rampart.Percent

/-- The value of a hexadecimal digit that is given as a byte. -/
def hexByte? (b : UInt8) : Option Nat := Text.digitValue? 16 (Char.ofNat b.toNat)

/-- The byte of two hexadecimal digits that are given as bytes. -/
def hexPair? (high low : UInt8) : Option UInt8 :=
  match hexByte? high, hexByte? low with
  | some h, some l => some (UInt8.ofNat (h * 16 + l))
  | _, _ => none

/-- The byte that the first two of some bytes name in hexadecimal. -/
def leadingPair? : List UInt8 → Option UInt8
  | high :: low :: _ => hexPair? high low
  | _ => none

/-- The bytes that encoded bytes stand for, after the first `skip` are passed over. A `%` without two
digits stands for itself. -/
def decodeBytesFrom : Nat → List UInt8 → List UInt8
  | _, [] => []
  | skip + 1, _ :: bs => decodeBytesFrom skip bs
  | 0, b :: bs =>
    if b = 0x2B then 0x20 :: decodeBytesFrom 0 bs
    else if b = 0x25 then
      match leadingPair? bs with
      | some c => c :: decodeBytesFrom 2 bs
      | none => b :: decodeBytesFrom 0 bs
    else b :: decodeBytesFrom 0 bs

/-- The bytes that encoded bytes stand for. -/
def decodeBytes (bs : List UInt8) : List UInt8 := decodeBytesFrom 0 bs

/-- The text that an encoded text stands for. -/
def decode (cs : List Char) : List Char := Text.decodeLossy (decodeBytes (Text.encode cs))

/-- The character that the first four bytes of a text name in hexadecimal, and what follows them. -/
def longCode? (cs : List Char) : Option (Char × List Char) :=
  match Text.splitBytes? 4 cs with
  | some (four, rest) => ((Text.natural? 16 4294967295 four).bind Text.char?).map fun c => (c, rest)
  | none => none

/-- The first place that announces a long code: what stands before it, its letter, and what follows.
The small letter is looked for first. -/
def announced? (cs : List Char) : Option (List Char × Char × List Char) :=
  match Text.cut? ['%', 'u'] cs with
  | some (before, after) => some (before, 'u', after)
  | none => (Text.cut? ['%', 'U'] cs).map fun p => (p.1, 'U', p.2)

theorem length_of_announced? {cs before after : List Char} {letter : Char}
    (h : announced? cs = some (before, letter, after)) : after.length < cs.length := by
  unfold announced? at h
  split at h
  · rename_i b a hc
    simp only [Option.some.injEq, Prod.mk.injEq] at h
    obtain ⟨rfl, rfl, rfl⟩ := h
    rw [← Text.append_of_cut? hc]
    simp only [List.length_append, List.length_cons, List.length_nil]
    omega
  · obtain ⟨p, hc, he⟩ := Option.map_eq_some_iff.1 h
    simp only [Prod.mk.injEq] at he
    obtain ⟨rfl, rfl, rfl⟩ := he
    rw [← Text.append_of_cut? hc]
    simp only [List.length_append, List.length_cons, List.length_nil]
    omega

theorem length_of_longCode? {cs rest : List Char} {c : Char} (h : longCode? cs = some (c, rest)) :
    rest.length ≤ cs.length := by
  unfold longCode? at h
  split at h
  · rename_i four r hs
    obtain ⟨d, -, he⟩ := Option.map_eq_some_iff.1 h
    simp only [Prod.mk.injEq] at he
    obtain ⟨rfl, rfl⟩ := he
    rw [← Text.append_of_splitBytes? hs]
    simp
  · simp at h

/-- The text that a text with long codes stands for. What stands between the long codes is decoded
on its own. -/
def decodeLong (cs : List Char) : List Char :=
  match _h : announced? cs with
  | none => decode cs
  | some (before, letter, after) =>
    match _k : longCode? after with
    | some (c, rest) => decode before ++ c :: decodeLong rest
    | none => decode (before ++ ['%', letter]) ++ decodeLong after
termination_by cs.length
decreasing_by
  · have := length_of_announced? _h
    have := length_of_longCode? _k
    omega
  · exact length_of_announced? _h

end Rampart.Percent
