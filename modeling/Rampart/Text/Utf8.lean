/-!
# Bytes and characters

Texts as bytes in UTF-8 and back. Bytes that form no character can be refused, or each longest start
of a character that goes wrong, and each byte that starts none, becomes the replacement character.
-/

namespace Rampart.Text

/-- The bytes of a text. -/
def encode (cs : List Char) : List UInt8 := cs.flatMap String.utf8EncodeChar

/-- The replacement character. -/
def replacementChar : Char := '\ufffd'

/-- The bytes that may follow a first byte, as bounds, for each byte that is still owed. -/
def followers (first : Nat) : List (Nat × Nat) :=
  let tail := (0x80, 0xBF)
  if first < 0xC2 then []
  else if first < 0xE0 then [tail]
  else if first = 0xE0 then [(0xA0, 0xBF), tail]
  else if first = 0xED then [(0x80, 0x9F), tail]
  else if first < 0xF0 then [tail, tail]
  else if first = 0xF0 then [(0x90, 0xBF), tail, tail]
  else if first < 0xF4 then [tail, tail, tail]
  else if first = 0xF4 then [(0x80, 0x8F), tail, tail]
  else []

/-- The bits of a code point that its first byte holds. -/
def leadBits (first : Nat) : Nat :=
  if first < 0xE0 then first - 0xC0 else if first < 0xF0 then first - 0xE0 else first - 0xF0

/-- Takes the bytes that are owed, adding their bits to `code`: the number of bytes taken, and the
code point once none is owed. -/
def takeFollowers (code : Nat) : List (Nat × Nat) → List UInt8 → Nat × Option Nat
  | [], _ => (0, some code)
  | _ :: _, [] => (0, none)
  | (lo, hi) :: owed, b :: bs =>
    if lo ≤ b.toNat && b.toNat ≤ hi then
      let r := takeFollowers (code * 64 + (b.toNat - 0x80)) owed bs
      (r.1 + 1, r.2)
    else (0, none)

/-- The characters of a list of bytes, `none` standing for a place where no character can be read.
The first `skip` bytes belong to a character already read. -/
def readChars : Nat → List UInt8 → List (Option Char)
  | _, [] => []
  | skip + 1, _ :: bs => readChars skip bs
  | 0, b :: bs =>
    if b.toNat < 0x80 then some (Char.ofNat b.toNat) :: readChars 0 bs
    else
      match followers b.toNat with
      | [] => none :: readChars 0 bs
      | owed =>
        let r := takeFollowers (leadBits b.toNat) owed bs
        r.2.map Char.ofNat :: readChars r.1 bs

/-- The text a list of bytes stands for, with replacement characters where it stands for none. -/
def decodeLossy (bs : List UInt8) : List Char := (readChars 0 bs).map (·.getD replacementChar)

/-- The text a list of bytes stands for. -/
def decode? (bs : List UInt8) : Option (List Char) := (readChars 0 bs).mapM id

end Rampart.Text
