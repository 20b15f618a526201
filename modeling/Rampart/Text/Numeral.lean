import Rampart.Text.Fold
import Rampart.Text.Blank

/-!
# Integers in text

Three readings of an integer: a strict one for settings, which takes the whole text and refuses what
does not fit; one in a given base for escapes; and a lenient one for requests, which takes the
leading digits and clamps. Integers are those of 64 bits.
-/

namespace Rampart.Text

/-- The greatest integer of 64 bits. -/
def maxInt : Int := 9223372036854775807

/-- The least integer of 64 bits. -/
def minInt : Int := -9223372036854775808

/-- The nearest integer of 64 bits. -/
def clamp (n : Int) : Int := if n < minInt then minInt else if maxInt < n then maxInt else n

/-- The character with a code point, if there is one. -/
def char? (n : Nat) : Option Char := if n.isValidChar then some (Char.ofNat n) else none

/-- The value of a text of digits, if it has at least one and holds nothing else. -/
def digits? (base : Nat) (cs : List Char) : Option Nat :=
  if cs.isEmpty then none
  else cs.foldlM (fun n c => (digitValue? base c).map (n * base + ·)) 0

/-- A natural number up to `max`, with an optional plus sign. -/
def natural? (base max : Nat) (cs : List Char) : Option Nat :=
  let unsigned :=
    match cs with
    | '+' :: rest => rest
    | _ => cs
  (digits? base unsigned).filter (· ≤ max)

/-- An integer of 64 bits with an optional sign. -/
def integer? (cs : List Char) : Option Int :=
  let value :=
    match cs with
    | '-' :: rest => (digits? 10 rest).map fun n => -(n : Int)
    | '+' :: rest => (digits? 10 rest).map fun n => (n : Int)
    | _ => (digits? 10 cs).map fun n => (n : Int)
  value.filter fun n => minInt ≤ n && n ≤ maxInt

/-- The digits at the start of a text as a number, stopping at the greatest integer. -/
def leadingDigits (n : Int) : List Char → Int
  | [] => n
  | c :: cs =>
    match digitValue? 10 c with
    | some d => leadingDigits (clamp (clamp (n * 10) + d)) cs
    | none => n

/-- The integer a text starts with after blanks and a sign, or 0. -/
def leadingInt (s : String) : Int :=
  match trimLeft s.toList with
  | '-' :: cs => -leadingDigits 0 cs
  | '+' :: cs => leadingDigits 0 cs
  | cs => leadingDigits 0 cs

/-- The decimal text of an integer. -/
def decimal (n : Int) : String := if n < 0 then "-" ++ Nat.repr n.natAbs else Nat.repr n.natAbs

end Rampart.Text
