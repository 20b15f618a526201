/-!
# Text that ignores case

Names, keys and targets are compared with the letters A to Z taken as a to z. Every other character
stands for itself, so that an accented capital differs from its small form.
-/

namespace Rampart.Text

/-- A text with its letters A to Z made small. -/
def fold (s : String) : List Char := s.toList.map Char.toLower

/-- Two texts that differ at most in the case of the letters A to Z. -/
def sameText (a b : String) : Bool := fold a == fold b

theorem sameText_iff {a b : String} : sameText a b = true ↔ fold a = fold b := by
  simp [sameText]

@[simp] theorem sameText_refl (a : String) : sameText a a = true := by simp [sameText]

theorem sameText_comm (a b : String) : sameText a b = sameText b a := by
  simp only [sameText, Bool.beq_comm]

theorem sameText_trans {a b c : String} (hab : sameText a b = true) (hbc : sameText b c = true) :
    sameText a c = true := by
  rw [sameText_iff] at *
  exact hab.trans hbc

/-- A text with its letters A to Z made small, as a text. -/
def lower (s : String) : String := String.ofList (fold s)

/-- A text with its letters a to z made capital. -/
def upper (s : String) : String := String.ofList (s.toList.map Char.toUpper)

/-- The value of a digit in a base up to sixteen, in either case. -/
def digitValue? (base : Nat) (c : Char) : Option Nat :=
  let value :=
    if '0' ≤ c ∧ c ≤ '9' then c.toNat - 48
    else if 'a' ≤ c ∧ c ≤ 'f' then c.toNat - 87
    else if 'A' ≤ c ∧ c ≤ 'F' then c.toNat - 55
    else base
  if value < base then some value else none

end Rampart.Text
