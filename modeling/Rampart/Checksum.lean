import Rampart.Text.Fold

/-!
# Check digits

Tests that tell numbers of payment cards and of persons from other numbers. Both look at the decimal
digits of a text and pass over everything else.
-/

namespace Rampart.Checksum

/-- The decimal digits of a text. -/
def digits (s : String) : List Nat := s.toList.filterMap (Text.digitValue? 10)

/-- The sum of the digits of twice a digit. -/
def doubled (d : Nat) : Nat := if d * 2 > 9 then d * 2 - 9 else d * 2

/-- The sum of a list of digits, the last digit first, in which every second one counts doubled. The
flag says that the next one does. -/
def luhnSum (double : Bool) : List Nat → Nat
  | [] => 0
  | d :: ds => (if double then doubled d else d) + luhnSum (!double) ds

/-- The digits pass the check for payment cards: there are some, and their sum with every second one
from the right doubled is a multiple of ten. -/
def luhnDigits (ds : List Nat) : Bool := !ds.isEmpty && luhnSum false ds.reverse % 10 == 0

/-- A text passes the check for payment cards. -/
def luhn (s : String) : Bool := luhnDigits (digits s)

/-- What a digit counts in the check for numbers of persons, by its position. The fourth digit is
the check digit and does not count. -/
def svnrWeights : List Nat := [3, 7, 9, 0, 5, 8, 4, 2, 1, 6]

/-- A text passes the check for numbers of persons: its first ten digits are neither all the same nor
an ascending row, and their weighted sum leaves the fourth one modulo eleven, ten counting as
zero. -/
def svnr (s : String) : Bool :=
  let ds := (digits s).take 10
  if ds.length ≠ 10 then false
  else if ds.all fun d => some d == ds.head? then false
  else if ds == [0, 1, 2, 3, 4, 5, 6, 7, 8, 9] || ds == [1, 2, 3, 4, 5, 6, 7, 8, 9, 0] then false
  else
    let remainder := (List.zipWith (· * ·) svnrWeights ds).foldr (· + ·) 0 % 11
    some (if remainder = 10 then 0 else remainder) == ds[3]?

end Rampart.Checksum
