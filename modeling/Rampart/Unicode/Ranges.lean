/-!
# Sets of code points

A set of code points is written as its boundaries in increasing order: the first member of a range,
then the first code point after it, and so on.
-/

namespace Rampart.Unicode

/-- The boundaries of a set of code points. -/
abbrev Ranges := List Nat

/-- A code point is a member when it lies between a first member and the boundary that follows. -/
def Ranges.contains : Ranges → Nat → Bool
  | lo :: hi :: rest, n => if n < lo then false else if n < hi then true else Ranges.contains rest n
  | [lo], n => decide (lo ≤ n)
  | [], _ => false

end Rampart.Unicode
