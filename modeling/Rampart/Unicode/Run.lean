/-!
# Regular stretches of a character map

Maps between code points are mostly regular: over a stretch of code points, each one or every second
one is moved by the same distance. A map is a list of such stretches, and leaves all else in place.
-/

namespace Rampart.Unicode

/-- The code points `lo`, `lo + step`, and so on up to `hi`, each moved by `delta`. -/
structure Run where
  lo : Nat
  hi : Nat
  step : Nat
  delta : Int

namespace Run

/-- The code points a stretch moves. -/
def covers (r : Run) (n : Nat) : Bool := decide (r.lo ≤ n ∧ n ≤ r.hi) && (n - r.lo) % r.step == 0

/-- The image of a code point. -/
def apply (rs : List Run) (n : Nat) : Nat :=
  match rs.find? (·.covers n) with
  | some r => ((n : Int) + r.delta).toNat
  | none => n

/-- The code points that are moved to `n`. -/
def preimages (rs : List Run) (n : Nat) : List Nat :=
  rs.filterMap fun r =>
    let m := ((n : Int) - r.delta).toNat
    if r.covers m && ((m : Int) + r.delta).toNat == n then some m else none

/-- A code point that no stretch covers stays in place. -/
theorem apply_of_not_covers {rs : List Run} {n : Nat} (h : ∀ r ∈ rs, r.covers n = false) :
    apply rs n = n := by
  unfold apply
  rw [List.find?_eq_none.2 (by simpa using h)]

end Run

end Rampart.Unicode
