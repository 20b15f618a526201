/-!
# Numbers with a fixed number of decimals

The decimal text of a floating point number with a given number of places behind the point. The text
shows the number itself, rounded once: to the nearest multiple of the last place, and of two that
are equally near to the even one.
-/

namespace Rampart.Text

/-- The quotient rounded to the nearest integer, a tie going to the even one. -/
def roundDiv (n d : Nat) : Nat :=
  let q := n / d
  let r := n % d
  if 2 * r < d then q else if d < 2 * r then q + 1 else q + q % 2

/-- The magnitude of the finite number with these bits, as a significand and the exponent of its
last binary place, moved by 1075 so that it is not negative. -/
def magnitude (bits : UInt64) : Nat × Nat :=
  let significand := bits.toNat % Nat.pow 2 52
  let exponent := bits.toNat / Nat.pow 2 52 % Nat.pow 2 11
  if exponent = 0 then (significand, 1) else (Nat.pow 2 52 + significand, exponent)

/-- A natural number in at least `width` digits. -/
def padded (width n : Nat) : String :=
  let digits := n.repr
  String.ofList (List.replicate (width - digits.length) '0') ++ digits

/-- A finite number with a positive number of places. -/
def fixedPoint (places : Nat) (x : Float) : String :=
  let m := magnitude x.toBits
  let scaled := roundDiv (m.1 * Nat.pow 2 m.2 * Nat.pow 10 places) (Nat.pow 2 1075)
  (if x < 0 then "-" else "") ++ (scaled / Nat.pow 10 places).repr ++ "." ++
    padded places (scaled % Nat.pow 10 places)

/-- A rounded quotient is at most half a unit from the quotient. -/
theorem roundDiv_near (n : Nat) {d : Nat} (h : 0 < d) :
    2 * n ≤ 2 * (roundDiv n d * d) + d ∧ 2 * (roundDiv n d * d) ≤ 2 * n + d := by
  have hn := Nat.div_add_mod n d
  have hr := Nat.mod_lt n h
  rw [Nat.mul_comm] at hn
  unfold roundDiv
  simp only
  split
  · omega
  · split
    · rw [Nat.add_mul]
      omega
    · rcases Nat.mod_two_eq_zero_or_one (n / d) with hq | hq
      · rw [hq, Nat.add_zero]
        omega
      · rw [hq, Nat.add_mul]
        omega

end Rampart.Text
