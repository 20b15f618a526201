import Rampart.Checksum
import Rampart.Proofs.CodePoints

/-!
# Errors that check digits detect

Counted from the right, every second digit of a card number counts doubled. How a digit counts depends on the
number of digits behind it alone, so two numbers that differ in one digit differ by what that digit counts,
and two that differ by a swap of neighbours by what these two count. Doubling a digit and adding up the
digits of the result permutes the digits, and it moves none of them as far as another one but 0 and 9.
-/

namespace Rampart.Checksum

/-! ## What a digit counts -/

/-- What a digit counts in a sum, as it is or doubled. -/
def weight (double : Bool) (d : Nat) : Nat := if double then doubled d else d

/-- The digit with so many digits behind it counts doubled. -/
def doubles (behind : Nat) : Bool := decide (behind % 2 = 1)

theorem doubles_succ (behind : Nat) : doubles (behind + 1) = !doubles behind := by
  unfold doubles
  rw [← decide_not]
  exact decide_eq_decide.2 (by omega)

/-- **What digits count tells them apart**, doubled or not. -/
theorem eq_of_weight (double : Bool) {d e : Nat} (hd : d < 10) (he : e < 10)
    (h : weight double d % 10 = weight double e % 10) : d = e := by
  have hall : ∀ double, ∀ d < 10, ∀ e < 10, weight double d % 10 = weight double e % 10 → d = e := by
    decide +kernel
  exact hall double d hd e he h

/-- It does not matter which one of two neighbours counts doubled only where they are the same, or 0 and 9. -/
theorem weight_swap_iff (double : Bool) {d e : Nat} (hd : d < 10) (he : e < 10) :
    (weight double d + weight (!double) e) % 10 = (weight double e + weight (!double) d) % 10 ↔
      d = e ∨ d = 0 ∧ e = 9 ∨ d = 9 ∧ e = 0 := by
  have hall : ∀ double, ∀ d < 10, ∀ e < 10,
      (weight double d + weight (!double) e) % 10 = (weight double e + weight (!double) d) % 10 ↔
        d = e ∨ d = 0 ∧ e = 9 ∨ d = 9 ∧ e = 0 := by
    decide +kernel
  exact hall double d hd e he

theorem weight_le (double : Bool) {d : Nat} (hd : d < 10) : weight double d ≤ 9 := by
  unfold weight doubled
  split
  · split <;> omega
  · omega

/-! ## Sums -/

section Sums

variable {ds : List Nat}

theorem luhnSum_cons (double : Bool) (d : Nat) (ds : List Nat) :
    luhnSum double (d :: ds) = weight double d + luhnSum (!double) ds := rfl

theorem luhnSum_append (double : Bool) (as bs : List Nat) :
    luhnSum double (as ++ bs) = luhnSum double as + luhnSum (double ^^ doubles as.length) bs := by
  induction as generalizing double with
  | nil =>
      have hstart : (double ^^ doubles 0) = double := Bool.xor_false double
      rw [List.nil_append, List.length_nil, hstart, luhnSum, Nat.zero_add]
  | cons a as ih =>
      have hflag : ((!double) ^^ doubles as.length) = (double ^^ doubles (as.length + 1)) := by
        rw [doubles_succ, Bool.not_xor, Bool.xor_not]
      rw [List.cons_append, luhnSum_cons, luhnSum_cons, ih, hflag, List.length_cons, Nat.add_assoc]

/-- A digit adds what it counts to the sums of the digits on either side. -/
theorem luhnSum_reverse (front : List Nat) (d : Nat) (back : List Nat) :
    luhnSum false (front ++ d :: back).reverse =
      luhnSum false back.reverse +
        (weight (doubles back.length) d + luhnSum (!doubles back.length) front.reverse) := by
  have hsplit : (front ++ d :: back).reverse = back.reverse ++ d :: front.reverse := by
    rw [List.reverse_append, List.reverse_cons, List.append_assoc, List.singleton_append]
  rw [hsplit, luhnSum_append, Bool.false_xor, List.length_reverse, luhnSum_cons]

/-- Two neighbours add what they count, one of them doubled. -/
theorem luhnSum_reverse_pair (front : List Nat) (d e : Nat) (back : List Nat) :
    luhnSum false (front ++ d :: e :: back).reverse =
      luhnSum false back.reverse +
        (weight (doubles back.length) e + weight (!doubles back.length) d +
          luhnSum (doubles back.length) front.reverse) := by
  have hpair := luhnSum_reverse (front ++ [d]) e back
  rw [← List.append_cons] at hpair
  rw [hpair, List.reverse_append, List.reverse_singleton, List.singleton_append, luhnSum_cons,
    Bool.not_not, Nat.add_assoc]

theorem luhnSum_le (hds : ∀ d ∈ ds, d < 10) (double : Bool) : luhnSum double ds ≤ 9 * ds.length := by
  induction ds generalizing double with
  | nil => exact Nat.le_refl 0
  | cons d ds ih =>
      obtain ⟨hd, hds⟩ := List.forall_mem_cons.1 hds
      have hweight := weight_le double hd
      have hrest := ih hds (!double)
      rw [luhnSum_cons, List.length_cons]
      omega

end Sums

/-! ## Texts -/

theorem lt_of_mem_digits {s : String} {d : Nat} (h : d ∈ digits s) : d < 10 := by
  obtain ⟨c, -, hc⟩ := List.mem_filterMap.1 h
  exact Text.digitValue?_lt hc

/-- The digits of a text are those of its characters that are digits. -/
theorem digits_eq (s : String) :
    digits s = (s.toList.filter Char.isDigit).map fun c => c.toNat - '0'.toNat := by
  unfold digits
  generalize s.toList = cs
  induction cs with
  | nil => rfl
  | cons c cs ih =>
      by_cases hc : c.isDigit = true
      · rw [List.filterMap_cons, Text.digitValue?_ten, if_pos hc, List.filter_cons_of_pos hc,
          List.map_cons, ih]
      · rw [List.filterMap_cons, Text.digitValue?_ten, if_neg hc, List.filter_cons_of_neg hc, ih]

theorem luhn_iff {s : String} :
    luhn s = true ↔ digits s ≠ [] ∧ luhnSum false (digits s).reverse % 10 = 0 := by
  unfold luhn luhnDigits
  rw [Bool.and_eq_true, Bool.not_eq_true', List.isEmpty_eq_false_iff, beq_iff_eq]

/-- The number of digits up to which a sum of what they count fits a word of 32 bits. -/
def countLimit : Nat := 400000000

theorem luhnSum_lt {s : String} (h : (digits s).length < countLimit) :
    luhnSum false (digits s).reverse < 2 ^ 32 := by
  have hdigits : ∀ d ∈ (digits s).reverse, d < 10 := fun d hd =>
    lt_of_mem_digits (List.mem_reverse.1 hd)
  have hle := luhnSum_le hdigits false
  rw [List.length_reverse] at hle
  unfold countLimit at h
  omega

section Accepted

variable {s t : String} {front back : List Nat} {d e : Nat}

/-- A number with another digit in one place is rejected. -/
theorem luhn_of_one_changed (h : luhn s = true) (hs : digits s = front ++ d :: back)
    (ht : digits t = front ++ e :: back) (hne : d ≠ e) : luhn t = false := by
  have hd : d < 10 := lt_of_mem_digits (hs ▸ List.mem_append_right _ (List.mem_cons_self ..))
  have he : e < 10 := lt_of_mem_digits (ht ▸ List.mem_append_right _ (List.mem_cons_self ..))
  have hsum := (luhn_iff.1 h).2
  rw [hs, luhnSum_reverse] at hsum
  rw [← Bool.not_eq_true, luhn_iff]
  rintro ⟨-, hsum'⟩
  rw [ht, luhnSum_reverse] at hsum'
  -- the sums share all but what the one digit counts, and both are multiples of ten
  exact hne (eq_of_weight (doubles back.length) hd he (by omega))

/-- A number with two different neighbours swapped is rejected, unless these are 0 and 9. -/
theorem luhn_of_swapped_iff (h : luhn s = true) (hs : digits s = front ++ d :: e :: back)
    (ht : digits t = front ++ e :: d :: back) (hne : d ≠ e) :
    luhn t = true ↔ d = 0 ∧ e = 9 ∨ d = 9 ∧ e = 0 := by
  have hd : d < 10 := lt_of_mem_digits (hs ▸ List.mem_append_right _ (List.mem_cons_self ..))
  have he : e < 10 := lt_of_mem_digits (ht ▸ List.mem_append_right _ (List.mem_cons_self ..))
  have hsum := (luhn_iff.1 h).2
  have hswap := weight_swap_iff (doubles back.length) he hd
  have hnonempty : digits t ≠ [] := by
    rw [ht]
    simp
  rw [hs, luhnSum_reverse_pair] at hsum
  rw [luhn_iff, ht, luhnSum_reverse_pair, ← ht, and_iff_right hnonempty]
  -- here they share all but what the two neighbours count
  constructor
  · intro hsum'
    rcases hswap.1 (by omega) with heq | hnine
    · exact absurd heq.symm hne
    · omega
  · intro hnine
    have hsame := hswap.2 (.inr (by omega))
    omega

/-- The verdict is on the digits alone. -/
theorem luhn_congr (h : t.toList.filter Char.isDigit = s.toList.filter Char.isDigit) :
    luhn t = luhn s := by
  unfold luhn
  rw [digits_eq, digits_eq, h]

/--
**The check digit of a card number detects the usual errors.**

Of every text that passes the check, with fewer than 400 million digits: what its digits count, and those of
any text with as many digits, fits a word of 32 bits; a text whose digits differ from it in exactly one
position fails; a text whose digits differ from it by a swap of two different neighbours fails, except that
0 and 9 can be swapped; and characters that are no digits can be put in and taken out everywhere without
another verdict.
-/
theorem luhn_detects_errors (hcount : (digits s).length < countLimit) (h : luhn s = true) :
    (∀ t, (digits t).length = (digits s).length → luhnSum false (digits t).reverse < 2 ^ 32) ∧
    (∀ t front d e back, digits s = front ++ d :: back → digits t = front ++ e :: back → d ≠ e →
      luhn t = false) ∧
    (∀ t front d e back, digits s = front ++ d :: e :: back → digits t = front ++ e :: d :: back →
      d ≠ e → (luhn t = true ↔ d = 0 ∧ e = 9 ∨ d = 9 ∧ e = 0)) ∧
    ∀ t, t.toList.filter Char.isDigit = s.toList.filter Char.isDigit → luhn t = luhn s :=
  ⟨fun _ hlength => luhnSum_lt (hlength ▸ hcount), fun _ _ _ _ _ => luhn_of_one_changed h,
    fun _ _ _ _ _ => luhn_of_swapped_iff h, fun _ => luhn_congr⟩

/-- A number of a card; one of its digits changed, two neighbours swapped, and written without blanks. -/
theorem luhn_detects_errors_card :
    (digits "4111 1111 1111 1111").length < countLimit ∧ luhn "4111 1111 1111 1111" = true ∧
      luhn "4111 1111 1111 1112" = false ∧ luhn "1411 1111 1111 1111" = false ∧
        luhn "4111111111111111" = true := by
  have hcount : (digits "4111 1111 1111 1111").length < countLimit := by decide +kernel
  have hpasses : luhn "4111 1111 1111 1111" = true := by decide +kernel
  obtain ⟨-, hchanged, hswapped, hblanks⟩ := luhn_detects_errors hcount hpasses
  have hlast := hchanged "4111 1111 1111 1112" (4 :: List.replicate 14 1) 1 2 []
    (by decide +kernel) (by decide +kernel) (by decide)
  have hfirst := hswapped "1411 1111 1111 1111" [] 4 1 (List.replicate 14 1) (by decide +kernel)
    (by decide +kernel) (by decide)
  refine ⟨hcount, hpasses, hlast, ?_, (hblanks "4111111111111111" (by decide +kernel)).trans hpasses⟩
  rw [← Bool.not_eq_true, hfirst]
  omega

end Accepted

end Rampart.Checksum
