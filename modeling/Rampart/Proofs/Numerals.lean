import Rampart.Proofs.DeclaredIds

/-!
# Integers read back

The decimal text of an integer is a minus sign, if it is negative, and the digits of its absolute
value. The strict reading gives every integer of 64 bits back. The lenient reading collects the digits
before it minds the sign, and stops at the greatest integer. So it gives every integer of 64 bits back
but the least one, whose absolute value is one too great for it.
-/

namespace Rampart.Text

/-! ## The nearest integer -/

section Clamp

variable {n : Int}

theorem clamp_of_between (hmin : minInt ≤ n) (hmax : n ≤ maxInt) : clamp n = n := by
  unfold clamp
  rw [if_neg (Int.not_lt.2 hmin), if_neg (Int.not_lt.2 hmax)]

theorem clamp_between (n : Int) : minInt ≤ clamp n ∧ clamp n ≤ maxInt := by
  unfold clamp minInt maxInt
  split
  · omega
  · split <;> omega

theorem clamp_of_nonneg (h : 0 ≤ n) : clamp n = min n maxInt := by
  unfold clamp minInt maxInt
  omega

end Clamp

/-! ## Digits -/

section Digits

variable {cs suffix : List Char}

/-- The strict reading adds the digits up. -/
theorem foldlM_digits (hcs : ∀ c ∈ cs, c.isDigit = true) (n : Nat) :
    cs.foldlM (fun n c => (digitValue? 10 c).map (n * 10 + ·)) n =
      some (Nat.ofDigitChars 10 cs n) := by
  induction cs generalizing n with
  | nil => rfl
  | cons c cs ih =>
      rw [List.foldlM_cons, digitValue?_ten, if_pos (hcs c (List.mem_cons_self ..)),
        Nat.ofDigitChars_cons, Nat.mul_comm 10 n]
      exact ih (fun d hd => hcs d (List.mem_cons_of_mem _ hd)) _

theorem leadingDigits_of_not_digit (h : ∀ c ∈ suffix.head?, c.isDigit = false) (n : Int) :
    leadingDigits n suffix = n := by
  cases suffix with
  | nil => rfl
  | cons c rest =>
      rw [leadingDigits, digitValue?_ten, h c rfl]
      rfl

/-- **A sum that stops at the greatest integer at every digit** is the sum of the digits, stopped at
the end. -/
theorem leadingDigits_append (hcs : ∀ c ∈ cs, c.isDigit = true)
    (hsuffix : ∀ c ∈ suffix.head?, c.isDigit = false) (n : Nat) :
    leadingDigits (clamp n) (cs ++ suffix) = clamp (Nat.ofDigitChars 10 cs n) := by
  induction cs generalizing n with
  | nil => exact leadingDigits_of_not_digit hsuffix _
  | cons c cs ih =>
      have hstep (d : Nat) : clamp (clamp (clamp n * 10) + d) = clamp ((10 * n + d : Nat) : Int) := by
        unfold clamp minInt maxInt
        omega
      rw [List.cons_append, leadingDigits, digitValue?_ten, if_pos (hcs c (List.mem_cons_self ..))]
      dsimp only
      rw [hstep, Nat.ofDigitChars_cons]
      exact ih (fun d hd => hcs d (List.mem_cons_of_mem _ hd)) _

/-- The digits at the start of a text are a number from 0 to the greatest integer. -/
theorem leadingDigits_between {n : Int} (h : 0 ≤ n ∧ n ≤ maxInt) (cs : List Char) :
    0 ≤ leadingDigits n cs ∧ leadingDigits n cs ≤ maxInt := by
  induction cs generalizing n with
  | nil => exact h
  | cons c cs ih =>
      rw [leadingDigits]
      split
      · refine ih ⟨?_, (clamp_between _).2⟩
        unfold clamp minInt maxInt
        omega
      · exact h

end Digits

/-- The lenient reading never gives the least integer. -/
theorem leadingInt_between (s : String) : minInt < leadingInt s ∧ leadingInt s ≤ maxInt := by
  have hstart : (0 : Int) ≤ 0 ∧ (0 : Int) ≤ maxInt := by decide
  have hdigits := leadingDigits_between hstart
  unfold leadingInt
  unfold maxInt at hdigits
  unfold minInt maxInt
  split
  · rename_i cs _
    have := hdigits cs
    omega
  · rename_i cs _
    have := hdigits cs
    omega
  · rename_i cs _ _ 
    have := hdigits (trimLeft s.toList)
    omega

/-! ## Decimal texts -/

/-- The sign in front of the digits. -/
theorem toList_decimal (n : Int) :
    (decimal n).toList = (if n < 0 then ['-'] else []) ++ Nat.toDigits 10 n.natAbs := by
  unfold decimal
  split
  · rw [String.toList_append, Nat.toList_repr]
    rfl
  · rw [Nat.toList_repr, List.nil_append]

theorem isDigit_of_mem_toDigits {n : Nat} : ∀ c ∈ Nat.toDigits 10 n, c.isDigit = true :=
  fun _ hc => Nat.isDigit_of_mem_toDigits (by decide) (by decide) hc

theorem exists_toDigits (n : Nat) :
    ∃ c cs, Nat.toDigits 10 n = c :: cs ∧ c.isDigit = true := by
  obtain ⟨c, cs, hcs⟩ := List.exists_cons_of_ne_nil (Nat.toDigits_ne_nil (b := 10) (n := n))
  exact ⟨c, cs, hcs, isDigit_of_mem_toDigits c (hcs ▸ List.mem_cons_self ..)⟩

/-- The decimal text of an integer holds neither blanks nor marks. -/
theorem numeric_decimal (n : Int) : ∀ c ∈ (decimal n).toList, Numeric c := by
  intro c hc
  rw [toList_decimal, List.mem_append] at hc
  rcases hc with hsign | hdigit
  · split at hsign
    · rw [List.mem_singleton.1 hsign]
      exact ⟨by decide, by decide⟩
    · cases hsign
  · exact numeric_of_isDigit (isDigit_of_mem_toDigits c hdigit)

theorem decimal_ne_nil (n : Int) : (decimal n).toList ≠ [] := by
  rw [toList_decimal]
  exact List.append_ne_nil_of_right_ne_nil _ Nat.toDigits_ne_nil

/-- A text that starts with a digit has no sign. -/
theorem leadingInt_of_digit {s : String} {c : Char} {cs : List Char} (hc : c.isDigit = true)
    (h : trimLeft s.toList = c :: cs) : leadingInt s = leadingDigits 0 (c :: cs) := by
  unfold leadingInt
  rw [h]
  split
  · rename_i hsign
    cases hsign
    cases hc
  · rename_i hsign
    cases hsign
    cases hc
  · rfl

theorem leadingInt_of_minus {s : String} {cs : List Char} (h : trimLeft s.toList = '-' :: cs) :
    leadingInt s = -leadingDigits 0 cs := by
  unfold leadingInt
  rw [h]
  rfl

theorem integer?_of_digit {c : Char} {cs : List Char} (hc : c.isDigit = true) :
    integer? (c :: cs) =
      ((digits? 10 (c :: cs)).map fun n : Nat => (n : Int)).filter
        fun n => minInt ≤ n && n ≤ maxInt := by
  unfold integer?
  dsimp only
  split
  · rename_i hsign
    cases hsign
    cases hc
  · rename_i hsign
    cases hsign
    cases hc
  · cases digits? 10 (c :: cs) <;> rfl

theorem integer?_minus (cs : List Char) :
    integer? ('-' :: cs) =
      ((digits? 10 cs).map fun n : Nat => -(n : Int)).filter fun n => minInt ≤ n && n ≤ maxInt := by
  change (((digits? 10 cs).bind fun n => some (n : Int)).map fun n => -n).filter _ = _
  cases digits? 10 cs <;> rfl

theorem digits?_toDigits (n : Nat) : digits? 10 (Nat.toDigits 10 n) = some n := by
  have hne : (Nat.toDigits 10 n).isEmpty = false := by simp [Nat.toDigits_ne_nil]
  unfold digits?
  rw [hne, if_neg Bool.false_ne_true, foldlM_digits isDigit_of_mem_toDigits,
    Nat.ofDigitChars_ten_toDigits]

/-- **The strict reading** gives every integer of 64 bits back. -/
theorem integer?_decimal {n : Int} (hmin : minInt ≤ n) (hmax : n ≤ maxInt) :
    integer? (decimal n).toList = some n := by
  have hfits : (some n).filter (fun n => minInt ≤ n && n ≤ maxInt) = some n := by
    simp [hmin, hmax]
  rw [toList_decimal]
  split
  · have habs : -(n.natAbs : Int) = n := by omega
    rw [List.singleton_append, integer?_minus, digits?_toDigits, Option.map_some, habs, hfits]
  · have habs : (n.natAbs : Int) = n := by omega
    obtain ⟨c, cs, hcs, hc⟩ := exists_toDigits n.natAbs
    rw [List.nil_append, hcs, integer?_of_digit hc, ← hcs, digits?_toDigits, Option.map_some, habs,
      hfits]

theorem leadingDigits_toDigits (n : Nat) {suffix : List Char}
    (hsuffix : ∀ c ∈ suffix.head?, c.isDigit = false) :
    leadingDigits 0 (Nat.toDigits 10 n ++ suffix) = clamp n := by
  have h := leadingDigits_append (isDigit_of_mem_toDigits (n := n)) hsuffix 0
  rwa [Nat.ofDigitChars_ten_toDigits] at h

/-- **The lenient reading** gives every integer back between the limits of its digits, behind any
blanks and in front of anything but a digit. The limits are the greatest integer and its negation,
one above the least integer. -/
theorem leadingInt_decimal (n : Int) {blanks suffix : List Char} (hblanks : AllBlank blanks)
    (hsuffix : ∀ c ∈ suffix.head?, c.isDigit = false) :
    leadingInt (String.ofList (blanks ++ (decimal n).toList ++ suffix)) =
      max (minInt + 1) (min n maxInt) := by
  have hvalue := clamp_of_nonneg (Int.natCast_nonneg n.natAbs)
  have hdigits := leadingDigits_toDigits n.natAbs hsuffix
  have hstart : trimLeft ((decimal n).toList ++ suffix) = (decimal n).toList ++ suffix := by
    obtain ⟨c, cs, hcs⟩ := List.exists_cons_of_ne_nil (decimal_ne_nil n)
    unfold trimLeft
    rw [hcs, List.cons_append, List.dropWhile_cons,
      (numeric_decimal n c (hcs ▸ List.mem_cons_self ..)).not_blank]
    rfl
  have htrim : trimLeft (String.ofList (blanks ++ (decimal n).toList ++ suffix)).toList =
      (decimal n).toList ++ suffix := by
    rw [String.toList_ofList, List.append_assoc, trimLeft_append_of_allBlank hblanks, hstart]
  have hsigned := toList_decimal n
  by_cases hneg : n < 0
  · rw [if_pos hneg, List.singleton_append] at hsigned
    rw [hsigned, List.cons_append] at htrim
    rw [hsigned, leadingInt_of_minus htrim, hdigits, hvalue]
    unfold minInt maxInt
    omega
  · obtain ⟨c, cs, hcs, hc⟩ := exists_toDigits n.natAbs
    rw [if_neg hneg, List.nil_append] at hsigned
    rw [hsigned, hcs, List.cons_append] at htrim
    rw [hsigned, hcs, leadingInt_of_digit hc htrim, ← List.cons_append, ← hcs, hdigits, hvalue]
    unfold minInt maxInt
    omega

/-- Among the integers of 64 bits only the least one is not read back; it is read as the one above it. -/
theorem leadingInt_decimal_of_fits {n : Int} (hmin : minInt ≤ n) (hmax : n ≤ maxInt)
    {blanks suffix : List Char} (hblanks : AllBlank blanks)
    (hsuffix : ∀ c ∈ suffix.head?, c.isDigit = false) :
    leadingInt (String.ofList (blanks ++ (decimal n).toList ++ suffix)) =
      if n = minInt then minInt + 1 else n := by
  rw [leadingInt_decimal n hblanks hsuffix]
  unfold minInt maxInt at *
  split <;> omega

/-- The same of the decimal text alone. -/
theorem leadingInt_decimal_self {n : Int} (hmin : minInt ≤ n) (hmax : n ≤ maxInt) :
    leadingInt (decimal n) = if n = minInt then minInt + 1 else n := by
  have hblanks : AllBlank [] := List.forall_mem_nil _
  have hsuffix : ∀ c ∈ ([] : List Char).head?, c.isDigit = false := fun _ hc => nomatch hc
  have h := leadingInt_decimal_of_fits hmin hmax hblanks hsuffix
  rwa [List.nil_append, List.append_nil, String.ofList_toList] at h

theorem leadingInt_decimal_of_between {n : Int} (hmin : minInt < n) (hmax : n ≤ maxInt) :
    leadingInt (decimal n) = n := by
  rw [leadingInt_decimal_self (Int.le_of_lt hmin) hmax, if_neg (Int.ne_of_gt hmin)]

end Rampart.Text
