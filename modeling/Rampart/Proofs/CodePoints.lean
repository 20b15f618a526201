import Mathlib.Algebra.Group.Nat.Defs
import Rampart.Text.Numeral

/-!
# Numbers that name characters

Escapes name a character by its number, in decimal or hexadecimal digits. The reader of such numbers
takes a plus sign in front of the digits, and a character has one number.
-/

namespace Rampart.Text

variable {base max n : Nat} {c : Char} {cs : List Char}

/-! ## Characters -/

theorem toNat_ofNat (h : n.isValidChar) : (Char.ofNat n).toNat = n := by
  unfold Char.ofNat
  rw [dif_pos h]
  unfold Char.ofNatAux Char.toNat
  simp

/-- **A character is named by its own number**, and by no other. -/
theorem char?_eq_some_iff : char? n = some c ↔ n = c.toNat := by
  unfold char?
  constructor
  · intro h
    split at h
    · rename_i hvalid
      cases h
      exact (toNat_ofNat hvalid).symm
    · cases h
  · rintro rfl
    have hvalid : c.toNat.isValidChar := c.valid
    rw [if_pos hvalid, Char.ofNat_toNat]

/-! ## Digits -/

/-- Nothing, or a plus sign. -/
def IsSign (sign : List Char) : Prop := sign = [] ∨ sign = ['+']

/-- A text of digits in a base. -/
def AllDigits (base : Nat) (cs : List Char) : Prop := ∀ c ∈ cs, (digitValue? base c).isSome

theorem digitValue?_lt {v : Nat} (h : digitValue? base c = some v) : v < base := by
  unfold digitValue? at h
  dsimp only at h
  generalize (if '0' ≤ c ∧ c ≤ '9' then c.toNat - 48 else if 'a' ≤ c ∧ c ≤ 'f' then c.toNat - 87
    else if 'A' ≤ c ∧ c ≤ 'F' then c.toNat - 55 else base) = value at h
  split at h
  · rename_i hlt
    cases h
    exact hlt
  · cases h

theorem isDigit_iff {c : Char} : c.isDigit = true ↔ '0' ≤ c ∧ c ≤ '9' := by
  unfold Char.isDigit
  rw [Bool.and_eq_true, decide_eq_true_iff, decide_eq_true_iff]
  rfl

/-- In base ten the digits alone have a value. -/
theorem digitValue?_ten (c : Char) :
    digitValue? 10 c = if c.isDigit then some (c.toNat - '0'.toNat) else none := by
  by_cases hc : c.isDigit = true
  · have hrange := isDigit_iff.1 hc
    have hle : c.toNat ≤ 57 := hrange.2
    unfold digitValue?
    dsimp only
    rw [if_pos hrange, if_pos (by omega), if_pos hc]
    rfl
  · rw [if_neg hc]
    unfold digitValue?
    dsimp only
    rw [if_neg fun h => hc (isDigit_iff.2 h)]
    -- a letter has a value of ten or more
    refine if_neg ?_
    split
    · rename_i hletter
      have hlow : 97 ≤ c.toNat := hletter.1
      omega
    · split
      · rename_i hletter
        have hlow : 65 ≤ c.toNat := hletter.1
        omega
      · exact Nat.lt_irrefl 10

/-- Digits are below 128. -/
theorem toNat_lt_of_digitValue? (h : (digitValue? 16 c).isSome = true) : c.toNat < 0x80 := by
  unfold digitValue? at h
  dsimp only at h
  split at h
  · rename_i hdigit
    have hhigh : c.toNat ≤ 57 := hdigit.2
    omega
  · split at h
    · rename_i hdigit
      have hhigh : c.toNat ≤ 102 := hdigit.2
      omega
    · split at h
      · rename_i hdigit
        have hhigh : c.toNat ≤ 70 := hdigit.2
        omega
      · cases h

theorem digitValue?_plus (base : Nat) : digitValue? base '+' = none := by
  have hvalue : (if '0' ≤ '+' ∧ '+' ≤ '9' then '+'.toNat - 48
      else if 'a' ≤ '+' ∧ '+' ≤ 'f' then '+'.toNat - 87
      else if 'A' ≤ '+' ∧ '+' ≤ 'F' then '+'.toNat - 55 else base) = base := by
    rw [if_neg (by decide), if_neg (by decide), if_neg (by decide)]
  unfold digitValue?
  rw [hvalue]
  exact if_neg (Nat.lt_irrefl base)

/-- A number has digits, and they are all that it has. -/
theorem isSome_digits?_iff : (digits? base cs).isSome ↔ cs ≠ [] ∧ AllDigits base cs := by
  have hfold (n : Nat) : (cs.foldlM (fun n c => (digitValue? base c).map (n * base + ·)) n).isSome ↔
      AllDigits base cs := by
    unfold AllDigits
    induction cs generalizing n with
    | nil => simp
    | cons c cs ih =>
        rw [List.foldlM_cons, List.forall_mem_cons]
        cases hdigit : digitValue? base c with
        | none => simp
        | some d => simpa using ih (n * base + d)
  unfold digits?
  split
  · rename_i hempty
    simp [List.isEmpty_iff.1 hempty]
  · rename_i hempty
    rw [hfold, List.isEmpty_iff] at *
    simp [hempty]

theorem allDigits_of_digits? (h : digits? base cs = some n) : AllDigits base cs :=
  (isSome_digits?_iff.1 (Option.isSome_of_eq_some h)).2

/-- A number is less than the power of the base that has one place more. -/
theorem digits?_lt_pow (h : digits? base cs = some n) : n < base ^ cs.length := by
  have hfold (cs : List Char) (m : Nat)
      (h : cs.foldlM (fun n c => (digitValue? base c).map (n * base + ·)) m = some n) :
      n < (m + 1) * base ^ cs.length := by
    induction cs generalizing m with
    | nil =>
        cases h
        simp
    | cons c cs ih =>
        rw [List.foldlM_cons] at h
        obtain ⟨k, hk, hrest⟩ := Option.bind_eq_some_iff.1 h
        obtain ⟨v, hv, rfl⟩ := Option.map_eq_some_iff.1 hk
        have hlt := digitValue?_lt hv
        calc n < (m * base + v + 1) * base ^ cs.length := ih _ hrest
          _ ≤ ((m + 1) * base) * base ^ cs.length := by
              refine Nat.mul_le_mul_right _ ?_
              rw [Nat.add_mul, Nat.one_mul]
              omega
          _ = (m + 1) * base ^ (c :: cs).length := by
              rw [List.length_cons, Nat.pow_succ, Nat.mul_assoc, Nat.mul_comm base]
  unfold digits? at h
  split at h
  · cases h
  · have hlt := hfold cs 0 h
    rwa [Nat.zero_add, Nat.one_mul] at hlt

/-- What is no digit does not stand in a number, unless it is the sign. -/
theorem notMem_number {sign digits : List Char} (hsign : IsSign sign)
    (h : digits? base digits = some n) (hplus : c ≠ '+') (hc : digitValue? base c = none) :
    c ∉ sign ++ digits := by
  refine List.not_mem_append (fun hmem => ?_) (fun hmem => ?_)
  · rcases hsign with rfl | rfl
    · cases hmem
    · exact hplus (List.mem_singleton.1 hmem)
  · have hdigit := allDigits_of_digits? h c hmem
    rw [hc] at hdigit
    cases hdigit

/-- **The reader takes one plus sign and digits.** -/
theorem natural?_eq_some_iff :
    natural? base max cs = some n ↔
      ∃ sign digits, IsSign sign ∧ cs = sign ++ digits ∧ digits? base digits = some n ∧ n ≤ max := by
  unfold natural?
  constructor
  · intro h
    obtain ⟨hread, hmax⟩ := Option.filter_eq_some_iff.1 h
    split at hread
    · rename_i digits
      exact ⟨['+'], digits, .inr rfl, rfl, hread, of_decide_eq_true hmax⟩
    · exact ⟨[], cs, .inl rfl, rfl, hread, of_decide_eq_true hmax⟩
  · rintro ⟨sign, digits, hsign, rfl, hread, hmax⟩
    refine Option.filter_eq_some_iff.2 ⟨?_, decide_eq_true hmax⟩
    rcases hsign with rfl | rfl
    · split
      · rename_i rest hplus
        have hdigits := allDigits_of_digits? hread
        rw [List.nil_append] at hplus
        rw [hplus] at hdigits
        exact absurd (hdigits '+' (List.mem_cons_self ..)) (by rw [digitValue?_plus]; decide)
      · exact hread
    · exact hread

/-- A number is written in characters below 128. -/
theorem ascii_of_natural? (h : natural? 16 max cs = some n) : ∀ c ∈ cs, c.toNat < 0x80 := by
  obtain ⟨sign, digits, hsign, rfl, hdigits, -⟩ := natural?_eq_some_iff.1 h
  intro c hc
  rcases List.mem_append.1 hc with hc | hc
  · rcases hsign with rfl | rfl
    · cases hc
    · rw [List.mem_singleton.1 hc]
      decide
  · exact toNat_lt_of_digitValue? (allDigits_of_digits? hdigits c hc)

end Rampart.Text
