import Rampart.Text.Cut
import Rampart.Text.Fold
import Rampart.Unicode.Folding

/-!
# Starting alike up to case

One text starts with another up to the case of all letters exactly if the representatives of its
characters start with those of the other. Texts that differ in the case of A to Z alone have the
same representatives and as many bytes; and what comes in front of the letters, the colon among it,
stands for itself alone.
-/

namespace Rampart.Unicode

/-- The representatives of the characters of a text. -/
def folded (cs : List Char) : List Nat := cs.map fun c => foldCode c.toNat

theorem folded_append (as bs : List Char) : folded (as ++ bs) = folded as ++ folded bs :=
  List.map_append

theorem startsWithFolded_iff {ps cs : List Char} :
    startsWithFolded ps cs = true ↔ folded ps <+: folded cs := by
  induction ps generalizing cs with
  | nil => exact ⟨fun _ => List.nil_prefix, fun _ => rfl⟩
  | cons p ps ih =>
      cases cs with
      | nil =>
          constructor
          · intro h
            cases h
          · intro h
            cases List.prefix_nil.1 h
      | cons c cs =>
          unfold startsWithFolded
          rw [Bool.and_eq_true, sameFolding_iff, ih]
          exact List.cons_prefix_cons.symm

/-! ## The letters A to Z -/

/-- Making a character small moves a capital by 32 and leaves every other one. -/
theorem toLower_cases (c : Char) :
    c.toLower = c ∨ ∃ i < 26, c.toNat = 65 + i ∧ c.toLower.toNat = 65 + i + 32 := by
  unfold Char.toLower
  split
  · rename_i hc
    have h1 : 65 ≤ c.toNat := hc.1
    have h2 : c.toNat ≤ 90 := hc.2
    obtain ⟨i, hi⟩ := Nat.exists_eq_add_of_le h1
    refine .inr ⟨i, by omega, hi, ?_⟩
    have h3 : ('a'.val - 'A'.val).toNat = 32 := rfl
    have h4 : c.val.toNat = 65 + i := hi
    change (c.val + ('a'.val - 'A'.val)).toNat = _
    rw [UInt32.toNat_add]
    omega
  · exact .inl rfl

/-- The stretches that move a character are those of the capitals A to Z and of others far behind. -/
theorem foldRuns_bounds : ∀ r ∈ foldRuns, 65 ≤ r.lo ∧ (r.hi ≤ 90 ∨ 181 ≤ r.lo) := by decide +kernel

/-- A character of ASCII that is no capital is its own representative. -/
theorem foldCode_of_not_capital {n : Nat} (h : n < 65 ∨ 90 < n ∧ n < 181) : foldCode n = n := by
  refine Run.apply_of_not_covers fun r hr => Bool.eq_false_iff.2 fun hcovers => ?_
  obtain ⟨hlo, hhi⟩ := of_decide_eq_true (Bool.and_eq_true_iff.1 hcovers).1
  have hbounds := foldRuns_bounds r hr
  omega

/-- The stretch of the capitals A to Z. -/
def capitals : Run := ⟨65, 90, 1, 32⟩

theorem capitals_covers {i : Nat} (h : i < 26) : capitals.covers (65 + i) = true := by
  have hrange : 65 ≤ 65 + i ∧ 65 + i ≤ 90 := by omega
  exact Bool.and_eq_true_iff.2 ⟨decide_eq_true hrange, beq_iff_eq.2 (Nat.mod_one _)⟩

theorem foldRuns_eq_cons : foldRuns = capitals :: foldRuns.tail := rfl

/-- The representative of a capital is the small letter. -/
theorem foldCode_capital {i : Nat} (h : i < 26) : foldCode (65 + i) = 65 + i + 32 := by
  rw [foldCode, Run.apply, foldRuns_eq_cons, List.find?_cons, capitals_covers h]
  change (((65 + i : Nat) : Int) + 32).toNat = 65 + i + 32
  omega

theorem foldCode_toLower (c : Char) : foldCode c.toLower.toNat = foldCode c.toNat := by
  rcases toLower_cases c with hsame | ⟨i, hi, hc, hmoved⟩
  · rw [hsame]
  · rw [hc, hmoved, foldCode_capital hi, foldCode_of_not_capital (by omega)]

/-- Both forms of a letter differ from the same characters by case alone. -/
theorem caseOrbit_letter {i : Nat} (h : i < 26) :
    caseOrbit (65 + i + 32) ⊆ caseOrbit (65 + i) ∧ caseOrbit (65 + i) ⊆ caseOrbit (65 + i + 32) := by
  have hcapital : 65 + i ∈ Run.preimages foldRuns (65 + i + 32) := by
    have hback : (((65 + i + 32 : Nat) : Int) - 32).toNat = 65 + i := by omega
    have hthere : (((65 + i : Nat) : Int) + 32).toNat = 65 + i + 32 := by omega
    refine List.mem_filterMap.2 ⟨capitals, foldRuns_eq_cons ▸ List.mem_cons_self .., ?_⟩
    dsimp only
    rw [show capitals.delta = 32 from rfl, hback, capitals_covers h, hthere, beq_self_eq_true]
    rfl
  unfold caseOrbit
  rw [foldCode_capital h, foldCode_of_not_capital (.inr (by omega))]
  refine ⟨List.cons_subset.2 ⟨.tail _ (List.mem_cons_self ..), List.subset_cons_self ..⟩, ?_⟩
  exact List.cons_subset.2 ⟨.tail _ (.tail _ hcapital), List.subset_cons_self ..⟩

theorem folded_fold (s : String) : folded (Text.fold s) = folded s.toList := by
  unfold folded Text.fold
  rw [List.map_map]
  exact List.map_congr_left fun c _ => foldCode_toLower c

theorem folded_of_sameText {a b : String} (h : Text.sameText a b = true) :
    folded a.toList = folded b.toList := by
  rw [← folded_fold a, ← folded_fold b, Text.sameText_iff.1 h]

/-! ## Characters in front of the letters -/

/-- No character in front of the letters is the representative of another one. -/
theorem eq_of_foldCode {m n : Nat} (hm : m < 65) (h : foldCode n = m) : n = m := by
  have himage : ∀ r ∈ foldRuns, 64 < (r.lo : Int) + r.delta := by decide +kernel
  unfold foldCode Run.apply at h
  split at h
  · rename_i r hr
    have hcovers : r.covers n = true := by simpa using List.find?_some hr
    unfold Run.covers at hcovers
    have hlo : r.lo ≤ n := (of_decide_eq_true (Bool.and_eq_true_iff.1 hcovers).1).1
    have hfar := himage r (List.mem_of_find?_eq_some hr)
    omega
  · exact h

theorem colon_notMem_folded {cs : List Char} (h : ':' ∉ cs) : ∀ n ∈ folded cs, (n != 58) = true := by
  intro n hn
  obtain ⟨c, hc, rfl⟩ := List.mem_map.1 hn
  refine bne_iff_ne.2 fun hcode => h ?_
  have hcolon : c = ':' := Char.toNat_inj.1 (eq_of_foldCode (by decide) hcode)
  exact hcolon ▸ hc

end Rampart.Unicode

/-! ## Bytes -/

namespace Rampart.Text

theorem utf8Size_toLower (c : Char) : c.toLower.utf8Size = c.utf8Size := by
  rcases Unicode.toLower_cases c with hsame | ⟨i, hi, hc, hmoved⟩
  · rw [hsame]
  · -- both forms of the letter are below 128
    have hcapital : c.utf8Size = 1 := if_pos (show c.toNat ≤ 0x7F by omega)
    have hsmall : c.toLower.utf8Size = 1 := if_pos (show c.toLower.toNat ≤ 0x7F by omega)
    rw [hcapital, hsmall]

theorem byteLength_map_toLower (cs : List Char) : byteLength (cs.map Char.toLower) = byteLength cs := by
  induction cs with
  | nil => rfl
  | cons c cs ih => rw [List.map_cons, byteLength_cons, byteLength_cons, ih, utf8Size_toLower]

/-- Texts that differ in the case of A to Z alone have the same number of bytes. -/
theorem size_of_sameText {a b : String} (h : sameText a b = true) : size a = size b := by
  have hfold := congrArg byteLength (sameText_iff.1 h)
  rwa [fold, fold, byteLength_map_toLower, byteLength_map_toLower] at hfold

end Rampart.Text
