import Rampart.MacroText
import Rampart.Proofs.Reference
import Rampart.Proofs.Trim

/-!
# Keys that are read as they are written

A reference cuts its text at the first colon, trims both parts, and takes a key between slashes for a
pattern; in a text with references a brace ends it and its first point stands for the colon. A plain
key is one that comes through all this as it is, behind the name of a collection in any case.
-/

namespace Rampart

/-- A key that stands for itself when it is written behind a name: it is neither empty nor a pattern
between slashes, no blanks are around it, and it does not close a reference in a text. -/
structure PlainKey (k : String) : Prop where
  nonempty : k.isEmpty = false
  trimmed : Text.trimChars k.toList = k.toList
  unslashed : ¬ Selector.Slashed k.toList
  unclosed : '\x7d' ∉ k.toList

/-- No blank is a letter from a to z. -/
theorem Text.toUpper_of_isBlank {c : Char} (h : isBlank c = true) : c.toUpper = c := by
  have hletters : ∀ i < 26, blankRanges.contains (97 + i) = false := by decide +kernel
  unfold Char.toUpper
  split
  · rename_i hc
    have h1 : 97 ≤ c.toNat := hc.1
    have h2 : c.toNat ≤ 122 := hc.2
    obtain ⟨i, hi⟩ := Nat.exists_eq_add_of_le h1
    unfold isBlank at h
    rw [hi, hletters i (by omega)] at h
    cases h
  · rfl

/-- What means something in a reference or ends it. -/
def Text.marks : List Char := ['!', '&', ':', '.', '\x7d']

theorem Text.toUpper_of_mem_marks {c : Char} (h : c ∈ marks) : c.toUpper = c := by
  unfold marks at h
  simp only [List.mem_cons, List.not_mem_nil, or_false] at h
  rcases h with rfl | rfl | rfl | rfl | rfl <;> rfl

section Names

variable {name : String} {c : CollectionName} {k : String}

/-- A name of a collection is made of letters, whatever its case. -/
theorem CollectionName.plain_of_upper (hname : Text.upper name = c.text) :
    ∀ d ∈ name.toList, Text.isBlank d = false ∧ d ∉ Text.marks := by
  -- blanks and marks have no capitals, and they do not occur in a name in capitals
  have hletters : c.text.toList.any (fun d => Text.isBlank d || Text.marks.contains d) = false := by
    cases c <;> decide +kernel
  intro d hd
  have hmem : d.toUpper ∈ c.text.toList := by
    rw [← hname, Text.upper, String.toList_ofList]
    exact List.mem_map_of_mem hd
  have hplain := List.any_eq_false.1 hletters d.toUpper hmem
  rw [Bool.not_eq_true, Bool.or_eq_false_iff] at hplain
  refine ⟨Bool.eq_false_iff.2 fun hblank => ?_, fun hmark => ?_⟩
  · rw [Text.toUpper_of_isBlank hblank, hblank] at hplain
    cases hplain.1
  · rw [Text.toUpper_of_mem_marks hmark, List.contains_iff_mem.2 hmark] at hplain
    cases hplain.2

/-- A name of a collection is not empty. -/
theorem CollectionName.ne_nil_of_upper (hname : Text.upper name = c.text) : name.toList ≠ [] := by
  intro hnil
  have hempty : c.text.toList = [] := by
    rw [← hname, Text.upper, hnil, String.toList_ofList]
    rfl
  cases c <;> exact absurd hempty (by decide +kernel)

/-- A name of a collection holds no mark, so a cut at one passes it by. -/
theorem CollectionName.mark_notMem (hname : Text.upper name = c.text) {mark : Char}
    (hmark : mark ∈ Text.marks) : mark ∉ name.toList :=
  fun hmem => (plain_of_upper hname mark hmem).2 hmark

/-- **A plain key behind a name of a collection** is read as that key of that collection. -/
theorem Variable.ofChars_plainKey (hname : Text.upper name = c.text) (hk : PlainKey k) :
    ofChars (name.toList ++ ':' :: k.toList) = .ok (.collection c (.key k) .none) := by
  have hplain := CollectionName.plain_of_upper hname
  have hsplit : splitReference (name.toList ++ ':' :: k.toList) = (c.text, some k) := by
    unfold splitReference
    rw [Text.cutAt?_append_cons (CollectionName.mark_notMem hname (by decide))]
    dsimp only
    rw [Text.trimChars_eq_self fun d hd => (hplain d hd).1, hk.trimmed, String.ofList_toList,
      String.ofList_toList, hname]
  have hunmarked {mark : Char} (hmark : mark ∈ Text.marks) :
      (Text.trimChars (name.toList ++ ':' :: k.toList)).head? ≠ some mark := by
    obtain ⟨d, ds, hcs⟩ := List.exists_cons_of_ne_nil (CollectionName.ne_nil_of_upper hname)
    obtain ⟨hblank, hd⟩ := hplain d (hcs ▸ List.mem_cons_self ..)
    obtain ⟨rest, hrest⟩ := Text.trimChars_cons hblank (ds ++ ':' :: k.toList)
    rw [hcs, List.cons_append, hrest, List.head?_cons]
    rintro ⟨⟩
    exact hd hmark
  have hsel : Selector.ofText (some k) = .ok (.key k) := by
    have hempty : k.toList.isEmpty = false := by simpa using hk.nonempty
    unfold Selector.ofText
    dsimp only
    rw [hempty, if_neg Bool.false_ne_true]
    exact if_neg hk.unslashed
  have hset : (SetSource.all.find? fun s => s.name == c.text) = none := by cases c <;> rfl
  have hnames : (SetSource.all.find? fun s => s.namesName == c.text) = none := by cases c <;> rfl
  have hcollection : CollectionName.ofText? c.text = some c := by cases c <;> rfl
  rw [ofChars_of_unmarked (hunmarked (by decide)) (hunmarked (by decide))]
  unfold ofPlain
  rw [splitReference_trimChars, hsplit]
  dsimp only
  rw [hnames, hset, hcollection, hsel]
  rfl

/-- A text that stands for itself. -/
def MacroText.literal (s : String) : MacroText := ⟨s, literalPart s.toList⟩

/-- A text in which no reference is opened stands for itself. -/
theorem MacroText.ofText_of_unopened {s : String} (h : Text.cut? ['%', '\x7b'] s.toList = none) :
    ofText s = .ok (literal s) := by
  unfold ofText
  rw [segmentsOf_of_unopened h]
  rfl

theorem MacroText.hasReference_literal (s : String) : (literal s).hasReference = false := by
  unfold literal hasReference literalPart
  split <;> rfl

@[simp] theorem MacroText.expand_literal (s : String) (r : RuleInfo) (x : Exchange) :
    (literal s).expand r x = (s, x) := by
  unfold literal expand literalPart
  split
  · rename_i hempty
    have hs : String.ofList [] = s := by
      rw [← List.isEmpty_iff.1 hempty, String.ofList_toList]
    exact congrArg (·, x) hs
  · dsimp only [expandSegments]
    rw [List.append_nil, String.ofList_toList]

/-- In a text with references the key stands behind a point. -/
theorem MacroText.ofText_plainKey (hname : Text.upper name = c.text) (hk : PlainKey k) :
    ofText ("%\x7b" ++ name ++ "." ++ k ++ "\x7d") =
      .ok ⟨"%\x7b" ++ name ++ "." ++ k ++ "\x7d", [.reference (.collection c (.key k) .none)]⟩ := by
  have hcs : ("%\x7b" ++ name ++ "." ++ k ++ "\x7d").toList =
      '%' :: '\x7b' :: (name.toList ++ ('.' :: k.toList ++ ['\x7d'])) := by
    simp
  have hopening (cs : List Char) :
      Text.cut? ['%', '\x7b'] ('%' :: '\x7b' :: cs) = some ([], cs) := rfl
  have hclosing : Text.cutAt? (· == '\x7d') (name.toList ++ ('.' :: k.toList ++ ['\x7d'])) =
      some (name.toList ++ '.' :: k.toList, []) := by
    have hunclosed : '\x7d' ∉ name.toList ++ '.' :: k.toList := by
      rw [List.mem_append, List.mem_cons, not_or, not_or]
      exact ⟨CollectionName.mark_notMem hname (by decide), by decide, hk.unclosed⟩
    rw [← List.append_assoc, Text.cutAt?_append_cons hunclosed]
  have hpoint : colonForPoint (name.toList ++ '.' :: k.toList) = name.toList ++ ':' :: k.toList := by
    unfold colonForPoint
    rw [Text.cutAt?_append_cons (CollectionName.mark_notMem hname (by decide))]
  have hread : Variable.ofChars (colonForPoint (name.toList ++ '.' :: k.toList)) =
      .ok (.collection c (.key k) .none) := by
    rw [hpoint]
    exact Variable.ofChars_plainKey hname hk
  have hend : segmentsOf [] = .ok [] := segmentsOf_of_unopened rfl
  unfold ofText
  rw [hcs, segmentsOf_of_closed (hopening _) hclosing, hread, hend]
  rfl

end Names

end Rampart
