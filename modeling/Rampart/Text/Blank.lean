import Rampart.Unicode.Ranges

/-!
# Blank characters

The characters with the property White_Space, and the cuts of a text at them.
-/

namespace Rampart.Text

/-- Characters with the property White_Space. -/
def blankRanges : Unicode.Ranges :=
  [9, 14, 32, 33, 133, 134, 160, 161, 5760, 5761, 8192, 8203, 8232, 8234, 8239, 8240, 8287, 8288,
    12288, 12289]

/-- A blank character. -/
def isBlank (c : Char) : Bool := blankRanges.contains c.toNat

/-- A text without the blanks at its start. -/
def trimLeft (cs : List Char) : List Char := cs.dropWhile isBlank

/-- A text without the blanks at its end. -/
def trimRight (cs : List Char) : List Char := (cs.reverse.dropWhile isBlank).reverse

/-- A text without the blanks at either end. -/
def trimChars (cs : List Char) : List Char := trimRight (trimLeft cs)

/-- Trimming makes no text longer. -/
theorem length_trimChars_le (cs : List Char) : (trimChars cs).length ≤ cs.length := by
  have h (ds : List Char) : (ds.dropWhile isBlank).length ≤ ds.length :=
    (List.dropWhile_sublist _).length_le
  unfold trimChars trimRight trimLeft
  rw [List.length_reverse]
  refine Nat.le_trans (h _) ?_
  rw [List.length_reverse]
  exact h cs

/-- A text without the blanks at either end. -/
def trim (s : String) : String := String.ofList (trimChars s.toList)

/-- A text without the blanks at its start. -/
def trimStart (s : String) : String := String.ofList (trimLeft s.toList)

/-- The stretches of a text between blanks, collected from the character list with `word` holding
the characters of the current stretch, last first. -/
def wordsFrom (word : List Char) : List Char → List (List Char)
  | [] => if word.isEmpty then [] else [word.reverse]
  | c :: cs =>
    if isBlank c then
      if word.isEmpty then wordsFrom [] cs else word.reverse :: wordsFrom [] cs
    else wordsFrom (c :: word) cs

/-- The stretches of a text between blanks. -/
def words (s : String) : List String := (wordsFrom [] s.toList).map String.ofList

end Rampart.Text
