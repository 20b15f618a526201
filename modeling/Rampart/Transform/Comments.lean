import Rampart.Text.Cut

/-!
# Comments

Removal of what database statements and pages take for comments: blocks between two marks, and
lines from a mark to their end.
-/

namespace Rampart.Comments

/-- Removes the blocks from an opening mark to the closing mark, which may overlap it. A removal can
bring together another opening mark. A block without an end reaches to the end of the text. -/
def removeBlocks (opener closer : List Char) (h : closer ≠ []) (cs : List Char) : List Char :=
  match _h₁ : Text.cut? opener cs with
  | none => cs
  | some (before, after) =>
    match _h₂ : Text.cut? closer (opener ++ after) with
    | none => before
    | some (_, rest) => removeBlocks opener closer h (before ++ rest)
termination_by cs.length
decreasing_by
  rename_i inside
  have h₁ := congrArg List.length (Text.append_of_cut? _h₁)
  have h₂ := congrArg List.length (Text.append_of_cut? _h₂)
  have h₃ := List.length_pos_iff.2 h
  simp only [List.length_append] at *
  omega

/-- Removes the first occurrence of a mark and what follows it up to the end of the line. -/
def removeLine (mark : List Char) (cs : List Char) : List Char :=
  match Text.cut? mark cs with
  | none => cs
  | some (before, after) => before ++ after.dropWhile (· != '\n')

/-- Removes blocks of both kinds, then the first comment of each kind that ends with its line. -/
def remove (cs : List Char) : List Char :=
  let cs := removeBlocks ['/', '*'] ['*', '/'] (by decide) cs
  let cs := removeBlocks ['<', '!', '-', '-'] ['-', '-', '>'] (by decide) cs
  removeLine ['#'] (removeLine ['-', '-'] cs)

end Rampart.Comments
