import Rampart.Proofs.Parts

/-!
# Slices

Offsets count bytes, and a character takes up to four of them. So an offset can fall into the middle of a
character, and what stands between two offsets is a text only if neither does. A slice that is asked for is
given in this case alone, and it is then the part of the text with that many bytes before it and within it.
-/

namespace Rampart.Text

variable {offset length : Nat} {cs part rest : List Char}

theorem byteLength_eq_zero {cs : List Char} : byteLength cs = 0 ↔ cs = [] := by
  refine ⟨fun h => ?_, fun h => h ▸ rfl⟩
  cases cs with
  | nil => rfl
  | cons c cs =>
      rw [byteLength_cons] at h
      exact absurd h (by have := c.utf8Size_pos; omega)

/-- That many bytes into the text no character is cut. -/
def IsBoundary (n : Nat) (cs : List Char) : Prop := ∃ start, start <+: cs ∧ byteLength start = n

/-- The text behind an offset, if that is a boundary. -/
def from? (offset : Nat) (cs : List Char) : Option (List Char) := (splitBytes? offset cs).map (·.2)

/-- The text of some bytes behind an offset, if both of its ends are boundaries. -/
def slice? (offset length : Nat) (cs : List Char) : Option (List Char) :=
  (from? offset cs).bind fun rest => (splitBytes? length rest).map (·.1)

theorem from?_append (before after : List Char) :
    from? (byteLength before) (before ++ after) = some after := by
  rw [from?, splitBytes?_append, Option.map_some]

theorem slice?_append (before part after : List Char) :
    slice? (byteLength before) (byteLength part) (before ++ (part ++ after)) = some part := by
  rw [slice?, from?_append, Option.bind_some, splitBytes?_append, Option.map_some]

/-- A text as a whole is a slice of it. -/
theorem slice?_whole (cs : List Char) : slice? 0 (byteLength cs) cs = some cs := by
  have hslice := slice?_append [] cs []
  rwa [List.append_nil] at hslice

/-- **A slice is a part of the text**, with as many bytes before it and within it as were asked for. -/
theorem slice?_eq_some_iff :
    slice? offset length cs = some part ↔
      ∃ before after, cs = before ++ (part ++ after) ∧ byteLength before = offset ∧
        byteLength part = length := by
  constructor
  · intro h
    obtain ⟨behind, hbehind, h⟩ := Option.bind_eq_some_iff.1 h
    obtain ⟨⟨before, behind⟩, hbefore, rfl⟩ := Option.map_eq_some_iff.1 hbehind
    obtain ⟨⟨part, after⟩, hpart, rfl⟩ := Option.map_eq_some_iff.1 h
    refine ⟨before, after, ?_, byteLength_of_splitBytes? hbefore, byteLength_of_splitBytes? hpart⟩
    rw [append_of_splitBytes? hpart, append_of_splitBytes? hbefore]
  · rintro ⟨before, after, rfl, rfl, rfl⟩
    exact slice?_append before part after

/-- Both ends of a slice are boundaries within the text. -/
theorem boundaries_of_slice? (h : slice? offset length cs = some part) :
    offset + length ≤ byteLength cs ∧ IsBoundary offset cs ∧ IsBoundary (offset + length) cs := by
  obtain ⟨before, after, rfl, rfl, rfl⟩ := slice?_eq_some_iff.1 h
  refine ⟨?_, ⟨before, List.prefix_append .., rfl⟩, before ++ part, ⟨after, ?_⟩,
    byteLength_append before part⟩
  · rw [byteLength_append, byteLength_append]
    omega
  · exact List.append_assoc ..

end Rampart.Text
