import Rampart.Variable.Reference

/-!
# Texts with references

Texts in which `%` and braces enclose a reference to a variable. Expanded, each reference becomes the
first value of its variable, or nothing. The first point of a reference may stand for its colon. An
opening without an end is kept as it is.
-/

namespace Rampart

/-- A part of a text with references. -/
inductive Segment where
  | literal (text : List Char)
  | reference (v : Variable)

/-- A text with references, and the way it was written. -/
structure MacroText where
  raw : String
  segments : List Segment

namespace MacroText

/-- A reference with its first point turned into a colon. -/
def colonForPoint (cs : List Char) : List Char :=
  match Text.cutAt? (· == '.') cs with
  | some (collection, key) => collection ++ ':' :: key
  | none => cs

/-- A literal part, unless there is nothing in it. -/
def literalPart (cs : List Char) : List Segment := if cs.isEmpty then [] else [.literal cs]

/-- The parts of a text. -/
def segmentsOf (cs : List Char) : Except Error (List Segment) :=
  match _h₁ : Text.cut? ['%', '\x7b'] cs with
  | none => .ok (literalPart cs)
  | some (before, inner) =>
    match _h₂ : Text.cutAt? (· == '\x7d') inner with
    | none => .ok (literalPart cs)
    | some (reference, rest) =>
      match Variable.ofChars (colonForPoint reference) with
      | .error e => .error e
      | .ok v => (segmentsOf rest).map fun more => literalPart before ++ .reference v :: more
termination_by cs.length
decreasing_by
  have h₁ := congrArg List.length (Text.append_of_cut? _h₁)
  have h₂ := Text.length_of_cutAt? _h₂
  simp only [List.length_append, List.length_cons, List.length_nil] at h₁
  omega

/-- A text in which no reference is opened is one part. -/
theorem segmentsOf_of_unopened {cs : List Char} (h : Text.cut? ['%', '\x7b'] cs = none) :
    segmentsOf cs = .ok (literalPart cs) := by
  rw [segmentsOf]
  split
  · rfl
  · rename_i hopening
    cases h.symm.trans hopening

/-- A text in which the first reference is left open is one part. -/
theorem segmentsOf_of_unclosed {cs before inner : List Char}
    (hopening : Text.cut? ['%', '\x7b'] cs = some (before, inner))
    (hclosing : Text.cutAt? (· == '\x7d') inner = none) : segmentsOf cs = .ok (literalPart cs) := by
  rw [segmentsOf]
  split
  · rfl
  · rename_i h
    cases hopening.symm.trans h
    split
    · rfl
    · rename_i h
      cases hclosing.symm.trans h

/-- The first reference is read, then what stands behind its end. -/
theorem segmentsOf_of_closed {cs before inner reference rest : List Char}
    (hopening : Text.cut? ['%', '\x7b'] cs = some (before, inner))
    (hclosing : Text.cutAt? (· == '\x7d') inner = some (reference, rest)) :
    segmentsOf cs = Variable.ofChars (colonForPoint reference) >>= fun v =>
      (segmentsOf rest).map fun more => literalPart before ++ .reference v :: more := by
  rw [segmentsOf]
  split
  · rename_i h
    cases hopening.symm.trans h
  · rename_i h
    cases hopening.symm.trans h
    split
    · rename_i h
      cases hclosing.symm.trans h
    · rename_i h
      cases hclosing.symm.trans h
      cases Variable.ofChars (colonForPoint reference) <;> rfl

/-- The text that is written like this. -/
def ofText (raw : String) : Except Error MacroText :=
  (segmentsOf raw.toList).map fun segments => ⟨raw, segments⟩

/-- The text holds a reference. -/
def hasReference (m : MacroText) : Bool :=
  m.segments.any fun
    | .reference _ => true
    | .literal _ => false

/-- The parts with every reference replaced, from left to right. -/
def expandSegments (r : RuleInfo) : List Segment → Exchange → List Char × Exchange
  | [], x => ([], x)
  | .literal cs :: rest, x =>
    let more := expandSegments r rest x
    (cs ++ more.1, more.2)
  | .reference v :: rest, x =>
    let found := v.evaluate r x
    let text := (found.1.head?.map fun value => value.text.toList).getD []
    let more := expandSegments r rest found.2
    (text ++ more.1, more.2)

/-- The text with every reference replaced. -/
def expand (m : MacroText) (r : RuleInfo) (x : Exchange) : String × Exchange :=
  let expanded := expandSegments r m.segments x
  (String.ofList expanded.1, expanded.2)

end MacroText

end Rampart
