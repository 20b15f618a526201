import Rampart.Transform.Basic

/-!
# Pipelines

The transformations of a rule in their order. A value can be tested at the end of the pipeline only,
or also before it and after every step that changes it.
-/

namespace Rampart

/-- Transformations to apply one after the other. -/
structure Pipeline where
  steps : List Transform
  deriving DecidableEq, Repr

namespace Pipeline

/-- No steps. -/
def empty : Pipeline := ⟨[]⟩

/-- One more step; `none` takes back all the steps so far. -/
def push (p : Pipeline) (t : Transform) : Pipeline :=
  if t = .none then empty else ⟨p.steps ++ [t]⟩

/-- The pipeline of some steps. -/
def ofList (ts : List Transform) : Pipeline := ts.foldl push empty

/-- The steps that were applied, as they are written in evidence. -/
def reference (steps : List Transform) : String :=
  ",".intercalate (steps.map fun t => "t:" ++ t.name)

/-- A text after some steps. -/
def applyAll (steps : List Transform) (s : String) : String := steps.foldl (fun s t => t.apply s) s

/-- The texts after each of the steps to come that changes the text, with the steps that lead to
it. -/
def changes (done : List Transform) (s : String) : List Transform → List (String × String)
  | [] => []
  | t :: ts =>
    let next := t.apply s
    let rest := changes (done ++ [t]) next ts
    if next = s then rest else (next, reference (done ++ [t])) :: rest

/-- The texts to test, each with the steps that lead to it: the last one, or with `multi` the text
itself and every other one on the way. -/
def run (p : Pipeline) (s : String) (multi : Bool) : List (String × String) :=
  if multi then (s, "") :: changes [] s p.steps else [(applyAll p.steps s, reference p.steps)]

end Pipeline

end Rampart
