import Rampart.Text.Cut

/-!
# Paths

Paths whose parts stand between slashes, with the parts that only lead back or nowhere taken out.
-/

namespace Rampart.Path

/-- The parts that are left after a part is entered: nothing and a point lead nowhere, two points
lead back. The last part comes first. -/
def enter (stack : List (List Char)) (part : List Char) : List (List Char) :=
  if part = [] ∨ part = ['.'] then stack
  else if part = ['.', '.'] then stack.tail
  else part :: stack

/-- The parts that lead to the same place without leading back. -/
def parts (cs : List Char) : List (List Char) :=
  ((Text.splitAt '/' cs).foldl enter []).reverse

/-- Parts with slashes between them. -/
def join : List (List Char) → List Char
  | [] => []
  | [part] => part
  | part :: rest => part ++ '/' :: join rest

/-- The path of the same place without detours. Slashes at the start and at the end are kept. -/
def normalize (cs : List Char) : List Char :=
  let joined := join (parts cs)
  let rooted := if cs.head? = some '/' then '/' :: joined else joined
  if cs.getLast? = some '/' ∧ rooted.getLast? ≠ some '/' then rooted ++ ['/'] else rooted

end Rampart.Path
