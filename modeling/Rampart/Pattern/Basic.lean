import Rampart.Pattern.Matcher
import Rampart.Pattern.Reader

/-!
# Patterns

A pattern is a regular expression together with the text it was written as. It is searched in a text
from left to right; among the matches that start at the same place, the one is taken that a search
with backtracking finds first.

Left out is, of the properties of characters, all that `CharSet.named?` has no name for: properties
that a character has or lacks beyond those of `CharSet.property?` (so `Emoji` or `Dash`), extensions of
scripts, ages, and the classes by which texts are broken into graphemes, words and sentences. A
pattern that asks for one of them is refused as if there were no such property. Neither the size of a
pattern nor the depth to which its groups are nested is limited, so none is refused for being too
large. Theorems on tests do not depend on this: they are stated of whatever finds matches from left
to right, of which a pattern is one instance.
-/

namespace Rampart

/-- A regular expression and its text. -/
structure Pattern where
  source : String
  expr : Expr

/-- The number of the last group that a match can report. -/
def Expr.groupCount : Expr → Nat
  | .group i e => max i e.groupCount
  | .seq a b => max a.groupCount b.groupCount
  | .alt a b => max a.groupCount b.groupCount
  | .rep _ 0 (some 0) _ => 0
  | .rep e _ _ _ => e.groupCount
  | _ => 0

/-- The flags for patterns that select keys: case is ignored. -/
def Pattern.keyFlags : Pattern.Flags := { ignoreCase := true }

/-- The flags for patterns that test values: a dot matches line ends too, and lines have starts and
ends of their own. -/
def Pattern.valueFlags : Pattern.Flags := { multiLine := true, dotAll := true }

namespace Pattern

/-- The pattern that a text stands for under the given flags. -/
def ofText (f : Flags) (source : String) : Except PatternError Pattern :=
  (read f source.toList).map fun e => ⟨source, e⟩

/-- The first match that starts at a place or behind it: its stretch and the stretches of the
groups. -/
def matchFrom? (p : Pattern) (c : Cursor) : Option (Span × List (Nat × Span)) :=
  (p.expr.findFrom c.offset c.before c.rest).map fun r => (⟨r.1, r.2.place⟩, r.2.groups)

/-- The stretch of the first match that starts at a place or behind it. -/
def findFrom? (p : Pattern) (c : Cursor) : Option Span := (p.matchFrom? c).map (·.1)

/-- The stretch of the first match in a text. -/
def find? (p : Pattern) (s : String) : Option Span := p.findFrom? (.start s.toList)

/-- The first match in a text: its stretch, and the stretches of the groups in their order, starting
with the whole match. -/
def captures? (p : Pattern) (s : String) : Option (Span × List (Option Span)) :=
  (p.matchFrom? (.start s.toList)).map fun r =>
    (r.1, some r.1 :: (List.range p.expr.groupCount).map fun i => r.2.lookup (i + 1))

/-- The pattern matches somewhere in a text. -/
def isMatch (p : Pattern) (s : String) : Bool := (p.find? s).isSome

end Pattern

end Rampart
