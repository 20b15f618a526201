import Rampart.Pattern.Basic
import Rampart.Text.Fold

/-!
# Excluded keys

Keys that a reading of many values passes over: some by name, up to case, and some by a pattern that
is searched anywhere in the key.
-/

namespace Rampart

/-- Keys to pass over. -/
structure Exclusions where
  keys : List String := []
  patterns : List Pattern := []

namespace Exclusions

/-- Nothing is passed over. -/
def none : Exclusions := {}

/-- One more key. -/
def addKey (e : Exclusions) (key : String) : Exclusions := { e with keys := e.keys ++ [key] }

/-- One more pattern of keys. -/
def addPattern (e : Exclusions) (p : Pattern) : Exclusions :=
  { e with patterns := e.patterns ++ [p] }

/-- The key is passed over. -/
def omits (e : Exclusions) (key : String) : Bool :=
  e.keys.any (Text.sameText · key) || e.patterns.any (·.isMatch key)

/-- The number of keys and patterns. -/
def size (e : Exclusions) : Nat := e.keys.length + e.patterns.length

/-- There are neither keys nor patterns. -/
def isEmpty (e : Exclusions) : Bool := e.keys.isEmpty && e.patterns.isEmpty

@[simp] theorem omits_none (key : String) : none.omits key = false := rfl

@[simp] theorem omits_addKey (e : Exclusions) (k key : String) :
    (e.addKey k).omits key = (e.omits key || Text.sameText k key) := by
  simp [addKey, omits, Bool.or_assoc, Bool.or_comm]

@[simp] theorem omits_addPattern (e : Exclusions) (p : Pattern) (key : String) :
    (e.addPattern p).omits key = (e.omits key || p.isMatch key) := by
  simp [addPattern, omits, Bool.or_assoc]

end Exclusions

end Rampart
