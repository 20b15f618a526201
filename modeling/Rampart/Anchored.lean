import Rampart.Exclusions
import Rampart.Text.Cut
import Rampart.Value

/-!
# Values anchored in a request

The parts of one request that rules can inspect: single texts such as the method, and sets of keyed
texts such as the arguments. Each value remembers where its bytes stand. Readings of many values
list the last one first.
-/

namespace Rampart

/-- A single text of a request, if it is known. -/
structure Anchor where
  name : String
  value : Option Value

namespace Anchor

/-- The text is not known. -/
def unset (name : String) : Anchor := ⟨name, none⟩

/-- The text, standing at an offset with all its bytes. -/
def set (a : Anchor) (text : String) (offset : Nat) : Anchor :=
  { a with value := some ⟨a.name, "", text, [⟨offset, Text.size text⟩]⟩ }

/-- Forgets the text. -/
def clear (a : Anchor) : Anchor := { a with value := none }

/-- The text, if it is known. -/
def text? (a : Anchor) : Option String := a.value.map (·.text)

/-- The values to inspect: an empty text is none. -/
def values (a : Anchor) : List Value := a.value.toList.filter fun v => !v.text.isEmpty

end Anchor

/-- Keyed texts of a request, in the order in which they came. -/
structure AnchoredSet where
  name : String
  values : List Value

namespace AnchoredSet

/-- A set without values. -/
def empty (name : String) : AnchoredSet := ⟨name, []⟩

/-- One more value, standing at an offset with a number of bytes. -/
def push (s : AnchoredSet) (key text : String) (origin : Origin) : AnchoredSet :=
  { s with values := s.values ++ [⟨s.name, key, text, [origin]⟩] }

/-- One more value, standing at an offset with all its bytes. -/
def pushWhole (s : AnchoredSet) (key text : String) (offset : Nat) : AnchoredSet :=
  s.push key text ⟨offset, Text.size text⟩

/-- Forgets every value. -/
def clear (s : AnchoredSet) : AnchoredSet := { s with values := [] }

/-- The values whose keys are not excluded, the last one first. -/
def all (s : AnchoredSet) (e : Exclusions) : List Value :=
  (s.values.filter fun v => !e.omits v.key).reverse

/-- The values under a key, the first one first. -/
def atKey (s : AnchoredSet) (key : String) : List Value :=
  s.values.filter fun v => Text.sameText v.key key

/-- The values whose keys match a pattern and are not excluded, the last one first. -/
def matching (s : AnchoredSet) (p : Pattern) (e : Exclusions) : List Value :=
  (s.values.filter fun v => p.isMatch v.key && !e.omits v.key).reverse

/-- The text of the first value under a key. -/
def first? (s : AnchoredSet) (key : String) : Option String :=
  (s.values.find? fun v => Text.sameText v.key key).map (·.text)

/-- The first key that equals `key` up to case, as it was spelled. -/
def firstName? (s : AnchoredSet) (key : String) : Option String :=
  (s.values.find? fun v => Text.sameText v.key key).map (·.key)

@[simp] theorem values_push (s : AnchoredSet) (key text : String) (o : Origin) :
    (s.push key text o).values = s.values ++ [⟨s.name, key, text, [o]⟩] := rfl

@[simp] theorem values_clear (s : AnchoredSet) : s.clear.values = [] := rfl

end AnchoredSet

/-- The key of a value as a value of its own under the name `view`. Its origins point at the key,
which is taken to stand before the value with one byte between them. -/
def Value.keyAsValue (view : String) (v : Value) : Value :=
  let length := Text.size v.key
  ⟨view, v.key, v.key, v.origins.map fun o => ⟨o.offset - (length + 1), length⟩⟩

end Rampart
