import Rampart.Collection.Basic

/-!
# Shared collections

The collections of a process stand on a shelf and are reached by their place on it. A registry finds
the place by name, up to case. Registries can be copied: copies find the same collections.

The accesses of several transactions to one collection are steps one after the other, each of them
whole: the locks that make them so are left out.
-/

namespace Rampart

/-- The collections that exist; a place on the shelf is never given up. -/
structure Shelf where
  collections : List Collection

/-- A place on a shelf. -/
abbrev Place := Nat

namespace Shelf

/-- No collections. -/
def empty : Shelf := ⟨[]⟩

/-- The collection at a place. -/
def at? (s : Shelf) (p : Place) : Option Collection := s.collections[p]?

/-- The collection at a place is replaced by another state of it. -/
def set (s : Shelf) (p : Place) (c : Collection) : Shelf := ⟨s.collections.set p c⟩

/-- Adds a collection; gives its place. -/
def add (s : Shelf) (c : Collection) : Place × Shelf :=
  (s.collections.length, ⟨s.collections ++ [c]⟩)

@[simp] theorem at?_add_self (s : Shelf) (c : Collection) : (s.add c).2.at? (s.add c).1 = some c := by
  simp [add, at?]

end Shelf

/-- The names of collections and their places, without two names that differ by case alone. -/
structure Registry where
  entries : List (String × Place)

namespace Registry

/-- No names. -/
def empty : Registry := ⟨[]⟩

/-- The place of the collection of this name. -/
def place? (r : Registry) (name : String) : Option Place :=
  (r.entries.find? fun e => Text.sameText e.1 name).map (·.2)

/-- There is a collection of this name. -/
def contains (r : Registry) (name : String) : Bool := (r.place? name).isSome

/-- Gives a name to a place. A name that is there already keeps its spelling and loses its old
place. -/
def bind (r : Registry) (name : String) (p : Place) : Registry :=
  if r.contains name then
    ⟨r.entries.map fun e => if Text.sameText e.1 name then (e.1, p) else e⟩
  else ⟨r.entries ++ [(name, p)]⟩

/-- The names as they were spelled when they were first registered, in the order of their bytes. -/
def names (r : Registry) : List String := (r.entries.map (·.1)).mergeSort fun a b => a ≤ b

/-- The number of names. -/
def size (r : Registry) : Nat := r.entries.length

/-- Puts an empty collection on the shelf and registers it under its own name. -/
def register (r : Registry) (s : Shelf) (name : String) : Registry × Shelf :=
  let added := s.add (.empty name)
  (r.bind name added.1, added.2)

/-- Registers an empty collection for every name in turn. -/
def registerAll (r : Registry) (s : Shelf) (names : List String) : Registry × Shelf :=
  names.foldl (fun acc name => acc.1.register acc.2 name) (r, s)

/-- One empty collection for every name, on a shelf of their own. -/
def ofNames (names : List String) : Registry × Shelf := registerAll .empty .empty names

end Registry

end Rampart
