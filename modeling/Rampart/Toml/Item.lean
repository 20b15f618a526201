/-!
# The data of settings files

What a TOML document says: texts, numbers, arrays and tables. A table remembers how it came about,
because that decides what may still be added to it; for the same reason an array remembers whether
its elements were given under headers.
-/

namespace Rampart.Toml

/-- How a table came about. -/
inductive TableKind where
  /-- It is written as one value. -/
  | closed
  /-- It has a header. -/
  | defined
  /-- It is named on the way to a header. -/
  | implied
  /-- It is named on the way to the key of a pair. -/
  | dotted
  deriving DecidableEq, Repr

/-- How an array came about. -/
inductive ArrayKind where
  /-- It is written as one value. -/
  | closed
  /-- Its elements are tables with headers. -/
  | headed
  deriving DecidableEq, Repr

/-- A value. Nothing depends on what a number with a fraction or a point in time stands for, so both
are kept as they are written. -/
inductive Item where
  | text (s : String)
  | integer (n : Int)
  | boolean (b : Bool)
  | float (literal : String)
  | moment (literal : String)
  | array (kind : ArrayKind) (items : List Item)
  | table (kind : TableKind) (entries : List (String × Item))
  deriving Inhabited

/-- The pairs of a table, no key twice. -/
abbrev Entries := List (String × Item)

namespace Entries

/-- Replaces the item under a key. -/
def replace (es : Entries) (key : String) (item : Item) : Entries :=
  es.map fun e => if e.1 = key then (key, item) else e

/-- Adds a pair, if the key is new. -/
def add? (es : Entries) (key : String) (item : Item) : Option Entries :=
  match es.lookup key with
  | some _ => none
  | none => some (es ++ [(key, item)])

/-- Changes the table that a path leads to. Tables that are not there are added; of an array under
headers the last element is taken. No path leads into a closed table, and the path of a key leads
only through tables without a header. -/
def changeAt (ofKey : Bool) (f : TableKind → Entries → Option Entries) :
    List String → TableKind → Entries → Option Entries
  | [], kind, es => f kind es
  | key :: path, _, es =>
    match es.lookup key with
    | none => do
      let kind := if ofKey then TableKind.dotted else .implied
      let inner ← changeAt ofKey f path kind []
      some (es ++ [(key, .table kind inner)])
    | some (.table kind inner) =>
      if kind = .closed ∨ ofKey ∧ kind = .defined then none
      else do
        let inner ← changeAt ofKey f path kind inner
        some (es.replace key (.table kind inner))
    | some (.array .headed items) =>
      match items.getLast? with
      | some (.table kind inner) => do
        let inner ← changeAt ofKey f path kind inner
        some (es.replace key (.array .headed (items.dropLast ++ [.table kind inner])))
      | _ => none
    | some _ => none

/-- A pair as it is written: the path of its key, the key, and the value. -/
structure Pair where
  path : List String
  key : String
  value : Item

/-- Adds a pair to a table. A key with a path belongs to a table that keys have named, and a key
without one does not. -/
def addPair? (kind : TableKind) (es : Entries) (p : Pair) : Option Entries :=
  changeAt true
    (fun kind es => if (kind == .dotted) = p.path.isEmpty then none else add? es p.key p.value)
    p.path kind es

/-- Adds pairs to a table, one after the other. -/
def addPairs? (kind : TableKind) (es : Entries) (ps : List Pair) : Option Entries :=
  ps.foldlM (addPair? kind) es

end Entries

/-- The elements of a value that can be read as a record: by name, or in a fixed order. -/
inductive Fields where
  | named (entries : Entries)
  | ordered (items : List Item)

/-- The element of a name, which stands at the given place where there is an order. -/
def Fields.get? (place : Nat) (name : String) : Fields → Option Item
  | named entries => entries.lookup name
  | ordered items => items[place]?

/-- The elements of a table or an array. A point in time is a record without any of the names that
settings have. -/
def Item.fields? : Item → Option Fields
  | table _ entries => some (.named entries)
  | array _ items => some (.ordered items)
  | moment _ => some (.named [])
  | _ => none

/-- An element of a record is smaller than the record. -/
theorem Item.sizeOf_get?_lt {i v : Item} {f : Fields} {place : Nat} {name : String}
    (hf : i.fields? = some f) (hv : f.get? place name = some v) : sizeOf v < sizeOf i := by
  cases i with
  | table kind entries =>
    obtain rfl : Fields.named entries = f := by simpa [fields?] using hf
    have hm : (name, v) ∈ entries := by
      have := List.lookup_eq_some_iff.1 hv
      obtain ⟨l₁, l₂, rfl, _⟩ := this
      simp
    have := List.sizeOf_lt_of_mem hm
    simp only [Prod.mk.sizeOf_spec, Item.table.sizeOf_spec] at *
    omega
  | array kind items =>
    obtain rfl : Fields.ordered items = f := by simpa [fields?] using hf
    have := List.sizeOf_lt_of_mem (List.mem_of_getElem? hv)
    simp only [Item.array.sizeOf_spec]
    omega
  | moment literal =>
    obtain rfl : Fields.named [] = f := by simpa [fields?] using hf
    simp [Fields.get?] at hv
  | _ => simp [fields?] at hf

end Rampart.Toml
