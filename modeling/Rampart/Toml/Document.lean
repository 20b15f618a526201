import Rampart.Toml.Section

/-!
# Settings files as tables

The table that a TOML document stands for. Each section adds its pairs at the place that its header
names; a document is refused if a section or a pair would define again what is defined already.
-/

namespace Rampart.Toml

namespace Section

/-- The pairs of a section as an item of the table that its header leads to. A table can be defined
once; elements can be added to an array as long as it holds nothing but such elements. -/
def place? (s : Section) (h : Header) (parent : Entries) : Option Entries :=
  match parent.lookup h.key, h.isElement with
  | none, true => do
    let es ← Entries.addPairs? .defined [] s.pairs
    some (parent ++ [(h.key, .array .headed [.table .defined es])])
  | none, false => do
    let es ← Entries.addPairs? .defined [] s.pairs
    some (parent ++ [(h.key, .table .defined es)])
  | some (.array .headed items), true => do
    let es ← Entries.addPairs? .defined [] s.pairs
    some (parent.replace h.key (.array .headed (items ++ [.table .defined es])))
  | some (.table .implied inner), false => do
    let es ← Entries.addPairs? .defined inner s.pairs
    some (parent.replace h.key (.table .defined es))
  | _, _ => none

/-- The table of a document after one more section. -/
def addTo? (root : Entries) (s : Section) : Option Entries :=
  match s.header with
  | none => Entries.addPairs? .defined root s.pairs
  | some h => Entries.changeAt false (fun _ parent => s.place? h parent) h.path .defined root

end Section

/-- The table that some sections stand for. -/
def ofSections? (ss : List Section) : Option Entries := ss.foldlM Section.addTo? []

/-- The table that a document stands for. -/
def ofText? (s : String) : Option Entries := (Section.ofText? s).bind ofSections?

end Rampart.Toml
