import Rampart.Collection.Basic
import Rampart.Text.Cut
import Rampart.Unicode.Folding

/-!
# Compartments

A part of a collection that is reached through a prefix: the key `k` of the compartment `c` is the
key `c::k` of the collection. Keys go in without the prefix and come out without it. The empty
prefix stands for the whole collection.

A scan of a compartment looks at the keys that start with the prefix up to case, where case is that
of all letters; the prefix is taken off where it agrees up to the case of A to Z.
-/

namespace Rampart

/-- What stands between a compartment and the key. -/
def compartmentSeparator : String := "::"

/-- A key inside nested compartments. -/
def compartmentKey (compartments : List String) (key : String) : String :=
  compartments.foldr (fun c rest => c ++ compartmentSeparator ++ rest) key

/-- The prefix of a compartment, with its separator. -/
structure Compartment where
  start : String

namespace Compartment

/-- The innermost of some nested compartments. -/
def within (compartments : List String) : Compartment := ⟨compartmentKey compartments ""⟩

/-- The whole collection. -/
def whole : Compartment := ⟨""⟩

/-- The key of the collection that stands for a key of the compartment. -/
def key (p : Compartment) (k : String) : String := p.start ++ k

/-! ## Writes -/

/-- Adds a value behind those that are stored under the key. -/
def store (p : Compartment) (c : Collection) (k text : String) : Collection := c.store (p.key k) text

/-- Replaces the first value under the key, keeping its deadline, or adds one. -/
def setFirst (p : Compartment) (c : Collection) (k text : String) : Collection :=
  c.setFirst (p.key k) text

/-- Replaces the first value under the key if there is an entry; says whether there was. -/
def updateFirst (p : Compartment) (c : Collection) (k text : String) : Bool × Collection :=
  c.updateFirst (p.key k) text

/-- Removes a key. -/
def erase (p : Compartment) (c : Collection) (k : String) : Collection := c.erase (p.key k)

/-- Sets the deadline of the first entry under the key. -/
def expireAfter (p : Compartment) (c : Collection) (now : Instant) (k : String) (seconds : Nat) :
    Collection :=
  c.expireAfter now (p.key k) seconds

/-! ## Reads -/

/-- There is an entry under the key. -/
def contains (p : Compartment) (c : Collection) (k : String) : Bool := c.contains (p.key k)

/-- The first live value under a key. -/
def readFirst (p : Compartment) (c : Collection) (now : Instant) (k : String) :
    Option String × Collection :=
  c.readFirst now (p.key k)

/-- The key without the prefix, if the prefix stands at its start up to the case of A to Z. -/
def strip? (p : Compartment) (key : String) : Option String :=
  match Text.splitBytes? (Text.size p.start) key.toList with
  | some (start, rest) =>
    if Text.sameText (String.ofList start) p.start then some (String.ofList rest) else none
  | none => none

/-- The value under its key without the prefix. -/
def strip (p : Compartment) (v : Value) : Value := { v with key := (p.strip? v.key).getD v.key }

/-- The live values under a key, the first one first. -/
def readKey (p : Compartment) (c : Collection) (now : Instant) (k : String) :
    List Value × Collection :=
  let r := c.readKey now (p.key k)
  (r.1.map p.strip, r.2)

/-- The key starts with the prefix up to case. -/
def covers (p : Compartment) (key : String) : Bool :=
  Unicode.startsWithFolded p.start.toList key.toList

/-- The live values whose keys start with the prefix, still under their full keys; within a key the
last one comes first. A program that looks for the keys by a pattern made of the prefix finds nothing
when the prefix is so long that its pattern is refused as too large. That case is left out: patterns
have no limit here, and every prefix has its scan. -/
def scan (p : Compartment) (c : Collection) (now : Instant) : List Value × Collection :=
  let r := c.read now p.covers id
  (r.1.reverse, r.2)

/-- The stripped values whose keys pass a test and are not excluded, in reverse order. -/
def select (p : Compartment) (keeps : String → Bool) (e : Exclusions) (vs : List Value) :
    List Value :=
  ((vs.map p.strip).filter fun v => keeps v.key && !e.omits v.key).reverse

/-- The live values under a key, or under every key of the compartment for the empty key, without
those that are excluded. -/
def readMany (p : Compartment) (c : Collection) (now : Instant) (k : String) (e : Exclusions) :
    List Value × Collection :=
  if p.start.isEmpty then c.readMany now k e
  else if k.isEmpty then
    let r := p.scan c now
    (p.select (fun _ => true) e r.1, r.2)
  else if e.omits k then ([], c)
  else
    let r := c.readMany now (p.key k) .none
    (p.select (fun _ => true) e r.1, r.2)

/-- The live values of the compartment whose keys match a pattern and are not excluded. -/
def readMatching (p : Compartment) (c : Collection) (now : Instant) (pattern : Pattern)
    (e : Exclusions) : List Value × Collection :=
  if p.start.isEmpty then c.readMatching now pattern e
  else
    let r := p.scan c now
    (p.select pattern.isMatch e r.1, r.2)

end Compartment

end Rampart
