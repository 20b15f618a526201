import Rampart.Collection.Entry
import Rampart.Exclusions
import Rampart.Value

/-!
# Collections

A named store with several entries under a key. Keys are compared without regard to case and keep the
spelling they came with. Nothing removes an entry at the moment it expires: a read that meets an
expired entry shows none of its value, and leaves a collection from which the whole key is gone.

Keys are pairwise different and none is without entries; both are part of the type.

A read that meets several keys goes through them in the order of the buckets, which is the order in
which the keys came. A hash table promises no order at all: it goes through its keys in one of its own
choice, which differs from table to table and can change with a write. The list of buckets stands for
that choice. What is proved of one collection is proved of every list of buckets, so of every order
that the table may have; what compares two runs starts both from the same collections, and so holds
the order in them equal as it holds the clock equal.
-/

namespace Rampart

/-- The entries under one key, of which there is at least one. -/
structure Entries where
  first : Entry
  later : List Entry
  deriving DecidableEq, Repr

namespace Entries

/-- The entries in the order in which they came. -/
def toList (es : Entries) : List Entry := es.first :: es.later

/-- One more entry. -/
def push (es : Entries) (e : Entry) : Entries := { es with later := es.later ++ [e] }

/-- The values that have not expired. -/
def live (es : Entries) (now : Instant) : List String := es.toList.filterMap (·.liveValue? now)

/-- Some entry has expired. -/
def anyExpired (es : Entries) (now : Instant) : Bool := es.toList.any (·.isExpired now)

end Entries

/-- A key with its entries. -/
structure Bucket where
  key : String
  entries : Entries
  deriving DecidableEq, Repr

/-- A store of entries under keys. -/
structure Collection where
  name : String
  buckets : List Bucket
  /-- Different buckets have different keys. -/
  distinct : buckets.Pairwise fun a b => Text.sameText a.key b.key = false

namespace Collection

/-- A collection that holds nothing. -/
def empty (name : String) : Collection := ⟨name, [], .nil⟩

/-- The bucket of a key. -/
def find? (c : Collection) (key : String) : Option Bucket :=
  c.buckets.find? fun b => Text.sameText b.key key

/-- There is an entry under the key, with a value or without. -/
def contains (c : Collection) (key : String) : Bool :=
  c.buckets.any fun b => Text.sameText b.key key

/-- The number of keys. -/
def size (c : Collection) : Nat := c.buckets.length

/-- Changes the entries under a key. -/
def modify (c : Collection) (key : String) (f : Entries → Entries) : Collection where
  name := c.name
  buckets := c.buckets.map fun b =>
    if Text.sameText b.key key then { b with entries := f b.entries } else b
  distinct := by
    refine List.pairwise_map.2 (c.distinct.imp ?_)
    intro a b h
    split <;> split <;> exact h

/-- Adds a key that is not there yet. -/
def insertNew (c : Collection) (key : String) (e : Entry) (h : c.contains key = false) :
    Collection where
  name := c.name
  buckets := c.buckets ++ [⟨key, ⟨e, []⟩⟩]
  distinct := by
    refine List.pairwise_append.2 ⟨c.distinct, List.pairwise_singleton _ _, ?_⟩
    intro a ha b hb
    have hk := List.any_eq_false.1 h a ha
    simp only [List.mem_singleton] at hb
    subst hb
    simpa using hk

/-- Keeps the buckets that pass a test. -/
def keep (c : Collection) (p : Bucket → Bool) : Collection where
  name := c.name
  buckets := c.buckets.filter p
  distinct := c.distinct.filter p

/-- Changes the entries under a key, or adds the key with one entry. -/
def put (c : Collection) (key : String) (f : Entries → Entries) (fresh : Entry) : Collection :=
  if h : c.contains key = false then c.insertNew key fresh h else c.modify key f

/-! ## Writes -/

/-- Adds a value behind those that are stored under the key. -/
def store (c : Collection) (key text : String) : Collection :=
  c.put key (·.push (.holding text)) (.holding text)

/-- Replaces the first value under the key, keeping its deadline, or adds one. -/
def setFirst (c : Collection) (key text : String) : Collection :=
  c.put key (fun es => { es with first := es.first.setValue text }) (.holding text)

/-- Replaces the first value under the key if there is an entry; says whether there was. -/
def updateFirst (c : Collection) (key text : String) : Bool × Collection :=
  (c.contains key, c.modify key fun es => { es with first := es.first.setValue text })

/-- Removes a key. -/
def erase (c : Collection) (key : String) : Collection :=
  c.keep fun b => !Text.sameText b.key key

/-- Sets the deadline of the first entry under the key, adding an entry without a value if there is
none. -/
def expireAfter (c : Collection) (now : Instant) (key : String) (seconds : Nat) : Collection :=
  c.put key (fun es => { es with first := es.first.expireAfter now seconds })
    (.expiring now seconds)

/-- Removes every key. -/
def clear (c : Collection) : Collection := empty c.name

/-! ## Reads -/

/-- Removes the selected keys that hold an expired entry. -/
def purge (c : Collection) (now : Instant) (selects : String → Bool) : Collection :=
  c.keep fun b => !(selects b.key && b.entries.anyExpired now)

/-- The live values of a bucket under the name `label`. -/
def bucketValues (c : Collection) (now : Instant) (label : String) (b : Bucket) : List Value :=
  (b.entries.live now).map (.keyed c.name label)

/-- The live values under the selected keys, bucket by bucket, each shown under the label of its
key; and what is left of the collection. -/
def read (c : Collection) (now : Instant) (selects : String → Bool) (label : String → String) :
    List Value × Collection :=
  ((c.buckets.filter fun b => selects b.key).flatMap fun b => c.bucketValues now (label b.key) b,
    c.purge now selects)

/-- The first live value under a key. -/
def readFirst (c : Collection) (now : Instant) (key : String) : Option String × Collection :=
  ((c.find? key).bind fun b => (b.entries.live now).head?, c.purge now (Text.sameText · key))

/-- The live values under a key, the first one first. -/
def readKey (c : Collection) (now : Instant) (key : String) : List Value × Collection :=
  c.read now (Text.sameText · key) id

/-- The live values of every key that is not excluded; within a key the last one comes first. -/
def readAll (c : Collection) (now : Instant) (e : Exclusions) : List Value × Collection :=
  let r := c.read now (fun k => !e.omits k) id
  (r.1.reverse, r.2)

/-- The live values under a key, spelled as asked for, the last one first; nothing if the key is
excluded. The empty key asks for every key. -/
def readMany (c : Collection) (now : Instant) (key : String) (e : Exclusions) :
    List Value × Collection :=
  if key.isEmpty then c.readAll now e
  else if e.omits key then ([], c)
  else
    let r := c.read now (Text.sameText · key) fun _ => key
    (r.1.reverse, r.2)

/-- The live values of every key that matches a pattern and is not excluded; within a key the last
one comes first. -/
def readMatching (c : Collection) (now : Instant) (p : Pattern) (e : Exclusions) :
    List Value × Collection :=
  let r := c.read now (fun k => p.isMatch k && !e.omits k) id
  (r.1.reverse, r.2)

/-! ## What the writes do to the buckets -/

@[simp] theorem buckets_empty (name : String) : (empty name).buckets = [] := rfl

@[simp] theorem buckets_keep (c : Collection) (p : Bucket → Bool) :
    (c.keep p).buckets = c.buckets.filter p := rfl

@[simp] theorem buckets_modify (c : Collection) (key : String) (f : Entries → Entries) :
    (c.modify key f).buckets =
      c.buckets.map fun b => if Text.sameText b.key key then { b with entries := f b.entries } else b :=
  rfl

theorem contains_eq_isSome_find? (c : Collection) (key : String) :
    c.contains key = (c.find? key).isSome := by
  rw [Bool.eq_iff_iff, find?, List.find?_isSome, contains, List.any_eq_true]

end Collection

end Rampart
