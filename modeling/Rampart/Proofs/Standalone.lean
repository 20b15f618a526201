import Rampart.Proofs.Answers
import Rampart.Proofs.KeyPrefix
import Rampart.Proofs.Overlap

/-!
# A compartment as a collection of its own

The keys of a compartment, with the prefix taken off, make up a collection: its part. An access to one
key through the compartment does to the part what the same access does to a collection that stands
alone. It gives the same answer and does nothing to any other key, so a sequence of accesses through
the compartment cannot be told from the same sequence on the part.

All accesses look for keys up to the case of A to Z, in which the prefix is taken off as well. For
that reason no condition on the prefix is needed here, other than for a scan.
-/

namespace Rampart

/-! ## Accesses -/

/-- An access to one key. -/
inductive Access where
  | store (text : String)
  | setFirst (text : String)
  | updateFirst (text : String)
  | erase
  | expire (seconds : Nat)
  | contains
  | readFirst
  | readKey

/-- What an access answers. -/
inductive Reply where
  | done
  | flag (b : Bool)
  | text (found : Option String)
  | values (found : List Value)
  deriving DecidableEq

/-- An access to a key of a collection: the answer, and what is left of the collection. -/
def Collection.access (c : Collection) (now : Instant) (key : String) : Access → Reply × Collection
  | .store text => (.done, c.store key text)
  | .setFirst text => (.flag true, c.setFirst key text)
  | .updateFirst text =>
    let r := c.updateFirst key text
    (.flag r.1, r.2)
  | .erase => (.done, c.erase key)
  | .expire seconds => (.done, c.expireAfter now key seconds)
  | .contains => (.flag (c.contains key), c)
  | .readFirst =>
    let r := c.readFirst now key
    (.text r.1, r.2)
  | .readKey =>
    let r := c.readKey now key
    (.values r.1, r.2)

/-- An access to a key of a compartment. -/
def Compartment.access (p : Compartment) (c : Collection) (now : Instant) (k : String) :
    Access → Reply × Collection
  | .store text => (.done, p.store c k text)
  | .setFirst text => (.flag true, p.setFirst c k text)
  | .updateFirst text =>
    let r := p.updateFirst c k text
    (.flag r.1, r.2)
  | .erase => (.done, p.erase c k)
  | .expire seconds => (.done, p.expireAfter c now k seconds)
  | .contains => (.flag (p.contains c k), c)
  | .readFirst =>
    let r := p.readFirst c now k
    (.text r.1, r.2)
  | .readKey =>
    let r := p.readKey c now k
    (.values r.1, r.2)

/-- Accesses to keys one after the other, each at a moment of its own. -/
def Collection.accessAll (c : Collection) :
    List (Instant × String × Access) → List Reply × Collection
  | [] => ([], c)
  | (now, key, a) :: rest =>
    let r := c.access now key a
    let more := r.2.accessAll rest
    (r.1 :: more.1, more.2)

/-- Accesses to keys of a compartment one after the other. -/
def Compartment.accessAll (p : Compartment) (c : Collection) :
    List (Instant × String × Access) → List Reply × Collection
  | [] => ([], c)
  | (now, k, a) :: rest =>
    let r := p.access c now k a
    let more := p.accessAll r.2 rest
    (r.1 :: more.1, more.2)

namespace Collection

theorem readKey_fst (c : Collection) (now : Instant) (key : String) :
    (c.readKey now key).1 = (c.find? key).toList.flatMap fun b => c.bucketValues now b.key b := by
  unfold readKey read
  dsimp only [id]
  rw [c.filter_sameText key]

end Collection

namespace Compartment

/-! ## The part -/

/-- The bucket under its key without the prefix, if it is one of the compartment. -/
def bucket? (p : Compartment) (b : Bucket) : Option Bucket :=
  (p.strip? b.key).map fun k => { b with key := k }

variable (p : Compartment) {b b' : Bucket}

theorem bucket?_eq_some_iff :
    p.bucket? b = some b' ↔ p.StoredAs b'.key b.key ∧ b'.entries = b.entries := by
  unfold bucket?
  rw [Option.map_eq_some_iff]
  constructor
  · rintro ⟨k, hk, rfl⟩
    exact ⟨strip?_eq_some_iff.1 hk, rfl⟩
  · rintro ⟨hk, hentries⟩
    refine ⟨b'.key, strip?_eq_some_iff.2 hk, ?_⟩
    rw [← hentries]

theorem sameText_of_bucket? (h : p.bucket? b = some b') (k : String) :
    Text.sameText b.key (p.key k) = Text.sameText b'.key k :=
  (p.bucket?_eq_some_iff.1 h).1.sameText (p.storedAs_key k)

theorem sameText_of_bucket?_none (h : p.bucket? b = none) (k : String) :
    Text.sameText b.key (p.key k) = false :=
  sameText_key_of_strip?_none (Option.map_eq_none_iff.1 h) k

theorem exists_bucket? {k : String} (h : Text.sameText b.key (p.key k) = true) :
    ∃ b', p.bucket? b = some b' := by
  obtain ⟨k', hk'⟩ := exists_storedAs_of_sameText h
  exact ⟨⟨k', b.entries⟩, p.bucket?_eq_some_iff.2 ⟨hk', rfl⟩⟩

variable (c : Collection)

/-- The entries of the compartment as a collection of its own, under their keys without the prefix. -/
def part : Collection where
  name := c.name
  buckets := c.buckets.filterMap p.bucket?
  distinct := by
    refine List.pairwise_filterMap.2 (c.distinct.imp ?_)
    intro a b hab a' ha b' hb
    have ha' := (p.bucket?_eq_some_iff.1 ha).1
    have hb' := (p.bucket?_eq_some_iff.1 hb).1
    rw [← ha'.sameText hb']
    exact hab

theorem contains_part (k : String) : (p.part c).contains k = p.contains c k := by
  rw [Bool.eq_iff_iff]
  unfold Compartment.contains Collection.contains
  rw [List.any_eq_true, List.any_eq_true]
  constructor
  · rintro ⟨b', hb', hkey⟩
    obtain ⟨b, hb, hsome⟩ := List.mem_filterMap.1 hb'
    exact ⟨b, hb, (p.sameText_of_bucket? hsome k).trans hkey⟩
  · rintro ⟨b, hb, hkey⟩
    obtain ⟨b', hsome⟩ := p.exists_bucket? hkey
    exact ⟨b', List.mem_filterMap.2 ⟨b, hb, hsome⟩, (p.sameText_of_bucket? hsome k).symm.trans hkey⟩

/-- A key is found in the part where it is found through the compartment. -/
theorem find?_part (k : String) : (p.part c).find? k = (c.find? (p.key k)).bind p.bucket? := by
  have hkey : (fun b => (p.bucket? b).any fun b' => Text.sameText b'.key k) =
      fun b => Text.sameText b.key (p.key k) := by
    funext b
    cases hb : p.bucket? b with
    | none => exact (p.sameText_of_bucket?_none hb k).symm
    | some b' => exact (p.sameText_of_bucket? hb k).symm
  unfold Collection.find? part
  dsimp only
  rw [List.find?_filterMap, hkey]

/-! ## Writes -/

theorem part_modify (k : String) (f : Entries → Entries) :
    p.part (c.modify (p.key k) f) = (p.part c).modify k f := by
  refine Collection.eq_of_buckets rfl ?_
  change (c.buckets.map _).filterMap p.bucket? = (c.buckets.filterMap p.bucket?).map _
  rw [List.filterMap_map, List.map_filterMap]
  refine List.filterMap_congr fun b _ => ?_
  dsimp only [Function.comp_apply]
  cases hb : p.bucket? b with
  | none => rw [p.sameText_of_bucket?_none hb, if_neg Bool.false_ne_true, hb, Option.map_none]
  | some b' =>
      obtain ⟨hstored, hentries⟩ := p.bucket?_eq_some_iff.1 hb
      rw [p.sameText_of_bucket? hb, Option.map_some]
      split
      · rw [p.bucket?_eq_some_iff]
        exact ⟨hstored, congrArg f hentries⟩
      · exact hb

theorem part_insertNew (k : String) (e : Entry) (h : c.contains (p.key k) = false)
    (h' : (p.part c).contains k = false) :
    p.part (c.insertNew (p.key k) e h) = (p.part c).insertNew k e h' := by
  have hbucket : p.bucket? ⟨p.key k, ⟨e, []⟩⟩ = some ⟨k, ⟨e, []⟩⟩ :=
    p.bucket?_eq_some_iff.2 ⟨p.storedAs_key k, rfl⟩
  have hnew : [Bucket.mk (p.key k) ⟨e, []⟩].filterMap p.bucket? = [⟨k, ⟨e, []⟩⟩] :=
    List.filterMap_cons_some hbucket
  refine Collection.eq_of_buckets rfl ?_
  change (c.buckets ++ [Bucket.mk (p.key k) ⟨e, []⟩]).filterMap p.bucket? = _
  rw [List.filterMap_append, hnew]
  rfl

theorem part_put (k : String) (f : Entries → Entries) (fresh : Entry) :
    p.part (c.put (p.key k) f fresh) = (p.part c).put k f fresh := by
  have hcontains : (p.part c).contains k = c.contains (p.key k) := p.contains_part c k
  unfold Collection.put
  split
  · rename_i hnew
    rw [dif_pos (hcontains.trans hnew)]
    exact p.part_insertNew c k fresh hnew _
  · rename_i hold
    rw [dif_neg (by rw [hcontains]; exact hold)]
    exact p.part_modify c k f

/-- What is kept of a collection is kept of the part by a test that agrees with the first one. -/
theorem part_keep {q q' : Bucket → Bool} (h : ∀ b b', p.bucket? b = some b' → q b = q' b') :
    p.part (c.keep q) = (p.part c).keep q' := by
  refine Collection.eq_of_buckets rfl ?_
  change (c.buckets.filter q).filterMap p.bucket? = (c.buckets.filterMap p.bucket?).filter q'
  rw [List.filterMap_filter, List.filter_filterMap]
  refine List.filterMap_congr fun b _ => ?_
  cases hb : p.bucket? b with
  | none => exact ite_self none
  | some b' => rw [h b b' hb, Option.filter_some]

theorem part_erase (k : String) : p.part (c.erase (p.key k)) = (p.part c).erase k :=
  p.part_keep c fun _ _ hb => congrArg (! ·) (p.sameText_of_bucket? hb k)

/-! ## Reads -/

theorem part_purge (now : Instant) (k : String) :
    p.part (c.purge now (Text.sameText · (p.key k))) =
      (p.part c).purge now (Text.sameText · k) := by
  refine p.part_keep c fun b b' hb => ?_
  dsimp only
  rw [p.sameText_of_bucket? hb, (p.bucket?_eq_some_iff.1 hb).2]

theorem readFirst_part (now : Instant) (k : String) :
    ((p.part c).readFirst now k).1 = (p.readFirst c now k).1 := by
  change ((p.part c).find? k).bind _ = (c.find? (p.key k)).bind _
  rw [find?_part]
  cases hfind : c.find? (p.key k) with
  | none => rfl
  | some b =>
      obtain ⟨b', hb⟩ := p.exists_bucket? (Collection.find?_eq_some_iff.1 hfind).2
      rw [Option.bind_some, Option.bind_some, hb, Option.bind_some,
        (p.bucket?_eq_some_iff.1 hb).2]

theorem bucketValues_part (hb : p.bucket? b = some b') (now : Instant) :
    (p.part c).bucketValues now b'.key b' = (c.bucketValues now b.key b).map p.strip := by
  obtain ⟨hstored, hentries⟩ := p.bucket?_eq_some_iff.1 hb
  unfold Collection.bucketValues
  rw [List.map_map, hentries]
  refine List.map_congr_left fun text _ => ?_
  change Value.keyed c.name b'.key text = p.strip (.keyed c.name b.key text)
  unfold strip Value.keyed
  rw [strip?_eq_some_iff.2 hstored, Option.getD_some]

theorem readKey_part (now : Instant) (k : String) :
    ((p.part c).readKey now k).1 = (p.readKey c now k).1 := by
  change _ = (c.readKey now (p.key k)).1.map p.strip
  rw [Collection.readKey_fst, Collection.readKey_fst, find?_part]
  cases hfind : c.find? (p.key k) with
  | none => rfl
  | some b =>
      obtain ⟨b', hb⟩ := p.exists_bucket? (Collection.find?_eq_some_iff.1 hfind).2
      rw [Option.bind_some, hb, Option.toList_some, Option.toList_some, List.flatMap_singleton,
        List.flatMap_singleton, p.bucketValues_part c hb]

/-! ## Sequences of accesses -/

/-- **One access** through the compartment is one access to its part. -/
theorem access_part (now : Instant) (k : String) (a : Access) :
    (p.access c now k a).1 = ((p.part c).access now k a).1 ∧
      p.part (p.access c now k a).2 = ((p.part c).access now k a).2 := by
  cases a with
  | store text => exact ⟨rfl, p.part_put c k _ _⟩
  | setFirst text => exact ⟨rfl, p.part_put c k _ _⟩
  | updateFirst text => exact ⟨congrArg Reply.flag (p.contains_part c k).symm, p.part_modify c k _⟩
  | erase => exact ⟨rfl, p.part_erase c k⟩
  | expire seconds => exact ⟨rfl, p.part_put c k _ _⟩
  | contains => exact ⟨congrArg Reply.flag (p.contains_part c k).symm, rfl⟩
  | readFirst => exact ⟨congrArg Reply.text (p.readFirst_part c now k).symm, p.part_purge c now k⟩
  | readKey => exact ⟨congrArg Reply.values (p.readKey_part c now k).symm, p.part_purge c now k⟩

/-- One access leaves the keys of all others alone. -/
theorem filter_access (now : Instant) (k : String) (a : Access) :
    (p.access c now k a).2.buckets.filter (fun b => (p.strip? b.key).isNone) =
      c.buckets.filter fun b => (p.strip? b.key).isNone := by
  have hother (stored : String) (h : Text.sameText stored (p.key k) = true) :
      (p.strip? stored).isNone = false := by
    obtain ⟨k', hk'⟩ := exists_storedAs_of_sameText h
    rw [strip?_eq_some_iff.2 hk']
    rfl
  have hpurge : (c.purge now (Text.sameText · (p.key k))).buckets.filter
      (fun b => (p.strip? b.key).isNone) = c.buckets.filter fun b => (p.strip? b.key).isNone := by
    change (c.buckets.filter _).filter _ = _
    rw [List.filter_filter]
    refine List.filter_congr fun b _ => ?_
    dsimp only
    cases hb : Text.sameText b.key (p.key k) with
    | false => exact Bool.and_true _
    | true => rw [hother b.key hb, Bool.false_and]
  have hwrite (w : Collection.Write) : (c.write now (p.key k) w).buckets.filter
      (fun b => (p.strip? b.key).isNone) = c.buckets.filter fun b => (p.strip? b.key).isNone :=
    c.filter_write hother w
  cases a with
  | store text => exact hwrite (.store text)
  | setFirst text => exact hwrite (.setFirst text)
  | updateFirst text => exact hwrite (.updateFirst text)
  | erase => exact hwrite .erase
  | expire seconds => exact hwrite (.expire seconds)
  | contains => rfl
  | readFirst => exact hpurge
  | readKey => exact hpurge

theorem filter_accessAll (accesses : List (Instant × String × Access)) :
    (p.accessAll c accesses).2.buckets.filter (fun b => (p.strip? b.key).isNone) =
      c.buckets.filter fun b => (p.strip? b.key).isNone := by
  induction accesses generalizing c with
  | nil => rfl
  | cons a rest ih =>
      obtain ⟨now, k, a⟩ := a
      exact (ih (p.access c now k a).2).trans (p.filter_access c now k a)

/-- Accesses one after the other through the compartment are accesses to its part. -/
theorem accessAll_part (accesses : List (Instant × String × Access)) :
    (p.accessAll c accesses).1 = ((p.part c).accessAll accesses).1 ∧
      p.part (p.accessAll c accesses).2 = ((p.part c).accessAll accesses).2 := by
  induction accesses generalizing c with
  | nil => exact ⟨rfl, rfl⟩
  | cons a rest ih =>
      obtain ⟨now, k, a⟩ := a
      obtain ⟨hreply, hleft⟩ := p.access_part c now k a
      obtain ⟨hreplies, hend⟩ := ih (p.access c now k a).2
      rw [hleft] at hreplies hend
      exact ⟨List.cons_eq_cons.2 ⟨hreply, hreplies⟩, hend⟩

/-- **A compartment cannot be told from a collection of its own** by accesses to single keys: they give
the same answers and leave the same entries, and every bucket whose key is none of the compartment
stays as it is. -/
theorem compartment_stands_alone (accesses : List (Instant × String × Access)) :
    (p.accessAll c accesses).1 = ((p.part c).accessAll accesses).1 ∧
      p.part (p.accessAll c accesses).2 = ((p.part c).accessAll accesses).2 ∧
      ∀ b, (∀ k, ¬ p.StoredAs k b.key) →
        (b ∈ (p.accessAll c accesses).2.buckets ↔ b ∈ c.buckets) := by
  obtain ⟨hreplies, hend⟩ := p.accessAll_part c accesses
  refine ⟨hreplies, hend, ?_⟩
  intro b hb
  have hnone : (p.strip? b.key).isNone = true := by
    rw [strip?_eq_none_iff.2 hb]
    rfl
  have hkept (bs : List Bucket) : b ∈ bs ↔ b ∈ bs.filter fun b => (p.strip? b.key).isNone :=
    ⟨fun h => List.mem_filter.2 ⟨h, hnone⟩, fun h => (List.mem_filter.1 h).1⟩
  rw [hkept, p.filter_accessAll c accesses, ← hkept]

end Compartment

end Rampart
