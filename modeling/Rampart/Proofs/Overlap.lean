import Rampart.Proofs.CaseFolding
import Rampart.Proofs.Contents
import Rampart.Proofs.History
import Rampart.Proofs.Reference

/-!
# What is seen through a compartment

A compartment is a prefix of keys. Reads through it go by the keys that start with the prefix; a
read of the whole compartment takes letters of every alphabet for the same whatever their case, and
so takes in all that the other reads go by.

Two compartments overlap if one prefix starts with the other. What is written through one of them
can only be seen through the other if they do. The separator ends every prefix but may stand inside
of one as well: `x::y` lies within `x`. Where no colon is part of a compartment, two of them overlap
only if they are the same up to case.
-/

namespace Rampart

/-! ## Overlap -/

namespace Compartment

variable {p q : Compartment}

/-- One of the prefixes starts with the other, up to case. -/
def Overlaps (p q : Compartment) : Prop := p.covers q.start = true ∨ q.covers p.start = true

instance : Decidable (p.Overlaps q) := inferInstanceAs (Decidable (_ ∨ _))

theorem covers_iff {key : String} :
    p.covers key = true ↔ Unicode.folded p.start.toList <+: Unicode.folded key.toList :=
  Unicode.startsWithFolded_iff

theorem folded_key (k : String) :
    Unicode.folded (p.key k).toList = Unicode.folded p.start.toList ++ Unicode.folded k.toList := by
  unfold key
  rw [String.toList_append, Unicode.folded_append]

theorem covers_of_sameText_key {stored k : String} (h : Text.sameText stored (p.key k) = true) :
    p.covers stored = true := by
  rw [covers_iff, Unicode.folded_of_sameText h, folded_key]
  exact List.prefix_append _ _

/-- A key of one compartment is covered by another exactly if the two overlap. -/
theorem exists_covers_key_iff : (∃ k, q.covers (p.key k) = true) ↔ p.Overlaps q := by
  constructor
  · rintro ⟨k, hk⟩
    rw [covers_iff, folded_key] at hk
    rcases List.prefix_or_prefix_of_prefix (List.prefix_append _ _) hk with hpq | hqp
    · exact .inl (covers_iff.2 hpq)
    · exact .inr (covers_iff.2 hqp)
  · rintro (hpq | hqp)
    · -- the key that completes the one prefix to the other, up to case
      let k := String.ofList (q.start.toList.drop p.start.toList.length)
      have hstart := List.prefix_iff_eq_take.1 (covers_iff.1 hpq)
      have hkey : Unicode.folded (p.key k).toList = Unicode.folded q.start.toList := by
        rw [folded_key, String.toList_ofList, hstart]
        unfold Unicode.folded
        rw [List.length_map, ← List.map_take, ← List.map_append, List.take_append_drop]
      exact ⟨k, covers_iff.2 (hkey ▸ List.prefix_rfl)⟩
    · refine ⟨"", ?_⟩
      rw [covers_iff, folded_key]
      exact (covers_iff.1 hqp).trans (List.prefix_append _ _)

theorem start_within (a : String) : (within [a]).start = a ++ "::" := by
  change a ++ "::" ++ "" = a ++ "::"
  rw [String.append_empty]

/-- Without a colon in either, two compartments overlap only if they are the same up to case. -/
theorem overlaps_within_iff {a b : String} (ha : ':' ∉ a.toList) (hb : ':' ∉ b.toList) :
    (within [a]).Overlaps (within [b]) ↔ Unicode.folded a.toList = Unicode.folded b.toList := by
  have hstart (s : String) : Unicode.folded (within [s]).start.toList =
      Unicode.folded s.toList ++ [58, 58] := by
    rw [start_within, String.toList_append, Unicode.folded_append]
    rfl
  have hcolon (rest : List Nat) : ∀ n ∈ ([58, 58] ++ rest).head?, (n != 58) = false := by
    intro n hn
    cases hn
    rfl
  have hequal {s t : String} (hs : ':' ∉ s.toList) (ht : ':' ∉ t.toList)
      (hcovers : (within [s]).covers (within [t]).start = true) :
      Unicode.folded s.toList = Unicode.folded t.toList := by
    obtain ⟨rest, hrest⟩ := covers_iff.1 hcovers
    rw [hstart, hstart, List.append_assoc] at hrest
    exact (Text.append_inj_of_stop (Unicode.colon_notMem_folded hs) (Unicode.colon_notMem_folded ht)
      (hcolon rest) (hcolon []) hrest).1
  constructor
  · rintro (hab | hba)
    · exact hequal ha hb hab
    · exact (hequal hb ha hba).symm
  · intro hsame
    have hstarts : Unicode.folded (within [a]).start.toList =
        Unicode.folded (within [b]).start.toList := by
      rw [hstart, hstart, hsame]
    exact .inl (covers_iff.2 (hstarts ▸ List.prefix_rfl))

end Compartment

/-! ## Writes leave the other keys alone -/

namespace Collection

variable {now : Instant} {key : String} {g : String → Bool}

theorem filter_modify (c : Collection) (hg : ∀ k, Text.sameText k key = true → g k = false)
    (f : Entries → Entries) :
    (c.modify key f).buckets.filter (fun b => g b.key) = c.buckets.filter fun b => g b.key := by
  rw [buckets_modify]
  induction c.buckets with
  | nil => rfl
  | cons b bs ih =>
      rw [List.map_cons, List.filter_cons, List.filter_cons, ih]
      cases hb : Text.sameText b.key key with
      | false => rfl
      | true =>
          simp only [if_true]
          rw [hg b.key hb]
          rfl

theorem filter_put (c : Collection) (hg : ∀ k, Text.sameText k key = true → g k = false)
    (f : Entries → Entries) (fresh : Entry) :
    (c.put key f fresh).buckets.filter (fun b => g b.key) = c.buckets.filter fun b => g b.key := by
  unfold put
  split
  · change (c.buckets ++ [Bucket.mk key ⟨fresh, []⟩]).filter (fun b => g b.key) = _
    rw [List.filter_append, List.filter_singleton, hg key (Text.sameText_refl key)]
    exact List.append_nil _
  · exact c.filter_modify hg f

/-- A write is not seen by those that leave its key out, whatever its case. -/
theorem filter_write (c : Collection) (hg : ∀ k, Text.sameText k key = true → g k = false)
    (w : Write) :
    (c.write now key w).buckets.filter (fun b => g b.key) = c.buckets.filter fun b => g b.key := by
  cases w with
  | store text => exact c.filter_put hg _ _
  | setFirst text => exact c.filter_put hg _ _
  | updateFirst text => exact c.filter_modify hg _
  | erase =>
      change (c.buckets.filter _).filter _ = _
      rw [List.filter_filter]
      refine List.filter_congr fun b _ => ?_
      cases hb : Text.sameText b.key key with
      | false => exact Bool.and_true _
      | true => rw [hg b.key hb]; rfl
  | expire seconds => exact c.filter_put hg _ _

theorem name_put (c : Collection) (f : Entries → Entries) (fresh : Entry) :
    (c.put key f fresh).name = c.name := by
  unfold put
  split <;> rfl

theorem name_write (c : Collection) (w : Write) : (c.write now key w).name = c.name := by
  cases w with
  | store text => exact c.name_put _ _
  | setFirst text => exact c.name_put _ _
  | updateFirst text => rfl
  | erase => rfl
  | expire seconds => exact c.name_put _ _

end Collection

/-! ## What is seen through a compartment -/

namespace Compartment

open Collection (Write Query)

/-- The collection after a write through the compartment. -/
def write (p : Compartment) (c : Collection) (now : Instant) (k : String) : Write → Collection
  | .store text => p.store c k text
  | .setFirst text => p.setFirst c k text
  | .updateFirst text => (p.updateFirst c k text).2
  | .erase => p.erase c k
  | .expire seconds => p.expireAfter c now k seconds

/-- The answer to a query through the compartment, and what is left of the collection. -/
def ask (p : Compartment) (c : Collection) (now : Instant) : Query → List Value × Collection
  | .first key =>
    let r := p.readFirst c now key
    (r.1.toList.map (.keyed c.name key), r.2)
  | .single key => p.readKey c now key
  | .many key omitted => p.readMany c now key omitted
  | .matching pattern omitted => p.readMatching c now pattern omitted

theorem write_eq (p : Compartment) (c : Collection) (now : Instant) (k : String) (w : Write) :
    p.write c now k w = c.write now (p.key k) w := by
  cases w <;> rfl

/-- Two collections that agree in their name and in all keys that a compartment covers. -/
structure Alike (p : Compartment) (c d : Collection) : Prop where
  name : c.name = d.name
  covered : c.buckets.filter (fun b => p.covers b.key) = d.buckets.filter fun b => p.covers b.key

variable {p q : Compartment} {c d : Collection} {now : Instant}

theorem Alike.trans {e : Collection} (h₁ : p.Alike c d) (h₂ : p.Alike d e) : p.Alike c e :=
  ⟨h₁.name.trans h₂.name, h₁.covered.trans h₂.covered⟩

/-- A write through a compartment is not seen through one that it does not overlap. -/
theorem alike_write (h : ¬ p.Overlaps q) (c : Collection) (now : Instant) (k : String) (w : Write) :
    q.Alike (p.write c now k w) c := by
  rw [write_eq]
  refine ⟨c.name_write w, c.filter_write (fun stored hsame => ?_) w⟩
  refine Bool.eq_false_iff.2 fun hcovers => h (exists_covers_key_iff.1 ⟨k, ?_⟩)
  rw [covers_iff] at hcovers ⊢
  rwa [← Unicode.folded_of_sameText hsame]

theorem Alike.filter (h : p.Alike c d) (selects : String → Bool)
    (hs : ∀ k, selects k = true → p.covers k = true) :
    c.buckets.filter (fun b => selects b.key) = d.buckets.filter fun b => selects b.key := by
  have hnarrow (bs : List Bucket) : bs.filter (fun b => selects b.key) =
      (bs.filter fun b => p.covers b.key).filter fun b => selects b.key := by
    rw [List.filter_filter]
    refine List.filter_congr fun b _ => ?_
    cases hb : selects b.key with
    | false => rfl
    | true => rw [hs b.key hb]; rfl
  rw [hnarrow, h.covered, ← hnarrow]

theorem Alike.find? (h : p.Alike c d) (k : String) : c.find? (p.key k) = d.find? (p.key k) := by
  unfold Collection.find?
  rw [← List.head?_filter, ← List.head?_filter,
    h.filter (Text.sameText · (p.key k)) fun _ => covers_of_sameText_key]

theorem Alike.contains (h : p.Alike c d) (k : String) : p.contains c k = p.contains d k := by
  unfold Compartment.contains
  rw [Collection.contains_eq_isSome_find?, Collection.contains_eq_isSome_find?, h.find? k]

theorem Alike.read (h : p.Alike c d) (selects : String → Bool)
    (hs : ∀ k, selects k = true → p.covers k = true) (label : String → String) :
    (c.read now selects label).1 = (d.read now selects label).1 := by
  unfold Collection.read Collection.bucketValues
  rw [h.filter selects hs, h.name]

theorem Alike.scan (h : p.Alike c d) : (p.scan c now).1 = (p.scan d now).1 :=
  congrArg List.reverse (h.read p.covers (fun _ hk => hk) id)

/-- Through the whole collection everything is seen. -/
theorem Alike.eq (h : p.Alike c d) (hp : p.start.isEmpty = true) : c = d := by
  have hall (bs : List Bucket) : bs.filter (fun b => p.covers b.key) = bs := by
    refine List.filter_eq_self.2 fun b _ => covers_iff.2 ?_
    rw [String.isEmpty_iff.1 hp]
    exact List.nil_prefix
  have hbuckets := h.covered
  rw [hall, hall] at hbuckets
  exact Collection.eq_of_buckets h.name hbuckets

theorem Alike.textsAt (h : p.Alike c d) (now : Instant) (k : String) :
    c.textsAt now (p.key k) = d.textsAt now (p.key k) := by
  unfold Collection.textsAt
  rw [h.filter (Text.sameText · (p.key k)) fun _ => covers_of_sameText_key]

theorem Alike.readMany (h : p.Alike c d) (hp : p.start.isEmpty = false) (k : String)
    (omitted : Exclusions) :
    (p.readMany c now k omitted).1 = (p.readMany d now k omitted).1 := by
  have hmany (e : Collection) := e.readMany_key now (isEmpty_key hp k) .none
  unfold Compartment.readMany
  rw [hp]
  cases k.isEmpty with
  | true => exact congrArg (p.select (fun _ => true) omitted) h.scan
  | false =>
      cases omitted.omits k with
      | true => rfl
      | false =>
          refine congrArg (p.select (fun _ => true) omitted) ?_
          rw [hmany, hmany, h.name, h.textsAt]

/-- **A compartment shows the same** of collections that agree in what it covers. -/
theorem Alike.ask (h : p.Alike c d) (query : Query) :
    (p.ask c now query).1 = (p.ask d now query).1 := by
  cases hp : p.start.isEmpty with
  | true => rw [h.eq hp]
  | false =>
      cases query with
      | first k =>
          change ((c.find? (p.key k)).bind _).toList.map (Value.keyed c.name k) = _
          rw [h.find?, h.name]
          rfl
      | single k =>
          exact congrArg (List.map p.strip) (h.read _ (fun _ => covers_of_sameText_key) id)
      | many k omitted => exact h.readMany hp k omitted
      | matching pattern omitted =>
          change (p.readMatching c now pattern omitted).1 = (p.readMatching d now pattern omitted).1
          unfold readMatching
          rw [hp]
          exact congrArg (p.select _ omitted) h.scan

end Compartment

end Rampart
