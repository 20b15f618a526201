import Rampart.Collection.Compartment
import Rampart.Proofs.Parts
import Rampart.Proofs.Trim
import Rampart.Variable.Basic

/-!
# What reads of a collection show

A collection denotes the list of its live values, each under its key, and a compartment the part of
that list that stands behind its prefix, with the prefix taken off. A read of many keys shows that
list without the keys that it passes over; a read of one key shows the texts that are kept under it,
relabelled with the key as it was asked for.
-/

namespace Rampart

/-! ## Collections -/

namespace Collection

theorem eq_of_buckets {c d : Collection} (hname : c.name = d.name)
    (hbuckets : c.buckets = d.buckets) : c = d := by
  cases c
  cases d
  obtain rfl := hname
  obtain rfl := hbuckets
  rfl

variable (c : Collection) (now : Instant)

/-- The live values of every key. -/
def liveValues : List Value := c.buckets.flatMap fun b => c.bucketValues now b.key b

/-- The live texts under a key, the last one first. -/
def textsAt (key : String) : List String :=
  ((c.buckets.filter fun b => Text.sameText b.key key).flatMap fun b => b.entries.live now).reverse

theorem textsAt_congr {key key' : String} (h : Text.sameText key key' = true) :
    c.textsAt now key = c.textsAt now key' := by
  have hsame : ∀ b : Bucket, Text.sameText b.key key = Text.sameText b.key key' := by
    intro b
    unfold Text.sameText
    rw [Text.sameText_iff.1 h]
  unfold textsAt
  simp only [hsame]

theorem key_of_mem_bucketValues {label : String} {b : Bucket} {v : Value}
    (h : v ∈ c.bucketValues now label b) : v.key = label := by
  obtain ⟨text, -, rfl⟩ := List.mem_map.1 h
  rfl

/-- A read that keeps the labels shows the live values of the keys it selects. -/
theorem read_id (selects : String → Bool) :
    (c.read now selects id).1 = (c.liveValues now).filter fun v => selects v.key := by
  unfold read liveValues
  dsimp only [id]
  induction c.buckets with
  | nil => rfl
  | cons b bs ih =>
      rw [List.flatMap_cons, List.filter_append, List.filter_cons, ← ih]
      cases hb : selects b.key with
      -- all values of a bucket have its key, so they are kept or left out together
      | true =>
          have hall : (c.bucketValues now b.key b).filter (fun v => selects v.key) =
              c.bucketValues now b.key b := by
            refine List.filter_eq_self.2 fun v hv => ?_
            rw [c.key_of_mem_bucketValues now hv, hb]
          rw [hall]
          rfl
      | false =>
          have hnone : (c.bucketValues now b.key b).filter (fun v => selects v.key) = [] := by
            refine List.filter_eq_nil_iff.2 fun v hv => ?_
            rw [c.key_of_mem_bucketValues now hv, hb]
            exact Bool.false_ne_true
          rw [hnone]
          rfl

/-- A read of one key shows its texts, labelled as asked for. -/
theorem read_key (key label : String) :
    (c.read now (Text.sameText · key) fun _ => label).1.reverse =
      (c.textsAt now key).map (.keyed c.name label) := by
  unfold read textsAt
  dsimp only
  rw [List.map_reverse, List.map_flatMap]
  rfl

theorem readAll_eq (e : Exclusions) :
    (c.readAll now e).1 = ((c.liveValues now).filter fun v => !e.omits v.key).reverse :=
  congrArg List.reverse (c.read_id now fun k => !e.omits k)

theorem readMatching_eq (p : Pattern) (e : Exclusions) :
    (c.readMatching now p e).1 =
      ((c.liveValues now).filter fun v => p.isMatch v.key && !e.omits v.key).reverse :=
  congrArg List.reverse (c.read_id now fun k => p.isMatch k && !e.omits k)

theorem readMany_key {key : String} (h : key.isEmpty = false) (e : Exclusions) :
    (c.readMany now key e).1 =
      if e.omits key then [] else (c.textsAt now key).map (.keyed c.name key) := by
  unfold readMany
  rw [h]
  cases e.omits key with
  | true => rfl
  | false => exact c.read_key now key key

end Collection

/-! ## Compartments -/

namespace Compartment

variable (p : Compartment) (c : Collection) (now : Instant)

/-- A key of the compartment is found again behind its prefix. -/
theorem strip?_key (k : String) : p.strip? (p.key k) = some k := by
  unfold strip? key Text.size
  rw [String.toList_append, Text.splitBytes?_append]
  dsimp only
  rw [String.ofList_toList, String.ofList_toList, Text.sameText_refl]
  rfl

theorem strip_keyed (collection k text : String) :
    p.strip (.keyed collection (p.key k) text) = .keyed collection k text := by
  have hkey := p.strip?_key k
  unfold strip Value.keyed
  dsimp only
  rw [hkey]
  rfl

/-- The live values of the compartment, under their keys without the prefix. -/
def liveValues : List Value :=
  if p.start.isEmpty then c.liveValues now
  else ((c.liveValues now).filter fun v => p.covers v.key).map p.strip

/-- A scan of a compartment shows its live values without the keys that it passes over. -/
theorem select_scan (h : p.start.isEmpty = false) (keeps : String → Bool) (e : Exclusions) :
    p.select keeps e (p.scan c now).1 =
      (p.liveValues c now).filter fun v => keeps v.key && !e.omits v.key := by
  have hscan : (p.scan c now).1 = ((c.liveValues now).filter fun v => p.covers v.key).reverse :=
    congrArg List.reverse (c.read_id now p.covers)
  unfold select liveValues
  rw [hscan, h, List.map_reverse, List.filter_reverse, List.reverse_reverse]
  rfl

/-- **A read of every key** shows the live values of the compartment but for the excluded keys. -/
theorem readMany_all_perm (e : Exclusions) :
    (p.readMany c now "" e).1.Perm ((p.liveValues c now).filter fun v => !e.omits v.key) := by
  unfold readMany
  cases h : p.start.isEmpty with
  | true =>
      unfold liveValues
      rw [h]
      exact (List.Perm.of_eq (c.readAll_eq now e)).trans (List.reverse_perm _)
  | false =>
      refine List.Perm.of_eq ?_
      exact p.select_scan c now h (fun _ => true) e

/-- **A read by a pattern** shows the live values of the compartment whose keys match and are not
excluded. -/
theorem readMatching_perm (pattern : Pattern) (e : Exclusions) :
    (p.readMatching c now pattern e).1.Perm
      ((p.liveValues c now).filter fun v => pattern.isMatch v.key && !e.omits v.key) := by
  unfold readMatching
  cases h : p.start.isEmpty with
  | true =>
      unfold liveValues
      rw [h]
      exact (List.Perm.of_eq (c.readMatching_eq now pattern e)).trans (List.reverse_perm _)
  | false => exact List.Perm.of_eq (p.select_scan c now h pattern.isMatch e)

theorem isEmpty_key {p : Compartment} (h : p.start.isEmpty = false) (k : String) :
    (p.key k).isEmpty = false := by
  rw [String.isEmpty_eq_false_iff] at h ⊢
  exact fun hempty => h (String.append_eq_empty_iff.1 hempty).1

/-- **A read of one key** shows the texts under it, labelled as asked for, unless it is excluded. -/
theorem readMany_key_perm {k : String} (hk : k.isEmpty = false) (e : Exclusions) :
    (p.readMany c now k e).1.Perm
      (if e.omits k then [] else (c.textsAt now (p.key k)).map (.keyed c.name k)) := by
  unfold readMany
  cases h : p.start.isEmpty with
  | true =>
      have hstart : p.key k = k := by
        unfold key
        rw [String.isEmpty_iff.1 h, String.empty_append]
      rw [hstart]
      exact List.Perm.of_eq (c.readMany_key now hk e)
  | false =>
      have hkey := isEmpty_key h k
      rw [hk]
      cases he : e.omits k with
      | true => exact List.Perm.refl []
      | false =>
          -- the key is read with its prefix and without exclusions, which apply to what is found
          have hread := c.readMany_key now hkey .none
          rw [Exclusions.omits_none] at hread
          dsimp only
          unfold select
          rw [hread]
          refine (List.reverse_perm _).trans (List.Perm.of_eq ?_)
          rw [if_neg Bool.false_ne_true, if_neg Bool.false_ne_true, List.map_map]
          have hlabel : (p.strip ∘ Value.keyed c.name (p.key k)) = Value.keyed c.name k :=
            funext (p.strip_keyed c.name k)
          rw [hlabel]
          refine List.filter_eq_self.2 fun v hv => ?_
          obtain ⟨text, -, rfl⟩ := List.mem_map.1 hv
          change (true && !e.omits k) = true
          rw [he]
          rfl

end Compartment

end Rampart
