import Rampart.Proofs.Purge
import Mathlib.Data.List.Pairwise

/-!
# Histories of a collection

A collection denotes, for every key, the list of the entries under it, regardless of case. A write
changes the list of one key by a function of that list alone. A read empties the lists of the keys
that it selects and where it meets an expired entry.

Along every history of writes and reads only the first entry of a key can have a deadline: each
later one was put behind it by a store and keeps its value for ever.
-/

namespace Rampart

namespace Collection

variable {c : Collection} {now : Instant} {key : String}

/-! ## Buckets by key -/

theorem bucket_unique {a b : Bucket} (ha : a ∈ c.buckets) (hb : b ∈ c.buckets)
    (h : Text.sameText a.key b.key = true) : a = b := by
  by_contra hne
  have : Std.Symm fun a b : Bucket => Text.sameText a.key b.key = false := by
    constructor
    intro a b hab
    rw [Text.sameText_comm]
    exact hab
  have hother := c.distinct.forall ha hb hne
  rw [h] at hother
  cases hother

theorem find?_eq_some_iff {b : Bucket} :
    c.find? key = some b ↔ b ∈ c.buckets ∧ Text.sameText b.key key = true := by
  have sound {a : Bucket} (h : c.find? key = some a) :
      a ∈ c.buckets ∧ Text.sameText a.key key = true := by
    unfold find? at h
    exact ⟨List.mem_of_find?_eq_some h, by simpa using List.find?_some h⟩
  refine ⟨sound, ?_⟩
  rintro ⟨hmem, hkey⟩
  have hsome : (c.find? key).isSome = true := List.find?_isSome.2 ⟨b, hmem, hkey⟩
  obtain ⟨a, ha⟩ := Option.isSome_iff_exists.1 hsome
  obtain ⟨hamem, hakey⟩ := sound ha
  have hsame : Text.sameText a.key b.key = true := by
    rw [Text.sameText_iff] at hakey hkey ⊢
    rw [hakey, hkey]
  rw [ha, bucket_unique hamem hmem hsame]

theorem find?_congr {key' : String} (h : Text.sameText key key' = true) :
    c.find? key = c.find? key' := by
  have hsame : (fun b : Bucket => Text.sameText b.key key) = fun b => Text.sameText b.key key' := by
    funext b
    unfold Text.sameText
    rw [Text.sameText_iff.1 h]
  unfold find?
  rw [hsame]

theorem find?_keep (c : Collection) (p : Bucket → Bool) (key : String) :
    (c.keep p).find? key = (c.find? key).filter p := by
  ext b
  rw [find?_eq_some_iff, Option.filter_eq_some_iff, find?_eq_some_iff, buckets_keep, List.mem_filter]
  exact and_right_comm

theorem find?_modify (c : Collection) (key : String) (f : Entries → Entries) (k : String) :
    (c.modify key f).find? k =
      (c.find? k).map fun b =>
        if Text.sameText b.key key then { b with entries := f b.entries } else b := by
  unfold find?
  rw [buckets_modify, List.find?_map]
  refine congrArg (Option.map _) (congrArg (List.find? · c.buckets) ?_)
  funext b
  dsimp only [Function.comp_apply]
  split <;> rfl

theorem sameText_of_find? {b : Bucket} {k : String} (h : c.find? k = some b) (key : String) :
    Text.sameText b.key key = Text.sameText key k := by
  have hb := (find?_eq_some_iff.1 h).2
  rw [Text.sameText_comm b.key key, Bool.eq_iff_iff, Text.sameText_iff, Text.sameText_iff,
    Text.sameText_iff.1 hb]

theorem find?_eq_none_of_not_contains (h : c.contains key = false) : c.find? key = none := by
  rw [contains_eq_isSome_find?] at h
  exact Option.not_isSome_iff_eq_none.1 (Bool.eq_false_iff.1 h)

theorem find?_insertNew (c : Collection) (key : String) (e : Entry) (h : c.contains key = false)
    (k : String) :
    (c.insertNew key e h).find? k =
      if Text.sameText key k then some ⟨key, ⟨e, []⟩⟩ else c.find? k := by
  have happend : (c.insertNew key e h).find? k =
      (c.find? k).or ([⟨key, ⟨e, []⟩⟩].find? fun b : Bucket => Text.sameText b.key k) :=
    List.find?_append
  rw [happend, List.find?_singleton]
  cases hk : Text.sameText key k with
  | true =>
      rw [← find?_congr hk, find?_eq_none_of_not_contains h]
      rfl
  | false => exact Option.or_none

/-! ## The entries under a key -/

/-- The entries under a key, in the order in which they came. -/
def entriesAt (c : Collection) (key : String) : List Entry :=
  (c.find? key).elim [] fun b => b.entries.toList

theorem entriesAt_congr {key' : String} (h : Text.sameText key key' = true) :
    c.entriesAt key = c.entriesAt key' := by
  unfold entriesAt
  rw [find?_congr h]

theorem entriesAt_of_mem {b : Bucket} (h : b ∈ c.buckets) :
    c.entriesAt b.key = b.entries.toList := by
  unfold entriesAt
  rw [find?_eq_some_iff.2 ⟨h, Text.sameText_refl b.key⟩]
  rfl

theorem entriesAt_modify {f : Entries → Entries} {g : List Entry → List Entry}
    (hnil : c.contains key = true ∨ g [] = []) (h : ∀ es, (f es).toList = g es.toList) (k : String) :
    (c.modify key f).entriesAt k =
      if Text.sameText key k then g (c.entriesAt k) else c.entriesAt k := by
  unfold entriesAt
  rw [find?_modify]
  cases hf : c.find? k with
  | none =>
      split
      · rename_i hk
        rcases hnil with hthere | hnil
        · rw [contains_eq_isSome_find?, find?_congr hk, hf] at hthere
          cases hthere
        · exact hnil.symm
      · rfl
  | some b =>
      rw [Option.map_some, Option.elim_some, Option.elim_some, sameText_of_find? hf]
      split
      · exact h b.entries
      · rfl

theorem entriesAt_put {f : Entries → Entries} {fresh : Entry} {g : List Entry → List Entry}
    (hnil : g [] = [fresh]) (h : ∀ es, (f es).toList = g es.toList) (k : String) :
    (c.put key f fresh).entriesAt k =
      if Text.sameText key k then g (c.entriesAt k) else c.entriesAt k := by
  unfold put
  split
  · rename_i hnew
    unfold entriesAt
    rw [find?_insertNew]
    split
    · rename_i hk
      rw [← find?_congr hk, find?_eq_none_of_not_contains hnew]
      exact hnil.symm
    · rfl
  · rename_i hold
    exact entriesAt_modify (.inl (Bool.not_eq_false _ ▸ hold)) h k

/-! ## Writes -/

/-- What can be done to a key. -/
inductive Write where
  | store (text : String)
  | setFirst (text : String)
  | updateFirst (text : String)
  | erase
  | expire (seconds : Nat)

/-- The collection after a write. -/
def write (c : Collection) (now : Instant) (key : String) : Write → Collection
  | .store text => c.store key text
  | .setFirst text => c.setFirst key text
  | .updateFirst text => (c.updateFirst key text).2
  | .erase => c.erase key
  | .expire seconds => c.expireAfter now key seconds

/-- What a write makes of the entries under its key. -/
def Write.effect (now : Instant) : Write → List Entry → List Entry
  | .store text, es => es ++ [.holding text]
  | .setFirst text, e :: es => e.setValue text :: es
  | .setFirst text, [] => [.holding text]
  | .updateFirst text, e :: es => e.setValue text :: es
  | .updateFirst _, [] => []
  | .erase, _ => []
  | .expire seconds, e :: es => e.expireAfter now seconds :: es
  | .expire seconds, [] => [.expiring now seconds]

/-- **A write changes the entries of its key alone.** -/
theorem entriesAt_write (c : Collection) (now : Instant) (key : String) (w : Write) (k : String) :
    (c.write now key w).entriesAt k =
      if Text.sameText key k then w.effect now (c.entriesAt k) else c.entriesAt k := by
  cases w with
  | store text => exact entriesAt_put (g := Write.effect now (.store text)) rfl (fun _ => rfl) k
  | setFirst text =>
      exact entriesAt_put (g := Write.effect now (.setFirst text)) rfl (fun _ => rfl) k
  | updateFirst text =>
      exact entriesAt_modify (g := Write.effect now (.updateFirst text)) (.inr rfl) (fun _ => rfl) k
  | erase =>
      have hkeep : (c.write now key .erase).find? k =
          (c.find? k).filter fun b => !Text.sameText b.key key := find?_keep c _ k
      unfold entriesAt
      rw [hkeep]
      cases hf : c.find? k with
      | none => exact (ite_self _).symm
      | some b =>
          rw [Option.filter_some, sameText_of_find? hf]
          cases Text.sameText key k <;> rfl
  | expire seconds =>
      exact entriesAt_put (g := Write.effect now (.expire seconds)) rfl (fun _ => rfl) k

/-! ## Reads -/

/-- What can be asked of a collection. -/
inductive Query where
  /-- The first value under a key. -/
  | first (key : String)
  /-- The values under a key. -/
  | single (key : String)
  /-- The values under a key, or under every key for the empty key, but for the excluded keys. -/
  | many (key : String) (omitted : Exclusions)
  /-- The values under the keys that match a pattern, but for the excluded keys. -/
  | matching (p : Pattern) (omitted : Exclusions)

/-- The answer to a query, and what is left of the collection. The text that a read of the first
value finds is shown under the key that was asked for. -/
def ask (c : Collection) (now : Instant) : Query → List Value × Collection
  | .first key =>
    let r := c.readFirst now key
    (r.1.toList.map (.keyed c.name key), r.2)
  | .single key => c.readKey now key
  | .many key omitted => c.readMany now key omitted
  | .matching p omitted => c.readMatching now p omitted

/-- The stored keys that a query is about. The exclusions of a read of one key are put to the key
as it was asked for. -/
def Query.selects : Query → String → Bool
  | .first key, stored => Text.sameText stored key
  | .single key, stored => Text.sameText stored key
  | .many key omitted, stored =>
    if key.isEmpty then !omitted.omits stored
    else Text.sameText stored key && !omitted.omits key
  | .matching p omitted, stored => p.isMatch stored && !omitted.omits stored

/-- The key under which the values of a stored key are shown. -/
def Query.label : Query → String → String
  | .first key, _ => key
  | .single _, stored => stored
  | .many key _, stored => if key.isEmpty then stored else key
  | .matching _ _, stored => stored

theorem Query.selects_many_all {key : String} (h : key.isEmpty = true) (omitted : Exclusions) :
    (Query.many key omitted).selects = fun stored => !omitted.omits stored := by
  funext stored
  exact if_pos h

theorem Query.selects_many_key {key : String} (h : key.isEmpty = false) (omitted : Exclusions) :
    (Query.many key omitted).selects =
      fun stored => Text.sameText stored key && !omitted.omits key := by
  funext stored
  exact if_neg (Bool.eq_false_iff.1 h)

/-- **A read leaves** all but the selected keys that hold an expired entry. -/
theorem ask_snd (c : Collection) (now : Instant) (q : Query) :
    (c.ask now q).2 = c.purge now q.selects := by
  cases q with
  | first key => rfl
  | single key => rfl
  | many key omitted =>
      change (c.readMany now key omitted).2 = _
      unfold readMany
      cases hempty : key.isEmpty with
      | true =>
          rw [Query.selects_many_all hempty]
          rfl
      | false =>
          rw [Query.selects_many_key hempty]
          cases homits : omitted.omits key with
          | true =>
              -- an omitted key is not looked at
              refine (keep_eq_self fun b _ => ?_).symm
              simp only [Bool.not_true, Bool.and_false, Bool.false_and, Bool.not_false]
          | false =>
              simp only [Bool.not_false, Bool.and_true]
              rfl
  | matching p omitted => rfl

/-- The key is stored, the query selects it as it is stored, and one of its entries has expired. -/
def empties (c : Collection) (now : Instant) (selects : String → Bool) (key : String) : Bool :=
  (c.find? key).any fun b => selects b.key && b.entries.anyExpired now

theorem entriesAt_purge (c : Collection) (now : Instant) (selects : String → Bool) (k : String) :
    (c.purge now selects).entriesAt k =
      if c.empties now selects k then [] else c.entriesAt k := by
  have hkeep : (c.purge now selects).find? k = (c.find? k).filter fun b =>
      !(selects b.key && b.entries.anyExpired now) := find?_keep c _ k
  unfold entriesAt empties
  rw [hkeep]
  cases c.find? k with
  | none => rfl
  | some b =>
      rw [Option.filter_some, Option.any_some]
      cases selects b.key && b.entries.anyExpired now <;> rfl

theorem empties_sameText (c : Collection) (now : Instant) (key : String) :
    c.empties now (Text.sameText · key) key = (c.entriesAt key).any (·.isExpired now) := by
  unfold empties entriesAt
  cases hf : c.find? key with
  | none => rfl
  | some b =>
      have hkey := (find?_eq_some_iff.1 hf).2
      dsimp only [Option.any_some, Option.elim_some]
      rw [hkey, Bool.true_and]
      rfl

/-! ## Histories -/

/-- The states of a collection that writes and reads come to, from an empty one. -/
inductive Reached : Collection → Prop where
  | empty (name : String) : Reached (.empty name)
  | write {c : Collection} (h : Reached c) (now : Instant) (key : String) (w : Write) :
      Reached (c.write now key w)
  | read {c : Collection} (h : Reached c) (now : Instant) (q : Query) : Reached (c.ask now q).2

/-- Every entry but the first keeps a value for ever. -/
def LastingAfterFirst (es : List Entry) : Prop := ∀ e ∈ es.tail, ∃ text, e = .holding text

theorem lastingAfterFirst_effect {es : List Entry} (h : LastingAfterFirst es) (w : Write) :
    LastingAfterFirst (w.effect now es) := by
  cases w with
  | store text =>
      intro e he
      cases es with
      | nil => cases he
      | cons first later =>
          rcases List.mem_append.1 he with hold | hnew
          · exact h e hold
          · exact ⟨text, List.mem_singleton.1 hnew⟩
  | setFirst text =>
      cases es with
      | nil => intro e he; cases he
      | cons first later => exact h
  | updateFirst text =>
      cases es with
      | nil => exact h
      | cons first later => exact h
  | erase => intro e he; cases he
  | expire seconds =>
      cases es with
      | nil => intro e he; cases he
      | cons first later => exact h

/-- **Only the first entry of a key can expire**, after any history. -/
theorem Reached.lastingAfterFirst (h : Reached c) (key : String) :
    LastingAfterFirst (c.entriesAt key) := by
  induction h with
  | empty name => intro e he; cases he
  | @write c _ now k w ih =>
      rw [entriesAt_write]
      split
      · exact lastingAfterFirst_effect ih w
      · exact ih
  | @read c _ now q ih =>
      rw [ask_snd, entriesAt_purge]
      split
      · intro e he
        cases he
      · exact ih

end Collection

end Rampart
