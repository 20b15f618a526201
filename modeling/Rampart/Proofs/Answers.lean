import Rampart.Proofs.History

/-!
# What a read answers

A query selects keys, and a read answers it with the value of every entry that stands under a
selected key, holds a value and has not expired, once each. Reads differ in the order of what they
show within a key, and the read of the first value shows no more than one. What a read leaves is the
collection without the selected keys that hold an expired entry.

The exclusions of a read of one key are put to the key as it was asked for, and its values are shown
under that key. All other reads go by the keys as they are stored.
-/

namespace Rampart

namespace Collection

variable (c : Collection) (now : Instant)

/-- Every entry, with the key that it stands under, key by key. -/
def slots : List (String × Entry) :=
  c.buckets.flatMap fun b => b.entries.toList.map fun e => (b.key, e)

theorem mem_slots_iff {key : String} {e : Entry} :
    (key, e) ∈ c.slots ↔ ∃ b ∈ c.buckets, b.key = key ∧ e ∈ b.entries.toList := by
  unfold slots
  rw [List.mem_flatMap]
  constructor
  · rintro ⟨b, hb, he⟩
    obtain ⟨e', he', heq⟩ := List.mem_map.1 he
    obtain ⟨rfl, rfl⟩ := Prod.mk.inj heq
    exact ⟨b, hb, rfl, he'⟩
  · rintro ⟨b, hb, rfl, he⟩
    exact ⟨b, hb, List.mem_map.2 ⟨e, he, rfl⟩⟩

/-- The values that a query is about: one for each entry under a selected key that holds a value and
has not expired. -/
def stock (q : Query) : List Value :=
  c.slots.filterMap fun s =>
    if q.selects s.1 && !s.2.isExpired now then s.2.value.map (.keyed c.name (q.label s.1)) else none

/-- The values of a bucket are those of its entries. -/
theorem bucketValues_eq (q : Query) (b : Bucket) :
    (b.entries.toList.map fun e => (b.key, e)).filterMap (fun s =>
        if q.selects s.1 && !s.2.isExpired now then s.2.value.map (.keyed c.name (q.label s.1))
        else none) =
      if q.selects b.key then c.bucketValues now (q.label b.key) b else [] := by
  rw [List.filterMap_map]
  cases hb : q.selects b.key with
  | false =>
      refine List.filterMap_eq_nil_iff.2 fun e _ => ?_
      simp only [Function.comp_apply, hb, Bool.false_and, Bool.false_eq_true, if_false]
  | true =>
      rw [if_pos rfl]
      unfold bucketValues Entries.live
      rw [List.map_filterMap]
      refine congrArg (List.filterMap · b.entries.toList) (funext fun e => ?_)
      simp only [Function.comp_apply, hb, Bool.true_and, Entry.liveValue?]
      cases e.isExpired now <;> rfl

theorem stock_eq (q : Query) :
    c.stock now q =
      (c.buckets.filter fun b => q.selects b.key).flatMap fun b =>
        c.bucketValues now (q.label b.key) b := by
  unfold stock slots
  rw [List.filterMap_flatMap]
  induction c.buckets with
  | nil => rfl
  | cons b bs ih =>
      rw [List.flatMap_cons, bucketValues_eq, ih, List.filter_cons]
      cases q.selects b.key <;> rfl

/-- A key selects at most one bucket. -/
theorem filter_sameText (key : String) :
    c.buckets.filter (fun b => Text.sameText b.key key) = (c.find? key).toList := by
  unfold find?
  have hdistinct := c.distinct
  generalize c.buckets = bs at hdistinct ⊢
  induction bs with
  | nil => rfl
  | cons b bs ih =>
      obtain ⟨hother, hrest⟩ := List.pairwise_cons.1 hdistinct
      rw [List.filter_cons, List.find?_cons]
      cases hb : Text.sameText b.key key with
      | false => exact ih hrest
      | true =>
          have hnone : bs.filter (fun b => Text.sameText b.key key) = [] := by
            refine List.filter_eq_nil_iff.2 fun b' hb' hkey => ?_
            have hsame := Text.sameText_trans hb (Text.sameText_comm b'.key key ▸ hkey)
            rw [hother b' hb'] at hsame
            cases hsame
          rw [if_pos rfl, hnone]
          rfl

/-! ## The answers -/

/-- The order in which a read lists the values that it is about. -/
def Query.arrange : Query → List Value → List Value
  | .first _, stored => stored.take 1
  | .single _, stored => stored
  | .many _ _, stored => stored.reverse
  | .matching _ _, stored => stored.reverse

theorem stock_of_selects {q : Query} {selects : String → Bool} (h : q.selects = selects) :
    c.stock now q = (c.read now selects q.label).1 := by
  rw [stock_eq, h]
  rfl

theorem ask_first_fst (key : String) :
    (c.ask now (.first key)).1 = (c.stock now (.first key)).take 1 := by
  have hstock : c.stock now (.first key) =
      (c.find? key).toList.flatMap fun b => c.bucketValues now key b := by
    rw [stock_eq, ← filter_sameText]
    rfl
  change (c.readFirst now key).1.toList.map (Value.keyed c.name key) = _
  rw [hstock]
  unfold readFirst
  dsimp only
  cases c.find? key with
  | none => rfl
  | some b =>
      rw [Option.bind_some, Option.toList_some, List.flatMap_singleton]
      unfold bucketValues
      cases b.entries.live now <;> rfl

theorem ask_many_fst (key : String) (omitted : Exclusions) :
    (c.ask now (.many key omitted)).1 = (c.stock now (.many key omitted)).reverse := by
  have hlabel : (Query.many key omitted).label = if key.isEmpty then id else fun _ => key := by
    funext stored
    change (if key.isEmpty then stored else key) = _
    cases key.isEmpty <;> rfl
  change (c.readMany now key omitted).1 = _
  unfold readMany
  cases hempty : key.isEmpty with
  | true =>
      rw [c.stock_of_selects now (Query.selects_many_all hempty omitted), hlabel, hempty]
      rfl
  | false =>
      have hselects := Query.selects_many_key hempty omitted
      cases homits : omitted.omits key with
      | true =>
          -- an omitted key is about nothing
          have hnone : c.buckets.filter (fun b => (Query.many key omitted).selects b.key) = [] := by
            refine List.filter_eq_nil_iff.2 fun b _ => ?_
            rw [hselects, homits, Bool.not_true]
            simp only [Bool.and_false, Bool.false_eq_true, not_false_eq_true]
          rw [stock_eq, hnone]
          rfl
      | false =>
          rw [homits] at hselects
          simp only [Bool.not_false, Bool.and_true] at hselects
          rw [c.stock_of_selects now hselects, hlabel, hempty]
          rfl

/-- The answer to a query lists the values that it is about. -/
theorem ask_fst (q : Query) : (c.ask now q).1 = q.arrange (c.stock now q) := by
  cases q with
  | first key => exact c.ask_first_fst now key
  | single key => exact (c.stock_of_selects now (q := .single key) rfl).symm
  | many key omitted => exact c.ask_many_fst now key omitted
  | matching p omitted =>
      have hstock := c.stock_of_selects now (q := .matching p omitted) rfl
      exact congrArg List.reverse hstock.symm

/-- The same values with those of each key turned round, the keys coming in any order. -/
def ReversedByKey (stored shown : List Value) : Prop :=
  shown.Perm stored ∧
    ∀ key, shown.filter (fun v => v.key == key) = (stored.filter fun v => v.key == key).reverse

theorem reversedByKey_reverse (stored : List Value) : ReversedByKey stored stored.reverse :=
  ⟨List.reverse_perm stored, fun _ => List.filter_reverse⟩

/-- How a read shows the values that it is about, which are given in the order in which they were
stored under their keys. -/
def Query.Shows : Query → List Value → List Value → Prop
  | .first _, stored, shown => shown = stored.take 1
  | .single _, stored, shown => shown = stored
  | .many _ _, stored, shown => ReversedByKey stored shown
  | .matching _ _, stored, shown => ReversedByKey stored shown

theorem shows_arrange (q : Query) (stored : List Value) : q.Shows stored (q.arrange stored) := by
  cases q with
  | first key => rfl
  | single key => rfl
  | many key omitted => exact reversedByKey_reverse stored
  | matching p omitted => exact reversedByKey_reverse stored

/-- A read removes the buckets that it selects and that hold an expired entry. -/
theorem mem_buckets_ask_iff (q : Query) (b : Bucket) :
    b ∈ (c.ask now q).2.buckets ↔
      b ∈ c.buckets ∧
        ¬ (q.selects b.key = true ∧ ∃ e ∈ b.entries.toList, e.isExpired now = true) := by
  have hexpired : b.entries.anyExpired now = true ↔
      ∃ e ∈ b.entries.toList, e.isExpired now = true := List.any_eq_true
  rw [ask_snd, purge, buckets_keep, List.mem_filter, ← hexpired, Bool.not_eq_true', ← Bool.not_eq_true,
    Bool.and_eq_true]

/-- **Every read shows exactly the live values that it selects**, in its own order within a key, and
removes exactly the selected keys that hold an expired entry. -/
theorem reads_show_selected_values (q : Query) :
    q.Shows (c.stock now q) (c.ask now q).1 ∧ (c.ask now q).2.name = c.name ∧
      ∀ b, b ∈ (c.ask now q).2.buckets ↔
        b ∈ c.buckets ∧
          ¬ (q.selects b.key = true ∧ ∃ e ∈ b.entries.toList, e.isExpired now = true) := by
  have hname : (c.ask now q).2.name = c.name := by
    rw [ask_snd]
    rfl
  have hshows := shows_arrange q (c.stock now q)
  rw [← ask_fst] at hshows
  exact ⟨hshows, hname, c.mem_buckets_ask_iff now q⟩

/-- The key `Score` is excluded where case matters, and a read of `score` shows what it holds. -/
theorem excluded_spelling_shown :
    let scores := (empty "TX").store "Score" "5"
    ∃ p, Pattern.ofText {} "^S" = .ok p ∧
      (Exclusions.none.addPattern p).omits "Score" = true ∧
      (scores.ask 0 (.many "score" (Exclusions.none.addPattern p))).1 =
        [.keyed "TX" "score" "5"] := by
  intro scores
  have hread : (Pattern.ofText {} "^S").toOption.map (fun p =>
      ((Exclusions.none.addPattern p).omits "Score",
        (scores.ask 0 (.many "score" (Exclusions.none.addPattern p))).1)) =
      some (true, [.keyed "TX" "score" "5"]) := by
    decide +kernel
  cases hp : Pattern.ofText {} "^S" with
  | error e =>
      rw [hp] at hread
      cases hread
  | ok p =>
      rw [hp] at hread
      obtain ⟨homits, hshown⟩ := Prod.mk.inj (Option.some.inj hread)
      exact ⟨p, rfl, homits, hshown⟩

end Collection

end Rampart
