import Rampart.Proofs.Contents
import Rampart.Proofs.TargetList

/-!
# What a variable resolves to

At every moment a kind denotes a list of values, and a variable without marks resolves to those of
them whose keys it shows. One form stands apart: a single key of a collection is answered under the
spelling in which it was asked for, and not at all if that spelling is excluded.

Which keys a variable shows does not depend on the exchange, so what is said here of keys holds in
every exchange alike.
-/

namespace Rampart

namespace Selector

/-- A set shows the key. A single key is shown regardless of exclusions. -/
def admits (e : Exclusions) : Selector → String → Bool
  | all, name => !e.omits name
  | key k, name => Text.sameText name k
  | pattern p, name => p.isMatch name && !e.omits name

theorem ofSet_perm (s : AnchoredSet) (e : Exclusions) (sel : Selector) :
    (sel.ofSet s e).Perm (s.values.filter fun v => sel.admits e v.key) := by
  cases sel with
  | all => exact List.reverse_perm _
  | key k => exact List.Perm.refl _
  | pattern p => exact List.reverse_perm _

theorem admits_mono (sel : Selector) {e e' : Exclusions} (h : e.Within e') {name : String}
    (hname : sel.admits e' name = true) : sel.admits e name = true := by
  have spares (hno : (!e'.omits name) = true) : (!e.omits name) = true := by
    rw [Bool.not_eq_true'] at hno ⊢
    refine Bool.eq_false_iff.2 fun hyes => ?_
    rw [h name hyes] at hno
    cases hno
  cases sel with
  | all => exact spares hname
  | key k => exact hname
  | pattern p =>
      rw [admits, Bool.and_eq_true] at hname ⊢
      exact ⟨hname.1, spares hname.2⟩

end Selector

namespace CollectionName

/-- The live texts under a key of a collection, as far as the exchange can reach it. -/
def textsAt (c : CollectionName) (x : Exchange) (key : String) : List String :=
  match x.view? c.text with
  | none => []
  | some v => (x.content v.home).textsAt x.now (v.compartment.key key)

theorem textsAt_congr (c : CollectionName) (x : Exchange) {key key' : String}
    (h : Text.sameText key key' = true) : c.textsAt x key = c.textsAt x key' := by
  unfold textsAt
  split
  · rfl
  · refine Collection.textsAt_congr _ _ (Text.sameText_iff.2 ?_)
    unfold Compartment.key
    rw [Text.fold_append, Text.fold_append, Text.sameText_iff.1 h]

/-- The name that is shown with the values of a collection. -/
def label (c : CollectionName) (x : Exchange) : String :=
  match x.view? c.text with
  | none => ""
  | some v => (x.content v.home).name

end CollectionName

namespace Variable

/-! ## Fields of rules -/

theorem ruleValues_eq_filter (r : RuleInfo) (own : Option String) :
    ruleValues r own =
      (ruleValues r none).filter fun a => own.all fun k => Text.sameText k a.key := by
  unfold ruleValues
  rw [List.filter_filterMap]
  refine congrArg (List.filterMap · r.fields) (funext fun f => ?_)
  cases hf : f.2 with
  | none =>
      rw [Option.map_none, ite_self, ite_self]
      rfl
  | some text =>
      cases hown : own.all fun k => Text.sameText k f.1 with
      | true => simp [Option.filter, Value.keyed, hown]
      | false => simp [Option.filter, Value.keyed, hown]

theorem ruleValues_congr (r : RuleInfo) {k k' : String} (h : Text.sameText k k' = true) :
    ruleValues r (some k) = ruleValues r (some k') := by
  have hsame : ∀ name, Text.sameText k name = Text.sameText k' name := by
    intro name
    unfold Text.sameText
    rw [Text.sameText_iff.1 h]
  unfold ruleValues
  simp only [Option.all_some, hsame]

/-! ## What kinds denote -/

/-- The values that a kind denotes at a moment, each under its own key. -/
def Kind.values (r : RuleInfo) (x : Exchange) : Kind → List Value
  | .set s => (s.values x.tx).values
  | .names s => (s.named x.tx).values.map (.keyAsValue s.namesName)
  | .collection c =>
    match x.view? c.text with
    | none => []
    | some v => v.compartment.liveValues (x.content v.home) x.now
  | .single s => (s.anchor x.tx).values
  | .env => x.tx.environment.entries.map fun entry => .keyed "ENV" entry.1 entry.2
  | .time f => [.keyless f.name (Calendar.fieldText x.tx.request.time f)]
  | .rule => ruleValues r none

/-- The variable shows values under the key, when there are any. -/
def shows (r : RuleInfo) : Variable → String → Bool
  | set _ sel e, key => sel.admits e key
  | names _ sel e, key => sel.admits e key
  | collection _ (.key k) e, key => Text.sameText key k && !e.omits k
  | collection _ sel e, key => sel.admits e key
  | single _, _ => true
  | env own e, key => own.all (· == key) && !e.omits key
  | time _, key => key.isEmpty
  | rule own, key => (ruleValues r own).any (·.key == key)
  | exclusion _, _ => false
  | count _, key => key.isEmpty

/-- The variable asks for a single key of a collection. -/
def AsksForKey : Variable → Prop
  | collection _ (.key _) _ => True
  | _ => False

/-- **A variable resolves to the values of its kind whose keys it shows**, unless it asks for a
single key of a collection. -/
theorem evaluate_perm {v : Variable} (r : RuleInfo) (x : Exchange) (hm : v.Unmarked)
    (hk : ¬ v.AsksForKey) :
    (v.evaluate r x).1.Perm ((v.kind.values r x).filter fun a => v.shows r a.key) := by
  cases v with
  | set s sel e => exact sel.ofSet_perm _ e
  | names s sel e =>
      have hmap := (sel.ofSet_perm (s.named x.tx) e).map (Value.keyAsValue s.namesName)
      refine hmap.trans (List.Perm.of_eq ?_)
      rw [kind, Kind.values, List.filter_map]
      rfl
  | collection c sel e =>
      rw [evaluate, kind, Kind.values]
      cases hview : x.view? c.text with
      | none => exact List.Perm.refl []
      | some view =>
          cases sel with
          | all => exact view.compartment.readMany_all_perm _ x.now e
          | key k => exact absurd trivial hk
          | pattern p => exact view.compartment.readMatching_perm _ x.now p e
  | single s =>
      refine List.Perm.of_eq ?_
      exact (List.filter_eq_self.2 fun a _ => rfl).symm
  | env own e =>
      refine List.Perm.of_eq ?_
      rw [kind, Kind.values, List.filter_map]
      rfl
  | time f => exact List.Perm.refl _
  | rule own =>
      refine List.Perm.of_eq ?_
      -- a value of the rule is shown as soon as one under its key is, and keys are names of fields
      refine (ruleValues_eq_filter r own).trans (List.filter_congr fun a ha => ?_)
      rw [shows, Bool.eq_iff_iff, List.any_eq_true]
      constructor
      · intro hown
        refine ⟨a, ?_, beq_self_eq_true _⟩
        rw [ruleValues_eq_filter]
        exact List.mem_filter.2 ⟨ha, hown⟩
      · rintro ⟨b, hb, hkey⟩
        rw [ruleValues_eq_filter] at hb
        rw [← eq_of_beq hkey]
        exact (List.mem_filter.1 hb).2
  | exclusion b => exact hm.elim
  | count b => exact hm.elim

/-- **A single key of a collection** is answered under the spelling it was asked for, with the texts
that are kept under any spelling of it, unless that spelling is excluded. -/
theorem evaluate_collection_key (r : RuleInfo) (x : Exchange) (c : CollectionName) {k : String}
    (hk : k.isEmpty = false) (e : Exclusions) :
    ((collection c (.key k) e).evaluate r x).1.Perm
      (if e.omits k then [] else (c.textsAt x k).map (.keyed (c.label x) k)) := by
  rw [evaluate]
  unfold CollectionName.textsAt CollectionName.label
  cases hview : x.view? c.text with
  | none =>
      cases e.omits k with
      | true => exact List.Perm.refl []
      | false => exact List.Perm.refl []
  | some view => exact view.compartment.readMany_key_perm _ x.now hk e

theorem mem_evaluate_iff {v : Variable} {r : RuleInfo} {x : Exchange} (hm : v.Unmarked)
    (hk : ¬ v.AsksForKey) {a : Value} :
    a ∈ (v.evaluate r x).1 ↔ a ∈ v.kind.values r x ∧ v.shows r a.key = true :=
  (evaluate_perm r x hm hk).mem_iff.trans List.mem_filter

theorem mem_evaluate_collection_key_iff {r : RuleInfo} {x : Exchange} {c : CollectionName}
    {k : String} (hk : k.isEmpty = false) {e : Exclusions} {a : Value} :
    a ∈ ((collection c (.key k) e).evaluate r x).1 ↔
      e.omits k = false ∧ ∃ text ∈ c.textsAt x k, .keyed (c.label x) k text = a := by
  rw [(evaluate_collection_key r x c hk e).mem_iff]
  cases e.omits k with
  | true => exact ⟨fun h => absurd h List.not_mem_nil, fun h => absurd h.1 Bool.noConfusion⟩
  | false => exact List.mem_map.trans ⟨fun h => ⟨rfl, h⟩, fun h => h.2⟩

/-- Nothing is found under a key that the variable does not show. -/
theorem shows_of_mem_evaluate {v : Variable} {r : RuleInfo} {x : Exchange} (hv : v.WellRead)
    {a : Value} (ha : a ∈ (v.evaluate r x).1) : v.shows r a.key = true := by
  have ofKind (hm : v.Unmarked) (hk : ¬ v.AsksForKey) : v.shows r a.key = true :=
    ((mem_evaluate_iff hm hk).1 ha).2
  cases v with
  | collection c sel e =>
      cases sel with
      | all => exact ofKind trivial id
      | key k =>
          -- the value is labelled with the key as it was asked for
          obtain ⟨hno, text, -, rfl⟩ := (mem_evaluate_collection_key_iff hv.1).1 ha
          change (Text.sameText k k && !e.omits k) = true
          rw [hno, Text.sameText_refl]
          rfl
      | pattern p => exact ofKind trivial id
  | exclusion b => cases ha
  | count b =>
      rw [evaluate, List.mem_singleton] at ha
      rw [ha]
      rfl
  | set s sel e => exact ofKind trivial id
  | names s sel e => exact ofKind trivial id
  | single s => exact ofKind trivial id
  | env own e => exact ofKind trivial id
  | time f => exact ofKind trivial id
  | rule own => exact ofKind trivial id

/-! ## Variables that leave out more -/

theorem Narrows.kind_eq {v w : Variable} (h : Narrows v w) : v.kind = w.kind := by
  induction h with
  | count h ih => exact ih
  | _ => rfl

theorem Narrows.shows {v w : Variable} (h : Narrows v w) {r : RuleInfo} {key : String}
    (hv : v.shows r key = true) : w.shows r key = true := by
  have spares {e e' : Exclusions} (h : e.Within e') {k : String} (hno : (!e'.omits k) = true) :
      (!e.omits k) = true := Selector.all.admits_mono h hno
  cases h with
  | set s sel h => exact sel.admits_mono h hv
  | names s sel h => exact sel.admits_mono h hv
  | collection c sel h =>
      cases sel with
      | all => exact Selector.all.admits_mono h hv
      | key k =>
          rw [Variable.shows, Bool.and_eq_true] at hv ⊢
          exact ⟨hv.1, spares h hv.2⟩
      | pattern p => exact (Selector.pattern p).admits_mono h hv
  | env own h =>
      rw [Variable.shows, Bool.and_eq_true] at hv ⊢
      exact ⟨hv.1, spares h hv.2⟩
  | count h => exact hv
  | refl => exact hv

/-- **Whatever a variable resolves to, it resolves to when it leaves out less.** -/
theorem Narrows.mem_evaluate {v w : Variable} (h : Narrows v w) (hw : w.WellRead) (hm : w.Unmarked)
    {r : RuleInfo} {x : Exchange} {a : Value} (ha : a ∈ (v.evaluate r x).1) :
    a ∈ (w.evaluate r x).1 := by
  -- both resolve to values of one kind, and the second shows every key that the first shows
  have ofKind (hv : ¬ v.AsksForKey) (hk : ¬ w.AsksForKey) : a ∈ (w.evaluate r x).1 := by
    obtain ⟨hvalue, hshows⟩ := (mem_evaluate_iff (h.unmarked hm) hv).1 ha
    rw [h.kind_eq] at hvalue
    exact (mem_evaluate_iff hm hk).2 ⟨hvalue, h.shows hshows⟩
  cases h with
  | collection c sel h =>
      cases sel with
      | all => exact ofKind id id
      | key k =>
          rw [mem_evaluate_collection_key_iff hw.1] at ha ⊢
          refine ⟨Bool.eq_false_iff.2 fun hyes => ?_, ha.2⟩
          rw [h k hyes] at ha
          exact Bool.noConfusion ha.1
      | pattern p => exact ofKind id id
  | set s sel h => exact ofKind id id
  | names s sel h => exact ofKind id id
  | env own h => exact ofKind id id
  | count h => exact hm.elim
  | refl => exact ha

end Variable

end Rampart
