import Rampart.Proofs.Exhibit

/-!
# Keys that a rule excludes itself

An exclusion of keys is folded into every other entry of its name when the list is read. Whether it
is honoured is then up to the way in which the entry is resolved. Readings of many keys honour it,
and so do collections and the environment, but a set that is asked for one key gives it regardless,
and the fields of a rule have no exclusions at all.
-/

namespace Rampart

namespace RuleInfo

/-- The names of the fields that a rule can show. -/
def fieldNames : List String :=
  ["id", "msg", "phase", "rev", "ver", "severity", "maturity", "accuracy"]

theorem map_fst_fields (r : RuleInfo) : r.fields.map (·.1) = fieldNames := rfl

/-- A rule that has a text in every field. -/
def exhibit : RuleInfo where
  rawMessage := some "m"
  severity := some .emergency
  version := some "1"
  revision := some "1"
  maturity := some 1
  accuracy := some 1

theorem isSome_of_mem_fields_exhibit {f : String × Option String} (h : f ∈ exhibit.fields) :
    f.2.isSome = true := by
  have hall : exhibit.fields.all (·.2.isSome) = true := rfl
  exact List.all_eq_true.1 hall f h

end RuleInfo

namespace Selector

/-- A set that is asked for a single key is not asked for one of the keys that `sel` selects. -/
def Avoids (sel : Selector) : Selector → Prop
  | key k => ∀ name, Text.sameText name k = true → sel.selects name = false
  | _ => True

theorem selects_eq_false {sel : Selector} {e : Exclusions}
    (h : ∀ key, sel.selects key = true → e.omits key = true) {key : String}
    (hno : (!e.omits key) = true) : sel.selects key = false := by
  refine Bool.eq_false_iff.2 fun hyes => ?_
  rw [h key hyes] at hno
  cases hno

/-- A set that passes over the keys of `sel` shows none of them exactly if it is not asked for one. -/
theorem forall_admits_iff {sel : Selector} {e : Exclusions}
    (h : ∀ key, sel.selects key = true → e.omits key = true) (own : Selector) :
    (∀ key, own.admits e key = true → sel.selects key = false) ↔ sel.Avoids own := by
  cases own with
  | all => exact ⟨fun _ => trivial, fun _ key hno => selects_eq_false h hno⟩
  | key k => exact Iff.rfl
  | pattern p =>
      refine ⟨fun _ => trivial, fun _ key hshows => selects_eq_false h ?_⟩
      rw [admits, Bool.and_eq_true] at hshows
      exact hshows.2

end Selector

namespace Variable

/-- The variable behind the marks that count. -/
def counted : Variable → Variable
  | count b => b.counted
  | v => v

/-- The entry shows none of the keys that it was told to leave out: it neither asks a set for one of
them nor shows a field of the rule that is called so. -/
def Honours (sel : Selector) : Variable → Prop
  | set _ own _ => sel.Avoids own
  | names _ own _ => sel.Avoids own
  | rule own =>
    ∀ name ∈ RuleInfo.fieldNames, (own.all fun k => Text.sameText k name) = true →
      sel.selects name = false
  | _ => True

/-- What holds of a variable whose marks do not matter holds of the one behind them. -/
theorem counted_induction {P : Variable → Prop} (hcount : ∀ b, P (.count b) → P b) {v : Variable}
    (h : P v) : P v.counted := by
  induction v with
  | count b ih => exact ih (hcount b h)
  | _ => exact h

theorem counted_ne_count (v b : Variable) : v.counted ≠ .count b := by
  induction v with
  | count c ih => exact ih
  | _ => exact fun h => by cases h

theorem kind_counted (v : Variable) : v.counted.kind = v.kind := by
  induction v with
  | count b ih => exact ih
  | _ => rfl

/-! ## Fields of rules -/

theorem mem_ruleValues_iff {r : RuleInfo} {own : Option String} {a : Value} :
    a ∈ ruleValues r own ↔
      ∃ f ∈ r.fields, (own.all fun k => Text.sameText k f.1) = true ∧
        ∃ text, f.2 = some text ∧ .keyed "RULE" f.1 text = a := by
  unfold ruleValues
  rw [List.mem_filterMap]
  refine exists_congr fun f => and_congr_right fun _ => ?_
  split
  · rename_i hown
    exact Option.map_eq_some_iff.trans ⟨fun h => ⟨hown, h⟩, fun h => h.2⟩
  · rename_i hown
    constructor
    · intro h
      cases h
    · intro h
      exact absurd h.1 hown

theorem ruleValues_honour_iff (own : Option String) (sel : Selector) :
    (∀ r, ∀ a ∈ ruleValues r own, sel.selects a.key = false) ↔ (rule own).Honours sel := by
  constructor
  · intro h name hname hown
    rw [← RuleInfo.exhibit.map_fst_fields] at hname
    obtain ⟨f, hf, rfl⟩ := List.mem_map.1 hname
    obtain ⟨text, htext⟩ := Option.isSome_iff_exists.1 (RuleInfo.isSome_of_mem_fields_exhibit hf)
    exact h .exhibit (.keyed "RULE" f.1 text) (mem_ruleValues_iff.2 ⟨f, hf, hown, text, htext, rfl⟩)
  · intro h r a ha
    obtain ⟨f, hf, hown, text, -, rfl⟩ := mem_ruleValues_iff.1 ha
    refine h f.1 ?_ hown
    rw [← r.map_fst_fields]
    exact List.mem_map_of_mem hf

/-! ## Entries -/

/-- The keys that a variable shows are those of the values it finds in the exhibits. -/
theorem forall_evaluate_iff {v : Variable} (hm : v.Unmarked) (hk : ¬ v.AsksForKey)
    (hkeyed : v.kind.IsKeyed) (P : String → Prop) :
    (∀ r x, ∀ a ∈ (v.evaluate r x).1, P a.key) ↔ ∀ r key, v.shows r key = true → P key := by
  constructor
  · intro h r key hshows
    obtain ⟨a, ha, rfl⟩ := exists_mem_exhibit hm hk hkeyed hshows
    exact h r _ a ha
  · intro h r x a ha
    exact h r a.key ((mem_evaluate_iff hm hk).1 ha).2

/-- An entry without marks that was told to leave out keys shows none of them exactly if it honours
the exclusion. -/
theorem forall_evaluate_iff_honours {sel : Selector} {v : Variable} (hread : v.WellRead)
    (hheeds : v.Heeds sel) (hfixed : ¬ v.kind.IsFixed) (hcount : ∀ b, v ≠ .count b) :
    (∀ r x, ∀ a ∈ (v.evaluate r x).1, sel.selects a.key = false) ↔ v.Honours sel := by
  have shown (hm : v.Unmarked) (hk : ¬ v.AsksForKey) (hkeyed : v.kind.IsKeyed) :=
    forall_evaluate_iff hm hk hkeyed fun key => sel.selects key = false
  cases v with
  | set s own e =>
      rw [shown trivial id trivial, Honours, ← Selector.forall_admits_iff hheeds own]
      exact ⟨fun h => h {}, fun h r => h⟩
  | names s own e =>
      rw [shown trivial id trivial, Honours, ← Selector.forall_admits_iff hheeds own]
      exact ⟨fun h => h {}, fun h r => h⟩
  | collection c own e =>
      refine ⟨fun _ => trivial, fun _ r x a ha => ?_⟩
      cases own with
      | all => exact Selector.selects_eq_false hheeds (shows_of_mem_evaluate hread ha)
      | key k =>
          obtain ⟨hno, text, -, rfl⟩ := (mem_evaluate_collection_key_iff hread.1).1 ha
          have hkept : (!e.omits k) = true := by
            rw [hno]
            rfl
          exact Selector.selects_eq_false hheeds hkept
      | pattern p =>
          have hshows : (p.isMatch a.key && !e.omits a.key) = true := shows_of_mem_evaluate hread ha
          rw [Bool.and_eq_true] at hshows
          exact Selector.selects_eq_false hheeds hshows.2
  | env own e =>
      refine ⟨fun _ => trivial, fun _ r x a ha => ?_⟩
      have hshows : (own.all (· == a.key) && !e.omits a.key) = true := shows_of_mem_evaluate hread ha
      rw [Bool.and_eq_true] at hshows
      exact Selector.selects_eq_false hheeds hshows.2
  | rule own =>
      -- the fields of a rule are the same in every exchange
      rw [← ruleValues_honour_iff]
      exact ⟨fun h r a ha => h r (Rampart.exhibit "") a ha, fun h r x a ha => h r a ha⟩
  | single s => exact absurd trivial hfixed
  | time f => exact absurd trivial hfixed
  | exclusion b => exact ⟨fun _ => trivial, fun _ r x a ha => by cases ha⟩
  | count b => exact absurd rfl (hcount b)

/--
**When an exclusion of keys is honoured.**

Take any list of targets with an exclusion of keys in it, and any entry of the name that it excludes
from. What the entry shows, or counts, is free of the excluded keys in every exchange exactly if the
entry does not ask a set or a view of names for a single excluded key, and does not ask for a field
of the rule whose name is excluded.
-/
theorem excluded_keys_unseen_iff {references : List String} {vs : List Variable}
    {reference name : String} {sel : Selector} {v : Variable} (h : ofList references = .ok vs)
    (hreference : reference ∈ references)
    (ht : Target.ofText reference = .ok (.leaveOut name sel)) (hsel : sel ≠ .all) (hv : v ∈ vs)
    (hname : Text.sameText v.name name = true) :
    (∀ r x, ∀ a ∈ (v.counted.evaluate r x).1, sel.selects a.key = false) ↔
      v.counted.Honours sel := by
  have hread : v.counted.WellRead := counted_induction (fun _ => id) (wellRead_of_ofList h hv)
  have hheeds : v.counted.Heeds sel :=
    counted_induction (fun _ => id) (heeds_of_mem_ofList h hreference ht hsel hv hname)
  refine forall_evaluate_iff_honours hread hheeds ?_ v.counted_ne_count
  rw [kind_counted]
  rw [name_eq] at hname
  exact fun hfixed => hsel (eq_all_of_isFixed ht hname hfixed)

/-- A transaction with one argument, which is called `id`. -/
def idExchange : Exchange where
  tx := (Transaction.new "t" 0 .empty).learn (·.withQuery "id=1")
  shelf := .empty
  now := 0

/-- The argument that the list leaves out is shown to the entry that asks for it. -/
theorem excluded_key_shown :
    (ofList ["ARGS:id", "!ARGS:id"]).toOption = some [.set .args (.key "id") ⟨["id"], []⟩] ∧
      (evaluate {} (.set .args (.key "id") ⟨["id"], []⟩) idExchange).1 =
        [⟨"ARGS", "id", "1", [⟨3, 1⟩]⟩] := by
  decide +kernel

/-- The entry that asks for every argument does not see it. -/
theorem excluded_keys_unseen_args :
    (ofList ["ARGS", "!ARGS:id"]).toOption = some [.set .args .all ⟨["id"], []⟩] ∧
      ∀ r x, ∀ a ∈ (evaluate r (.set .args .all ⟨["id"], []⟩) x).1,
        Text.sameText "id" a.key = false := by
  have hread : (ofList ["ARGS", "!ARGS:id"]).toOption = some [.set .args .all ⟨["id"], []⟩] := by
    decide +kernel
  have htarget : (Target.ofText "!ARGS:id").toOption = some (.leaveOut "ARGS" (.key "id")) := by
    decide +kernel
  refine ⟨hread, ?_⟩
  exact (excluded_keys_unseen_iff (eq_ok_of_toOption hread)
    (List.mem_cons_of_mem _ (List.mem_cons_self ..)) (eq_ok_of_toOption htarget) (by decide)
    (List.mem_cons_self ..) (by decide +kernel)).2 trivial

end Variable

end Rampart
