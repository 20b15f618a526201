import Rampart.Engine

/-!
# The targets of exceptions

An exception selects rules by a tag, by their message or by an id, and lists targets for them. What
all exceptions together say of a rule is one list of targets: those that are marked as exclusions are
taken from what the rule inspects, the others are added to it.
-/

namespace Rampart.Exceptions

variable {e : Exceptions}

/-- Some exception that selects the rule has the variable among its targets. -/
def Targets (e : Exceptions) (r : RuleInfo) (message : Option String) (v : Variable) : Prop :=
  ∃ targets, v ∈ targets ∧
    ((∃ tag, (tag, targets) ∈ e.byTag ∧ r.hasTag tag = true) ∨
      (∃ text, (text, targets) ∈ e.byMessage ∧ message = some text) ∨
      (r.id, targets) ∈ e.byId)

theorem mem_targetsFor_iff {r : RuleInfo} {message : Option String} {v : Variable} :
    v ∈ e.targetsFor r message ↔ e.Targets r message v := by
  -- the three lists have the same shape
  have hlist {α : Type} (list : List (α × List Variable)) (selects : α → Bool) :
      v ∈ (list.filter fun t => selects t.1).flatMap (·.2) ↔
        ∃ targets, v ∈ targets ∧ ∃ a, (a, targets) ∈ list ∧ selects a = true := by
    rw [List.mem_flatMap]
    constructor
    · rintro ⟨⟨a, targets⟩, hmem, hv⟩
      obtain ⟨hmem, ha⟩ := List.mem_filter.1 hmem
      exact ⟨targets, hv, a, hmem, ha⟩
    · rintro ⟨targets, hv, a, hmem, ha⟩
      exact ⟨(a, targets), List.mem_filter.2 ⟨hmem, ha⟩, hv⟩
  unfold targetsFor
  rw [List.mem_append, List.mem_append, hlist _ fun tag => r.hasTag tag,
    hlist _ fun text => message == some text, hlist _ fun id => id == r.id]
  constructor
  · rintro ((⟨targets, hv, tag, hmem, htag⟩ | ⟨targets, hv, text, hmem, htext⟩) |
      ⟨targets, hv, id, hmem, hid⟩)
    · exact ⟨targets, hv, .inl ⟨tag, hmem, htag⟩⟩
    · exact ⟨targets, hv, .inr (.inl ⟨text, hmem, eq_of_beq htext⟩)⟩
    · exact ⟨targets, hv, .inr (.inr (eq_of_beq hid ▸ hmem))⟩
  · rintro ⟨targets, hv, ⟨tag, hmem, htag⟩ | ⟨text, hmem, htext⟩ | hmem⟩
    · exact .inl (.inl ⟨targets, hv, tag, hmem, htag⟩)
    · exact .inl (.inr ⟨targets, hv, text, hmem, beq_iff_eq.2 htext⟩)
    · exact .inr ⟨targets, hv, r.id, hmem, beq_self_eq_true _⟩

/-- That no message is expanded where there are no exceptions makes no difference to what they say. -/
theorem fst_forRule (e : Exceptions) (r : Rule) (x : Exchange) :
    (e.forRule r x).1 = .ofTargets (e.targetsFor r.info (r.expandMessage x).1) := by
  unfold forRule
  split
  · rename_i hempty
    have hsize : e.size = 0 := eq_of_beq hempty
    unfold size at hsize
    have htag : e.byTag = [] := List.eq_nil_of_length_eq_zero (by omega)
    have hmessage : e.byMessage = [] := List.eq_nil_of_length_eq_zero (by omega)
    have hid : e.byId = [] := List.eq_nil_of_length_eq_zero (by omega)
    unfold targetsFor
    rw [htag, hmessage, hid]
    rfl
  · rfl

variable {r : Rule} {x : Exchange} {v : Variable}

theorem mem_excluded_iff :
    v ∈ (e.forRule r x).1.excluded ↔ e.Targets r.info (r.expandMessage x).1 (.exclusion v) := by
  have hbase (w : Variable) : w.exclusionBase? = some v ↔ w = .exclusion v := by
    cases w with
    | exclusion b =>
        exact ⟨fun h => congrArg Variable.exclusion (Option.some.inj h),
          fun h => congrArg some (Variable.exclusion.inj h)⟩
    | _ => exact ⟨fun h => (nomatch h), fun h => (nomatch h)⟩
  rw [fst_forRule, ← mem_targetsFor_iff]
  change v ∈ List.filterMap _ _ ↔ _
  rw [List.mem_filterMap]
  constructor
  · rintro ⟨w, hw, hv⟩
    rwa [← (hbase w).1 hv]
  · intro h
    exact ⟨.exclusion v, h, rfl⟩

theorem mem_added_iff :
    v ∈ (e.forRule r x).1.added ↔
      e.Targets r.info (r.expandMessage x).1 v ∧ v.exclusionBase? = .none := by
  rw [fst_forRule, ← mem_targetsFor_iff]
  change v ∈ List.filter _ _ ↔ _
  rw [List.mem_filter, Option.isNone_iff_eq_none]

end Rampart.Exceptions
