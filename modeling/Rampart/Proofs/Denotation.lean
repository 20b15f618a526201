import Mathlib
import Rampart.Proofs.Compile
import Rampart.Proofs.Exhibit
import Rampart.Proofs.Retargeting

/-!
# Targets that an exception drops by name

A target is dropped as a whole when an exception excludes a variable of its full name, up to case.
Full names say of which kind a variable is and how it selects keys, but they say it up to case: the
names of the environment are told apart by case, and so are the classes of a pattern. What is
dropped is denoted by the exception exactly if every key that the target shows is one that the
excluded variable shows.
-/

namespace Rampart

namespace Variable

/-! ## Variables of one full name -/

/-- The parts of two full names agree. -/
structure SameParts (v w : Variable) : Prop where
  marks : v.marks = w.marks
  kind : v.kind = w.kind
  suffix : Text.sameText v.suffix w.suffix = true

theorem sameParts_of_sameText {v w : Variable} (h : Text.sameText v.fullName w.fullName = true) :
    SameParts v w := by
  obtain ⟨hmarks, hkind, hsuffix⟩ := parts_of_sameText h
  exact ⟨hmarks, hkind, hsuffix⟩

/-- A variable carries no mark, or its first mark excludes or counts. -/
theorem unmarked_or (v : Variable) : v.Unmarked ∨ (∃ b, v = exclusion b) ∨ ∃ b, v = count b := by
  cases v with
  | exclusion b => exact .inr (.inl ⟨b, rfl⟩)
  | count b => exact .inr (.inr ⟨b, rfl⟩)
  | _ => exact .inl trivial

theorem marks_of_unmarked {v : Variable} (h : v.Unmarked) : v.marks = 0 := by
  cases v with
  | exclusion b => exact h.elim
  | count b => exact h.elim
  | _ => rfl

theorem SameParts.symm {v w : Variable} (h : SameParts v w) : SameParts w v where
  marks := h.marks.symm
  kind := h.kind.symm
  suffix := by
    rw [Text.sameText_comm]
    exact h.suffix

theorem SameParts.of_count {a b : Variable} (h : SameParts (.count a) (.count b)) :
    SameParts a b where
  marks := Nat.succ.inj h.marks
  kind := h.kind
  suffix := h.suffix

/-- Only a count has the full name of a count. -/
theorem SameParts.not_count {v b : Variable} (h : SameParts v (.count b)) : ¬ v.Unmarked :=
  fun hv => absurd ((marks_of_unmarked hv).symm.trans h.marks) (Nat.succ_ne_zero _).symm

/-- How two variables without marks can have one full name. -/
inductive Aligned : Variable → Variable → Prop where
  /-- Both ask for a single key of a collection. -/
  | key (c : CollectionName) {k k' : String} (o o' : Exclusions) (hk : k.isEmpty = false)
      (hk' : k'.isEmpty = false) (h : Text.sameText k k' = true) :
      Aligned (.collection c (.key k) o) (.collection c (.key k') o')
  /-- Both show values of one kind by their keys. -/
  | keyed {v w : Variable} (hkind : v.kind = w.kind) (hkeyed : v.kind.IsKeyed) (hv : v.Unmarked)
      (hw : w.Unmarked) (hvk : ¬ v.AsksForKey) (hwk : ¬ w.AsksForKey) : Aligned v w
  /-- Both resolve to the same. -/
  | same {v w : Variable} (hv : v.Unmarked) (hvk : ¬ v.AsksForKey)
      (hvalues : ∀ r x, (v.evaluate r x).1 = (w.evaluate r x).1)
      (hshows : ∀ r key, v.shows r key = w.shows r key) : Aligned v w

theorem not_asksForKey_of_kind {v : Variable} (h : ∀ c, v.kind ≠ .collection c) :
    ¬ v.AsksForKey := by
  cases v with
  | collection c sel o => exact fun _ => h c rfl
  | _ => exact id

theorem ruleValues_of_suffix (r : RuleInfo) {own own' : Option String}
    (h : Text.sameText (rule own).suffix (rule own').suffix = true) :
    ruleValues r own = ruleValues r own' := by
  rw [Text.sameText_iff] at h
  cases own with
  | none =>
      cases own' with
      | none => rfl
      | some k' =>
          rw [suffix, suffix, Text.fold_append] at h
          cases h
  | some k =>
      cases own' with
      | none =>
          rw [suffix, suffix, Text.fold_append] at h
          cases h
      | some k' =>
          rw [suffix, suffix, Text.fold_append, Text.fold_append] at h
          exact ruleValues_congr r (Text.sameText_iff.2 (List.append_cancel_left h))

/-- **Two variables without marks and of one full name** are aligned. -/
theorem SameParts.aligned {v w : Variable} (h : SameParts v w) (hv : v.WellRead) (hw : w.WellRead)
    (hvm : v.Unmarked) (hwm : w.Unmarked) : Aligned v w := by
  have keyed (hkeyed : v.kind.IsKeyed) (hother : ∀ c, v.kind ≠ .collection c) : Aligned v w :=
    .keyed h.kind hkeyed hvm hwm (not_asksForKey_of_kind hother)
      (not_asksForKey_of_kind (h.kind ▸ hother))
  cases v with
  | set s sel e => exact keyed trivial fun c => Kind.noConfusion
  | names s sel e => exact keyed trivial fun c => Kind.noConfusion
  | env own e => exact keyed trivial fun c => Kind.noConfusion
  | collection c sel o =>
      cases w with
      | collection c' sel' o' =>
          have hkind := h.kind
          have hform := Selector.sameForm_of_sameText hv hw h.suffix
          obtain rfl : c = c' := Kind.collection.inj h.kind
          cases sel with
          | all =>
              cases sel' with
              | all => exact .keyed rfl trivial trivial trivial id id
              | _ => exact hform.elim
          | key k =>
              cases sel' with
              | key k' => exact .key c o o' hv.1 hw.1 hform
              | _ => exact hform.elim
          | pattern p =>
              cases sel' with
              | pattern p' => exact .keyed rfl trivial trivial trivial id id
              | _ => exact hform.elim
      | exclusion b => exact hwm.elim
      | count b => exact hwm.elim
      | _ => exact Kind.noConfusion h.kind
  | single s =>
      cases w with
      | single s' =>
          obtain rfl : s = s' := Kind.single.inj h.kind
          exact .same trivial id (fun _ _ => rfl) (fun _ _ => rfl)
      | exclusion b => exact hwm.elim
      | count b => exact hwm.elim
      | _ => exact Kind.noConfusion h.kind
  | time f =>
      cases w with
      | time f' =>
          obtain rfl : f = f' := Kind.time.inj h.kind
          exact .same trivial id (fun _ _ => rfl) (fun _ _ => rfl)
      | exclusion b => exact hwm.elim
      | count b => exact hwm.elim
      | _ => exact Kind.noConfusion h.kind
  | rule own =>
      cases w with
      | rule own' =>
          have hsame (r : RuleInfo) := ruleValues_of_suffix r h.suffix
          refine .same trivial id (fun r _ => hsame r) fun r key => ?_
          rw [shows, shows, hsame]
      | exclusion b => exact hwm.elim
      | count b => exact hwm.elim
      | _ => exact Kind.noConfusion h.kind
  | exclusion b => exact hvm.elim
  | count b => exact hvm.elim

/-! ## What is found -/

/-- Whatever a variable shows, it finds somewhere. -/
theorem exists_mem_of_shows {v : Variable} (hv : v.WellRead) {r : RuleInfo} {key : String}
    (h : v.shows r key = true) : ∃ x a, a ∈ (v.evaluate r x).1 := by
  have ofKind (hm : v.Unmarked) (hk : ¬ v.AsksForKey) (hkeyed : v.kind.IsKeyed) :
      ∃ x a, a ∈ (v.evaluate r x).1 := by
    obtain ⟨a, ha, -⟩ := exists_mem_exhibit hm hk hkeyed h
    exact ⟨_, a, ha⟩
  cases v with
  | set s sel e => exact ofKind trivial id trivial
  | names s sel e => exact ofKind trivial id trivial
  | env own e => exact ofKind trivial id trivial
  | collection c sel e =>
      cases sel with
      | all => exact ofKind trivial id trivial
      | pattern p => exact ofKind trivial id trivial
      | key k =>
          rw [shows, Bool.and_eq_true, Bool.not_eq_true'] at h
          refine ⟨exhibit key, _, (mem_evaluate_collection_key_iff hv.1).2 ⟨h.2, "1", ?_, rfl⟩⟩
          rw [textsAt_exhibit, if_pos h.1]
          exact List.mem_singleton_self _
  | single s =>
      cases s <;> exact ⟨exhibit key, _, List.mem_singleton_self _⟩
  | time f => exact ⟨exhibit key, _, List.mem_singleton_self _⟩
  | rule own =>
      obtain ⟨a, ha, -⟩ := List.any_eq_true.1 h
      exact ⟨exhibit key, a, ha⟩
  | exclusion b => cases h
  | count b => exact ⟨exhibit key, _, List.mem_singleton_self _⟩

/-- A variable finds nothing anywhere exactly if it shows nothing. -/
theorem finds_nothing_iff {v : Variable} (hv : v.WellRead) (r : RuleInfo) :
    (∀ x, (v.evaluate r x).1 = []) ↔ ∀ key, v.shows r key = false := by
  constructor
  · intro h key
    refine Bool.eq_false_iff.2 fun hshows => ?_
    obtain ⟨x, a, ha⟩ := exists_mem_of_shows hv hshows
    rw [h x] at ha
    cases ha
  · intro h x
    refine List.eq_nil_iff_forall_not_mem.2 fun a ha => ?_
    have hshows := shows_of_mem_evaluate hv ha
    rw [h a.key] at hshows
    cases hshows

/-- The number of values that a variable without marks finds in the exhibit of a key. -/
theorem length_exhibit {v : Variable} (r : RuleInfo) (key : String) (hm : v.Unmarked)
    (hk : ¬ v.AsksForKey) (hkeyed : v.kind.IsKeyed) :
    (v.evaluate r (exhibit key)).1.length = (v.shows r key).toNat := by
  obtain ⟨a, ha, hkey⟩ := values_exhibit r key hkeyed
  rw [(evaluate_perm r (exhibit key) hm hk).length_eq, ha, List.filter_cons, hkey]
  cases v.shows r key <;> rfl

theorem length_collection_key (r : RuleInfo) (x : Exchange) (c : CollectionName) {k : String}
    (hk : k.isEmpty = false) (o : Exclusions) :
    (evaluate r (.collection c (.key k) o) x).1.length =
      if o.omits k then 0 else (c.textsAt x k).length := by
  rw [(evaluate_collection_key r x c hk o).length_eq]
  cases o.omits k with
  | true => rfl
  | false => exact List.length_map _

/-- **Two aligned variables find equally many values everywhere** exactly if they show the same. -/
theorem Aligned.length_eq_iff {v w : Variable} (h : Aligned v w) (r : RuleInfo) :
    (∀ x, (v.evaluate r x).1.length = (w.evaluate r x).1.length) ↔
      ∀ key, v.shows r key = w.shows r key := by
  cases h with
  | key c o o' hk hk' hsame =>
      rename_i k k'
      have hkeys (key : String) : Text.sameText key k = Text.sameText key k' := by
        unfold Text.sameText
        rw [Text.sameText_iff.1 hsame]
      constructor
      · intro hlength key
        -- the exhibit of the key itself has a text there, which either is counted or is left out
        have hexhibit := hlength (exhibit k)
        rw [length_collection_key r _ c hk, length_collection_key r _ c hk', textsAt_exhibit,
          textsAt_exhibit, Text.sameText_refl, hsame] at hexhibit
        rw [shows, shows, hkeys key]
        cases ho : o.omits k <;> cases ho' : o'.omits k' <;> simp_all
      · intro hshows x
        have hk₀ := hshows k
        rw [shows, shows, Text.sameText_refl, hsame] at hk₀
        rw [length_collection_key r x c hk, length_collection_key r x c hk',
          c.textsAt_congr x hsame, Bool.not_inj hk₀]
  | keyed hkind hkeyed hv hw hvk hwk =>
      constructor
      · intro hlength key
        -- in the exhibit of a key there is one value at most, so the numbers tell whether it is shown
        have hexhibit := hlength (exhibit key)
        rw [length_exhibit r key hv hvk hkeyed, length_exhibit r key hw hwk (hkind ▸ hkeyed)]
          at hexhibit
        revert hexhibit
        cases v.shows r key <;> cases w.shows r key <;> decide
      · intro hshows x
        rw [(evaluate_perm r x hv hvk).length_eq, (evaluate_perm r x hw hwk).length_eq, hkind]
        simp only [hshows]
  | same hv hvk hvalues hshows =>
      exact ⟨fun _ key => hshows r key, fun _ x => congrArg List.length (hvalues r x)⟩

/-- **Two variables of one full name find equally many values everywhere** exactly if they show the
same. -/
theorem SameParts.length_eq_iff {v w : Variable} (h : SameParts v w) (hv : v.WellRead)
    (hw : w.WellRead) (r : RuleInfo) :
    (∀ x, (v.evaluate r x).1.length = (w.evaluate r x).1.length) ↔
      ∀ key, v.shows r key = w.shows r key := by
  -- an exclusion finds and shows nothing, and two counts one number each, under no key
  rcases w.unmarked_or with hwm | ⟨b, rfl⟩ | ⟨b, rfl⟩
  · rcases v.unmarked_or with hvm | ⟨a, rfl⟩ | ⟨a, rfl⟩
    · exact (h.aligned hv hw hvm hwm).length_eq_iff r
    · have hnothing := finds_nothing_iff hw r
      simp only [← List.length_eq_zero_iff] at hnothing
      exact ⟨fun hl key => (hnothing.1 (fun x => (hl x).symm) key).symm,
        fun hs x => (hnothing.2 (fun key => (hs key).symm) x).symm⟩
    · exact absurd hwm h.symm.not_count
  · have hnothing := finds_nothing_iff hv r
    simp only [← List.length_eq_zero_iff] at hnothing
    exact hnothing
  · rcases v.unmarked_or with hvm | ⟨a, rfl⟩ | ⟨a, rfl⟩
    · exact absurd hvm h.not_count
    · have hnothing := finds_nothing_iff hw r
      simp only [← List.length_eq_zero_iff] at hnothing
      exact ⟨fun hl key => (hnothing.1 (fun x => (hl x).symm) key).symm,
        fun hs x => (hnothing.2 (fun key => (hs key).symm) x).symm⟩
    · exact ⟨fun _ _ => rfl, fun _ _ => rfl⟩

/-! ## What is denoted -/

/-- In every exchange, each value of the first variable is one of the second, with its key and its
text. -/
def ResolvesWithin (r : RuleInfo) (v w : Variable) : Prop :=
  ∀ x, ∀ a ∈ (v.evaluate r x).1, ∃ b ∈ (w.evaluate r x).1, b.key = a.key ∧ b.text = a.text

/-- Everything that the first variable shows is shown by the second. Counts have to show the same
keys, and a single key of a collection has to be spelled the same. -/
def ShowsWithin (r : RuleInfo) : Variable → Variable → Prop
  | count a, count b => ∀ key, a.shows r key = b.shows r key
  | collection _ (.key k) o, collection _ (.key k') o' =>
    o.omits k = true ∨ k = k' ∧ o'.omits k' = false
  | v, w => ∀ key, v.shows r key = true → w.shows r key = true

theorem showsWithin_iff {v w : Variable} (r : RuleInfo)
    (h : v.Unmarked ∧ ¬ v.AsksForKey ∨ ∃ b, w = exclusion b) :
    ShowsWithin r v w ↔ ∀ key, v.shows r key = true → w.shows r key = true := by
  rcases h with ⟨hvm, hvk⟩ | ⟨b, rfl⟩
  · cases v with
    | collection c sel o =>
        cases sel with
        | key k => exact absurd trivial hvk
        | _ => exact Iff.rfl
    | count b => exact hvm.elim
    | _ => exact Iff.rfl
  · cases v with
    | collection c sel o => cases sel <;> exact Iff.rfl
    | _ => exact Iff.rfl

theorem Aligned.resolvesWithin_iff {v w : Variable} (h : Aligned v w) (r : RuleInfo) :
    ResolvesWithin r v w ↔ ShowsWithin r v w := by
  cases h with
  | key c o o' hk hk' hsame =>
      rename_i k k'
      constructor
      · intro hwithin
        rcases Bool.eq_false_or_eq_true (o.omits k) with ho | ho
        · exact .inl ho
        · -- what is found is labelled with the spelling, so the labels have to agree
          have hkept : "1" ∈ c.textsAt (exhibit k) k := by
            rw [textsAt_exhibit, Text.sameText_refl]
            exact List.mem_singleton_self _
          have hmem := (mem_evaluate_collection_key_iff (r := r) hk).2 ⟨ho, "1", hkept, rfl⟩
          obtain ⟨b, hb, hkey, -⟩ := hwithin (exhibit k) _ hmem
          obtain ⟨ho', text, -, rfl⟩ := (mem_evaluate_collection_key_iff hk').1 hb
          exact .inr ⟨hkey.symm, ho'⟩
      · rintro (ho | ⟨rfl, ho'⟩) x a ha
        · rw [mem_evaluate_collection_key_iff hk, ho] at ha
          exact Bool.noConfusion ha.1
        · obtain ⟨-, text, htext, rfl⟩ := (mem_evaluate_collection_key_iff hk).1 ha
          exact ⟨_, (mem_evaluate_collection_key_iff hk).2 ⟨ho', text, htext, rfl⟩, rfl, rfl⟩
  | keyed hkind hkeyed hv hw hvk hwk =>
      rw [showsWithin_iff r (.inl ⟨hv, hvk⟩)]
      constructor
      · intro hwithin key hshows
        obtain ⟨a, ha, rfl⟩ := exists_mem_exhibit hv hvk hkeyed hshows
        obtain ⟨b, hb, hkey, -⟩ := hwithin _ a ha
        rw [← hkey]
        exact ((mem_evaluate_iff hw hwk).1 hb).2
      · intro hshows x a ha
        obtain ⟨hvalue, hkey⟩ := (mem_evaluate_iff hv hvk).1 ha
        rw [hkind] at hvalue
        exact ⟨a, (mem_evaluate_iff hw hwk).2 ⟨hvalue, hshows a.key hkey⟩, rfl, rfl⟩
  | same hv hvk hvalues hshows =>
      rw [showsWithin_iff r (.inl ⟨hv, hvk⟩)]
      refine ⟨fun _ key hkey => hshows r key ▸ hkey, fun _ x a ha => ⟨a, ?_, rfl, rfl⟩⟩
      rw [← hvalues]
      exact ha

theorem resolvesWithin_exclusion_iff {v : Variable} (hv : v.WellRead) (r : RuleInfo)
    (b : Variable) : ResolvesWithin r v (.exclusion b) ↔ ShowsWithin r v (.exclusion b) := by
  rw [showsWithin_iff r (.inr ⟨b, rfl⟩)]
  constructor
  · intro hwithin key hshows
    obtain ⟨x, a, ha⟩ := exists_mem_of_shows hv hshows
    obtain ⟨_, hnone, -⟩ := hwithin x a ha
    cases hnone
  · intro hshows x a ha
    exact Bool.noConfusion (hshows a.key (shows_of_mem_evaluate hv ha))

theorem resolvesWithin_count_iff {a b : Variable} (r : RuleInfo) :
    ResolvesWithin r (.count a) (.count b) ↔
      ∀ x, (a.evaluate r x).1.length = (b.evaluate r x).1.length := by
  constructor
  · intro hwithin x
    obtain ⟨c, hc, -, htext⟩ := hwithin x _ (List.mem_singleton_self _)
    rw [evaluate, List.mem_singleton] at hc
    rw [hc] at htext
    -- a count is a number written in digits, and digits tell numbers apart
    exact (Nat.repr_inj.1 htext).symm
  · intro hlength x c hc
    refine ⟨_, List.mem_singleton_self _, ?_⟩
    rw [evaluate, List.mem_singleton] at hc
    rw [hc]
    exact ⟨rfl, congrArg Nat.repr (hlength x).symm⟩

/-- **Of two variables of one full name, the first resolves within the second** exactly if it shows
nothing that the second does not. -/
theorem SameParts.resolvesWithin_iff {v w : Variable} (h : SameParts v w) (hv : v.WellRead)
    (hw : w.WellRead) (r : RuleInfo) : ResolvesWithin r v w ↔ ShowsWithin r v w := by
  rcases w.unmarked_or with hwm | ⟨b, rfl⟩ | ⟨b, rfl⟩
  · rcases v.unmarked_or with hvm | ⟨a, rfl⟩ | ⟨a, rfl⟩
    · exact (h.aligned hv hw hvm hwm).resolvesWithin_iff r
    · exact ⟨fun _ key hshows => Bool.noConfusion hshows, fun _ x c hc => by cases hc⟩
    · exact absurd hwm h.symm.not_count
  · exact resolvesWithin_exclusion_iff hv r b
  · rcases v.unmarked_or with hvm | ⟨a, rfl⟩ | ⟨a, rfl⟩
    · exact absurd hvm h.not_count
    · exact ⟨fun _ key hshows => Bool.noConfusion hshows, fun _ x c hc => by cases hc⟩
    · exact (resolvesWithin_count_iff r).trans (h.of_count.length_eq_iff hv hw r)

end Variable

/-! ## Exceptions -/

namespace Exceptions

/-- Every target of the exceptions can be written. -/
structure WellRead (e : Exceptions) : Prop where
  byTag : ∀ t ∈ e.byTag, ∀ v ∈ t.2, v.WellRead
  byMessage : ∀ t ∈ e.byMessage, ∀ v ∈ t.2, v.WellRead
  byId : ∀ t ∈ e.byId, ∀ v ∈ t.2, v.WellRead

theorem wellRead_none : none.WellRead where
  byTag := fun t ht => by cases ht
  byMessage := fun t ht => by cases ht
  byId := fun t ht => by cases ht

theorem wellRead_of_targetsOf {references : List String} {vs : List Variable}
    (h : targetsOf references = .ok vs) : ∀ v ∈ vs, v.WellRead := by
  unfold targetsOf at h
  split at h
  · cases h
  · intro v hv
    obtain ⟨reference, -, hread⟩ := exists_of_mem_mapM h hv
    exact Variable.wellRead_of_ofChars hread

/-- One more list of targets that can be written. -/
theorem forall_mem_concat {α : Type} {ts : List (α × List Variable)} {a : α} {vs : List Variable}
    (h : ∀ t ∈ ts, ∀ v ∈ t.2, v.WellRead) (hvs : ∀ v ∈ vs, v.WellRead) :
    ∀ t ∈ ts ++ [(a, vs)], ∀ v ∈ t.2, v.WellRead := by
  intro t ht
  rcases List.mem_append.1 ht with ht | ht
  · exact h t ht
  · rw [List.mem_singleton.1 ht]
    exact hvs

theorem WellRead.add {e e' : Exceptions} {s : ExceptionSettings} (h : e.WellRead)
    (hadd : e.add s = .ok e') : e'.WellRead := by
  unfold Exceptions.add at hadd
  split at hadd
  · obtain ⟨vs, hvs, rfl⟩ := map_eq_ok.1 hadd
    exact ⟨forall_mem_concat h.byTag (wellRead_of_targetsOf hvs), h.byMessage, h.byId⟩
  · obtain ⟨vs, hvs, rfl⟩ := map_eq_ok.1 hadd
    exact ⟨h.byTag, forall_mem_concat h.byMessage (wellRead_of_targetsOf hvs), h.byId⟩
  · obtain ⟨vs, hvs, rfl⟩ := map_eq_ok.1 hadd
    exact ⟨h.byTag, h.byMessage, forall_mem_concat h.byId (wellRead_of_targetsOf hvs)⟩
  · cases hadd

/-- Whatever cannot be read leaves the exceptions as they are. -/
theorem wellRead_ofSettings (ss : List ExceptionSettings) : (ofSettings ss).1.WellRead := by
  -- over the settings: whatever has been read so far can be written
  have loaded (acc : Exceptions × List Error) (h : acc.1.WellRead) :
      (ss.foldl load acc).1.WellRead := by
    induction ss generalizing acc with
    | nil => exact h
    | cons s ss ih =>
        refine ih _ ?_
        unfold load
        split
        · rename_i e' hadd
          exact h.add hadd
        · exact h
  exact loaded _ wellRead_none

theorem WellRead.excluded {e : Exceptions} (h : e.WellRead) {r : Rule} {x : Exchange} {v : Variable}
    (hv : v ∈ (e.forRule r x).1.excluded) : v.WellRead := by
  -- what an exclusion mark stands before is read as it is
  have hread : (Variable.exclusion v).WellRead := by
    obtain ⟨targets, hmem, hselected⟩ := mem_excluded_iff.1 hv
    rcases hselected with ⟨tag, htargets, -⟩ | ⟨text, htargets, -⟩ | htargets
    · exact h.byTag _ htargets _ hmem
    · exact h.byMessage _ htargets _ hmem
    · exact h.byId _ htargets _ hmem
  exact hread

end Exceptions

/--
**What an exception drops by name, and when it denotes it.**

Take a rule of a compiled chain, one of its targets, and a variable that the exceptions exclude for
the rule and that has the full name of the target, up to case. The target is dropped. Whatever it
resolves to, in any exchange, is among what the excluded variable resolves to there exactly if the
target shows nothing that the excluded variable does not show.
-/
theorem dropped_target_denoted_iff {files : FileTree} {s : RuleSettings} {c : Chain} {r : Rule}
    {ss : List ExceptionSettings} {x : Exchange} {v w : Variable}
    (hc : Chain.ofSettings files s = .ok c) (hr : r ∈ c.links) (hv : v ∈ r.inspected)
    (hw : w ∈ ((Exceptions.ofSettings ss).1.forRule r x).1.excluded)
    (hname : Text.sameText w.fullName v.fullName = true) :
    v.isIn ((Exceptions.ofSettings ss).1.forRule r x).1.excluded = true ∧
      (v.ResolvesWithin r.info w ↔ v.ShowsWithin r.info w) := by
  obtain ⟨l, -, hread⟩ := Chain.references_of_mem_links hc hr
  have hvread := Variable.wellRead_of_ofList hread hv
  have hwread := (Exceptions.wellRead_ofSettings ss).excluded hw
  refine ⟨List.any_eq_true.2 ⟨w, hw, hname⟩, ?_⟩
  exact (Variable.sameParts_of_sameText hname).symm.resolvesWithin_iff hvread hwread r.info

/-- The targets of the head of a declared rule, and what the exceptions exclude for it. -/
def aims (s : RuleSettings) (ss : List ExceptionSettings) (x : Exchange) :
    Option (List Variable × List Variable) :=
  (Chain.ofSettings .empty s).toOption.map fun c =>
    (c.head.inspected, ((Exceptions.ofSettings ss).1.forRule c.head x).1.excluded)

theorem exists_chain_of_aims {s : RuleSettings} {ss : List ExceptionSettings} {x : Exchange}
    {targets excluded : List Variable} (h : aims s ss x = some (targets, excluded)) :
    ∃ c, Chain.ofSettings .empty s = .ok c ∧ c.head.inspected = targets ∧
      ((Exceptions.ofSettings ss).1.forRule c.head x).1.excluded = excluded := by
  obtain ⟨c, hc, haims⟩ := exists_ok_of_map h
  obtain ⟨htargets, hexcluded⟩ := Prod.mk.inj haims
  exact ⟨c, hc, htargets, hexcluded⟩

/-- A rule with one target. -/
def aimedAt (reference : String) : RuleSettings := ⟨{ id := 7, references := [reference] }, []⟩

/-- An exception for that rule. -/
def sparing (reference : String) : ExceptionSettings := { id := some 7, targets := [reference] }

/-- A transaction with the argument `name` and the text `HOME` of the environment. -/
def homeExchange : Exchange where
  tx :=
    { (Transaction.new "t" 0 .empty).learn (·.withQuery "name=bob") with
      environment := .ofList [("HOME", "/root")] }
  shelf := .empty
  now := 0

/-- What is seen of the targets of a rule, each with whether it is dropped, and what is seen of the
variables that the exceptions exclude. -/
def sightings (s : RuleSettings) (ss : List ExceptionSettings) (x : Exchange) :
    Option (List (Bool × List Value) × List (List Value)) :=
  (aims s ss x).map fun p =>
    (p.1.map fun v => (v.isIn p.2, (v.evaluate { id := 7 } x).1),
      p.2.map fun w => (w.evaluate { id := 7 } x).1)

/-- Keys without digits are dropped for the sake of keys of digits, and the text `HOME` for the sake
of the text `home`; what is dropped is seen, what is excluded does not exist. -/
theorem dropped_undenoted :
    sightings (aimedAt "ARGS:/^\\D+$/") [sparing "!ARGS:/^\\d+$/"] homeExchange =
        some ([(true, [⟨"ARGS", "name", "bob", [⟨5, 3⟩]⟩])], [[]]) ∧
      sightings (aimedAt "ENV:HOME") [sparing "!ENV:home"] homeExchange =
        some ([(true, [.keyed "ENV" "HOME" "/root"])], [[]]) := by
  decide +kernel

/-- The argument `id` is dropped for the sake of the argument `ID`, which denotes it. -/
theorem dropped_target_denoted_id :
    ∃ c, Chain.ofSettings .empty (aimedAt "ARGS:id") = .ok c ∧
      (Variable.set .args (.key "id") .none).isIn
        ((Exceptions.ofSettings [sparing "!ARGS:ID"]).1.forRule c.head homeExchange).1.excluded =
          true ∧
      Variable.ResolvesWithin c.head.info (.set .args (.key "id") .none)
        (.set .args (.key "ID") .none) := by
  have haims : aims (aimedAt "ARGS:id") [sparing "!ARGS:ID"] homeExchange =
      some ([.set .args (.key "id") .none], [.set .args (.key "ID") .none]) := by
    decide +kernel
  obtain ⟨c, hc, htargets, hexcluded⟩ := exists_chain_of_aims haims
  obtain ⟨hdropped, hiff⟩ := dropped_target_denoted_iff (v := .set .args (.key "id") .none)
    (w := .set .args (.key "ID") .none) hc (List.mem_cons_self ..)
    (by rw [htargets]; exact List.mem_singleton_self _)
    (by rw [hexcluded]; exact List.mem_singleton_self _) (by decide +kernel)
  refine ⟨c, hc, hdropped, hiff.2 fun key hkey => ?_⟩
  exact Text.sameText_trans hkey (by decide +kernel)

end Rampart
