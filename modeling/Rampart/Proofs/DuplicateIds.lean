import Rampart.Proofs.DeclaredIds
import Rampart.Proofs.LoadErrors
import Rampart.Settings.Validation

/-!
# Duplicate ids

Two parts look for rules with the same id. Loading refuses a chain whose id another has already, and
the id of a chain is the last that an action gives, or the one of the declaration. The check of the
fields compares the ids of the declarations and never looks at the actions.

Both walk down the list with the ids that they have met, and complain of none exactly if the ids of
the list differ from each other and from those in use.
-/

namespace Rampart

/-- The ids differ from each other and from those in use. -/
def FreshIds (used : Int → Prop) (ids : List Int) : Prop := ids.Nodup ∧ ∀ id ∈ ids, ¬ used id

theorem freshIds_nil {used : Int → Prop} : FreshIds used [] := ⟨List.nodup_nil, fun _ h => nomatch h⟩

theorem freshIds_cons {used : Int → Prop} {id : Int} {ids : List Int} :
    FreshIds used (id :: ids) ↔ ¬ used id ∧ FreshIds (fun n => used n ∨ id = n) ids := by
  unfold FreshIds
  rw [List.nodup_cons, List.forall_mem_cons]
  constructor
  · rintro ⟨⟨hnew, hnodup⟩, hid, hids⟩
    exact ⟨hid, hnodup, fun n hn hused => hused.elim (hids n hn) fun heq => hnew (heq ▸ hn)⟩
  · rintro ⟨hid, hnodup, hids⟩
    exact ⟨⟨fun hmem => hids id hmem (.inr rfl), hnodup⟩, hid, fun n hn hused => hids n hn (.inl hused)⟩

theorem freshIds_congr {used used' : Int → Prop} (h : ∀ id, used id ↔ used' id) (ids : List Int) :
    FreshIds used ids ↔ FreshIds used' ids := by
  unfold FreshIds
  simp only [h]

/-! ## The check of the fields -/

/-- The finding is an error that says that an id of a rule is a duplicate. -/
def Finding.reportsDuplicateId (f : Finding) : Bool :=
  f.gravity == .error && "Duplicate rule id".toList.isPrefixOf f.message.toList

namespace Check

/-- The ids that declarations give in their field. -/
def fieldIds (rs : List RuleSettings) : List Int := (rs.map (·.head.id)).filter (· ≠ 0)

/-- The findings say of no id that it is a duplicate. -/
def Silent (fs : List Finding) : Prop := fs.any (·.reportsDuplicateId) = false

theorem silent_iff {fs : List Finding} : Silent fs ↔ ∀ f ∈ fs, f.reportsDuplicateId = false := by
  unfold Silent
  simp only [List.any_eq_false, Bool.not_eq_true]

theorem silent_nil : Silent [] := rfl

theorem silent_append {fs gs : List Finding} : Silent (fs ++ gs) ↔ Silent fs ∧ Silent gs := by
  unfold Silent
  rw [List.any_append, Bool.or_eq_false_iff]

theorem silent_cons {f : Finding} {fs : List Finding} :
    Silent (f :: fs) ↔ f.reportsDuplicateId = false ∧ Silent fs := by
  unfold Silent
  rw [List.any_cons, Bool.or_eq_false_iff]

theorem silent_flatMap {α : Type} {as : List α} {f : α → List Finding} (h : ∀ a ∈ as, Silent (f a)) :
    Silent (as.flatMap f) := by
  refine silent_iff.2 fun g hg => ?_
  obtain ⟨a, ha, hg⟩ := List.mem_flatMap.1 hg
  exact silent_iff.1 (h a ha) g hg

/-- An error whose message begins otherwise reports no duplicate. -/
theorem silent_error {field message : String} {fs : List Finding}
    (h : "Duplicate rule id".toList.isPrefixOf message.toList = false) (hfs : Silent fs) :
    Silent (.error field message :: fs) :=
  silent_cons.2 ⟨h, hfs⟩

theorem silent_warning {field message : String} {fs : List Finding} (hfs : Silent fs) :
    Silent (.warning field message :: fs) :=
  silent_cons.2 ⟨rfl, hfs⟩

theorem silent_engine (s : EngineSettings) : Silent (engine s) := by
  unfold engine
  split
  · exact silent_error (by decide +kernel) silent_nil
  · exact silent_nil

theorem silent_collectionNames (before names : List String) :
    Silent (collectionNames before names) := by
  induction names generalizing before with
  | nil => exact silent_nil
  | cons name names ih =>
      rw [collectionNames]
      dsimp only
      split
      · exact silent_error (by decide +kernel) (ih before)
      · split
        · exact silent_error (by decide +kernel) (ih before)
        · split
          · refine silent_error ?_ (ih before)
            rw [String.toList_append]
            rfl
          · exact ih (Text.upper name :: before)

theorem silent_linkPhase (field : String) (l : LinkSettings) : Silent (linkPhase field l) := by
  unfold linkPhase
  split
  · split
    · exact silent_nil
    · refine silent_error ?_ silent_nil
      rw [String.append_assoc, String.toList_append]
      rfl
  · exact silent_nil

theorem silent_exception (s : ExceptionSettings) (index : Nat) : Silent (exception s index) := by
  unfold exception
  refine silent_append.2 ⟨?_, ?_⟩
  · split
    · exact silent_nil
    · exact silent_error (by decide +kernel) silent_nil
  · split
    · exact silent_error (by decide +kernel) silent_nil
    · exact silent_nil

theorem silent_matchLog (s : MatchLogSettings) : Silent (matchLog s) := by
  unfold matchLog
  split
  · exact silent_warning silent_nil
  · exact silent_nil

/-- Nothing is said of a rule exactly if its id is not among the given ones. -/
theorem silent_rule (ids : List Int) (index : Nat) (r : RuleSettings) :
    Silent (rule ids index r) ↔ r.head.id ∉ ids := by
  unfold rule
  rw [silent_append, silent_append]
  have hlinks : Silent (r.links.flatMap (linkPhase (element "waf.rules" index))) :=
    silent_flatMap fun l _ => silent_linkPhase _ l
  have hvariables : Silent (if r.head.references.isEmpty &&
      r.head.operator != ({} : LinkSettings).operator then
        [.warning (element "waf.rules" index ++ ".variables")
          "Rule without variables matches once against an empty value"]
      else []) := by
    split
    · exact silent_warning silent_nil
    · exact silent_nil
  constructor
  · rintro ⟨⟨hid, -⟩, -⟩ hmem
    rw [if_pos (List.contains_iff_mem.2 hmem), silent_cons, Finding.error,
      Finding.reportsDuplicateId, String.toList_append] at hid
    exact Bool.false_ne_true hid.1.symm
  · intro hnew
    refine ⟨⟨?_, hlinks⟩, hvariables⟩
    rw [if_neg (mt List.contains_iff_mem.1 hnew)]
    exact silent_nil

/-- Nothing is said of rules exactly if the ids in their fields are fresh. -/
theorem silent_rulesFrom {ids : List Int} (hzero : 0 ∉ ids) (index : Nat) (rs : List RuleSettings) :
    Silent (rulesFrom ids index rs) ↔ FreshIds (· ∈ ids) (fieldIds rs) := by
  induction rs generalizing ids index with
  | nil => exact ⟨fun _ => freshIds_nil, fun _ => silent_nil⟩
  | cons r rs ih =>
      rw [rulesFrom, silent_append, silent_rule, fieldIds, List.map_cons, List.filter_cons]
      by_cases hid : r.head.id = 0
      · rw [if_pos hid, if_neg (by simpa using hid), ih hzero]
        exact and_iff_right (hid ▸ hzero)
      · have hzero' : (0 : Int) ∉ r.head.id :: ids :=
          fun hmem => (List.mem_cons.1 hmem).elim (fun heq => hid heq.symm) hzero
        rw [if_neg hid, if_pos (by simpa using hid), ih hzero', freshIds_cons]
        refine and_congr_right' (freshIds_congr (fun id => ?_) _)
        rw [List.mem_cons, or_comm, eq_comm]

/-- **The check of the fields reports no duplicate exactly if the ids in the fields differ.** -/
theorem silent_fields (s : Settings) :
    Silent (fields s) ↔ (fieldIds s.rules.rules).Nodup := by
  have hrules : Silent (rules s.rules) ↔ (fieldIds s.rules.rules).Nodup := by
    unfold rules
    rw [silent_append, silent_rulesFrom List.not_mem_nil]
    have hremoved : Silent ((s.rules.removedIds.filter fun id =>
        !((s.rules.rules.map (·.head.id)).filter (· ≠ 0)).contains id).map fun id =>
          Finding.warning "waf.remove_rule_ids"
            ("Rule " ++ Text.decimal id ++ " is removed but never defined")) := by
      refine silent_iff.2 fun f hf => ?_
      obtain ⟨id, -, rfl⟩ := List.mem_map.1 hf
      rfl
    exact ⟨fun h => h.1.1, fun h => ⟨⟨h, fun _ _ hmem => nomatch hmem⟩, hremoved⟩⟩
  unfold fields
  rw [silent_append, silent_append, silent_append, silent_append, hrules]
  exact ⟨fun h => h.1.1.2, fun h => ⟨⟨⟨⟨silent_engine _, silent_collectionNames _ _⟩, h⟩,
    silent_flatMap fun e _ => silent_exception e.1 e.2⟩, silent_matchLog _⟩⟩

end Check

/-! ## Loading -/

/-- The declaration by itself is read as a chain with an id. -/
def RuleSettings.Compiles (files : FileTree) (r : RuleSettings) : Prop :=
  ∃ c, Chain.ofSettings files r = .ok c ∧ c.id ≠ 0

/-- No exception is refused as a duplicate. -/
theorem ExceptionSettings.error?_ne_duplicate (s : ExceptionSettings) (id : Int) :
    s.error? ≠ some (RuleSet.duplicate id) := by
  unfold error?
  cases hadd : Exceptions.none.add s with
  | ok e => exact nofun
  | error e =>
      rintro ⟨⟩
      exact nomatch OfNoRule.exception s _ hadd

namespace RuleSet

variable {files : FileTree} {s : RuleSet}

/-- A chain with an id is refused as a duplicate or taken. -/
theorem fate_of_compiles {r : RuleSettings} (h : r.Compiles files) :
    (s.contains r.head.readId = true ∧
        (loader files []).fate s r = .rejected (duplicate r.head.readId)) ∨
      (s.contains r.head.readId = false ∧
        ∃ c, c.id = r.head.readId ∧ (loader files []).fate s r = .loaded c) := by
  obtain ⟨c, hc, hzero⟩ := h
  rw [← Chain.id_of_ofSettings hc]
  rcases s.add_cases c with ⟨-, hid⟩ | ⟨hadd, hold, -⟩ | ⟨hadd, hnew, -⟩
  · exact absurd hid hzero
  · exact .inl ⟨hold, by simp [loader, hc, hadd]⟩
  · exact .inr ⟨hnew, c, rfl, by simp [loader, hc, hadd]⟩

/-- No rule is refused as a duplicate exactly if the ids that the rules are read with are fresh. -/
theorem duplicate_notMem_iff {rs : List RuleSettings} (h : ∀ r ∈ rs, r.Compiles files) :
    (∀ id, duplicate id ∉ ((loader files []).fates s rs).filterMap Fate.error?) ↔
      FreshIds (s.contains · = true) (rs.map (·.head.readId)) := by
  induction rs generalizing s with
  | nil => exact ⟨fun _ => freshIds_nil, fun _ _ hmem => nomatch hmem⟩
  | cons r rs ih =>
      rw [List.forall_mem_cons] at h
      rw [Loader.fates, List.map_cons, freshIds_cons]
      rcases fate_of_compiles (s := s) h.1 with ⟨hold, hfate⟩ | ⟨hnew, c, hid, hfate⟩
      · rw [hfate, List.filterMap_cons_some (Fate.error?_rejected _)]
        exact ⟨fun hnone => absurd (List.mem_cons_self ..) (hnone r.head.readId),
          fun hfresh => absurd hold hfresh.1⟩
      · rw [hfate, List.filterMap_cons_none (Fate.error?_loaded _), Loader.after]
        refine (ih h.2).trans ?_
        rw [hnew, and_iff_right Bool.false_ne_true]
        refine freshIds_congr (fun id => ?_) _
        rw [← hid]
        exact contains_insert

/-- **Loading refuses no rule as a duplicate exactly if the ids that the rules are read with differ.** -/
theorem duplicate_notMem_ofSettings_iff {t : RuleSetSettings} (hremoved : t.removedIds = [])
    (h : ∀ r ∈ t.rules, r.Compiles files) :
    (∀ id, duplicate id ∉ (ofSettings files t).2) ↔ (t.rules.map (·.head.readId)).Nodup := by
  have herrors (id : Int) : duplicate id ∉ (ofSettings files t).2 ↔
      duplicate id ∉ ((loader files []).fates empty t.rules).filterMap Fate.error? := by
    rw [ofSettings_eq, RuleSetSettings.fates, hremoved, List.mem_append, not_or]
    refine and_iff_left fun hmem => ?_
    obtain ⟨s, -, hs⟩ := List.mem_filterMap.1 hmem
    exact s.error?_ne_duplicate id hs
  simp only [herrors]
  rw [duplicate_notMem_iff h]
  exact ⟨fun hfresh => hfresh.1, fun hnodup => ⟨hnodup, fun _ _ hused => nomatch hused⟩⟩

/--
**The two searches for duplicate ids.**

For rules that can be read by themselves with ids other than zero, and none of which is to be removed,
the check of the fields reports a duplicate exactly if two ids in the fields are the same, and loading
refuses one exactly if two of the ids are that the rules are read with. They agree if no action gives
a rule another id than its field.
-/
theorem duplicate_id_checks (files : FileTree) (s : Settings) (hremoved : s.rules.removedIds = [])
    (h : ∀ r ∈ s.rules.rules, r.Compiles files) :
    ((∃ f ∈ Check.run files s .basic, f.reportsDuplicateId = true) ↔
        ¬ (Check.fieldIds s.rules.rules).Nodup) ∧
      ((∃ id, duplicate id ∈ (ofSettings files s.rules).2) ↔
        ¬ (s.rules.rules.map (·.head.readId)).Nodup) ∧
      ((∀ r ∈ s.rules.rules, ∀ id ∈ r.head.givenIds.getLast?, id = r.head.id) →
        ((∃ f ∈ Check.run files s .basic, f.reportsDuplicateId = true) ↔
          ∃ id, duplicate id ∈ (ofSettings files s.rules).2)) := by
  have hchecked : (∃ f ∈ Check.run files s .basic, f.reportsDuplicateId = true) ↔
      ¬ (Check.fieldIds s.rules.rules).Nodup := by
    rw [← Check.silent_fields, Check.silent_iff]
    simp only [not_forall, Bool.not_eq_false, exists_prop]
    exact Iff.rfl
  have hloaded : (∃ id, duplicate id ∈ (ofSettings files s.rules).2) ↔
      ¬ (s.rules.rules.map (·.head.readId)).Nodup := by
    rw [← duplicate_notMem_ofSettings_iff hremoved h]
    simp only [not_forall, not_not]
  refine ⟨hchecked, hloaded, fun hplain => ?_⟩
  have hread (r : RuleSettings) (hr : r ∈ s.rules.rules) : r.head.readId = r.head.id := by
    rw [LinkSettings.readId]
    cases hgiven : r.head.givenIds.getLast? with
    | none => rfl
    | some id => exact hplain r hr id hgiven
  have hids : Check.fieldIds s.rules.rules = s.rules.rules.map (·.head.readId) := by
    rw [List.map_congr_left hread, Check.fieldIds]
    refine List.filter_eq_self.2 fun id hid => ?_
    obtain ⟨r, hr, rfl⟩ := List.mem_map.1 hid
    obtain ⟨c, hc, hzero⟩ := h r hr
    rw [Chain.id_of_ofSettings hc, hread r hr] at hzero
    simpa using hzero
  rw [hchecked, hloaded, hids]

/-- Settings with these rules alone. -/
def rulesOnly (rules : List LinkSettings) : Settings := { rules := { rules := rules.map (⟨·, []⟩) } }

/-- Whether every rule is read as a chain with an id can be computed. -/
theorem compiles_of_check {rs : List RuleSettings}
    (h : rs.all (fun r =>
      (Chain.ofSettings files r).toOption.any fun c => decide (c.id ≠ 0)) = true) :
    ∀ r ∈ rs, r.Compiles files := by
  intro r hr
  have hr := List.all_eq_true.1 h r hr
  cases hc : Chain.ofSettings files r with
  | error e =>
      rw [hc] at hr
      cases hr
  | ok c =>
      rw [hc] at hr
      exact ⟨c, hc, of_decide_eq_true hr⟩

/-- Two rules have the id 5, one of which gives it in an action too. -/
def fiveTwice : Settings := rulesOnly [{ id := 5 }, { id := 6 }, { id := 5, actions := ["id:5"] }]

/-- Both searches find the id that two rules have. -/
theorem duplicate_id_checks_fiveTwice :
    fiveTwice.rules.removedIds = [] ∧ (∀ r ∈ fiveTwice.rules.rules, r.Compiles .empty) ∧
      (∃ f ∈ Check.run .empty fiveTwice .basic, f.reportsDuplicateId = true) ∧
      ∃ id, duplicate id ∈ (ofSettings .empty fiveTwice.rules).2 := by
  have hcompiles : ∀ r ∈ fiveTwice.rules.rules, r.Compiles .empty :=
    compiles_of_check (by decide +kernel)
  obtain ⟨hchecked, hloaded, -⟩ := duplicate_id_checks .empty fiveTwice rfl hcompiles
  exact ⟨rfl, hcompiles, hchecked.2 (by decide +kernel), hloaded.2 (by decide +kernel)⟩

/-- Actions give two rules the same id. -/
def givenTwice : Settings :=
  rulesOnly [{ id := 1, actions := ["id:5"] }, { id := 2, actions := ["id:5"] }]

/-- Of two rules with the same id in the field, an action gives one another. -/
def regivenOnce : Settings := rulesOnly [{ id := 5 }, { id := 5, actions := ["id:6"] }]

/-- Only loading finds the id that actions give twice, and only the check of the fields complains of
rules that loading tells apart. -/
theorem duplicate_id_checks_differ :
    ((∀ r ∈ givenTwice.rules.rules, r.Compiles .empty) ∧
        Check.run .empty givenTwice .basic = [] ∧
        (ofSettings .empty givenTwice.rules).2 = [duplicate 5]) ∧
      ((∀ r ∈ regivenOnce.rules.rules, r.Compiles .empty) ∧
        Check.run .empty regivenOnce .basic = [.error "waf.rules[1].id" "Duplicate rule id: 5"] ∧
        (ofSettings .empty regivenOnce.rules).2 = []) ∧
      ¬ ∀ s : Settings, s.rules.removedIds = [] → (∀ r ∈ s.rules.rules, r.Compiles .empty) →
        ((∃ f ∈ Check.run .empty s .basic, f.reportsDuplicateId = true) ↔
          ∃ id, duplicate id ∈ (ofSettings .empty s.rules).2) := by
  have hcompiles : ∀ r ∈ givenTwice.rules.rules, r.Compiles .empty :=
    compiles_of_check (by decide +kernel)
  have hsilent : Check.run .empty givenTwice .basic = [] := by decide +kernel
  have hrefused : (ofSettings .empty givenTwice.rules).2 = [duplicate 5] := by decide +kernel
  refine ⟨⟨hcompiles, hsilent, hrefused⟩,
    ⟨compiles_of_check (by decide +kernel), by decide +kernel, by decide +kernel⟩, fun hagree => ?_⟩
  obtain ⟨f, hf, -⟩ := (hagree givenTwice rfl hcompiles).2 ⟨5, hrefused ▸ List.mem_singleton_self _⟩
  rw [hsilent] at hf
  cases hf

end RuleSet

end Rampart
