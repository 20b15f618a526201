import Rampart.Proofs.Disguise
import Rampart.Proofs.EmptiedTargets
import Rampart.Proofs.Retargeting

/-!
# More exclusions, fewer matches

Exceptions that only exclude, and targets that are put out of force, take values from what a rule
inspects and never give it one. Two evaluations of a rule that differ in these alone resolve the same
variables to the same values and put the same tests to them, since neither looks at decisions. So
where nothing has expired, a rule that does not match goes on not matching when more is excluded. That
holds of rules without targets too: they ask neither exceptions nor overrides.
-/

namespace Rampart

/-! ## Reads do not look at overrides -/

/-- The exchange with other overrides. -/
def Exchange.withOverrides (x : Exchange) (o : Overrides) : Exchange :=
  x.update fun t => t.decide fun d => { d with overrides := o }

/-- The progress with other overrides. -/
def Progress.withOverrides (p : Progress) (o : Overrides) : Progress :=
  { p with exchange := p.exchange.withOverrides o }

section Reads

variable (o : Overrides)

/-- Other overrides are a disguise that suits every exchange. -/
theorem suits_overrides (x : Exchange) :
    Disguise.Suits ⟨fun d => { d with overrides := o }, id⟩ x := .inl rfl

theorem variable_withOverrides (r : RuleInfo) (v : Variable) (x : Exchange) :
    v.evaluate r (x.withOverrides o) = ((v.evaluate r x).1, (v.evaluate r x).2.withOverrides o) :=
  variable_under (suits_overrides o x) r v

theorem accepts_withOverrides (r : Rule) (x : Exchange) (text : String) :
    r.accepts (x.withOverrides o) text = r.accepts x text := by
  have htest := congrArg Prod.fst (test_under (suits_overrides o x) r.test r.info r.capture text)
  exact congrArg Verdict.matched htest

theorem forRule_withOverrides (e : Exceptions) (r : Rule) (x : Exchange) :
    (e.forRule r (x.withOverrides o)).1 = (e.forRule r x).1 := by
  have hretargeting := congrArg Prod.fst (forRule_under (suits_overrides o x) e r)
  exact hretargeting

end Reads

/-! ## Tightening -/

/-- Targets that were out of force stay so. -/
structure Overrides.Tightens (o o' : Overrides) : Prop where
  byId : o.targetsById ⊆ o'.targetsById
  byTag : o.targetsByTag ⊆ o'.targetsByTag

theorem Overrides.Tightens.removesTarget {o o' : Overrides} (h : o.Tightens o') {id : Int}
    {tags : List String} {target : String} (hout : o.removesTarget id tags target = true) :
    o'.removesTarget id tags target = true := by
  unfold Overrides.removesTarget at hout ⊢
  rw [Bool.or_eq_true] at hout ⊢
  rcases hout with hout | hout
  · obtain ⟨t, ht, hsame⟩ := List.any_eq_true.1 hout
    exact .inl (List.any_eq_true.2 ⟨t, h.byId ht, hsame⟩)
  · obtain ⟨t, ht, hsame⟩ := List.any_eq_true.1 hout
    exact .inr (List.any_eq_true.2 ⟨t, h.byTag ht, hsame⟩)

/-- More is excluded, and nothing is added. -/
structure Retargeting.Tightens (t t' : Retargeting) : Prop where
  excluded : t.excluded ⊆ t'.excluded
  added : t'.added ⊆ t.added

/-- A list of exceptions with more of them, of which each new one has targets to exclude only. -/
structure TightensList {α : Type} (ts ts' : List (α × List Variable)) : Prop where
  kept : ts ⊆ ts'
  excluding : ∀ t ∈ ts', t ∈ ts ∨ ∀ v ∈ t.2, ∃ b, v = .exclusion b

namespace TightensList

variable {α : Type} {ts ts' ts'' : List (α × List Variable)}

theorem refl (ts : List (α × List Variable)) : TightensList ts ts :=
  ⟨List.Subset.refl ts, fun _ ht => .inl ht⟩

theorem trans (h : TightensList ts ts') (h' : TightensList ts' ts'') : TightensList ts ts'' where
  kept := List.Subset.trans h.kept h'.kept
  excluding := by
    intro t ht
    rcases h'.excluding t ht with ht | hnew
    · exact h.excluding t ht
    · exact .inr hnew

theorem concat (ts : List (α × List Variable)) (a : α) {vs : List Variable}
    (hvs : ∀ v ∈ vs, ∃ b, v = .exclusion b) : TightensList ts (ts ++ [(a, vs)]) where
  kept := List.subset_append_left ts _
  excluding := by
    intro t ht
    rcases List.mem_append.1 ht with ht | ht
    · exact .inl ht
    · rw [List.mem_singleton.1 ht]
      exact .inr hvs

end TightensList

namespace Exceptions

/-- The exceptions are there and some more, which have targets to exclude only. -/
structure Tightens (e e' : Exceptions) : Prop where
  byTag : TightensList e.byTag e'.byTag
  byMessage : TightensList e.byMessage e'.byMessage
  byId : TightensList e.byId e'.byId

namespace Tightens

variable {e e' e'' : Exceptions}

theorem refl (e : Exceptions) : e.Tightens e := ⟨.refl _, .refl _, .refl _⟩

theorem trans (h : e.Tightens e') (h' : e'.Tightens e'') : e.Tightens e'' :=
  ⟨h.byTag.trans h'.byTag, h.byMessage.trans h'.byMessage, h.byId.trans h'.byId⟩

variable {r : RuleInfo} {message : Option String} {v : Variable}

theorem targets (h : e.Tightens e') (hv : e.Targets r message v) : e'.Targets r message v := by
  obtain ⟨targets, hmem, hselected⟩ := hv
  refine ⟨targets, hmem, ?_⟩
  rcases hselected with ⟨tag, htargets, htag⟩ | ⟨text, htargets, htext⟩ | htargets
  · exact .inl ⟨tag, h.byTag.kept htargets, htag⟩
  · exact .inr (.inl ⟨text, h.byMessage.kept htargets, htext⟩)
  · exact .inr (.inr (h.byId.kept htargets))

/-- A target that adds something was there before. -/
theorem targets_of_added (h : e.Tightens e') (hv : e'.Targets r message v)
    (hadds : v.exclusionBase? = .none) : e.Targets r message v := by
  obtain ⟨targets, hmem, hselected⟩ := hv
  have hold (hnew : ∀ w ∈ targets, ∃ b, w = .exclusion b) : False := by
    obtain ⟨b, rfl⟩ := hnew v hmem
    cases hadds
  refine ⟨targets, hmem, ?_⟩
  rcases hselected with ⟨tag, htargets, htag⟩ | ⟨text, htargets, htext⟩ | htargets
  · exact .inl ⟨tag, (h.byTag.excluding _ htargets).resolve_right hold, htag⟩
  · exact .inr (.inl ⟨text, (h.byMessage.excluding _ htargets).resolve_right hold, htext⟩)
  · exact .inr (.inr ((h.byId.excluding _ htargets).resolve_right hold))

theorem forRule (h : e.Tightens e') (r : Rule) (x : Exchange) :
    (e.forRule r x).1.Tightens (e'.forRule r x).1 where
  excluded := fun _ hv => mem_excluded_iff.2 (h.targets (mem_excluded_iff.1 hv))
  added := by
    intro v hv
    obtain ⟨htargets, hadds⟩ := mem_added_iff.1 hv
    exact mem_added_iff.2 ⟨h.targets_of_added htargets hadds, hadds⟩

end Tightens

/-! ## Declared exceptions -/

theorem exclusion_of_targetsOf {references : List String} {vs : List Variable}
    (hex : ∀ reference ∈ references, Variable.Excludes reference)
    (h : targetsOf references = .ok vs) : ∀ v ∈ vs, ∃ b, v = .exclusion b := by
  unfold targetsOf at h
  split at h
  · cases h
  · intro v hv
    obtain ⟨reference, hmem, hread⟩ := exists_of_mem_mapM h hv
    obtain ⟨rest, hrest⟩ := List.head?_eq_some_iff.1 (hex reference hmem)
    unfold Variable.ofText at hread
    rw [Variable.ofChars_of_exclamation hrest] at hread
    obtain ⟨b, -, hb⟩ := map_eq_ok.1 hread
    exact ⟨b, hb.symm⟩

/-- A declaration of exclusions tightens the exceptions, also if it cannot be read. -/
theorem tightens_load (acc : Exceptions × List Error) {s : ExceptionSettings}
    (hex : ∀ reference ∈ s.targets, Variable.Excludes reference) :
    acc.1.Tightens (load acc s).1 := by
  unfold load
  split
  · rename_i e' hadd
    unfold add at hadd
    split at hadd
    · obtain ⟨vs, hvs, rfl⟩ := map_eq_ok.1 hadd
      exact ⟨.concat _ _ (exclusion_of_targetsOf hex hvs), .refl _, .refl _⟩
    · obtain ⟨vs, hvs, rfl⟩ := map_eq_ok.1 hadd
      exact ⟨.refl _, .concat _ _ (exclusion_of_targetsOf hex hvs), .refl _⟩
    · obtain ⟨vs, hvs, rfl⟩ := map_eq_ok.1 hadd
      exact ⟨.refl _, .refl _, .concat _ _ (exclusion_of_targetsOf hex hvs)⟩
    · cases hadd
  · exact .refl _

theorem tightens_ofSettings (ss : List ExceptionSettings) {more : List ExceptionSettings}
    (hex : ∀ s ∈ more, ∀ reference ∈ s.targets, Variable.Excludes reference) :
    (ofSettings ss).1.Tightens (ofSettings (ss ++ more)).1 := by
  unfold ofSettings
  rw [List.foldl_append]
  generalize ss.foldl load (none, []) = acc
  induction more generalizing acc with
  | nil => exact .refl _
  | cons s more ih =>
      have hfirst := tightens_load acc (hex s List.mem_cons_self)
      exact hfirst.trans (ih (fun t ht => hex t (List.mem_cons_of_mem s ht)) _)

end Exceptions

/-! ## Rules -/

namespace Rule

variable {r : Rule} {t t' : Retargeting} {o o' : Overrides}

theorem passesOver_of_tightens (ht : t.Tightens t') (ho : o.Tightens o') {v : Value}
    (h : r.passesOver t o v = true) : r.passesOver t' o' v = true := by
  unfold passesOver at h ⊢
  rw [Bool.or_eq_true] at h ⊢
  rcases h with hexcluded | hremoved
  · obtain ⟨b, hb, hdenotes⟩ := List.any_eq_true.1 hexcluded
    exact .inl (List.any_eq_true.2 ⟨b, ht.excluded hb, hdenotes⟩)
  · exact .inr (ho.removesTarget hremoved)

theorem mem_targets_of_tightens (ht : t.Tightens t') (ho : o.Tightens o') {v : Variable}
    (hv : v ∈ r.targets t' o') : v ∈ r.targets t o := by
  rcases List.mem_append.1 hv with hv | hv
  · obtain ⟨hmem, hkept⟩ := List.mem_filter.1 hv
    rw [Bool.and_eq_true, Bool.not_eq_true', Bool.not_eq_true'] at hkept
    obtain ⟨hin, hremoved⟩ := hkept
    refine List.mem_append_left _ (List.mem_filter.2 ⟨hmem, ?_⟩)
    have hin' : v.isIn t.excluded = false := by
      refine Bool.eq_false_iff.2 fun h => Bool.eq_false_iff.1 hin ?_
      obtain ⟨b, hb, hsame⟩ := List.any_eq_true.1 h
      exact List.any_eq_true.2 ⟨b, ht.excluded hb, hsame⟩
    have hremoved' : r.isTargetRemoved o v.fullName = false :=
      Bool.eq_false_iff.2 fun h => Bool.eq_false_iff.1 hremoved (ho.removesTarget h)
    rw [hin', hremoved']
    rfl
  · exact List.mem_append_right _ (ht.added hv)

/-- What hits a rule for which more is excluded hits it for which less is. -/
theorem hitsVariable_of_tightens (ht : t.Tightens t') (ho : o.Tightens o') {x : Exchange}
    {v : Variable} (h : r.hitsVariable t' (x.withOverrides o') v = true) :
    r.hitsVariable t (x.withOverrides o) v = true := by
  unfold hitsVariable at h ⊢
  rw [variable_withOverrides] at h ⊢
  obtain ⟨value, hvalue, hit⟩ := List.any_eq_true.1 h
  refine List.any_eq_true.2 ⟨value, hvalue, ?_⟩
  unfold hitsValue at hit ⊢
  simp only [accepts_withOverrides] at hit ⊢
  obtain ⟨hkept, haccepts⟩ := Bool.and_eq_true_iff.1 hit
  rw [haccepts, Bool.and_true, Bool.not_eq_true']
  rw [Bool.not_eq_true'] at hkept
  exact Bool.eq_false_iff.2 fun hover =>
    Bool.eq_false_iff.1 hkept (passesOver_of_tightens ht ho hover)

/-- **Excluding more never makes a rule match**: what does not match under some exceptions and
overrides does not match under tighter ones. -/
theorem unmatched_of_tightens (r : Rule) {e e' : Exceptions} {p : Progress} (hx : p.exchange.Fresh)
    (he : e.Tightens e') (ho : o.Tightens o')
    (hno : (r.evaluate e (p.withOverrides o)).1 = false) :
    (r.evaluate e' (p.withOverrides o')).1 = false := by
  have hfresh (q : Overrides) : (p.withOverrides q).exchange.Fresh := ⟨hx.own, hx.shared⟩
  by_cases hnone : r.inspected = []
  · -- without targets there is only the test of the empty text
    have hempty (q : Overrides) :
        r.accepts (p.withOverrides q).exchange "" = r.accepts p.exchange "" :=
      accepts_withOverrides q r p.exchange ""
    rw [evaluate_of_no_targets hnone, hempty] at hno ⊢
    exact hno
  · have hsame (q : Overrides) (d : Exceptions) :
        (d.forRule r (p.withOverrides q).exchange).1 = (d.forRule r p.exchange).1 :=
      forRule_withOverrides q d r p.exchange
    rw [evaluate_of_targets (hfresh o) hnone, hsame, List.any_eq_false] at hno
    rw [evaluate_of_targets (hfresh o') hnone, hsame, List.any_eq_false]
    intro v hv hit
    have ht := he.forRule r p.exchange
    exact hno v (mem_targets_of_tightens ht ho hv) (hitsVariable_of_tightens ht ho hit)

/-- A rule that an exception and a decision leave nothing to inspect still does not match. -/
theorem unmatched_of_tightens_notBob :
    ∃ c, Chain.ofSettings .empty (notBob ["ARGS"]) = .ok c ∧
      let p := Progress.start bobExchange c
      let e (ss : List ExceptionSettings) := (Exceptions.ofSettings ss).1
      let leaveArgs : ExceptionSettings := { id := some 0, targets := ["!ARGS"] }
      let o := Overrides.none.removeTargetByTag "login" "ARGS:name"
      (c.head.evaluate (e []) (p.withOverrides .none)).1 = false ∧
        (c.head.evaluate (e [leaveArgs]) (p.withOverrides o)).1 = false := by
  have hcheck : (Chain.ofSettings .empty (notBob ["ARGS"])).toOption.map (fun c =>
      (c.head.evaluate (Exceptions.ofSettings []).1
        ((Progress.start bobExchange c).withOverrides .none)).1) = some false := by
    decide +kernel
  obtain ⟨c, hc, hno⟩ := exists_ok_of_map hcheck
  refine ⟨c, hc, hno, ?_⟩
  refine unmatched_of_tightens c.head bobExchange_fresh (Exceptions.tightens_ofSettings [] ?_) ?_ hno
  · unfold Variable.Excludes
    decide +kernel
  · exact ⟨List.nil_subset _, List.nil_subset _⟩

end Rule

end Rampart
