import Rampart.Proofs.Reference

/-!
# What the exclusions of a list of targets come to

An exclusion removes the entries of its name or has them leave out keys, wherever in the list it
stands. So the entries of a list with one more exclusion are entries of the list without it, each
leaving out at least as much, and an entry that was told to leave out keys goes on doing so.
-/

namespace Rampart

/-! ## Keys that are left out -/

/-- Whatever is passed over is passed over after the change. -/
def Exclusions.Within (e e' : Exclusions) : Prop := ∀ key, e.omits key = true → e'.omits key = true

namespace Selector

/-- The selector selects the key. -/
def selects : Selector → String → Bool
  | all, _ => true
  | key k, name => Text.sameText k name
  | pattern p, name => p.isMatch name

theorem within_addTo (sel : Selector) (e : Exclusions) : e.Within (sel.addTo e) := by
  intro name h
  cases sel with
  | all => exact h
  | key k => rw [addTo, Exclusions.omits_addKey, h, Bool.true_or]
  | pattern p => rw [addTo, Exclusions.omits_addPattern, h, Bool.true_or]

theorem omits_addTo_of_selects {sel : Selector} (hsel : sel ≠ .all) (e : Exclusions) {name : String}
    (h : sel.selects name = true) : (sel.addTo e).omits name = true := by
  cases sel with
  | all => exact absurd rfl hsel
  | key k =>
      have hk : Text.sameText k name = true := h
      rw [addTo, Exclusions.omits_addKey, hk, Bool.or_true]
  | pattern p =>
      have hp : p.isMatch name = true := h
      rw [addTo, Exclusions.omits_addPattern, hp, Bool.or_true]

theorem addTo_mono (sel : Selector) {e e' : Exclusions} (h : e.Within e') :
    (sel.addTo e).Within (sel.addTo e') := by
  intro name hname
  cases sel with
  | all => exact h name hname
  | key k =>
      rw [addTo, Exclusions.omits_addKey, Bool.or_eq_true] at hname ⊢
      exact hname.imp_left (h name)
  | pattern p =>
      rw [addTo, Exclusions.omits_addPattern, Bool.or_eq_true] at hname ⊢
      exact hname.imp_left (h name)

end Selector

namespace Variable

/-- The same variable, leaving out at least as much. -/
inductive Narrows : Variable → Variable → Prop where
  | set (s : SetSource) (sel : Selector) {e e' : Exclusions} (h : e.Within e') :
      Narrows (.set s sel e') (.set s sel e)
  | names (s : SetSource) (sel : Selector) {e e' : Exclusions} (h : e.Within e') :
      Narrows (.names s sel e') (.names s sel e)
  | collection (c : CollectionName) (sel : Selector) {e e' : Exclusions} (h : e.Within e') :
      Narrows (.collection c sel e') (.collection c sel e)
  | env (key : Option String) {e e' : Exclusions} (h : e.Within e') :
      Narrows (.env key e') (.env key e)
  | count {b b' : Variable} (h : Narrows b' b) : Narrows (.count b') (.count b)
  | refl (v : Variable) : Narrows v v

namespace Narrows

variable {u v w : Variable}

theorem trans (h₁ : Narrows u v) (h₂ : Narrows v w) : Narrows u w := by
  induction h₁ generalizing w with
  | refl v => exact h₂
  | set s sel h =>
      cases h₂ with
      | set _ _ h' => exact .set s sel fun key hk => h key (h' key hk)
      | refl => exact .set s sel h
  | names s sel h =>
      cases h₂ with
      | names _ _ h' => exact .names s sel fun key hk => h key (h' key hk)
      | refl => exact .names s sel h
  | collection c sel h =>
      cases h₂ with
      | collection _ _ h' => exact .collection c sel fun key hk => h key (h' key hk)
      | refl => exact .collection c sel h
  | env key h =>
      cases h₂ with
      | env _ h' => exact .env key fun key hk => h key (h' key hk)
      | refl => exact .env key h
  | count h ih =>
      cases h₂ with
      | count h' => exact .count (ih h')
      | refl => exact .count h

theorem name_eq (h : Narrows v w) : v.name = w.name := by
  induction h with
  | count h ih => exact ih
  | _ => rfl

theorem fullName_eq (h : Narrows v w) : v.fullName = w.fullName := by
  induction h with
  | count h ih => exact congrArg ("&" ++ ·) ih
  | _ => rfl

theorem wellRead (h : Narrows v w) (hw : w.WellRead) : v.WellRead := by
  induction h with
  | count h ih => exact ih hw
  | _ => exact hw

theorem unmarked (h : Narrows v w) (hw : w.Unmarked) : v.Unmarked := by
  cases h with
  | count h => exact hw
  | refl => exact hw
  | _ => trivial

theorem exclude (h : Narrows v w) (sel : Selector) : Narrows (v.exclude sel) (w.exclude sel) := by
  induction h with
  | set s own h => exact .set s own (sel.addTo_mono h)
  | names s own h => exact .names s own (sel.addTo_mono h)
  | collection c own h => exact .collection c own (sel.addTo_mono h)
  | env key h => exact .env key (sel.addTo_mono h)
  | count h ih => exact .count ih
  | refl v => exact .refl _

end Narrows

theorem narrows_exclude (v : Variable) (sel : Selector) : Narrows (v.exclude sel) v := by
  induction v with
  | set s own e => exact .set s own (sel.within_addTo e)
  | names s own e => exact .names s own (sel.within_addTo e)
  | collection c own e => exact .collection c own (sel.within_addTo e)
  | env key e => exact .env key (sel.within_addTo e)
  | count b ih => exact .count ih
  | single s => exact .refl _
  | time f => exact .refl _
  | rule key => exact .refl _
  | exclusion b => exact .refl _

/-! ## One exclusion -/

/-- What an exclusion of keys of the variables of a name makes of one variable. -/
def spared (name : String) (sel : Selector) (v : Variable) : Option Variable :=
  if Text.sameText v.name name then
    match sel with
    | .all => none
    | _ => some (v.exclude sel)
  else some v

theorem leaveOut_eq_filterMap (vs : List Variable) (name : String) (sel : Selector) :
    leaveOut vs name sel = vs.filterMap (spared name sel) := by
  -- an exclusion of every key filters the list, any other one maps it
  induction vs with
  | nil => cases sel <;> rfl
  | cons v vs ih =>
      rw [List.filterMap_cons, ← ih]
      unfold spared leaveOut
      cases sel with
      | all =>
          rw [List.filter_cons]
          cases Text.sameText v.name name <;> rfl
      | key k =>
          rw [List.map_cons]
          cases Text.sameText v.name name <;> rfl
      | pattern p =>
          rw [List.map_cons]
          cases Text.sameText v.name name <;> rfl

theorem narrows_of_spared {name : String} {sel : Selector} {v w : Variable}
    (h : spared name sel v = some w) : Narrows w v := by
  unfold spared at h
  split at h
  · split at h
    · cases h
    · cases h
      exact v.narrows_exclude sel
  · cases h
    exact .refl v

/-- An exclusion makes less of what leaves out more. -/
theorem Narrows.spared {name : String} {sel : Selector} {v w v' : Variable} (h : Narrows v w)
    (hv : spared name sel v = some v') : ∃ w', spared name sel w = some w' ∧ Narrows v' w' := by
  unfold Variable.spared at hv ⊢
  rw [h.name_eq] at hv
  split at hv
  · rename_i hname
    rw [if_pos hname]
    split at hv
    · cases hv
    · cases hv
      exact ⟨_, rfl, h.exclude sel⟩
  · rename_i hname
    rw [if_neg hname]
    cases hv
    exact ⟨w, rfl, h⟩

/-! ## Every exclusion of a list -/

/-- Each of the variables is one of the others, leaving out at least as much. -/
def Covered (vs ws : List Variable) : Prop := ∀ v ∈ vs, ∃ w ∈ ws, Narrows v w

/-- The variable that an entry asks to inspect. -/
def Target.inspected? : Target → Option Variable
  | .inspect v => some v
  | .leaveOut _ _ => none

/-- The variables after one entry of the list. -/
def strike (vs : List Variable) : Target → List Variable
  | .inspect _ => vs
  | .leaveOut name sel => leaveOut vs name sel

theorem ofTargets_eq (ts : List Target) :
    ofTargets ts = ts.foldl strike (ts.filterMap Target.inspected?) := rfl

theorem covered_strike (vs : List Variable) (t : Target) : Covered (strike vs t) vs := by
  intro v hv
  cases t with
  | inspect u => exact ⟨v, hv, .refl v⟩
  | leaveOut name sel =>
      rw [strike, leaveOut_eq_filterMap] at hv
      obtain ⟨w, hw, hspared⟩ := List.mem_filterMap.1 hv
      exact ⟨w, hw, narrows_of_spared hspared⟩

theorem Covered.strike {vs ws : List Variable} (h : Covered vs ws) (t : Target) :
    Covered (strike vs t) (strike ws t) := by
  intro v hv
  cases t with
  | inspect u => exact h v hv
  | leaveOut name sel =>
      rw [Variable.strike, leaveOut_eq_filterMap] at hv ⊢
      obtain ⟨v₀, hv₀, hspared⟩ := List.mem_filterMap.1 hv
      obtain ⟨w₀, hw₀, hnarrows⟩ := h v₀ hv₀
      obtain ⟨w, hw, hvw⟩ := hnarrows.spared hspared
      exact ⟨w, List.mem_filterMap.2 ⟨w₀, hw₀, hw⟩, hvw⟩

theorem Covered.foldl {vs ws : List Variable} (h : Covered vs ws) (ts : List Target) :
    Covered (ts.foldl Variable.strike vs) (ts.foldl Variable.strike ws) := by
  induction ts generalizing vs ws with
  | nil => exact h
  | cons t ts ih => exact ih (h.strike t)

theorem covered_foldl (vs : List Variable) (ts : List Target) :
    Covered (ts.foldl strike vs) vs := by
  induction ts generalizing vs with
  | nil => exact fun v hv => ⟨v, hv, .refl v⟩
  | cons t ts ih =>
      intro v hv
      obtain ⟨u, hu, hvu⟩ := ih (strike vs t) v hv
      obtain ⟨w, hw, huw⟩ := covered_strike vs t u hu
      exact ⟨w, hw, hvu.trans huw⟩

/-- **One more exclusion only narrows a list**, wherever it is put. -/
theorem covered_of_one_more (as bs : List Target) (name : String) (sel : Selector) :
    Covered (ofTargets (as ++ .leaveOut name sel :: bs)) (ofTargets (as ++ bs)) := by
  rw [ofTargets_eq, ofTargets_eq, List.filterMap_append, List.filterMap_append, List.foldl_append,
    List.foldl_append, List.foldl_cons]
  exact (covered_strike _ _).foldl bs

/-! ## Keys that an entry was told to leave out -/

/-- The variable passes over the keys of the selector if it can pass over keys at all. -/
def Heeds (sel : Selector) : Variable → Prop
  | set _ _ e => ∀ key, sel.selects key = true → e.omits key = true
  | names _ _ e => ∀ key, sel.selects key = true → e.omits key = true
  | collection _ _ e => ∀ key, sel.selects key = true → e.omits key = true
  | env _ e => ∀ key, sel.selects key = true → e.omits key = true
  | count b => b.Heeds sel
  | _ => True

theorem heeds_exclude {sel : Selector} (hsel : sel ≠ .all) (v : Variable) :
    (v.exclude sel).Heeds sel := by
  induction v with
  | set s own e => exact fun key => sel.omits_addTo_of_selects hsel e
  | names s own e => exact fun key => sel.omits_addTo_of_selects hsel e
  | collection c own e => exact fun key => sel.omits_addTo_of_selects hsel e
  | env key e => exact fun key => sel.omits_addTo_of_selects hsel e
  | count b ih => exact ih
  | single s => trivial
  | time f => trivial
  | rule key => trivial
  | exclusion b => trivial

theorem Narrows.heeds {sel : Selector} {v w : Variable} (h : Narrows v w) (hw : w.Heeds sel) :
    v.Heeds sel := by
  induction h with
  | set s own h => exact fun key hk => h key (hw key hk)
  | names s own h => exact fun key hk => h key (hw key hk)
  | collection c own h => exact fun key hk => h key (hw key hk)
  | env key h => exact fun key hk => h key (hw key hk)
  | count h ih => exact ih hw
  | refl v => exact hw

/-- **Whatever an exclusion of keys names leaves them out**, wherever in the list it stands. -/
theorem heeds_of_mem_ofTargets {ts : List Target} {name : String} {sel : Selector}
    (hsel : sel ≠ .all) (ht : .leaveOut name sel ∈ ts) {v : Variable} (hv : v ∈ ofTargets ts)
    (hname : Text.sameText v.name name = true) : v.Heeds sel := by
  -- cut the list at the exclusion: what it left behind heeds it, and what follows only narrows that
  obtain ⟨as, bs, rfl⟩ := List.append_of_mem ht
  rw [ofTargets_eq, List.foldl_append, List.foldl_cons] at hv
  obtain ⟨w, hw, hvw⟩ := covered_foldl _ bs v hv
  rw [strike, leaveOut_eq_filterMap] at hw
  obtain ⟨u, -, hspared⟩ := List.mem_filterMap.1 hw
  have hu : Text.sameText u.name name = true := by
    rw [← (narrows_of_spared hspared).name_eq, ← hvw.name_eq]
    exact hname
  unfold spared at hspared
  rw [if_pos hu] at hspared
  split at hspared
  · cases hspared
  · cases hspared
    exact hvw.heeds (heeds_exclude hsel u)

/-! ## Written lists -/

/-- The reference excludes: its first mark is an exclamation mark. -/
def Excludes (reference : String) : Prop := (Text.trimChars reference.toList).head? = some '!'

/-- The reference counts: its first mark is an ampersand. -/
def Counts (reference : String) : Prop := (Text.trimChars reference.toList).head? = some '&'

/-- An entry that excludes leaves out what is written behind its mark, which is valid itself. -/
theorem target_of_excludes {reference : String} {t : Target} (h : Excludes reference)
    (ht : Target.ofText reference = .ok t) :
    ∃ rest w sel, ofChars rest = .ok w ∧ Selector.ofText (splitReference rest).2 = .ok sel ∧
      t = .leaveOut (splitReference rest).1 sel := by
  obtain ⟨rest, hrest⟩ := List.head?_eq_some_iff.1 h
  -- the entry is read trimmed, and reading trims it again
  have htrimmed := Text.trimChars_trimChars reference.toList
  rw [hrest] at htrimmed
  unfold Target.ofText at ht
  rw [hrest] at ht
  dsimp only at ht
  rw [ofChars_of_exclamation htrimmed] at ht
  obtain ⟨_, hread, ht⟩ := bind_eq_ok.1 ht
  obtain ⟨w, hw, -⟩ := map_eq_ok.1 hread
  obtain ⟨sel, hsel, ht⟩ := bind_eq_ok.1 ht
  cases ht
  exact ⟨rest, w, sel, hw, hsel, rfl⟩

theorem target_of_not_excludes {reference : String} {t : Target} (h : ¬ Excludes reference)
    (ht : Target.ofText reference = .ok t) :
    ∃ v, ofChars (Text.trimChars reference.toList) = .ok v ∧ t = .inspect v := by
  unfold Target.ofText at ht
  dsimp only at ht
  split at ht
  · rename_i hrest
    exact absurd (congrArg List.head? hrest) h
  · obtain ⟨v, hv, rfl⟩ := map_eq_ok.1 ht
    exact ⟨v, hv, rfl⟩

theorem excludes_of_leaveOut {reference name : String} {sel : Selector}
    (h : Target.ofText reference = .ok (.leaveOut name sel)) : Excludes reference := by
  by_contra hno
  obtain ⟨v, -, hv⟩ := target_of_not_excludes hno h
  cases hv

/-- Nothing is written behind the name of a single text or a field of the time. -/
theorem eq_all_of_isFixed {reference name : String} {sel : Selector} {k : Kind}
    (h : Target.ofText reference = .ok (.leaveOut name sel))
    (hname : Text.sameText k.name name = true) (hk : k.IsFixed) : sel = .all := by
  obtain ⟨rest, w, sel', hw, hsel, ht⟩ := target_of_excludes (excludes_of_leaveOut h) h
  cases ht
  -- a second mark would be part of the name, and no kind has such a name
  have unmarked {c : Char} (hc : c = '!' ∨ c = '&') : (Text.trimChars rest).head? ≠ some c := by
    intro hhead
    obtain ⟨more, hmore⟩ := List.head?_eq_some_iff.1 hhead
    have hmark := head?_splitReference hc more
    rw [← hmore, splitReference_trimChars, ← Text.sameText_iff.1 hname] at hmark
    obtain ⟨d, ds, hd, hne⟩ := k.fold_name_eq_cons
    rw [hd] at hmark
    cases hmark
    rcases hc with rfl | rfl
    · exact hne.1 rfl
    · exact hne.2 rfl
  rw [ofChars_of_unmarked (unmarked (.inl rfl)) (unmarked (.inr rfl))] at hw
  have hread := readAs_of_ofPlain hw
  rw [splitReference_trimChars] at hread
  have hkind : w.kind = k := by
    refine (Kind.eq_of_sameText ?_).symm
    rw [hread.name]
    exact hname
  rw [hread.fixed (hkind ▸ hk)] at hsel
  cases hsel
  rfl

variable {references : List String} {vs : List Variable}

/-- Whatever a list is read as was asked for by an entry that does not exclude. -/
theorem exists_entry_of_mem_ofList (h : ofList references = .ok vs) {v : Variable} (hv : v ∈ vs) :
    ∃ reference ∈ references, ¬ Excludes reference ∧
      ∃ w, ofChars (Text.trimChars reference.toList) = .ok w ∧ Narrows v w := by
  obtain ⟨ts, hts, rfl⟩ := map_eq_ok.1 h
  rw [ofTargets_eq] at hv
  obtain ⟨w, hw, hvw⟩ := covered_foldl _ ts v hv
  obtain ⟨t, ht, hinspected⟩ := List.mem_filterMap.1 hw
  obtain ⟨reference, hreference, hread⟩ := exists_of_mem_mapM hts ht
  by_cases hex : Excludes reference
  · obtain ⟨rest, _, sel, -, -, rfl⟩ := target_of_excludes hex hread
    cases hinspected
  · obtain ⟨u, hu, rfl⟩ := target_of_not_excludes hex hread
    cases hinspected
    exact ⟨reference, hreference, hex, _, hu, hvw⟩

theorem wellRead_of_ofList (h : ofList references = .ok vs) {v : Variable} (hv : v ∈ vs) :
    v.WellRead := by
  obtain ⟨_, -, -, w, hw, hvw⟩ := exists_entry_of_mem_ofList h hv
  exact hvw.wellRead (wellRead_of_ofChars hw)

/-- A list without counts is read as variables without marks. -/
theorem unmarked_of_ofList (h : ofList references = .ok vs)
    (hcounts : ∀ reference ∈ references, ¬ Counts reference) {v : Variable} (hv : v ∈ vs) :
    v.Unmarked := by
  obtain ⟨reference, hreference, hex, w, hw, hvw⟩ := exists_entry_of_mem_ofList h hv
  have hcount := hcounts reference hreference
  unfold Excludes at hex
  unfold Counts at hcount
  rw [← Text.trimChars_trimChars] at hex hcount
  rw [ofChars_of_unmarked hex hcount] at hw
  exact hvw.unmarked (readAs_of_ofPlain hw).unmarked

theorem heeds_of_mem_ofList (h : ofList references = .ok vs) {reference name : String}
    {sel : Selector} (hreference : reference ∈ references)
    (ht : Target.ofText reference = .ok (.leaveOut name sel)) (hsel : sel ≠ .all) {v : Variable}
    (hv : v ∈ vs) (hname : Text.sameText v.name name = true) : v.Heeds sel := by
  obtain ⟨ts, hts, rfl⟩ := map_eq_ok.1 h
  exact heeds_of_mem_ofTargets hsel (mem_of_mapM hts hreference ht) hv hname

/-- **A list with one more exclusion is read as the list without it**, each of its variables leaving
out at least as much. -/
theorem covered_of_ofList {as bs : List String} {reference : String} {vs' : List Variable}
    (h : ofList (as ++ bs) = .ok vs) (h' : ofList (as ++ reference :: bs) = .ok vs')
    (hex : Excludes reference) : Covered vs' vs := by
  obtain ⟨ts, hts, rfl⟩ := map_eq_ok.1 h
  obtain ⟨ts', hts', rfl⟩ := map_eq_ok.1 h'
  -- the entries that the two lists share are read alike
  obtain ⟨as₁, bs₁, has, hbs, rfl⟩ := mapM_append_ok hts
  obtain ⟨as₂, cs, has', hcs, rfl⟩ := mapM_append_ok hts'
  obtain ⟨t, bs₂, ht, hbs', rfl⟩ := mapM_cons_ok hcs
  rw [has] at has'
  rw [hbs] at hbs'
  obtain rfl := Except.ok.inj has'
  obtain rfl := Except.ok.inj hbs'
  obtain ⟨_, _, sel, -, -, rfl⟩ := target_of_excludes hex ht
  exact covered_of_one_more as₁ bs₁ _ sel

end Variable

end Rampart
