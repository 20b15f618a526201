import Rampart.Collection.Registry
import Rampart.Settings.Validation

/-!
# The names of the shared collections

A check of the settings looks for names of collections that clash. It compares them in capitals, while
the registry that is made of them compares them in small letters, and replaces what it has under a name
that comes again. Both comparisons tell the same names apart, so the names that the check lets through
are those of which the registry keeps one collection each, in their order.
-/

namespace Rampart

/-! ## Capitals and small letters -/

namespace Text

/-- What holds of the letters of ASCII, and of characters without another case, holds of all. -/
theorem ascii_or_caseless (c : Char) :
    (∃ n < 128, c = Char.ofNat n) ∨ (c.toUpper = c ∧ c.toLower = c) := by
  by_cases hc : c.toNat < 128
  · exact .inl ⟨c.toNat, hc, (Char.ofNat_toNat c).symm⟩
  · refine .inr ⟨?_, ?_⟩
    · unfold Char.toUpper
      exact dif_neg fun hsmall => by
        have hz : c.toNat ≤ 122 := hsmall.2
        omega
    · unfold Char.toLower
      exact dif_neg fun hcapital => by
        have hz : c.toNat ≤ 90 := hcapital.2
        omega

theorem toLower_toUpper (c : Char) : c.toUpper.toLower = c.toLower := by
  have hascii : ∀ n < 128, (Char.ofNat n).toUpper.toLower = (Char.ofNat n).toLower := by
    decide +kernel
  rcases ascii_or_caseless c with ⟨n, hn, rfl⟩ | ⟨hupper, -⟩
  · exact hascii n hn
  · rw [hupper]

theorem toUpper_toLower (c : Char) : c.toLower.toUpper = c.toUpper := by
  have hascii : ∀ n < 128, (Char.ofNat n).toLower.toUpper = (Char.ofNat n).toUpper := by
    decide +kernel
  rcases ascii_or_caseless c with ⟨n, hn, rfl⟩ | ⟨-, hlower⟩
  · exact hascii n hn
  · rw [hlower]

/-- **Texts are equal in capitals** exactly if they are the same up to case. -/
theorem upper_eq_upper_iff {a b : String} : upper a = upper b ↔ sameText a b = true := by
  have hsmall (s : String) : (upper s).toList.map Char.toLower = fold s := by
    unfold upper fold
    rw [String.toList_ofList, List.map_map]
    exact List.map_congr_left fun c _ => toLower_toUpper c
  have hcapital (s : String) : String.ofList ((fold s).map Char.toUpper) = upper s := by
    unfold upper fold
    rw [List.map_map]
    exact congrArg String.ofList (List.map_congr_left fun c _ => toUpper_toLower c)
  rw [sameText_iff]
  constructor
  · intro h
    rw [← hsmall a, ← hsmall b, h]
  · intro h
    rw [← hcapital a, ← hcapital b, h]

end Text

/-- Names that collections can have beside each other: none is empty or that of the collection that
every transaction has of its own, and they differ from each other, up to case. -/
structure SeparateNames (names : List String) : Prop where
  nonempty : ∀ n ∈ names, n.isEmpty = false
  shared : ∀ n ∈ names, Text.sameText n Transaction.ownName = false
  distinct : names.Pairwise fun a b => Text.sameText a b = false

/-! ## The check -/

namespace Check

variable {before names : List String}

/-- Whatever is found of the names is an error of their field. -/
theorem error_of_mem_collectionNames {f : Finding} (h : f ∈ collectionNames before names) :
    f.field = "collections.names" ∧ f.gravity = .error := by
  induction names generalizing before with
  | nil => cases h
  | cons name names ih =>
      have hcons {message : String}
          (h : f ∈ Finding.error "collections.names" message :: collectionNames before names) :
          f.field = "collections.names" ∧ f.gravity = .error := by
        rcases List.mem_cons.1 h with rfl | hrest
        · exact ⟨rfl, rfl⟩
        · exact ih hrest
      rw [collectionNames] at h
      dsimp only at h
      split at h
      · exact hcons h
      · split at h
        · exact hcons h
        · split at h
          · exact hcons h
          · exact ih h

/-- A name that is complained of leaves a finding. -/
theorem collectionNames_cons_eq_nil_iff {name : String} :
    collectionNames before (name :: names) = [] ↔
      name.isEmpty = false ∧ Text.sameText name Transaction.ownName = false ∧
        Text.upper name ∉ before ∧ collectionNames (Text.upper name :: before) names = [] := by
  rw [collectionNames]
  dsimp only
  cases hempty : name.isEmpty with
  | true => simp
  | false =>
      cases hown : Text.sameText name Transaction.ownName with
      | true => simp
      | false =>
          by_cases hseen : Text.upper name ∈ before
          · simp [hseen]
          · simp [hseen]

/-- **Nothing is found** exactly if the names are separate and none was there before. -/
theorem collectionNames_eq_nil_iff :
    collectionNames before names = [] ↔
      SeparateNames names ∧ ∀ n ∈ names, Text.upper n ∉ before := by
  induction names generalizing before with
  | nil =>
      have hnone (p : String → Prop) : ∀ n ∈ ([] : List String), p n := List.forall_mem_nil _
      exact ⟨fun _ => ⟨⟨hnone _, hnone _, .nil⟩, hnone _⟩, fun _ => rfl⟩
  | cons name names ih =>
      rw [collectionNames_cons_eq_nil_iff, ih]
      -- a later name is not the current one exactly if it is another one in capitals
      have hlater : (∀ n ∈ names, Text.upper n ∉ Text.upper name :: before) ↔
          (∀ n ∈ names, Text.sameText name n = false) ∧ ∀ n ∈ names, Text.upper n ∉ before := by
        constructor
        · intro hunseen
          refine ⟨fun n hn => Bool.eq_false_iff.2 fun hsame => hunseen n hn ?_,
            fun n hn hmem => hunseen n hn (List.mem_cons_of_mem _ hmem)⟩
          rw [Text.upper_eq_upper_iff.2 hsame]
          exact List.mem_cons_self ..
        · rintro ⟨hdiffers, hrest⟩ n hn hmem
          rcases List.mem_cons.1 hmem with heq | hmem
          · exact Bool.eq_false_iff.1 (hdiffers n hn) (Text.upper_eq_upper_iff.1 heq.symm)
          · exact hrest n hn hmem
      rw [hlater]
      constructor
      · rintro ⟨hempty, hown, hseen, ⟨hnonempty, hshared, hdistinct⟩, hdiffers, hrest⟩
        exact ⟨⟨List.forall_mem_cons.2 ⟨hempty, hnonempty⟩, List.forall_mem_cons.2 ⟨hown, hshared⟩,
          hdistinct.cons hdiffers⟩, List.forall_mem_cons.2 ⟨hseen, hrest⟩⟩
      · rintro ⟨⟨hnonempty, hshared, hdistinct⟩, hunseen⟩
        obtain ⟨hempty, hnonempty⟩ := List.forall_mem_cons.1 hnonempty
        obtain ⟨hown, hshared⟩ := List.forall_mem_cons.1 hshared
        obtain ⟨hdiffers, hdistinct⟩ := List.pairwise_cons.1 hdistinct
        obtain ⟨hseen, hrest⟩ := List.forall_mem_cons.1 hunseen
        exact ⟨hempty, hown, hseen, ⟨hnonempty, hshared, hdistinct⟩, hdiffers, hrest⟩

/-! ### The other fields -/

/-- The findings are about other fields than the names of the collections. -/
def Elsewhere (fs : List Finding) : Prop := ∀ f ∈ fs, f.field ≠ "collections.names"

theorem elsewhere_nil : Elsewhere [] := List.forall_mem_nil _

theorem elsewhere_append {fs gs : List Finding} (hfs : Elsewhere fs) (hgs : Elsewhere gs) :
    Elsewhere (fs ++ gs) := List.forall_mem_append.2 ⟨hfs, hgs⟩

theorem elsewhere_singleton {f : Finding} (h : f.field ≠ "collections.names") : Elsewhere [f] :=
  List.forall_mem_singleton.2 h

theorem elsewhere_flatMap {α : Type} {as : List α} {f : α → List Finding}
    (h : ∀ a ∈ as, Elsewhere (f a)) : Elsewhere (as.flatMap f) := by
  intro g hg
  obtain ⟨a, ha, hg⟩ := List.mem_flatMap.1 hg
  exact h a ha g hg

/-- A field that starts with the letter of those of the rules is not that of the names. -/
theorem ne_of_head {field : String} (h : field.toList.head? = some 'w') (rest : String) :
    field ++ rest ≠ "collections.names" := by
  intro heq
  obtain ⟨cs, hcs⟩ := List.head?_eq_some_iff.1 h
  have hhead : (field ++ rest).toList.head? = "collections.names".toList.head? := by rw [heq]
  rw [String.toList_append, hcs, List.cons_append, List.head?_cons] at hhead
  exact absurd hhead (by decide +kernel)

theorem head?_element (field : String) (h : field.toList.head? = some 'w') (index : Nat) :
    (element field index).toList.head? = some 'w' := by
  obtain ⟨cs, hcs⟩ := List.head?_eq_some_iff.1 h
  unfold element
  rw [String.append_assoc, String.append_assoc, String.toList_append, hcs, List.cons_append,
    List.head?_cons]

theorem elsewhere_engine (s : EngineSettings) : Elsewhere (engine s) := by
  unfold engine
  split
  · exact elsewhere_singleton (by decide +kernel)
  · exact elsewhere_nil

theorem elsewhere_rule (ids : List Int) (index : Nat) (r : RuleSettings) :
    Elsewhere (rule ids index r) := by
  have hfield := head?_element "waf.rules" (by decide +kernel) index
  unfold rule
  refine elsewhere_append (elsewhere_append ?_ (elsewhere_flatMap fun l _ => ?_)) ?_
  · split
    · exact elsewhere_singleton (ne_of_head hfield _)
    · exact elsewhere_nil
  · unfold linkPhase
    split
    · split
      · exact elsewhere_nil
      · exact elsewhere_singleton (ne_of_head hfield _)
    · exact elsewhere_nil
  · split
    · exact elsewhere_singleton (ne_of_head hfield _)
    · exact elsewhere_nil

theorem elsewhere_rulesFrom (ids : List Int) (index : Nat) (rs : List RuleSettings) :
    Elsewhere (rulesFrom ids index rs) := by
  induction rs generalizing ids index with
  | nil => exact elsewhere_nil
  | cons r rs ih => exact elsewhere_append (elsewhere_rule ids index r) (ih _ _)

theorem elsewhere_rules (s : RuleSetSettings) : Elsewhere (rules s) := by
  unfold rules
  refine elsewhere_append (elsewhere_rulesFrom _ _ _) fun f hf => ?_
  obtain ⟨id, -, rfl⟩ := List.mem_map.1 hf
  have hfield : "waf.remove_rule_ids" ≠ "collections.names" := by decide +kernel
  exact hfield

theorem elsewhere_exception (s : ExceptionSettings) (index : Nat) : Elsewhere (exception s index) := by
  have hfield := head?_element "waf.exceptions" (by decide +kernel) index
  unfold exception
  refine elsewhere_append ?_ ?_
  · split
    · exact elsewhere_nil
    · have hne := ne_of_head hfield ""
      rw [String.append_empty] at hne
      exact elsewhere_singleton hne
  · split
    · exact elsewhere_singleton (ne_of_head hfield _)
    · exact elsewhere_nil

theorem elsewhere_matchLog (s : MatchLogSettings) : Elsewhere (matchLog s) := by
  unfold matchLog
  split
  · exact elsewhere_singleton (by decide +kernel)
  · exact elsewhere_nil

/-- Errors of the names are reported exactly if the names are not separate. -/
theorem names_accepted_iff (files : FileTree) (s : Settings) :
    (∀ f ∈ errorsOf (run files s .basic), f.field ≠ "collections.names") ↔
      SeparateNames s.collections.names := by
  have hnames : SeparateNames s.collections.names ↔ collectionNames [] s.collections.names = [] := by
    rw [collectionNames_eq_nil_iff]
    exact ⟨fun h => ⟨h, fun _ _ => List.not_mem_nil⟩, And.left⟩
  rw [hnames]
  constructor
  · intro h
    rw [List.eq_nil_iff_forall_not_mem]
    intro f hf
    obtain ⟨hfield, hgravity⟩ := error_of_mem_collectionNames hf
    have hreported : f ∈ run files s .basic :=
      List.mem_append_left _ (List.mem_append_left _ (List.mem_append_left _
        (List.mem_append_right _ hf)))
    exact h f (List.mem_filter.2 ⟨hreported, beq_iff_eq.2 hgravity⟩) hfield
  · intro hnil f hf
    have hfields : run files s .basic = engine s.engine ++ [] ++ rules s.rules ++
        (s.rules.exceptions.zipIdx.flatMap fun e => exception e.1 e.2) ++ matchLog s.rules.matchLog := by
      rw [← hnil]
      rfl
    have helsewhere : Elsewhere (run files s .basic) := by
      rw [hfields]
      exact elsewhere_append (elsewhere_append (elsewhere_append (elsewhere_append
        (elsewhere_engine _) elsewhere_nil) (elsewhere_rules _))
        (elsewhere_flatMap fun e _ => elsewhere_exception e.1 e.2)) (elsewhere_matchLog _)
    exact helsewhere f (List.mem_filter.1 hf).1

end Check

/-! ## The registry -/

namespace Registry

variable {names : List String}

/-- The names with their positions, as the registry notes them when no name comes again. -/
def numbered (names : List String) : Registry := ⟨names.zipIdx⟩

/-- An empty collection for each name. -/
def shelfOf (names : List String) : Shelf := ⟨names.map .empty⟩

theorem contains_numbered {name : String} :
    (numbered names).contains name = true ↔ ∃ n ∈ names, Text.sameText n name = true := by
  unfold contains place? numbered
  rw [Option.isSome_map, List.find?_isSome]
  constructor
  · rintro ⟨e, he, hsame⟩
    exact ⟨e.1, List.fst_mem_of_mem_zipIdx he, hsame⟩
  · rintro ⟨n, hn, hsame⟩
    obtain ⟨i, hi, rfl⟩ := List.getElem_of_mem hn
    exact ⟨(names[i], i), List.mk_mem_zipIdx_iff_getElem?.2 (List.getElem?_eq_getElem hi), hsame⟩

/-- A name that is not there yet gets the next place. -/
theorem register_numbered {name : String} (h : ∀ n ∈ names, Text.sameText n name = false) :
    (numbered names).register (shelfOf names) name =
      (numbered (names ++ [name]), shelfOf (names ++ [name])) := by
  have hnew : (numbered names).contains name = false := by
    refine Bool.eq_false_iff.2 fun hold => ?_
    obtain ⟨n, hn, hsame⟩ := contains_numbered.1 hold
    exact Bool.eq_false_iff.1 (h n hn) hsame
  have hplace : (shelfOf names).collections.length = names.length := List.length_map _
  unfold register bind
  dsimp only
  rw [hnew, if_neg Bool.false_ne_true]
  unfold Shelf.add
  dsimp only
  rw [hplace]
  unfold numbered shelfOf
  rw [List.zipIdx_append, List.map_append, Nat.zero_add]
  rfl

theorem registerAll_numbered {names more : List String}
    (h : (names ++ more).Pairwise fun a b => Text.sameText a b = false) :
    (numbered names).registerAll (shelfOf names) more =
      (numbered (names ++ more), shelfOf (names ++ more)) := by
  induction more generalizing names with
  | nil => rw [List.append_nil]; rfl
  | cons name more ih =>
      have hnew : ∀ n ∈ names, Text.sameText n name = false := fun n hn =>
        (List.pairwise_append.1 h).2.2 n hn name (List.mem_cons_self ..)
      have hassoc : names ++ [name] ++ more = names ++ name :: more := by
        rw [List.append_assoc, List.singleton_append]
      have hrest := @ih (names ++ [name]) (hassoc ▸ h)
      rw [hassoc] at hrest
      rw [← hrest, registerAll, List.foldl_cons, register_numbered hnew]
      rfl

/-- **One collection for each name**, in the order of the names. -/
theorem ofNames_of_distinct (h : names.Pairwise fun a b => Text.sameText a b = false) :
    ofNames names = (numbered names, shelfOf names) := @registerAll_numbered [] names h

/-- A name finds the place of the one that it is up to case. -/
theorem place?_numbered (h : names.Pairwise fun a b => Text.sameText a b = false) {i : Nat}
    (hi : i < names.length) {name : String} (hsame : Text.sameText names[i] name = true) :
    (numbered names).place? name = some i := by
  have hlength : i < names.zipIdx.length := by rwa [List.length_zipIdx]
  have hfound : (names.zipIdx.find? fun e => Text.sameText e.1 name) = some (names[i], i) := by
    rw [List.find?_eq_some_iff_getElem]
    refine ⟨hsame, i, hlength, by rw [List.getElem_zipIdx, Nat.zero_add], fun j hj => ?_⟩
    rw [List.getElem_zipIdx]
    dsimp only
    -- an earlier name that is the same up to case would not differ from the one found
    have hdiffers := List.pairwise_iff_getElem.1 h j i (Nat.lt_trans hj hi) hi hj
    rw [Bool.not_eq_true', Bool.eq_false_iff]
    intro hearlier
    rw [Text.sameText_trans hearlier (Text.sameText_comm names[i] name ▸ hsame)] at hdiffers
    cases hdiffers
  unfold place? numbered
  rw [hfound, Option.map_some]

/-- A registry with its shelf that keeps one collection for each of some names: there are as many as
names, each is reached by its name in any case and stands in its place, and none is reached by the
name of the collection that every transaction has of its own. -/
structure OnePerName (names : List String) (r : Registry) (s : Shelf) : Prop where
  size : r.size = names.length
  found : ∀ (i : Nat) (hi : i < names.length) (name : String),
    Text.sameText names[i] name = true → r.place? name = some i ∧ s.at? i = some (.empty names[i])
  notOwn : ∀ name, Text.sameText name Transaction.ownName = true → r.place? name = none

theorem onePerName_of_separate (h : SeparateNames names) :
    OnePerName names (ofNames names).1 (ofNames names).2 := by
  rw [ofNames_of_distinct h.distinct]
  refine ⟨List.length_zipIdx, ?_, ?_⟩
  · intro i hi name hsame
    refine ⟨place?_numbered h.distinct hi hsame, ?_⟩
    unfold Shelf.at? shelfOf
    rw [List.getElem?_map, List.getElem?_eq_getElem hi, Option.map_some]
  · intro name hown
    have hnone : ¬ (numbered names).contains name = true := by
      rw [contains_numbered]
      rintro ⟨n, hn, hsame⟩
      exact Bool.eq_false_iff.1 (h.shared n hn) (Text.sameText_trans hsame hown)
    unfold contains at hnone
    rwa [Bool.not_eq_true, Option.isSome_eq_false_iff, Option.isNone_iff_eq_none] at hnone

/-- Names that find different places, none of them by the name of a transaction's own collection, are
separate if none is empty. -/
theorem separate_of_onePerName {r : Registry} {s : Shelf} (h : OnePerName names r s)
    (hnonempty : ∀ n ∈ names, n.isEmpty = false) : SeparateNames names where
  nonempty := hnonempty
  shared n hn := by
    obtain ⟨i, hi, rfl⟩ := List.getElem_of_mem hn
    refine Bool.eq_false_iff.2 fun hown => ?_
    have hplace := (h.found i hi names[i] (Text.sameText_refl _)).1
    rw [h.notOwn _ hown] at hplace
    cases hplace
  distinct := by
    refine List.pairwise_iff_getElem.2 fun i j hi hj hij => ?_
    refine Bool.eq_false_iff.2 fun hsame => ?_
    have hfirst := (h.found i hi names[j] hsame).1
    have hsecond := (h.found j hj names[j] (Text.sameText_refl _)).1
    rw [hfirst] at hsecond
    exact absurd (Option.some.inj hsecond) (Nat.ne_of_lt hij)

end Registry

/--
**The names that are accepted are those that get one collection each.**

Of the names of the shared collections no error is reported exactly if none of them is empty and the
registry that is made of them keeps one collection for each: as many as names, each reached by its name
in any case, and none by the name of a transaction's own collection. In particular an error is reported
if two of the names that are not empty are the same up to case, or one of them is that name.
-/
theorem Check.accepted_names_registered (files : FileTree) (s : Settings) :
    ((∀ f ∈ errorsOf (run files s .basic), f.field ≠ "collections.names") ↔
      (∀ n ∈ s.collections.names, n.isEmpty = false) ∧
        Registry.OnePerName s.collections.names (Registry.ofNames s.collections.names).1
          (Registry.ofNames s.collections.names).2) ∧
    (¬ (s.collections.names.filter fun n => !n.isEmpty).Pairwise
        (fun a b => Text.sameText a b = false) ∨
      (∃ n ∈ s.collections.names, Text.sameText n Transaction.ownName = true) →
        ∃ f ∈ errorsOf (run files s .basic), f.field = "collections.names") := by
  have haccepted := names_accepted_iff files s
  constructor
  · rw [haccepted]
    constructor
    · intro h
      exact ⟨h.nonempty, Registry.onePerName_of_separate h⟩
    · rintro ⟨hnonempty, hone⟩
      exact Registry.separate_of_onePerName hone hnonempty
  · intro hclash
    refine Classical.byContradiction fun hsilent => ?_
    have h := haccepted.1 fun f hf hfield => hsilent ⟨f, hf, hfield⟩
    rcases hclash with hequal | ⟨n, hn, hown⟩
    · exact hequal (h.distinct.filter _)
    · exact Bool.eq_false_iff.1 (h.shared n hn) hown

/-- Settings whose collections have the given names. -/
def Settings.naming (names : List String) : Settings := { collections := { names := names } }

/-- A registry of three names reached in other cases, and the clash of two names that differ by case
alone behind one that differs by an accent. -/
theorem Check.accepted_names_registered_accented :
    ((Registry.ofNames ["Größe", "ip", "GROSSE"]).1.place? "gRößE" = some 0 ∧
      (Registry.ofNames ["Größe", "ip", "GROSSE"]).2.at? 0 = some (.empty "Größe")) ∧
    (Registry.ofNames ["Größe", "ip", "GROSSE"]).1.place? "tx" = none ∧
    ¬ (["É", "é", "", "Ip", "iP"].filter fun n => !n.isEmpty).Pairwise
      (fun a b => Text.sameText a b = false) ∧
    ∃ f ∈ errorsOf (run .empty (.naming ["É", "é", "", "Ip", "iP"]) .basic),
      f.field = "collections.names" := by
  have hsilent : ∀ f ∈ errorsOf (run .empty (.naming ["Größe", "ip", "GROSSE"]) .basic),
      f.field ≠ "collections.names" := by decide +kernel
  have hclash : ¬ (["É", "é", "", "Ip", "iP"].filter fun n => !n.isEmpty).Pairwise
      (fun a b => Text.sameText a b = false) := by decide +kernel
  have hone := ((accepted_names_registered .empty (.naming ["Größe", "ip", "GROSSE"])).1.1 hsilent).2
  exact ⟨hone.found 0 (by decide) "gRößE" (by decide +kernel), hone.notOwn "tx" (by decide +kernel),
    hclash, (accepted_names_registered .empty (.naming ["É", "é", "", "Ip", "iP"])).2 (.inl hclash)⟩

end Rampart
