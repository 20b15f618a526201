import Rampart.Proofs.CodePoints
import Rampart.Proofs.Loading

/-!
# The two readings of an id

The id of a rule is read twice. Whether a rule is left out by request is decided by the id it declares:
the first action that starts with `id:` counts, and the number is looked for behind it. The rule itself
is read with the id that the last of its actions gives it, in any spelling of the name. Where both
readings find a number in an action it is the same number, so the readings differ only over an action
that just one of them takes for an id, and over several such actions.
-/

namespace Rampart

/-! ## Integers as they are written -/

namespace Text

/-- The character stands in written integers. -/
def Numeric (c : Char) : Prop := 43 ≤ c.toNat ∧ c.toNat ≤ 57

theorem Numeric.not_blank {c : Char} (h : Numeric c) : isBlank c = false := by
  have key : ∀ n < 58, 43 ≤ n → blankRanges.contains n = false := by decide +kernel
  exact key c.toNat (Nat.lt_succ_of_le h.2) h.1

theorem Numeric.ne_quote {c : Char} (h : Numeric c) : c ≠ '\'' := by
  rintro rfl
  exact absurd h.1 (by decide)

theorem numeric_of_isDigit {c : Char} (h : c.isDigit = true) : Numeric c := by
  obtain ⟨hlow, hhigh⟩ := isDigit_iff.1 h
  have hlow : 48 ≤ c.toNat := hlow
  exact ⟨by omega, hhigh⟩

theorem numeric_of_digitValue? {c : Char} {d : Nat} (h : digitValue? 10 c = some d) : Numeric c := by
  rw [digitValue?_ten] at h
  split at h
  · rename_i hdigit
    exact numeric_of_isDigit hdigit
  · cases h

theorem numeric_of_digits? {cs : List Char} {n : Nat} (h : digits? 10 cs = some n) :
    cs ≠ [] ∧ ∀ c ∈ cs, Numeric c := by
  obtain ⟨hne, hdigits⟩ := isSome_digits?_iff.1 (Option.isSome_of_eq_some h)
  refine ⟨hne, fun c hc => ?_⟩
  obtain ⟨d, hd⟩ := Option.isSome_iff_exists.1 (hdigits c hc)
  exact numeric_of_digitValue? hd

/-- An integer is written without blanks and quotes, in at least one character. -/
theorem numeric_of_integer? {cs : List Char} {n : Int} (h : integer? cs = some n) :
    cs ≠ [] ∧ ∀ c ∈ cs, Numeric c := by
  obtain ⟨h, -⟩ := Option.filter_eq_some_iff.1 h
  have hsign (c : Char) (rest : List Char) (hc : Numeric c) (hrest : ∀ d ∈ rest, Numeric d) :
      c :: rest ≠ [] ∧ ∀ d ∈ c :: rest, Numeric d :=
    ⟨List.cons_ne_nil _ _, List.forall_mem_cons.2 ⟨hc, hrest⟩⟩
  split at h
  · obtain ⟨m, hm, -⟩ := Option.map_eq_some_iff.1 h
    obtain ⟨k, hk, -⟩ := Option.bind_eq_some_iff.1 hm
    exact hsign _ _ ⟨by decide, by decide⟩ (numeric_of_digits? hk).2
  · obtain ⟨m, hm, -⟩ := Option.map_eq_some_iff.1 h
    obtain ⟨k, hk, -⟩ := Option.bind_eq_some_iff.1 hm
    exact hsign _ _ ⟨by decide, by decide⟩ (numeric_of_digits? hk).2
  · obtain ⟨m, hm, -⟩ := Option.map_eq_some_iff.1 h
    obtain ⟨k, hk, -⟩ := Option.bind_eq_some_iff.1 hm
    exact numeric_of_digits? hk

/-- Quotes around a text that holds none are taken off. -/
theorem strip_quotes {q w r : List Char} (hq : ∀ c ∈ q, c = '\'') (hr : ∀ c ∈ r, c = '\'')
    (hw : ∀ c ∈ w, c ≠ '\'') (hne : w ≠ []) :
    (((q ++ w ++ r).dropWhile (· == '\'')).reverse.dropWhile (· == '\'')).reverse = w := by
  have hstop (cs rest : List Char) (hcs : ∀ c ∈ cs, c ≠ '\'') (hne : cs ≠ []) :
      (cs ++ rest).dropWhile (· == '\'') = cs ++ rest := by
    cases cs with
    | nil => exact absurd rfl hne
    | cons c cs =>
        have hc := hcs c (List.mem_cons_self ..)
        rw [List.cons_append, List.dropWhile_cons, beq_eq_false_iff_ne.2 hc]
        rfl
  rw [List.append_assoc, List.dropWhile_append_of_pos fun c hc => beq_iff_eq.2 (hq c hc),
    hstop w r hw hne, List.reverse_append,
    List.dropWhile_append_of_pos fun c hc => beq_iff_eq.2 (hr c (List.mem_reverse.1 hc))]
  have hlast := hstop w.reverse [] (fun c hc => hw c (List.mem_reverse.1 hc))
    (fun h => hne (List.reverse_eq_nil_iff.1 h))
  rw [List.append_nil] at hlast
  rw [hlast, List.reverse_reverse]

end Text

/-! ## One action -/

namespace Directive

/-- The id that an action gives a rule, however it is spelled. -/
def id? (text : String) : Option Int :=
  match ofText text with
  | .ok (.attribute (.id n)) => some n
  | _ => none

/-- An action that starts with `id:` gives an id, the number behind it, or is refused. -/
theorem ofText_of_id {text : String} {rest : List Char}
    (h : Text.trimChars text.toList = 'i' :: 'd' :: ':' :: rest) :
    ofText text =
      ((Action.integer "id" (String.ofList (Action.unquote (Text.trimChars rest)))).map
        Attribute.id).map Directive.attribute := by
  have hcut : Text.cutAt? (· == ':') ('i' :: 'd' :: ':' :: rest) = some (['i', 'd'], rest) := rfl
  have hname : Text.lower (String.ofList (Text.trimChars ['i', 'd'])) = "id" := by decide +kernel
  unfold ofText
  rw [h]
  dsimp only
  rw [hcut]
  dsimp only
  rw [hname]
  rfl

/-- A value between quotes is one with a quote in front and one behind. -/
theorem unquote_cases (v : List Char) :
    (∃ w, v = '\'' :: w ++ ['\''] ∧ Action.unquote v = w) ∨ Action.unquote v = v := by
  unfold Action.unquote
  split
  · rename_i h
    obtain ⟨hlength, hhead, hlast⟩ := h
    cases v with
    | nil => cases hhead
    | cons c t =>
        obtain rfl := Option.some.inj hhead
        have ht : t ≠ [] := by
          rintro rfl
          exact absurd hlength (by decide)
        rw [List.getLast?_cons_of_ne_nil ht] at hlast
        refine .inl ⟨t.dropLast, ?_, rfl⟩
        rw [List.cons_append, List.dropLast_append_getLast? _ hlast]
  · exact .inr rfl

/-- A trimmed value and the value without its quotes hold the same number, if both hold one. -/
theorem integer_unquote {v : List Char} {m n : Int} (hv : Text.trimChars v = v)
    (hm : Text.integer? (Text.trimChars (Action.unquote v)) = some m)
    (hn : Text.integer?
      ((v.dropWhile (· == '\'')).reverse.dropWhile (· == '\'')).reverse = some n) : m = n := by
  obtain ⟨hne, hnumeric⟩ := Text.numeric_of_integer? hm
  rcases unquote_cases v with ⟨w, rfl, hunquote⟩ | hunquote
  · rw [hunquote] at hm hne hnumeric
    -- blanks inside the quotes are no quotes, so what was stripped is the whole inside
    have hquotes : ∀ c ∈ w, c ≠ '\'' := by
      obtain ⟨l, r, hl, hr, hw⟩ := Text.exists_blanks_around w
      have hblank (c : Char) (hc : Text.isBlank c = true) : c ≠ '\'' := by
        rintro rfl
        exact absurd hc (by decide +kernel)
      intro c hc
      rw [hw, List.mem_append, List.mem_append] at hc
      rcases hc with (hc | hc) | hc
      · exact hblank c (hl c hc)
      · exact (hnumeric c hc).ne_quote
      · exact hblank c (hr c hc)
    have hinside : w ≠ [] := by
      rintro rfl
      exact hne rfl
    have hstrip := Text.strip_quotes (List.forall_mem_singleton.2 rfl)
      (List.forall_mem_singleton.2 rfl) hquotes hinside
    rw [List.singleton_append] at hstrip
    rw [hstrip] at hn
    rw [Text.trimChars_eq_self fun c hc => ((Text.numeric_of_integer? hn).2 c hc).not_blank] at hm
    exact Option.some.inj (hm.symm.trans hn)
  · rw [hunquote, hv] at hm hne hnumeric
    have hstrip := Text.strip_quotes (List.forall_mem_nil _) (List.forall_mem_nil _)
      (fun c hc => (hnumeric c hc).ne_quote) hne
    rw [List.nil_append, List.append_nil] at hstrip
    rw [hstrip] at hn
    exact Option.some.inj (hm.symm.trans hn)

/-- **Where both readings find a number, they find the same.** -/
theorem id?_of_idOfAction? {text : String} {n : Int} {d : Directive}
    (hn : LinkSettings.idOfAction? text = some n) (hd : ofText text = .ok d) :
    id? text = some n := by
  unfold LinkSettings.idOfAction? at hn
  split at hn
  · rename_i rest htext
    dsimp only at hn
    rw [ofText_of_id htext] at hd
    obtain ⟨a, ha, rfl⟩ := map_eq_ok.1 hd
    obtain ⟨m, hm, rfl⟩ := map_eq_ok.1 ha
    have hid : id? text = some m := by
      unfold id?
      rw [ofText_of_id htext, hm]
      rfl
    rw [hid]
    unfold Action.integer at hm
    rw [String.toList_ofList] at hm
    split at hm
    · rename_i k hk
      obtain rfl := Except.ok.inj hm
      rw [integer_unquote (Text.trimChars_trimChars rest) hk hn]
    · cases hm
  · cases hn

end Directive

/-! ## All actions of a link -/

namespace LinkSettings

/-- The ids that the actions give, in order. -/
def givenIds (s : LinkSettings) : List Int := s.actions.filterMap Directive.id?

/-- The id the rule is read with: the last that an action gives, or the one of the declaration. -/
def readId (s : LinkSettings) : Int := s.givenIds.getLast?.getD s.id

/-- At most one action gives an id, and it does so where the declared id is looked for. -/
structure NamesPlainly (s : LinkSettings) : Prop where
  once : s.givenIds.length ≤ 1
  seen : ∀ text ∈ s.actions, ∀ n, Directive.id? text = some n → idOfAction? text = some n

end LinkSettings

namespace Rule

variable {files : FileTree} {isHead : Bool}

theorem id_withAttribute {r q : Rule} {a : Attribute} (h : r.withAttribute a = .ok q) :
    q.info.id = match a with | .id n => n | _ => r.info.id := by
  cases a with
  | message text =>
      obtain ⟨m, -, rfl⟩ := exists_of_withAttribute_message h
      rfl
  | _ =>
      obtain rfl := Except.ok.inj h
      rfl

/-- One action gives the rule its id, or leaves it. -/
theorem id_withDirective {r q : Rule} {text : String} {d : Directive}
    (hd : Directive.ofText text = .ok d) (h : r.withDirective isHead d = .ok q) :
    q.info.id = (Directive.id? text).getD r.info.id := by
  unfold Directive.id?
  rw [hd]
  rcases withDirective_cases h with ⟨a, rfl, ha⟩ | ⟨a, rfl, -, rfl⟩
  · rw [id_withAttribute ha]
    cases a <;> rfl
  · rfl

/-- The actions of a list are all read, and the last that gives an id counts. -/
theorem id_directives {actions : List String} {r q : Rule}
    (h : actions.foldlM (fun r text => Directive.ofText text >>= withDirective isHead r) r = .ok q) :
    (∀ text ∈ actions, ∃ d, Directive.ofText text = .ok d) ∧
      q.info.id = (actions.filterMap Directive.id?).getLast?.getD r.info.id :=
  ⟨read_of_directives h, last_given_directives id_withDirective h⟩

theorem id_of_ofSettings {s : LinkSettings} {inherited : Option Nat} {hasSuccessor : Bool} {r : Rule}
    (h : ofSettings files s inherited isHead hasSuccessor = .ok r) :
    (∀ text ∈ s.actions, ∃ d, Directive.ofText text = .ok d) ∧ r.info.id = s.readId := by
  obtain ⟨plain, hplain, hactions⟩ := exists_of_ofSettings h
  obtain ⟨hread, hid⟩ := id_directives hactions
  rw [info_ofFields hplain] at hid
  exact ⟨hread, hid⟩

end Rule

/-- The id of a chain is the one that the head of its declaration is read with. -/
theorem Chain.id_of_ofSettings {files : FileTree} {s : RuleSettings} {c : Chain}
    (h : ofSettings files s = .ok c) : c.id = s.head.readId :=
  (Rule.id_of_ofSettings (head_of_ofSettings h)).2

/-- **A plainly named rule is read with the id it declares.** -/
theorem RuleSettings.declaredId_eq_readId {files : FileTree} {s : RuleSettings} {c : Chain}
    (h : Chain.ofSettings files s = .ok c) (hplain : s.head.NamesPlainly) :
    s.declaredId = s.head.readId := by
  have hread := (Rule.id_of_ofSettings (Chain.head_of_ofSettings h)).1
  have hsame : s.head.actions.filterMap LinkSettings.idOfAction? = s.head.givenIds := by
    refine List.filterMap_congr fun text htext => ?_
    obtain ⟨d, hd⟩ := hread text htext
    cases hn : LinkSettings.idOfAction? text with
    | some n => exact (Directive.id?_of_idOfAction? hn hd).symm
    | none =>
        cases hm : Directive.id? text with
        | none => rfl
        | some m => exact hn.symm.trans (hplain.seen text htext m hm)
  unfold declaredId LinkSettings.declaredId LinkSettings.readId
  rw [← List.head?_filterMap, hsame]
  have honce := hplain.once
  cases hids : s.head.givenIds with
  | nil => rfl
  | cons n rest =>
      rw [hids, List.length_cons] at honce
      rw [List.eq_nil_of_length_eq_zero (by omega : rest.length = 0)]
      rfl

namespace RuleSet

variable {files : FileTree} {removed : List Int} {s : RuleSet}

/-- The declaration is not left out, and it is read as a chain with the id. -/
def Brings (files : FileTree) (removed : List Int) (id : Int) (r : RuleSettings) : Prop :=
  r.declaredId ∉ removed ∧ r.head.readId = id ∧ ∃ c, Chain.ofSettings files r = .ok c

theorem contains_after {id : Int} (r : RuleSettings) :
    ((loader files removed).after s ((loader files removed).fate s r)).contains id = true ↔
      s.contains id = true ∨ (id ≠ 0 ∧ Brings files removed id r) := by
  have hdue := due_fate files removed s r
  cases hfate : (loader files removed).fate s r with
  | removed =>
      rw [hfate] at hdue
      constructor
      · exact .inl
      · rintro (h | ⟨-, hremoved, -⟩)
        · exact h
        · exact absurd hdue hremoved
  | rejected e =>
      rw [hfate] at hdue
      constructor
      · exact .inl
      · rintro (h | ⟨hzero, -, rfl, c, hc⟩)
        · exact h
        · obtain ⟨-, herror | ⟨d, hd, hid⟩⟩ := hdue
          · exact nomatch herror.symm.trans hc
          · rw [← Chain.id_of_ofSettings hd] at hzero ⊢
            rcases hid with ⟨hid, -⟩ | ⟨hused, -⟩
            · exact absurd hid hzero
            · exact hused
  | loaded c =>
      rw [hfate] at hdue
      obtain ⟨hremoved, hc, hzero, -⟩ := hdue
      change (s.insert c).contains id = true ↔ _
      rw [contains_insert, Chain.id_of_ofSettings hc]
      rw [Chain.id_of_ofSettings hc] at hzero
      constructor
      · rintro (h | rfl)
        · exact .inl h
        · exact .inr ⟨hzero, hremoved, rfl, c, hc⟩
      · rintro (h | ⟨-, -, hid, -⟩)
        · exact .inl h
        · exact .inr hid

theorem contains_afterAll {id : Int} (rs : List RuleSettings) :
    (afterAll files removed s rs).contains id = true ↔
      s.contains id = true ∨ (id ≠ 0 ∧ ∃ r ∈ rs, Brings files removed id r) := by
  induction rs generalizing s with
  | nil => simp [afterAll, Loader.fates]
  | cons r rs ih =>
      rw [afterAll_cons, ih, contains_after]
      simp only [List.mem_cons, exists_eq_or_imp]
      tauto

/-- The ids in force after loading: those that some declaration brings, except zero. -/
theorem exists_mem_all_iff (files : FileTree) (s : RuleSetSettings) {id : Int} :
    (∃ c ∈ (ofSettings files s).1.all, c.id = id) ↔
      id ≠ 0 ∧ ∃ r ∈ s.rules, Brings files s.removedIds id r := by
  have hdenotes := denotes_empty.afterAll files s.removedIds s.rules
  have hall : (ofSettings files s).1.all = (afterAll files s.removedIds .empty s.rules).all := by
    rw [ofSettings_eq]
    rfl
  rw [hall]
  simp only [hdenotes.all_perm.mem_iff]
  rw [← hdenotes.contains_iff_mem, contains_afterAll, contains_empty]
  simp

/--
**When a removed id is in force.**

A rule of the loaded set has an id that is to be removed exactly if some declaration that can be read
declares an id that is not, while it is read with one that is, other than zero. There is no such
declaration if the actions of each head give at most one id and give it where the declared id is
looked for.
-/
theorem removed_id_in_force_iff (files : FileTree) (s : RuleSetSettings) :
    ((∃ c ∈ (ofSettings files s).1.all, c.id ∈ s.removedIds) ↔
      ∃ r ∈ s.rules, r.declaredId ∉ s.removedIds ∧ r.head.readId ∈ s.removedIds ∧
        r.head.readId ≠ 0 ∧ ∃ c, Chain.ofSettings files r = .ok c) ∧
    ((∀ r ∈ s.rules, r.head.NamesPlainly) →
      ∀ c ∈ (ofSettings files s).1.all, c.id ∉ s.removedIds) := by
  have hiff : (∃ c ∈ (ofSettings files s).1.all, c.id ∈ s.removedIds) ↔
      ∃ r ∈ s.rules, r.declaredId ∉ s.removedIds ∧ r.head.readId ∈ s.removedIds ∧
        r.head.readId ≠ 0 ∧ ∃ c, Chain.ofSettings files r = .ok c := by
    constructor
    · rintro ⟨c, hc, hid⟩
      obtain ⟨hzero, r, hr, hremoved, hread, hcompiles⟩ :=
        (exists_mem_all_iff files s).1 ⟨c, hc, rfl⟩
      exact ⟨r, hr, hremoved, hread ▸ hid, hread ▸ hzero, hcompiles⟩
    · rintro ⟨r, hr, hremoved, hid, hzero, hcompiles⟩
      obtain ⟨c, hc, hcid⟩ :=
        (exists_mem_all_iff files s).2 ⟨hzero, r, hr, hremoved, rfl, hcompiles⟩
      exact ⟨c, hc, hcid ▸ hid⟩
  refine ⟨hiff, ?_⟩
  intro hplain c hc hid
  obtain ⟨r, hr, hremoved, hread, -, d, hd⟩ := hiff.1 ⟨c, hc, hid⟩
  rw [RuleSettings.declaredId_eq_readId hd (hplain r hr)] at hremoved
  exact hremoved hread

/-- The rule `5` is to be removed; it gives its id between quotes. -/
def plainRemoval : RuleSetSettings where
  rules := [⟨{ id := 1, actions := ["id: '5'"] }, []⟩, ⟨{ id := 2 }, []⟩]
  removedIds := [5]

theorem removed_id_in_force_iff_plain :
    (∀ r ∈ plainRemoval.rules, r.head.NamesPlainly) ∧
      (ofSettings .empty plainRemoval).1.all.map Chain.id = [2] ∧
      ∀ c ∈ (ofSettings .empty plainRemoval).1.all, c.id ∉ plainRemoval.removedIds := by
  have hplain : ∀ r ∈ plainRemoval.rules, r.head.NamesPlainly := by
    intro r hr
    have hactions : ∀ r ∈ plainRemoval.rules, r.head.givenIds.length ≤ 1 ∧
        ∀ text ∈ r.head.actions, Directive.id? text = LinkSettings.idOfAction? text := by
      decide +kernel
    exact ⟨(hactions r hr).1, fun text htext n hn => ((hactions r hr).2 text htext).symm.trans hn⟩
  exact ⟨hplain, by decide +kernel, (removed_id_in_force_iff .empty plainRemoval).2 hplain⟩

/-- Two rules with an id that is to be removed: one spells the name of the action in capitals, the
other gives another id before. -/
def disguisedRemoval : RuleSetSettings where
  rules := [⟨{ id := 1, actions := ["ID:5"] }, []⟩, ⟨{ actions := ["id:7", "id:6"] }, []⟩]
  removedIds := [5, 6]

/-- Both rules stay in force under the ids that are to be removed. -/
theorem removed_ids_stay_in_force :
    (ofSettings .empty disguisedRemoval).1.all.map Chain.id = disguisedRemoval.removedIds ∧
      ¬ ∀ c ∈ (ofSettings .empty disguisedRemoval).1.all, c.id ∉ disguisedRemoval.removedIds := by
  have hids : (ofSettings .empty disguisedRemoval).1.all.map Chain.id =
      disguisedRemoval.removedIds := by decide +kernel
  refine ⟨hids, fun hnone => ?_⟩
  have hfive : (5 : Int) ∈ (ofSettings .empty disguisedRemoval).1.all.map Chain.id := by
    rw [hids]
    decide
  obtain ⟨c, hc, hid⟩ := List.mem_map.1 hfive
  exact hnone c hc (hid ▸ by decide)

end RuleSet

end Rampart
