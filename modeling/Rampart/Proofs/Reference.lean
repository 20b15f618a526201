import Mathlib.Data.List.Nodup
import Rampart.Proofs.Trim
import Rampart.Variable.Reference

/-!
# What a reference is read as

A plain reference is a name of the closed list of names and what stands behind its colon. Names are
told apart even up to case, none of them holds a colon, and none starts with a mark, so a full name
says again which variable it is of and how its keys are selected.
-/

namespace Rampart

/-! ## Steps that can fail -/

theorem bind_eq_ok {ε α β : Type} {x : Except ε α} {f : α → Except ε β} {b : β} :
    (x >>= f) = .ok b ↔ ∃ a, x = .ok a ∧ f a = .ok b := by
  constructor
  · intro h
    cases x with
    | error e => cases h
    | ok a => exact ⟨a, rfl, h⟩
  · rintro ⟨a, rfl, h⟩
    exact h

theorem map_eq_ok {ε α β : Type} {x : Except ε α} {f : α → β} {b : β} :
    x.map f = .ok b ↔ ∃ a, x = .ok a ∧ f a = b := by
  constructor
  · intro h
    cases x with
    | error e => cases h
    | ok a =>
        cases h
        exact ⟨a, rfl, rfl⟩
  · rintro ⟨a, rfl, rfl⟩
    rfl

theorem eq_ok_of_toOption {ε α : Type} {x : Except ε α} {a : α} (h : x.toOption = some a) :
    x = .ok a := by
  cases x with
  | error e => cases h
  | ok b => rw [Option.some.inj h]

theorem exists_ok_of_map {ε α β : Type} {x : Except ε α} {f : α → β} {b : β}
    (h : x.toOption.map f = some b) : ∃ a, x = .ok a ∧ f a = b := by
  obtain ⟨a, ha, hb⟩ := Option.map_eq_some_iff.1 h
  exact ⟨a, eq_ok_of_toOption ha, hb⟩

theorem mapM_cons_ok {ε α β : Type} {f : α → Except ε β} {a : α} {as : List α} {bs : List β}
    (h : (a :: as).mapM f = .ok bs) : ∃ c cs, f a = .ok c ∧ as.mapM f = .ok cs ∧ bs = c :: cs := by
  rw [List.mapM_cons] at h
  obtain ⟨c, hc, h⟩ := bind_eq_ok.1 h
  obtain ⟨cs, hcs, h⟩ := bind_eq_ok.1 h
  exact ⟨c, cs, hc, hcs, (Except.ok.inj h).symm⟩

theorem mapM_append_ok {ε α β : Type} {f : α → Except ε β} {as bs : List α} {cs : List β}
    (h : (as ++ bs).mapM f = .ok cs) :
    ∃ as' bs', as.mapM f = .ok as' ∧ bs.mapM f = .ok bs' ∧ cs = as' ++ bs' := by
  rw [List.mapM_append] at h
  obtain ⟨as', has, h⟩ := bind_eq_ok.1 h
  obtain ⟨bs', hbs, h⟩ := bind_eq_ok.1 h
  exact ⟨as', bs', has, hbs, (Except.ok.inj h).symm⟩

/-- Whatever a list of readings gives was read from an entry of the list. -/
theorem exists_of_mem_mapM {ε α β : Type} {f : α → Except ε β} {as : List α} {bs : List β}
    (h : as.mapM f = .ok bs) {b : β} (hb : b ∈ bs) : ∃ a ∈ as, f a = .ok b := by
  induction as generalizing bs with
  | nil =>
      cases h
      cases hb
  | cons a as ih =>
      obtain ⟨c, cs, hc, hcs, rfl⟩ := mapM_cons_ok h
      rcases List.mem_cons.1 hb with rfl | hb
      · exact ⟨a, List.mem_cons_self .., hc⟩
      · obtain ⟨d, hd, hdb⟩ := ih hcs hb
        exact ⟨d, List.mem_cons_of_mem _ hd, hdb⟩

/-- An entry of a list of readings gives one of the results. -/
theorem mem_of_mapM {ε α β : Type} {f : α → Except ε β} {as : List α} {bs : List β}
    (h : as.mapM f = .ok bs) {a : α} (ha : a ∈ as) {b : β} (hb : f a = .ok b) : b ∈ bs := by
  obtain ⟨before, after, rfl⟩ := List.append_of_mem ha
  obtain ⟨as', cs, -, hcs, rfl⟩ := mapM_append_ok h
  obtain ⟨c, cs, hc, -, rfl⟩ := mapM_cons_ok hcs
  rw [hb] at hc
  obtain rfl := Except.ok.inj hc
  exact List.mem_append_right _ (List.mem_cons_self ..)

/-! ## Texts up to case -/

namespace Text

theorem fold_append (a b : String) : fold (a ++ b) = fold a ++ fold b := by
  unfold fold
  rw [String.toList_append, List.map_append]

theorem eq_slash_of_toLower {c : Char} (h : c.toLower = '/') : c = '/' := by
  unfold Char.toLower at h
  split at h
  · rename_i hc
    have hv : (c.val + ('a'.val - 'A'.val)).toNat = 47 := congrArg (fun d : Char => d.val.toNat) h
    have h1 : 65 ≤ c.val.toNat := hc.1
    have h2 : c.val.toNat ≤ 90 := hc.2
    have h3 : ('a'.val - 'A'.val).toNat = 32 := rfl
    rw [UInt32.toNat_add] at hv
    omega
  · exact h

/-- Two lists that agree, each cut where a property of its members ends, agree in both parts. -/
theorem append_inj_of_stop {α : Type} {p : α → Bool} {as bs cs ds : List α}
    (ha : ∀ c ∈ as, p c = true) (hb : ∀ c ∈ bs, p c = true) (hc : ∀ c ∈ cs.head?, p c = false)
    (hd : ∀ c ∈ ds.head?, p c = false) (h : as ++ cs = bs ++ ds) : as = bs ∧ cs = ds := by
  have stops (xs : List α) (hx : ∀ c ∈ xs.head?, p c = false) : xs.dropWhile p = xs := by
    cases xs with
    | nil => rfl
    | cons c xs => rw [List.dropWhile_cons, hx c rfl]; rfl
  have hdrop := congrArg (List.dropWhile p) h
  rw [List.dropWhile_append_of_pos ha, List.dropWhile_append_of_pos hb, stops cs hc, stops ds hd]
    at hdrop
  subst hdrop
  exact ⟨List.append_cancel_right h, rfl⟩

end Text

/-! ## Selectors -/

namespace Selector

/-- Between slashes, as a pattern is written. -/
def Slashed (cs : List Char) : Prop := 1 < cs.length ∧ cs.head? = some '/' ∧ cs.getLast? = some '/'

/-- The selector can stand behind a name: its key is not empty and could not be taken for a
pattern. -/
def WellRead : Selector → Prop
  | all => True
  | key k => k.isEmpty = false ∧ ¬ Slashed k.toList
  | pattern _ => True

theorem ofText_of_no_key {key : Option String} (h : (key.filter fun k => !k.isEmpty) = none) :
    ofText key = .ok .all := by
  cases key with
  | none => rfl
  | some k =>
      have hk : k.isEmpty = true := by simpa using h
      have hcs : k.toList.isEmpty = true := by simpa using hk
      unfold ofText
      dsimp only
      rw [if_pos hcs]

theorem wellRead_of_ofText {key : Option String} {sel : Selector} (h : ofText key = .ok sel) :
    sel.WellRead := by
  unfold ofText at h
  dsimp only at h
  split at h
  · cases h
    trivial
  · rename_i k
    split at h
    · cases h
      trivial
    · rename_i hk
      split at h
      · split at h
        · cases h
          trivial
        · cases h
      · rename_i hslash
        cases h
        exact ⟨by simpa using hk, hslash⟩

/-- What the selector adds to a name. -/
def suffix : Selector → String
  | all => ""
  | key k => ":" ++ k
  | pattern p => ":/" ++ p.source ++ "/"

theorem fullName_eq (name : String) (sel : Selector) : sel.fullName name = name ++ sel.suffix := by
  cases sel with
  | all => exact (String.append_empty ..).symm
  | key k => exact String.append_assoc ..
  | pattern p => simp only [fullName, suffix, String.append_assoc]

theorem fold_suffix_key (k : String) : Text.fold (key k).suffix = ':' :: Text.fold k :=
  Text.fold_append ":" k

theorem fold_suffix_pattern (p : Pattern) :
    Text.fold (pattern p).suffix = ':' :: '/' :: (Text.fold p.source ++ ['/']) := by
  unfold suffix
  rw [Text.fold_append, Text.fold_append]
  rfl

/-- A text that equals one between slashes up to case stands between slashes itself. -/
theorem slashed_of_fold {cs ds : List Char} (h : cs.map Char.toLower = '/' :: (ds ++ ['/'])) :
    Slashed cs := by
  -- lowering keeps the length and turns nothing else into a slash
  have hlength := congrArg List.length h
  have hhead := congrArg List.head? h
  have hlast := congrArg List.getLast? h
  rw [List.length_map] at hlength
  rw [List.head?_map, List.head?_cons] at hhead
  rw [List.getLast?_map, ← List.cons_append, List.getLast?_concat] at hlast
  obtain ⟨c, hc, hclower⟩ := Option.map_eq_some_iff.1 hhead
  obtain ⟨d, hd, hdlower⟩ := Option.map_eq_some_iff.1 hlast
  refine ⟨?_, ?_, ?_⟩
  · rw [hlength]
    simp only [List.length_cons, List.length_append]
    omega
  · rw [hc, Text.eq_slash_of_toLower hclower]
  · rw [hd, Text.eq_slash_of_toLower hdlower]

/-- Selectors of the same form; keys are the same up to case. -/
def SameForm : Selector → Selector → Prop
  | all, all => True
  | key k, key k' => Text.sameText k k' = true
  | pattern _, pattern _ => True
  | _, _ => False

/-- **What stands behind a name tells how it selects keys.** -/
theorem sameForm_of_sameText {a b : Selector} (ha : a.WellRead) (hb : b.WellRead)
    (h : Text.sameText a.suffix b.suffix = true) : a.SameForm b := by
  rw [Text.sameText_iff] at h
  cases a with
  | all =>
      cases b with
      | all => trivial
      | key k => rw [fold_suffix_key] at h; cases h
      | pattern p => rw [fold_suffix_pattern] at h; cases h
  | key k =>
      -- behind the colon a key cannot be read as a pattern, since it is well read
      rw [fold_suffix_key] at h
      cases b with
      | all => cases h
      | key k' =>
          rw [fold_suffix_key] at h
          exact Text.sameText_iff.2 (List.cons.inj h).2
      | pattern p =>
          rw [fold_suffix_pattern] at h
          exact absurd (slashed_of_fold (List.cons.inj h).2) ha.2
  | pattern p =>
      rw [fold_suffix_pattern] at h
      cases b with
      | all => cases h
      | key k =>
          rw [fold_suffix_key] at h
          exact absurd (slashed_of_fold (List.cons.inj h).2.symm) hb.2
      | pattern q => trivial

end Selector

/-! ## Kinds -/

namespace Variable

/-- What a variable is about, without its marks and its selector. -/
inductive Kind where
  | set (source : SetSource)
  | names (source : SetSource)
  | collection (name : CollectionName)
  | single (source : SingleSource)
  | env
  | time (field : Calendar.Field)
  | rule
  deriving DecidableEq

namespace Kind

/-- The name under which variables of the kind are written. -/
def name : Kind → String
  | set s => s.name
  | names s => s.namesName
  | collection c => c.text
  | single s => s.name
  | env => "ENV"
  | time f => f.name
  | rule => "RULE"

/-- Every kind. -/
def all : List Kind :=
  SetSource.all.map set ++ SetSource.all.map names ++ CollectionName.all.map collection ++
    SingleSource.all.map single ++ Calendar.Field.all.map time ++ [env, rule]

theorem mem_all (k : Kind) : k ∈ all := by
  cases k with
  | set s => cases s <;> decide
  | names s => cases s <;> decide
  | collection c => cases c <;> decide
  | single s => cases s <;> decide
  | env => decide
  | time f => cases f <;> decide
  | rule => decide

/-- **Names tell kinds apart**, even up to case. -/
theorem eq_of_sameText {a b : Kind} (h : Text.sameText a.name b.name = true) : a = b := by
  have distinct : (all.map fun k => Text.fold k.name).Nodup := by decide +kernel
  exact List.inj_on_of_nodup_map distinct (mem_all a) (mem_all b) (Text.sameText_iff.1 h)

theorem colon_notMem_name (k : Kind) : ':' ∉ Text.fold k.name := by
  have unmarked : ∀ k ∈ all, ':' ∉ Text.fold k.name := by decide +kernel
  exact unmarked k (mem_all k)

/-- A name starts with a character, and not with a mark. -/
theorem fold_name_eq_cons (k : Kind) :
    ∃ c cs, Text.fold k.name = c :: cs ∧ c ≠ '!' ∧ c ≠ '&' := by
  have unmarked : ∀ k ∈ all,
      (Text.fold k.name).head?.any (fun c => c != '!' && c != '&') = true := by
    decide +kernel
  have hk := unmarked k (mem_all k)
  cases hn : Text.fold k.name with
  | nil =>
      rw [hn] at hk
      cases hk
  | cons c cs =>
      rw [hn, List.head?_cons, Option.any_some, Bool.and_eq_true] at hk
      exact ⟨c, cs, rfl, by simpa using hk.1, by simpa using hk.2⟩

/-- A single text or a field of the time: nothing can stand behind the name. -/
def IsFixed : Kind → Prop
  | single _ => True
  | time _ => True
  | _ => False

end Kind

/-- The kind of a variable; marks do not change it. -/
def kind : Variable → Kind
  | set s _ _ => .set s
  | names s _ _ => .names s
  | collection c _ _ => .collection c
  | single s => .single s
  | env _ _ => .env
  | time f => .time f
  | rule _ => .rule
  | exclusion b => b.kind
  | count b => b.kind

theorem name_eq (v : Variable) : v.name = v.kind.name := by
  induction v with
  | exclusion b ih => exact ih
  | count b ih => exact ih
  | set s sel e => rfl
  | names s sel e => rfl
  | collection c sel e => rfl
  | single s => rfl
  | env key e => rfl
  | time f => rfl
  | rule key => rfl

/-! ## Full names -/

/-- The number of marks that count. -/
def marks : Variable → Nat
  | exclusion b => b.marks
  | count b => b.marks + 1
  | _ => 0

/-- What stands behind the name. -/
def suffix : Variable → String
  | set _ sel _ => sel.suffix
  | names _ sel _ => sel.suffix
  | collection _ sel _ => sel.suffix
  | env none _ => ""
  | env (some k) _ => ":" ++ k
  | rule none => ""
  | rule (some k) => ":" ++ k
  | single _ => ""
  | time _ => ""
  | exclusion b => b.suffix
  | count b => b.suffix

/-- The selector of the variable can stand behind a name. -/
def WellRead : Variable → Prop
  | set _ sel _ => sel.WellRead
  | names _ sel _ => sel.WellRead
  | collection _ sel _ => sel.WellRead
  | exclusion b => b.WellRead
  | count b => b.WellRead
  | _ => True

/-- The variable carries no mark. -/
def Unmarked : Variable → Prop
  | exclusion _ => False
  | count _ => False
  | _ => True

theorem keyedName_some (name k : String) : keyedName name (some k) = name ++ (":" ++ k) :=
  String.append_assoc ..

theorem fold_fullName (v : Variable) :
    Text.fold v.fullName =
      List.replicate v.marks '&' ++ (Text.fold v.kind.name ++ Text.fold v.suffix) := by
  have ends (name : String) : Text.fold name = Text.fold name ++ Text.fold "" :=
    (List.append_nil _).symm
  induction v with
  | set s sel e => exact (congrArg Text.fold (sel.fullName_eq _)).trans (Text.fold_append ..)
  | names s sel e => exact (congrArg Text.fold (sel.fullName_eq _)).trans (Text.fold_append ..)
  | collection c sel e => exact (congrArg Text.fold (sel.fullName_eq _)).trans (Text.fold_append ..)
  | single s => exact ends _
  | env key e =>
      cases key with
      | none => exact ends _
      | some k =>
          change _ = [] ++ (Text.fold "ENV" ++ Text.fold (":" ++ k))
          rw [fullName, keyedName_some, Text.fold_append, List.nil_append]
  | time f => exact ends _
  | rule key =>
      cases key with
      | none => exact ends _
      | some k =>
          change _ = [] ++ (Text.fold "RULE" ++ Text.fold (":" ++ k))
          rw [fullName, keyedName_some, Text.fold_append, List.nil_append]
  | exclusion b ih => exact ih
  | count b ih =>
      rw [fullName, Text.fold_append, ih, marks, List.replicate_succ, List.cons_append]
      rfl

/-- What stands behind a name is nothing or starts with a colon. -/
theorem head?_suffix (v : Variable) : ∀ c ∈ (Text.fold v.suffix).head?, c = ':' := by
  have ofKey (k : String) : ∀ c ∈ (Text.fold (":" ++ k)).head?, c = ':' := by
    intro c hc
    rw [Text.fold_append] at hc
    exact (Option.some.inj hc).symm
  have ofSelector (sel : Selector) : ∀ c ∈ (Text.fold sel.suffix).head?, c = ':' := by
    cases sel with
    | all => intro c hc; cases hc
    | key k => exact ofKey k
    | pattern p =>
        intro c hc
        rw [Selector.fold_suffix_pattern] at hc
        exact (Option.some.inj hc).symm
  induction v with
  | set s sel e => exact ofSelector sel
  | names s sel e => exact ofSelector sel
  | collection c sel e => exact ofSelector sel
  | single s => intro c hc; cases hc
  | env key e =>
      cases key with
      | none => intro c hc; cases hc
      | some k => exact ofKey k
  | time f => intro c hc; cases hc
  | rule key =>
      cases key with
      | none => intro c hc; cases hc
      | some k => exact ofKey k
  | exclusion b ih => exact ih
  | count b ih => exact ih

/-- **A full name says what the variable is**, up to case: how many marks it has, of which kind it
is, and what stands behind its name. -/
theorem parts_of_sameText {v w : Variable} (h : Text.sameText v.fullName w.fullName = true) :
    v.marks = w.marks ∧ v.kind = w.kind ∧ Text.sameText v.suffix w.suffix = true := by
  -- cut both full names where the marks end, and then where the names end
  have unmarked (u : Variable) :
      ∀ c ∈ (Text.fold u.kind.name ++ Text.fold u.suffix).head?, (c == '&') = false := by
    obtain ⟨c, cs, hc, -, hne⟩ := u.kind.fold_name_eq_cons
    intro d hd
    rw [hc] at hd
    cases hd
    simpa using hne
  have named (u : Variable) : ∀ c ∈ Text.fold u.kind.name, (c != ':') = true := by
    intro c hc
    have hne : c ≠ ':' := fun heq => u.kind.colon_notMem_name (heq ▸ hc)
    simpa using hne
  have stops (u : Variable) : ∀ c ∈ (Text.fold u.suffix).head?, (c != ':') = false := by
    intro c hc
    rw [u.head?_suffix c hc]
    rfl
  have amps (n : Nat) : ∀ c ∈ List.replicate n '&', (c == '&') = true := by
    intro c hc
    rw [List.eq_of_mem_replicate hc]
    rfl
  rw [Text.sameText_iff, fold_fullName, fold_fullName] at h
  obtain ⟨hmarks, hrest⟩ := Text.append_inj_of_stop (amps _) (amps _) (unmarked v) (unmarked w) h
  obtain ⟨hname, hsuffix⟩ :=
    Text.append_inj_of_stop (named v) (named w) (stops v) (stops w) hrest
  have hlength := congrArg List.length hmarks
  rw [List.length_replicate, List.length_replicate] at hlength
  exact ⟨hlength, Kind.eq_of_sameText (Text.sameText_iff.2 hname), Text.sameText_iff.2 hsuffix⟩

/-! ## Reading -/

/-- What reading a plain reference of a name and what stands behind it comes to. -/
structure ReadAs (name : String) (key : Option String) (v : Variable) : Prop where
  name : v.kind.name = name
  wellRead : v.WellRead
  unmarked : v.Unmarked
  fixed : v.kind.IsFixed → Selector.ofText key = .ok .all

theorem readAs_of_ofPlain {cs : List Char} {v : Variable} (h : ofPlain cs = .ok v) :
    ReadAs (splitReference cs).1 (splitReference cs).2 v := by
  -- the names are tried in the order of their kinds: sets, views of names, collections, the
  -- environment, the rule; only then may nothing stand behind the name
  unfold ofPlain at h
  dsimp only at h
  split at h
  · rename_i s hs
    have hname := List.find?_some hs
    obtain ⟨sel, hsel, rfl⟩ := map_eq_ok.1 h
    exact ⟨eq_of_beq hname, Selector.wellRead_of_ofText hsel, trivial, False.elim⟩
  · split at h
    · rename_i s hs
      have hname := List.find?_some hs
      obtain ⟨sel, hsel, rfl⟩ := map_eq_ok.1 h
      exact ⟨eq_of_beq hname, Selector.wellRead_of_ofText hsel, trivial, False.elim⟩
    · split at h
      · rename_i c hc
        have hname := List.find?_some hc
        obtain ⟨sel, hsel, rfl⟩ := map_eq_ok.1 h
        exact ⟨eq_of_beq hname, Selector.wellRead_of_ofText hsel, trivial, False.elim⟩
      · split at h
        · rename_i henv
          cases h
          exact ⟨henv.symm, trivial, trivial, False.elim⟩
        · split at h
          · rename_i hrule
            cases h
            exact ⟨hrule.symm, trivial, trivial, False.elim⟩
          · split at h
            · cases h
            · rename_i hkey
              have hkey := Selector.ofText_of_no_key (Option.not_isSome_iff_eq_none.1 hkey)
              split at h
              · rename_i s hs
                have hname := List.find?_some hs
                cases h
                exact ⟨eq_of_beq hname, trivial, trivial, fun _ => hkey⟩
              · split at h
                · rename_i f hf
                  have hname := List.find?_some hf
                  cases h
                  exact ⟨eq_of_beq hname, trivial, trivial, fun _ => hkey⟩
                · cases h

/-- Blanks around a reference make no difference to its name and what stands behind it. -/
theorem splitReference_trimChars (cs : List Char) :
    splitReference (Text.trimChars cs) = splitReference cs := by
  have nocolon {l : List Char} (h : Text.AllBlank l) : ∀ c ∈ l, (c == ':') = false := by
    intro c hc
    refine Bool.eq_false_iff.2 fun heq => ?_
    have hblank := h c hc
    rw [eq_of_beq heq] at hblank
    exact absurd hblank (by decide +kernel)
  obtain ⟨l, r, hl, hr, hcs⟩ := Text.exists_blanks_around cs
  -- no blank is a colon, so the cut falls at the same one and the parts differ in blanks at the ends
  have hcut : Text.cutAt? (· == ':') cs =
      (Text.cutAt? (· == ':') (Text.trimChars cs)).map fun p => (l ++ p.1, p.2 ++ r) := by
    conv_lhs => rw [hcs]
    rw [Text.cutAt?_append_right (nocolon hr), Text.cutAt?_append_left (nocolon hl), Option.map_map]
    rfl
  unfold splitReference
  rw [hcut]
  cases Text.cutAt? (· == ':') (Text.trimChars cs) with
  | none => simp only [Option.map_none, Text.trimChars_trimChars]
  | some p =>
      simp only [Option.map_some, Text.trimChars_append_left hl, Text.trimChars_append_right hr]

/-- A reference that starts with a mark has a name that does. -/
theorem head?_splitReference {c : Char} (h : c = '!' ∨ c = '&') (cs : List Char) :
    (Text.fold (splitReference (c :: cs)).1).head? = some c := by
  have hblank : Text.isBlank c = false := by rcases h with rfl | rfl <;> decide +kernel
  have hcolon : (c == ':') = false := by rcases h with rfl | rfl <;> rfl
  have hcase : c.toUpper.toLower = c := by rcases h with rfl | rfl <;> rfl
  have named (ds : List Char) :
      (Text.fold (Text.upper (String.ofList (Text.trimChars (c :: ds))))).head? = some c := by
    obtain ⟨rest, hrest⟩ := Text.trimChars_cons hblank ds
    rw [hrest]
    unfold Text.fold Text.upper
    rw [String.toList_ofList, String.toList_ofList, List.map_cons, List.map_cons, List.head?_cons,
      hcase]
  unfold splitReference
  dsimp only
  rw [Text.cutAt?, hcolon]
  cases Text.cutAt? (· == ':') cs with
  | none => exact named cs
  | some p => exact named p.1

theorem ofChars_of_exclamation {cs rest : List Char} (h : Text.trimChars cs = '!' :: rest) :
    ofChars cs = (ofChars rest).map .exclusion := by
  rw [ofChars]
  split
  · rename_i h'
    rw [h] at h'
    cases h'
    rfl
  · rename_i h'
    rw [h] at h'
    cases h'
  · rename_i h' _
    exact absurd h (h' rest)

theorem ofChars_of_ampersand {cs rest : List Char} (h : Text.trimChars cs = '&' :: rest) :
    ofChars cs = (ofChars rest).map .count := by
  rw [ofChars]
  split
  · rename_i h'
    rw [h] at h'
    cases h'
  · rename_i h'
    rw [h] at h'
    cases h'
    rfl
  · rename_i h'
    exact absurd h (h' rest)

theorem ofChars_of_unmarked {cs : List Char} (h : (Text.trimChars cs).head? ≠ some '!')
    (h' : (Text.trimChars cs).head? ≠ some '&') : ofChars cs = ofPlain (Text.trimChars cs) := by
  rw [ofChars]
  split
  · rename_i hcs
    rw [hcs] at h
    exact absurd rfl h
  · rename_i hcs
    rw [hcs] at h'
    exact absurd rfl h'
  · rfl

theorem wellRead_of_ofChars {cs : List Char} {v : Variable} (h : ofChars cs = .ok v) :
    v.WellRead := by
  -- on the marks that are peeled off
  induction cs using ofChars.induct generalizing v with
  | case1 cs rest hcs ih =>
      rw [ofChars_of_exclamation hcs] at h
      obtain ⟨b, hb, rfl⟩ := map_eq_ok.1 h
      have hread := ih hb
      exact hread
  | case2 cs rest hcs ih =>
      rw [ofChars_of_ampersand hcs] at h
      obtain ⟨b, hb, rfl⟩ := map_eq_ok.1 h
      have hread := ih hb
      exact hread
  | case3 cs hexclamation hampersand =>
      have unmarked {c : Char} (hc : ∀ rest, Text.trimChars cs = c :: rest → False) :
          (Text.trimChars cs).head? ≠ some c := by
        intro hhead
        obtain ⟨rest, hrest⟩ := List.head?_eq_some_iff.1 hhead
        exact hc rest hrest
      rw [ofChars_of_unmarked (unmarked hexclamation) (unmarked hampersand)] at h
      exact (readAs_of_ofPlain h).wellRead

end Variable

deriving instance DecidableEq for CharSet
deriving instance DecidableEq for Look
deriving instance DecidableEq for Expr
deriving instance DecidableEq for Pattern
deriving instance DecidableEq for Selector
deriving instance DecidableEq for Exclusions
deriving instance DecidableEq for Variable
deriving instance DecidableEq for Variable.Target

end Rampart
