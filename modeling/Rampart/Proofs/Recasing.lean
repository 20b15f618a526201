import Rampart.Proofs.CaseFolding
import Rampart.Proofs.Standalone
import Mathlib.Data.List.Forall2

/-!
# Keys in another case

Two sequences of calls to a collection differ by the case of keys alone: of the keys that are written,
read and asked for, and of the keys that reads leave out. Patterns are the same and tell no texts
apart that differ by case alone.

The collections that the calls come to hold the same entries in the same order, under keys that are
the same up to case. This is what each call preserves, and it determines what the call replies.
-/

namespace Rampart

open List (Forall₂)

namespace Text

theorem sameText_congr {a a' b b' : String} (ha : sameText a a' = true) (hb : sameText b b' = true) :
    sameText a b = sameText a' b' := by
  unfold sameText
  rw [sameText_iff.1 ha, sameText_iff.1 hb]

theorem isEmpty_congr {a b : String} (h : sameText a b = true) : a.isEmpty = b.isEmpty := by
  have hlength := congrArg List.length (sameText_iff.1 h)
  unfold fold at hlength
  rw [List.length_map, List.length_map] at hlength
  rw [Bool.eq_iff_iff, String.isEmpty_iff, String.isEmpty_iff, ← String.toList_eq_nil_iff,
    ← String.toList_eq_nil_iff, ← List.length_eq_zero_iff, ← List.length_eq_zero_iff, hlength]

end Text

/-! ## The same up to case -/

/-- The pattern does not tell texts apart that are the same up to case. -/
def Pattern.IgnoresCase (p : Pattern) : Prop :=
  ∀ a b, Text.sameText a b = true → p.isMatch a = p.isMatch b

/-- Closing a set under the case of all letters leaves no difference between those of A to Z. -/
theorem CharSet.contains_caseClosure_toLower (a : CharSet) (c : Char) :
    (caseClosure a).contains c.toLower.toNat = (caseClosure a).contains c.toNat := by
  rcases Unicode.toLower_cases c with hsame | ⟨i, hi, hc, hmoved⟩
  · rw [hsame]
  · rw [hc, hmoved, Bool.eq_iff_iff, contains, contains, List.any_eq_true, List.any_eq_true]
    obtain ⟨hsmall, hcapital⟩ := Unicode.caseOrbit_letter hi
    exact ⟨fun ⟨n, hn, hin⟩ => ⟨n, hsmall hn, hin⟩, fun ⟨n, hn, hin⟩ => ⟨n, hcapital hn, hin⟩⟩

/-- A set is found in a text exactly if one of the characters is a member. -/
theorem Expr.isSome_findFrom_one (set : CharSet) (offset : Nat) (before : Option Char)
    (cs : List Char) :
    ((Expr.one set).findFrom offset before cs).isSome = cs.any fun c => set.contains c.toNat := by
  induction cs generalizing offset before with
  | nil => rfl
  | cons c cs ih =>
      rw [findFrom, matchAt, ends, List.any_cons]
      dsimp only
      cases hc : set.contains c.toNat with
      | true => rfl
      | false => exact ih _ _

/-- A pattern for one character ignores case if it is read so. -/
theorem Pattern.ignoresCase_one (source : String) (a : CharSet) :
    (Pattern.mk source (.one (.caseClosure a))).IgnoresCase := by
  have hfold (s : String) : (Pattern.mk source (.one (.caseClosure a))).isMatch s =
      (Text.fold s).any fun c => (CharSet.caseClosure a).contains c.toNat := by
    unfold isMatch find? findFrom? matchFrom? Cursor.start
    rw [Option.isSome_map, Option.isSome_map, Expr.isSome_findFrom_one, Text.fold, List.any_map]
    exact List.any_congr rfl fun c => (CharSet.contains_caseClosure_toLower a c).symm
  intro s t h
  rw [hfold, hfold, Text.sameText_iff.1 h]

/-- The same exclusions but for the case of keys. -/
structure Exclusions.Recased (e e' : Exclusions) : Prop where
  keys : Forall₂ (fun a b => Text.sameText a b = true) e.keys e'.keys
  patterns : e.patterns = e'.patterns
  ignoreCase : ∀ p ∈ e.patterns, p.IgnoresCase

/-- The same value under a key that is the same up to case. -/
structure Value.Recased (v v' : Value) : Prop where
  collection : v.collection = v'.collection
  key : Text.sameText v.key v'.key = true
  text : v.text = v'.text
  origins : v.origins = v'.origins

/-- The same entries under a key that is the same up to case. -/
structure Bucket.Recased (b b' : Bucket) : Prop where
  key : Text.sameText b.key b'.key = true
  entries : b.entries = b'.entries

/-- The same entries in the same order, under keys that are the same up to case. -/
structure Collection.Recased (c c' : Collection) : Prop where
  name : c.name = c'.name
  buckets : Forall₂ Bucket.Recased c.buckets c'.buckets

/-- Replies that agree: lists of values hold the same texts in the same order, under keys that are the
same up to case; all others are equal. -/
inductive Reply.Agrees : Reply → Reply → Prop where
  | same {r r' : Reply} (h : r = r') : Agrees r r'
  | values {vs vs' : List Value} (h : Forall₂ Value.Recased vs vs') : Agrees (.values vs) (.values vs')

theorem any_eq_of_forall₂ {α β : Type} {R : α → β → Prop} {p : α → Bool} {q : β → Bool}
    (h : ∀ a b, R a b → p a = q b) {as : List α} {bs : List β} (hall : Forall₂ R as bs) :
    as.any p = bs.any q := by
  induction hall with
  | nil => rfl
  | cons hab _ ih => rw [List.any_cons, List.any_cons, h _ _ hab, ih]

theorem forall₂_filter {α β : Type} {R : α → β → Prop} {p : α → Bool} {q : β → Bool}
    (h : ∀ a b, R a b → p a = q b) {as : List α} {bs : List β} (hall : Forall₂ R as bs) :
    Forall₂ R (as.filter p) (bs.filter q) :=
  List.rel_filter (fun a b hab => iff_of_eq (congrArg (· = true) (h a b hab))) hall

theorem rel_find? {α β : Type} {R : α → β → Prop} {p : α → Bool} {q : β → Bool}
    (h : ∀ a b, R a b → p a = q b) {as : List α} {bs : List β} (hall : Forall₂ R as bs) :
    Option.Rel R (as.find? p) (bs.find? q) := by
  induction hall with
  | nil => exact .none
  | cons hab _ ih =>
      rw [List.find?_cons, List.find?_cons, h _ _ hab]
      split
      · exact .some hab
      · exact ih

theorem Exclusions.Recased.omits {e e' : Exclusions} (h : e.Recased e') {k k' : String}
    (hk : Text.sameText k k' = true) : e.omits k = e'.omits k' := by
  unfold Exclusions.omits
  have hkeys : e.keys.any (Text.sameText · k) = e'.keys.any (Text.sameText · k') :=
    any_eq_of_forall₂ (fun a b hab => Text.sameText_congr hab hk) h.keys
  have hpatterns : e.patterns.any (·.isMatch k) = e'.patterns.any (·.isMatch k') := by
    rw [← h.patterns, Bool.eq_iff_iff, List.any_eq_true, List.any_eq_true]
    exact exists_congr fun p => and_congr_right fun hp => by rw [h.ignoreCase p hp k k' hk]
  rw [hkeys, hpatterns]

namespace Collection

namespace Recased

variable {c c' : Collection} {k k' : String}

theorem refl (c : Collection) : c.Recased c :=
  ⟨rfl, List.forall₂_same.2 fun b _ => ⟨Text.sameText_refl b.key, rfl⟩⟩

/-! ## Writes -/

theorem contains (h : c.Recased c') (hk : Text.sameText k k' = true) :
    c.contains k = c'.contains k' :=
  any_eq_of_forall₂ (fun _ _ hb => Text.sameText_congr hb.key hk) h.buckets

theorem size (h : c.Recased c') : c.size = c'.size := h.buckets.length_eq

theorem keep (h : c.Recased c') {p p' : Bucket → Bool} (hp : ∀ b b', b.Recased b' → p b = p' b') :
    (c.keep p).Recased (c'.keep p') where
  name := h.name
  buckets := forall₂_filter hp h.buckets

theorem modify (h : c.Recased c') (hk : Text.sameText k k' = true) (f : Entries → Entries) :
    (c.modify k f).Recased (c'.modify k' f) where
  name := h.name
  buckets := by
    rw [buckets_modify, buckets_modify]
    refine List.rel_map (fun b b' hb => ?_) h.buckets
    rw [Text.sameText_congr hb.key hk]
    split
    · exact ⟨hb.key, congrArg f hb.entries⟩
    · exact hb

theorem put (h : c.Recased c') (hk : Text.sameText k k' = true) (f : Entries → Entries)
    (fresh : Entry) : (c.put k f fresh).Recased (c'.put k' f fresh) := by
  have hcontains := h.contains hk
  unfold Collection.put
  by_cases hnew : c.contains k = false
  · rw [dif_pos hnew, dif_pos (hcontains ▸ hnew)]
    exact ⟨h.name, List.rel_append h.buckets (.cons ⟨hk, rfl⟩ .nil)⟩
  · rw [dif_neg hnew, dif_neg (hcontains ▸ hnew)]
    exact h.modify hk f

/-! ## Reads -/

/-- Tests of keys that do not mind the case. -/
def SameTests (selects selects' : String → Bool) : Prop :=
  ∀ k k', Text.sameText k k' = true → selects k = selects' k'

theorem purge (h : c.Recased c') (now : Instant) {selects selects' : String → Bool}
    (hselects : SameTests selects selects') :
    (c.purge now selects).Recased (c'.purge now selects') :=
  h.keep fun b b' hb => by rw [hselects _ _ hb.key, hb.entries]

theorem read (h : c.Recased c') (now : Instant) {selects selects' : String → Bool}
    {label label' : String → String} (hselects : SameTests selects selects')
    (hlabel : ∀ k k', Text.sameText k k' = true → Text.sameText (label k) (label' k') = true) :
    Forall₂ Value.Recased (c.read now selects label).1 (c'.read now selects' label').1 ∧
      (c.read now selects label).2.Recased (c'.read now selects' label').2 := by
  refine ⟨?_, h.purge now hselects⟩
  have hselected : Forall₂ Bucket.Recased (c.buckets.filter fun b => selects b.key)
      (c'.buckets.filter fun b => selects' b.key) :=
    forall₂_filter (fun b b' hb => hselects b.key b'.key hb.key) h.buckets
  refine List.rel_flatMap hselected fun b b' hb => ?_
  unfold bucketValues
  rw [hb.entries]
  exact List.rel_map (fun text text' (htext : text = text') => by
    subst htext
    exact ⟨h.name, hlabel _ _ hb.key, rfl, rfl⟩) (List.forall₂_refl _)

theorem find? (h : c.Recased c') (hk : Text.sameText k k' = true) :
    Option.Rel Bucket.Recased (c.find? k) (c'.find? k') :=
  rel_find? (fun _ _ hb => Text.sameText_congr hb.key hk) h.buckets

/-- The test for one key, which the exclusions are not put to. -/
theorem sameTests_key (hk : Text.sameText k k' = true) :
    SameTests (Text.sameText · k) (Text.sameText · k') := fun _ _ h => Text.sameText_congr h hk

theorem readFirst (h : c.Recased c') (now : Instant) (hk : Text.sameText k k' = true) :
    (c.readFirst now k).1 = (c'.readFirst now k').1 ∧
      (c.readFirst now k).2.Recased (c'.readFirst now k').2 := by
  refine ⟨?_, h.purge now (sameTests_key hk)⟩
  have hfind := h.find? hk
  unfold Collection.readFirst
  generalize c.find? k = found, c'.find? k' = found' at hfind
  cases hfind with
  | none => rfl
  | some hb => exact congrArg (fun es : Entries => (es.live now).head?) hb.entries

theorem readKey (h : c.Recased c') (now : Instant) (hk : Text.sameText k k' = true) :
    Forall₂ Value.Recased (c.readKey now k).1 (c'.readKey now k').1 ∧
      (c.readKey now k).2.Recased (c'.readKey now k').2 :=
  h.read now (sameTests_key hk) fun _ _ hlabel => hlabel

theorem readMany (h : c.Recased c') (now : Instant) (hk : Text.sameText k k' = true)
    {e e' : Exclusions} (he : e.Recased e') :
    Forall₂ Value.Recased (c.readMany now k e).1 (c'.readMany now k' e').1 ∧
      (c.readMany now k e).2.Recased (c'.readMany now k' e').2 := by
  unfold Collection.readMany
  rw [Text.isEmpty_congr hk, he.omits hk]
  split
  · obtain ⟨hvalues, hleft⟩ := h.read now (fun a b hab => congrArg (!·) (he.omits hab))
      fun _ _ hlabel => hlabel
    exact ⟨List.rel_reverse hvalues, hleft⟩
  · split
    · exact ⟨.nil, h⟩
    · have hlabel : ∀ a b, Text.sameText a b = true → Text.sameText k k' = true := fun _ _ _ => hk
      obtain ⟨hvalues, hleft⟩ := h.read now (sameTests_key hk) hlabel
      exact ⟨List.rel_reverse hvalues, hleft⟩

theorem readMatching (h : c.Recased c') (now : Instant) {p : Pattern} (hp : p.IgnoresCase)
    {e e' : Exclusions} (he : e.Recased e') :
    Forall₂ Value.Recased (c.readMatching now p e).1 (c'.readMatching now p e').1 ∧
      (c.readMatching now p e).2.Recased (c'.readMatching now p e').2 := by
  have hselects : SameTests (fun k => p.isMatch k && !e.omits k)
      fun k => p.isMatch k && !e'.omits k := by
    intro a b hab
    dsimp only
    rw [hp a b hab, he.omits hab]
  obtain ⟨hvalues, hleft⟩ := h.read now hselects fun _ _ hlabel => hlabel
  exact ⟨List.rel_reverse hvalues, hleft⟩

end Recased

/-! ## Calls -/

/-- A call to a collection. -/
inductive Call where
  | access (key : String) (a : Access)
  /-- Removes every key. -/
  | clear
  /-- The values under a key, or under every key for the empty key, but for the excluded keys. -/
  | readMany (key : String) (omitted : Exclusions)
  /-- The values under the keys that match a pattern, but for the excluded keys. -/
  | readMatching (p : Pattern) (omitted : Exclusions)

/-- The reply to a call at some moment, and what is left of the collection. -/
def call (c : Collection) (now : Instant) : Call → Reply × Collection
  | .access key a => c.access now key a
  | .clear => (.done, c.clear)
  | .readMany key omitted =>
    let r := c.readMany now key omitted
    (.values r.1, r.2)
  | .readMatching p omitted =>
    let r := c.readMatching now p omitted
    (.values r.1, r.2)

/-- The replies to calls, each at a moment of its own, and what is left of the collection. -/
def callAll (c : Collection) : List (Instant × Call) → List Reply × Collection
  | [] => ([], c)
  | a :: as =>
    let r := c.call a.1 a.2
    let rs := r.2.callAll as
    (r.1 :: rs.1, rs.2)

/-- The same call but for the case of keys. -/
inductive Call.Recased : Call → Call → Prop where
  | access {k k' : String} (hk : Text.sameText k k' = true) (a : Access) :
      Recased (.access k a) (.access k' a)
  | clear : Recased .clear .clear
  | readMany {k k' : String} (hk : Text.sameText k k' = true) {e e' : Exclusions}
      (he : e.Recased e') : Recased (.readMany k e) (.readMany k' e')
  | readMatching {p : Pattern} (hp : p.IgnoresCase) {e e' : Exclusions} (he : e.Recased e') :
      Recased (.readMatching p e) (.readMatching p e')

theorem Recased.access {c c' : Collection} (h : c.Recased c') (now : Instant) {k k' : String}
    (hk : Text.sameText k k' = true) (a : Access) :
    (c.access now k a).1.Agrees (c'.access now k' a).1 ∧
      (c.access now k a).2.Recased (c'.access now k' a).2 := by
  cases a with
  | store text => exact ⟨.same rfl, h.put hk _ _⟩
  | setFirst text => exact ⟨.same rfl, h.put hk _ _⟩
  | updateFirst text =>
      exact ⟨.same (congrArg Reply.flag (h.contains hk)),
        h.modify hk fun es => { es with first := es.first.setValue text }⟩
  | erase => exact ⟨.same rfl, h.keep fun b b' hb => by rw [Text.sameText_congr hb.key hk]⟩
  | expire seconds => exact ⟨.same rfl, h.put hk _ _⟩
  | contains => exact ⟨.same (congrArg Reply.flag (h.contains hk)), h⟩
  | readFirst =>
      obtain ⟨htext, hleft⟩ := h.readFirst now hk
      exact ⟨.same (congrArg Reply.text htext), hleft⟩
  | readKey =>
      obtain ⟨hvalues, hleft⟩ := h.readKey now hk
      exact ⟨.values hvalues, hleft⟩

/-- **A call preserves that collections are the same up to case**, and the replies agree. -/
theorem Recased.call {c c' : Collection} (h : c.Recased c') (now : Instant) {a a' : Call}
    (ha : a.Recased a') :
    (c.call now a).1.Agrees (c'.call now a').1 ∧ (c.call now a).2.Recased (c'.call now a').2 := by
  cases ha with
  | access hk a => exact h.access now hk a
  | clear => exact ⟨.same rfl, ⟨h.name, .nil⟩⟩
  | readMany hk he =>
      obtain ⟨hvalues, hleft⟩ := h.readMany now hk he
      exact ⟨.values hvalues, hleft⟩
  | readMatching hp he =>
      obtain ⟨hvalues, hleft⟩ := h.readMatching now hp he
      exact ⟨.values hvalues, hleft⟩

/-- Calls at the same moments that are the same but for the case of keys. -/
abbrev RecasedCalls : List (Instant × Call) → List (Instant × Call) → Prop :=
  Forall₂ fun a a' => a.1 = a'.1 ∧ a.2.Recased a'.2

theorem Recased.callAll {c c' : Collection} (h : c.Recased c') {as as' : List (Instant × Call)}
    (has : RecasedCalls as as') :
    Forall₂ Reply.Agrees (c.callAll as).1 (c'.callAll as').1 ∧
      (c.callAll as).2.Recased (c'.callAll as').2 := by
  induction has generalizing c c' with
  | nil => exact ⟨.nil, h⟩
  | @cons a a' as as' ha _ ih =>
      obtain ⟨now, a⟩ := a
      obtain ⟨now', a'⟩ := a'
      obtain ⟨rfl, ha⟩ := ha
      obtain ⟨hreply, hstate⟩ := h.call now ha
      obtain ⟨hreplies, hend⟩ := ih hstate
      exact ⟨.cons hreply hreplies, hend⟩

/-! ## Spellings -/

/-- The spelling under which a key is stored. -/
def spelling? (c : Collection) (key : String) : Option String := (c.find? key).map (·.key)

variable {c : Collection} {now : Instant} {key : String}

theorem contains_eq_isSome_spelling? (c : Collection) (key : String) :
    c.contains key = (c.spelling? key).isSome := by
  rw [contains_eq_isSome_find?, spelling?, Option.isSome_map]

theorem spelling?_keep {p : Bucket → Bool} (h : (c.keep p).contains key = true) :
    (c.keep p).spelling? key = c.spelling? key := by
  rw [contains_eq_isSome_find?, find?_keep] at h
  obtain ⟨b, hb⟩ := Option.isSome_iff_exists.1 h
  unfold spelling?
  rw [find?_keep, hb, (Option.filter_eq_some_iff.1 hb).1]

theorem spelling?_modify (k : String) (f : Entries → Entries) :
    (c.modify k f).spelling? key = c.spelling? key := by
  unfold spelling?
  rw [find?_modify, Option.map_map]
  refine congrArg (Option.map · (c.find? key)) (funext fun b => ?_)
  dsimp only [Function.comp_apply]
  split <;> rfl

/-- The key stays as it was spelled, or it is new and has the spelling `k`. -/
def SpelledBy (c : Collection) (k key : String) (d : Collection) : Prop :=
  d.spelling? key = c.spelling? key ∨
    c.contains key = false ∧ Text.sameText k key = true ∧ d.spelling? key = some k

theorem spelledBy_put (k : String) (f : Entries → Entries) (fresh : Entry) :
    c.SpelledBy k key (c.put k f fresh) := by
  unfold put
  split
  · rename_i hnew
    unfold SpelledBy spelling?
    rw [find?_insertNew]
    cases hk : Text.sameText k key with
    | false => exact .inl rfl
    | true =>
        refine .inr ⟨?_, rfl, rfl⟩
        rw [contains_eq_isSome_find?, ← find?_congr hk, find?_eq_none_of_not_contains hnew]
        rfl
  · exact .inl (spelling?_modify k f)

theorem spelledBy_access {k : String} {a : Access} (h : (c.access now k a).2.contains key = true) :
    c.SpelledBy k key (c.access now k a).2 := by
  cases a with
  | store text => exact spelledBy_put k _ _
  | setFirst text => exact spelledBy_put k _ _
  | updateFirst text => exact .inl (spelling?_modify k _)
  | erase => exact .inl (spelling?_keep h)
  | expire seconds => exact spelledBy_put k _ _
  | contains => exact .inl rfl
  | readFirst => exact .inl (spelling?_keep h)
  | readKey => exact .inl (spelling?_keep h)

/-- What a call makes of the spelling of a key that is there after it: only an access to the key, where
it was not there before, gives it one. -/
theorem spelling?_call {a : Call} (h : (c.call now a).2.contains key = true) :
    (c.call now a).2.spelling? key = c.spelling? key ∨
      c.contains key = false ∧ ∃ k access, a = .access k access ∧ Text.sameText k key = true ∧
        (c.call now a).2.spelling? key = some k := by
  cases a with
  | access k a => exact (spelledBy_access h).imp_right fun hnew => ⟨hnew.1, k, a, rfl, hnew.2⟩
  | clear => cases h
  | readMany k omitted =>
      have hleft : (c.readMany now k omitted).2 = _ := ask_snd c now (.many k omitted)
      have hstays : (c.readMany now k omitted).2.contains key = true := h
      refine .inl (?_ : (c.readMany now k omitted).2.spelling? key = _)
      rw [hleft] at hstays ⊢
      exact spelling?_keep hstays
  | readMatching p omitted => exact .inl (spelling?_keep h)

/-- The key is there after every call. -/
def Stays (c : Collection) (key : String) (as : List (Instant × Call)) : Prop :=
  ∀ n ≤ as.length, (c.callAll (as.take n)).2.contains key = true

theorem stays_cons {a : Instant × Call} {as : List (Instant × Call)} :
    c.Stays key (a :: as) ↔ c.contains key = true ∧ (c.call a.1 a.2).2.Stays key as := by
  constructor
  · intro h
    refine ⟨h 0 (Nat.zero_le _), fun n hn => ?_⟩
    exact h (n + 1) (Nat.succ_le_succ hn)
  · rintro ⟨hnow, hlater⟩ n hn
    cases n with
    | zero => exact hnow
    | succ n => exact hlater n (Nat.le_of_succ_le_succ hn)

/-- **A key keeps its spelling as long as it stays.** -/
theorem Stays.spelling? {as : List (Instant × Call)} (h : c.Stays key as) :
    (c.callAll as).2.spelling? key = c.spelling? key := by
  induction as generalizing c with
  | nil => rfl
  | cons a as ih =>
      obtain ⟨hnow, hlater⟩ := stays_cons.1 h
      have hafter : (c.call a.1 a.2).2.contains key = true := hlater 0 (Nat.zero_le _)
      refine (ih hlater).trans ?_
      rcases spelling?_call hafter with hsame | ⟨hnew, -⟩
      · exact hsame
      · rw [hnow] at hnew
        cases hnew

theorem callAll_append (as bs : List (Instant × Call)) :
    (c.callAll (as ++ bs)).2 = ((c.callAll as).2.callAll bs).2 := by
  induction as generalizing c with
  | nil => rfl
  | cons a as ih => exact ih

/-- **Keys ignore case, in every sequence of calls.** Calls that differ by the case of keys alone get
replies that agree, and at every step the two collections have as many keys and contain the same ones
up to case. A key that comes to be there was written, and as long as it stays it keeps the spelling
in which it was written then. -/
theorem keys_ignore_case (name : String) {as as' : List (Instant × Call)}
    (h : RecasedCalls as as') :
    Forall₂ Reply.Agrees ((empty name).callAll as).1 ((empty name).callAll as').1 ∧
      (∀ n, let c := ((empty name).callAll (as.take n)).2
        let c' := ((empty name).callAll (as'.take n)).2
        c.size = c'.size ∧
          ∀ k k', Text.sameText k k' = true → c.contains k = c'.contains k') ∧
      ∀ earlier a later key, as = earlier ++ a :: later →
        ((empty name).callAll earlier).2.contains key = false →
        (((empty name).callAll earlier).2.call a.1 a.2).2.Stays key later →
        ∃ k access, a.2 = .access k access ∧ Text.sameText k key = true ∧
          ((empty name).callAll as).2.spelling? key = some k := by
  have hempty := Recased.refl (empty name)
  refine ⟨(hempty.callAll h).1, fun n => ?_, ?_⟩
  · obtain ⟨-, hstate⟩ := hempty.callAll (List.forall₂_take n h)
    exact ⟨hstate.size, fun _ _ hk => hstate.contains hk⟩
  · rintro earlier a later key rfl hbefore hstays
    have hend : ((empty name).callAll (earlier ++ a :: later)).2.spelling? key =
        (((empty name).callAll earlier).2.call a.1 a.2).2.spelling? key := by
      rw [callAll_append]
      exact hstays.spelling?
    have hafter := hstays 0 (Nat.zero_le _)
    rcases spelling?_call hafter with hsame | ⟨-, k, access, ha, hk, hspelling⟩
    · -- a key that is there has a spelling, and one that is not has none
      have hthere : (((empty name).callAll earlier).2.call a.1 a.2).2.contains key = true := hafter
      rw [contains_eq_isSome_spelling?, hsame, ← contains_eq_isSome_spelling?, hbefore] at hthere
      cases hthere
    · exact ⟨k, access, ha, hk, hend.trans hspelling⟩

/-- The letter `k` in either case. -/
def letterK : Pattern := ⟨"k", .one (.caseClosure (.single 'k'))⟩

/-- A key is written, updated in another spelling, and shown by a scan that leaves out others. -/
def spelledCalls : List (Instant × Call) :=
  [(0, .access "Session_Count" (.store "1")), (0, .access "Key" (.expire 5)),
    (1, .access "session_count" (.updateFirst "2")),
    (2, .readMany "" { keys := ["Token"], patterns := [letterK] })]

/-- The same calls in another spelling. -/
def respelledCalls : List (Instant × Call) :=
  [(0, .access "session_count" (.store "1")), (0, .access "KEY" (.expire 5)),
    (1, .access "SESSION_COUNT" (.updateFirst "2")),
    (2, .readMany "" { keys := ["token"], patterns := [letterK] })]

/-- The pattern is read from the text, and the key keeps the first spelling. -/
theorem keys_ignore_case_session :
    Pattern.ofText Pattern.keyFlags "k" = .ok letterK ∧ RecasedCalls spelledCalls respelledCalls ∧
      Forall₂ Reply.Agrees ((empty "GLOBAL").callAll spelledCalls).1
        ((empty "GLOBAL").callAll respelledCalls).1 ∧
      ((empty "GLOBAL").callAll spelledCalls).2.spelling? "SESSION_COUNT" = some "Session_Count" := by
  have hexclusions : Exclusions.Recased { keys := ["Token"], patterns := [letterK] }
      { keys := ["token"], patterns := [letterK] } :=
    ⟨.cons (by decide +kernel) .nil, rfl,
      List.forall_mem_singleton.2 (Pattern.ignoresCase_one _ _)⟩
  have hcalls : RecasedCalls spelledCalls respelledCalls :=
    .cons ⟨rfl, .access (by decide +kernel) _⟩ <| .cons ⟨rfl, .access (by decide +kernel) _⟩ <|
      .cons ⟨rfl, .access (by decide +kernel) _⟩ <|
        .cons ⟨rfl, .readMany (Text.sameText_refl "") hexclusions⟩ .nil
  obtain ⟨hreplies, -, hspelling⟩ := keys_ignore_case "GLOBAL" hcalls
  refine ⟨rfl, hcalls, hreplies, ?_⟩
  have hstays : (((empty "GLOBAL").callAll []).2.call 0 (.access "Session_Count" (.store "1"))).2.Stays
      "SESSION_COUNT" spelledCalls.tail := by
    unfold Stays
    decide +kernel
  obtain ⟨k, a, hcall, -, hk⟩ := hspelling [] _ spelledCalls.tail "SESSION_COUNT" rfl rfl hstays
  obtain ⟨rfl, -⟩ := Call.access.inj hcall
  exact hk

end Collection

end Rampart
