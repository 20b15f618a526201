import Rampart.Proofs.Exhibit
import Rampart.Proofs.KeyPrefix
import Rampart.Proofs.Overlap

/-!
# What a scan of a compartment shows

A scan finds its keys by the prefix up to the case of all letters and takes the prefix off up to the
case of A to Z. All keys of the compartment are found, each of them with its live values. A key that
starts with the prefix in the first sense alone strays into the scan: its values are shown as well,
under the whole key.

So a scan shows exactly its compartment where no live value stands under a stray key, and that is so
of every collection exactly if no character of the prefix has a form in another case that is not the
one of A to Z. Digits, points and colons have none, so the compartment of an address is always
scanned exactly; one with a `k` or an `s` is not.
-/

namespace Rampart

/-! ## Live values -/

namespace Collection

variable {c : Collection} {now : Instant}

theorem mem_liveValues_iff {v : Value} :
    v ∈ c.liveValues now ↔
      ∃ b ∈ c.buckets, ∃ text ∈ b.entries.live now, v = .keyed c.name b.key text := by
  unfold liveValues bucketValues
  rw [List.mem_flatMap]
  refine exists_congr fun b => and_congr_right fun _ => ?_
  rw [List.mem_map]
  exact exists_congr fun text => and_congr_right fun _ => eq_comm

theorem mem_textsAt_iff {key text : String} :
    text ∈ c.textsAt now key ↔
      ∃ v ∈ c.liveValues now, Text.sameText v.key key = true ∧ v.text = text := by
  unfold textsAt
  rw [List.mem_reverse, List.mem_flatMap]
  constructor
  · rintro ⟨b, hb, htext⟩
    obtain ⟨hmem, hkey⟩ := List.mem_filter.1 hb
    exact ⟨_, mem_liveValues_iff.2 ⟨b, hmem, text, htext, rfl⟩, hkey, rfl⟩
  · rintro ⟨v, hv, hkey, rfl⟩
    obtain ⟨b, hb, text, htext, rfl⟩ := mem_liveValues_iff.1 hv
    exact ⟨b, List.mem_filter.2 ⟨hb, hkey⟩, htext⟩

end Collection

namespace Compartment

variable {p : Compartment} {c : Collection} {now : Instant}

/-! ## Scans -/

/-- What a scan without exclusions shows: a value for each pair of a key and a text. -/
def scanned (p : Compartment) (c : Collection) (now : Instant) : List Value :=
  (p.readMany c now "" .none).1

/-- The key starts with the prefix up to the case of all letters, but not up to that of A to Z. -/
def Strays (p : Compartment) (stored : String) : Prop :=
  p.covers stored = true ∧ ∀ k, ¬ p.StoredAs k stored

instance (stored : String) : Decidable (p.Strays stored) :=
  decidable_of_iff (p.covers stored = true ∧ p.strip? stored = none)
    (and_congr_right fun _ => strip?_eq_none_iff)

/-- A scan shows each text under a key as often as it is live under that key of the compartment. -/
def ScansExactly (p : Compartment) (c : Collection) (now : Instant) : Prop :=
  ∀ k text, ((p.scanned c now).map fun v => (v.key, v.text)).count (k, text) =
    (c.liveValues now).countP fun v => decide (p.StoredAs k v.key ∧ v.text = text)

/-- The text of a value is among those that a read of its key shows. -/
def ReadsBack (p : Compartment) (c : Collection) (now : Instant) (v : Value) : Prop :=
  v.text ∈ (p.readKey c now v.key).1.map (·.text)

instance (v : Value) : Decidable (p.ReadsBack c now v) := inferInstanceAs (Decidable (_ ∈ _))

/-- No character of the prefix has another form but for the two forms of a letter from A to Z. -/
def HasPlainCase (p : Compartment) : Prop :=
  ∀ a ∈ p.start.toList, ∀ b : Char, Unicode.sameFolding a b = true → b.toLower = a.toLower

theorem StoredAs.covers {k stored : String} (h : p.StoredAs k stored) : p.covers stored = true := by
  refine covers_of_sameText_key (k := k) ?_
  rw [h.sameText (p.storedAs_key k)]
  exact Text.sameText_refl k

theorem strip_of_storedAs {v : Value} {k : String} (h : p.StoredAs k v.key) :
    p.strip v = { v with key := k } := by
  unfold strip
  rw [strip?_eq_some_iff.2 h, Option.getD_some]

theorem strip_of_strays {v : Value} (h : p.Strays v.key) : p.strip v = v := by
  unfold strip
  rw [strip?_eq_none_iff.2 h.2, Option.getD_none]

theorem liveValues_eq (hp : p.start ≠ "") (c : Collection) (now : Instant) :
    p.liveValues c now = ((c.liveValues now).filter fun v => p.covers v.key).map p.strip := by
  unfold liveValues
  rw [String.isEmpty_eq_false_iff.2 hp, if_neg Bool.false_ne_true]

/-- A scan with exclusions shows the live values whose keys are not excluded. -/
theorem readMany_all (hp : p.start ≠ "") (c : Collection) (now : Instant) (e : Exclusions) :
    (p.readMany c now "" e).1 = (p.liveValues c now).filter fun v => !e.omits v.key := by
  have hsome := String.isEmpty_eq_false_iff.2 hp
  unfold readMany
  rw [hsome]
  exact p.select_scan c now hsome (fun _ => true) e

theorem readMatching_all (hp : p.start ≠ "") (c : Collection) (now : Instant) (pattern : Pattern)
    (e : Exclusions) :
    (p.readMatching c now pattern e).1 =
      (p.liveValues c now).filter fun v => pattern.isMatch v.key && !e.omits v.key := by
  have hsome := String.isEmpty_eq_false_iff.2 hp
  unfold readMatching
  rw [hsome]
  exact p.select_scan c now hsome pattern.isMatch e

theorem scanned_eq (hp : p.start ≠ "") (c : Collection) (now : Instant) :
    p.scanned c now = p.liveValues c now := by
  unfold scanned
  rw [readMany_all hp]
  exact List.filter_eq_self.2 fun v _ => rfl

theorem strip_text (p : Compartment) (v : Value) : (p.strip v).text = v.text := rfl

/-- **Of each pair a scan shows** those of the compartment and those of stray keys. -/
theorem count_scanned (hp : p.start ≠ "") (c : Collection) (now : Instant) (k text : String) :
    ((p.scanned c now).map fun v => (v.key, v.text)).count (k, text) =
      ((c.liveValues now).countP fun v => decide (p.StoredAs k v.key ∧ v.text = text)) +
        (c.liveValues now).countP fun v => decide (p.Strays v.key ∧ v.key = k ∧ v.text = text) := by
  rw [scanned_eq hp, liveValues_eq hp, List.count_eq_countP, List.countP_map, List.countP_map,
    List.countP_filter,
    List.countP_eq_countP_filter_add _ _ fun v => !decide (p.Strays v.key),
    List.countP_filter, List.countP_filter]
  have hshown (v : Value) (k' : String) (hk' : (p.strip v).key = k') :
      (((p.strip v).key, (p.strip v).text) == (k, text)) = true ↔ k' = k ∧ v.text = text := by
    rw [beq_iff_eq, Prod.mk.injEq, hk', p.strip_text v]
  refine congrArg₂ (· + ·) (List.countP_congr fun v _ => ?_) (List.countP_congr fun v _ => ?_)
  · -- a covered key that does not stray is one of the compartment
    rw [Bool.and_eq_true, Bool.and_eq_true, Bool.not_eq_true', decide_eq_false_iff_not,
      decide_eq_true_iff]
    cases hstrip : p.strip? v.key with
    | none =>
        have hnone := strip?_eq_none_iff.1 hstrip
        exact ⟨fun h => absurd ⟨h.1.2, hnone⟩ h.2, fun h => absurd h.1 (hnone k)⟩
    | some k' =>
        have hk' := strip?_eq_some_iff.1 hstrip
        have hkey : (p.strip v).key = k' := congrArg Value.key (strip_of_storedAs hk')
        have hiff := hshown v k' hkey
        constructor
        · rintro ⟨⟨heq, -⟩, -⟩
          obtain ⟨rfl, htext⟩ := hiff.1 heq
          exact ⟨hk', htext⟩
        · rintro ⟨hk, htext⟩
          have hsame : k' = k := Option.some.inj (hstrip.symm.trans (strip?_eq_some_iff.2 hk))
          exact ⟨⟨hiff.2 ⟨hsame, htext⟩, hk'.covers⟩, fun h => h.2 k' hk'⟩
  · rw [Bool.and_eq_true, Bool.and_eq_true, Bool.not_not, decide_eq_true_iff, decide_eq_true_iff]
    constructor
    · rintro ⟨⟨heq, -⟩, hstray⟩
      have hiff := hshown v v.key (congrArg Value.key (strip_of_strays hstray))
      exact ⟨hstray, hiff.1 heq⟩
    · rintro ⟨hstray, heq⟩
      have hiff := hshown v v.key (congrArg Value.key (strip_of_strays hstray))
      exact ⟨⟨hiff.2 heq, hstray.1⟩, hstray⟩

theorem scansExactly_iff (hp : p.start ≠ "") :
    p.ScansExactly c now ↔ ∀ v ∈ c.liveValues now, ¬ p.Strays v.key := by
  constructor
  · intro h v hv hstray
    have hcount := h v.key v.text
    rw [count_scanned hp, Nat.add_eq_left, List.countP_eq_zero] at hcount
    exact hcount v hv (decide_eq_true ⟨hstray, rfl, rfl⟩)
  · intro h k text
    rw [count_scanned hp, Nat.add_eq_left, List.countP_eq_zero]
    intro v hv hv'
    exact h v hv (of_decide_eq_true hv').1

/-! ## Reading back -/

theorem readsBack_iff {v : Value} :
    p.ReadsBack c now v ↔ v.text ∈ c.textsAt now (p.key v.key) := by
  have htexts : (p.readKey c now v.key).1.map (·.text) =
      (c.buckets.filter fun b => Text.sameText b.key (p.key v.key)).flatMap fun b =>
        b.entries.live now := by
    change ((c.read now _ id).1.map p.strip).map (·.text) = _
    unfold Collection.read Collection.bucketValues
    rw [List.map_map, List.map_flatMap]
    refine List.flatMap_congr fun b _ => ?_
    rw [List.map_map]
    exact List.map_id _
  unfold ReadsBack Collection.textsAt
  rw [htexts, List.mem_reverse]

/-- What is shown under a key of the compartment is read back under it. -/
theorem readsBack_strip {v : Value} (hv : v ∈ c.liveValues now) {k : String}
    (hk : p.StoredAs k v.key) : p.ReadsBack c now (p.strip v) := by
  rw [strip_of_storedAs hk, readsBack_iff, Collection.mem_textsAt_iff]
  refine ⟨v, hv, ?_, rfl⟩
  rw [hk.sameText (p.storedAs_key k)]
  exact Text.sameText_refl k

theorem forall_readsBack_iff (hp : p.start ≠ "") :
    (∀ v ∈ p.scanned c now, p.ReadsBack c now v) ↔
      ∀ v ∈ c.liveValues now, p.Strays v.key → p.ReadsBack c now v := by
  rw [scanned_eq hp, liveValues_eq hp, List.forall_mem_map]
  constructor
  · intro h v hv hstray
    have hback := h v (List.mem_filter.2 ⟨hv, hstray.1⟩)
    rw [strip_of_strays hstray] at hback
    exact hback
  · intro h v hv
    obtain ⟨hlive, hcovers⟩ := List.mem_filter.1 hv
    cases hstrip : p.strip? v.key with
    | none =>
        have hstray : p.Strays v.key := ⟨hcovers, strip?_eq_none_iff.1 hstrip⟩
        rw [strip_of_strays hstray]
        exact h v hlive hstray
    | some k => exact readsBack_strip hlive (strip?_eq_some_iff.1 hstrip)

/-! ## Prefixes without stray keys -/

theorem map_toLower_of_folded {as bs : List Char} (h : Unicode.folded as = Unicode.folded bs)
    (hplain : ∀ a ∈ as, ∀ b : Char, Unicode.sameFolding a b = true → b.toLower = a.toLower) :
    bs.map Char.toLower = as.map Char.toLower := by
  induction as generalizing bs with
  | nil => rw [List.map_eq_nil_iff.1 h.symm]
  | cons a as ih =>
      cases bs with
      | nil => cases h
      | cons b bs =>
          obtain ⟨hhead, htail⟩ := List.cons_eq_cons.1 h
          have hb := hplain a List.mem_cons_self b (Unicode.sameFolding_iff.2 hhead)
          rw [List.map_cons, List.map_cons, hb,
            ih htail fun x hx => hplain x (List.mem_cons_of_mem a hx)]

theorem HasPlainCase.not_strays (h : p.HasPlainCase) (stored : String) : ¬ p.Strays stored := by
  rintro ⟨hcovers, hnone⟩
  let n := p.start.toList.length
  have htake : Unicode.folded p.start.toList = Unicode.folded (stored.toList.take n) := by
    have hstarts := List.prefix_iff_eq_take.1 (covers_iff.1 hcovers)
    have hlength : (Unicode.folded p.start.toList).length = n := List.length_map _
    rw [hlength] at hstarts
    rw [hstarts]
    exact List.map_take.symm
  refine hnone (String.ofList (stored.toList.drop n)) ⟨String.ofList (stored.toList.take n), ?_, ?_⟩
  · rw [Text.sameText_iff]
    unfold Text.fold
    rw [String.toList_ofList]
    exact map_toLower_of_folded htake h
  · rw [← String.ofList_append, List.take_append_drop, String.ofList_toList]

theorem hasPlainCase_of_not_strays (h : ∀ stored, ¬ p.Strays stored) : p.HasPlainCase := by
  intro a ha b hab
  obtain ⟨before, behind, hstart⟩ := List.append_of_mem ha
  -- the prefix with that character in its other form
  let stored := String.ofList (before ++ b :: behind)
  have hcovers : p.covers stored = true := by
    have hsame : Unicode.folded p.start.toList = Unicode.folded stored.toList := by
      rw [hstart, String.toList_ofList, Unicode.folded_append, Unicode.folded_append]
      refine congrArg (Unicode.folded before ++ ·) ?_
      exact congrArg (· :: Unicode.folded behind) (Unicode.sameFolding_iff.1 hab)
    exact covers_iff.2 (hsame ▸ List.prefix_rfl)
  obtain ⟨k, hk⟩ : ∃ k, p.StoredAs k stored := by
    by_contra hnone
    exact h stored ⟨hcovers, not_exists.1 hnone⟩
  have hfold := hk.fold_eq
  unfold Text.fold at hfold
  rw [hstart, String.toList_ofList, List.map_append, List.map_append, List.append_assoc] at hfold
  exact (List.cons_eq_cons.1 (List.append_cancel_left hfold)).1

theorem forall_scansExactly_iff (hp : p.start ≠ "") :
    (∀ c now, p.ScansExactly c now) ↔ p.HasPlainCase := by
  constructor
  · intro h
    refine hasPlainCase_of_not_strays fun stored hstray => ?_
    let c := (Collection.empty "IP").store stored "1"
    refine (scansExactly_iff hp).1 (h c 0) (.keyed "IP" stored "1") ?_ hstray
    rw [liveValues_store_empty]
    exact List.mem_singleton_self _
  · intro h c now
    exact (scansExactly_iff hp).2 fun v _ => h.not_strays v.key

/-- **What a scan shows**: exactly its compartment, and nothing that is not read back, if and only
if nothing live stands under a stray key; exclusions and patterns only pick from it. -/
theorem scan_exact_iff (hp : p.start ≠ "") :
    (∀ c now,
      (p.ScansExactly c now ↔ ∀ v ∈ c.liveValues now, ¬ p.Strays v.key) ∧
      ((∀ v ∈ p.scanned c now, p.ReadsBack c now v) ↔
        ∀ v ∈ c.liveValues now, p.Strays v.key → p.ReadsBack c now v) ∧
      (∀ e, (p.readMany c now "" e).1 = (p.scanned c now).filter fun v => !e.omits v.key) ∧
      ∀ pattern e, (p.readMatching c now pattern e).1 =
        (p.scanned c now).filter fun v => pattern.isMatch v.key && !e.omits v.key) ∧
    ((∀ c now, p.ScansExactly c now) ↔ p.HasPlainCase) := by
  refine ⟨fun c now => ⟨scansExactly_iff hp, forall_readsBack_iff hp, fun e => ?_,
    fun pattern e => ?_⟩, forall_scansExactly_iff hp⟩
  · rw [readMany_all hp, scanned_eq hp]
  · rw [readMatching_all hp, scanned_eq hp]

/-- Characters in front of the letters have no other form. -/
theorem hasPlainCase_of_lt (h : ∀ a ∈ p.start.toList, a.toNat < 65) : p.HasPlainCase := by
  intro a ha b hab
  have hfold := Unicode.sameFolding_iff.1 hab
  rw [Unicode.foldCode_of_not_capital (.inl (h a ha))] at hfold
  rw [Char.toNat_inj.1 (Unicode.eq_of_foldCode (h a ha) hfold.symm)]

/-- The compartment of an address is always scanned exactly. -/
theorem scan_exact_iff_address :
    (within ["10.0.0.1"]).start ≠ "" ∧ ∀ c now, (within ["10.0.0.1"]).ScansExactly c now := by
  have hp : (within ["10.0.0.1"]).start ≠ "" := by decide +kernel
  have hlow : (within ["10.0.0.1"]).start.toList.all (fun a => decide (a.toNat < 65)) = true := by
    decide +kernel
  refine ⟨hp, (scan_exact_iff hp).2.2 (hasPlainCase_of_lt fun a ha => ?_)⟩
  exact of_decide_eq_true (List.all_eq_true.1 hlow a ha)

/-- The compartment `k` shows a key of the Kelvin sign's compartment, unstripped, and finds nothing
under that key. -/
theorem compartment_scan_strays :
    let c := (within ["\u212a"]).store (.empty "IP") "hits" "9"
    (within ["k"]).scanned c 0 = [.keyed "IP" "\u212a::hits" "9"] ∧
      ¬ (within ["k"]).ScansExactly c 0 ∧
      ¬ ∀ v ∈ (within ["k"]).scanned c 0, (within ["k"]).ReadsBack c 0 v := by
  refine ⟨by decide +kernel, fun h => ?_, by decide +kernel⟩
  have hcount := h "\u212a::hits" "9"
  revert hcount
  decide +kernel

end Compartment

end Rampart
