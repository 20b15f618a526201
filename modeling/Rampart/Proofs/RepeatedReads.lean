import Rampart.Proofs.Answers
import Mathlib.Data.List.Basic
import Mathlib.Data.List.Flatten

/-!
# Reading twice

A deadline belongs to an entry, but a read that meets an expired entry removes the whole key. In a
collection with a history only the first entry of a key can expire, so what a read loses are the
values that were stored behind it: the read still shows them, and the next one does not.

Hence a read can be repeated exactly if no key that it selects has values behind an expired first
entry, and a key that is made to expire at once is silent exactly if it had one entry at most.
-/

namespace Rampart

theorem Entry.isExpired_mono {e : Entry} {now later : Instant} (h : e.isExpired now = true)
    (hle : now ≤ later) : e.isExpired later = true := by
  unfold isExpired at h ⊢
  rw [Option.any_eq_true] at h ⊢
  obtain ⟨t, ht, hdue⟩ := h
  exact ⟨t, ht, decide_eq_true (Nat.le_trans (of_decide_eq_true hdue) hle)⟩

namespace Collection

variable {c : Collection} {now later : Instant}

/-! ## Keys with a history -/

theorem Reached.lasting (h : c.Reached) {b : Bucket} (hb : b ∈ c.buckets) {e : Entry}
    (he : e ∈ b.entries.later) : ∃ text, e = .holding text := by
  have hlasting := h.lastingAfterFirst b.key
  rw [entriesAt_of_mem hb] at hlasting
  exact hlasting e he

/-- An expired entry is the first one of its key. -/
theorem Reached.anyExpired_eq (h : c.Reached) {b : Bucket} (hb : b ∈ c.buckets) :
    b.entries.anyExpired now = b.entries.first.isExpired now := by
  have hrest : b.entries.later.any (·.isExpired now) = false := by
    refine List.any_eq_false.2 fun e he => ?_
    obtain ⟨text, rfl⟩ := h.lasting hb he
    exact Bool.false_ne_true
  unfold Entries.anyExpired Entries.toList
  rw [List.any_cons, hrest, Bool.or_false]

/-- The live values behind an expired first entry are all the later ones. -/
theorem Reached.live_eq_nil_iff (h : c.Reached) {b : Bucket} (hb : b ∈ c.buckets)
    (hfirst : b.entries.first.isExpired now = true) :
    b.entries.live now = [] ↔ b.entries.later = [] := by
  unfold Entries.live Entries.toList
  rw [List.filterMap_eq_nil_iff, List.forall_mem_cons]
  constructor
  · rintro ⟨-, hnone⟩
    refine List.eq_nil_iff_forall_not_mem.2 fun e he => ?_
    obtain ⟨text, rfl⟩ := h.lasting hb he
    cases hnone _ he
  · intro hempty
    rw [hempty]
    exact ⟨Entry.liveValue?_of_isExpired hfirst, fun e he => nomatch he⟩

/-! ## What the second read shows -/

/-- No deadline comes between two moments. -/
def Still (c : Collection) (now later : Instant) : Prop :=
  ∀ s ∈ c.slots, s.2.isExpired later = s.2.isExpired now

theorem slots_ask_subset (c : Collection) (now : Instant) (q : Query) :
    (c.ask now q).2.slots ⊆ c.slots := by
  rintro ⟨key, e⟩ h
  obtain ⟨b, hb, hkey, he⟩ := (mem_slots_iff _).1 h
  exact (mem_slots_iff _).2 ⟨b, ((mem_buckets_ask_iff c now q b).1 hb).1, hkey, he⟩

theorem stock_congr (h : c.Still now later) (q : Query) : c.stock later q = c.stock now q := by
  unfold stock
  refine List.filterMap_congr fun s hs => ?_
  rw [h s hs]

theorem stock_ask (c : Collection) (now : Instant) (q : Query) :
    (c.ask now q).2.stock now q =
      ((c.buckets.filter fun b => q.selects b.key).filter fun b =>
        !b.entries.anyExpired now).flatMap fun b => c.bucketValues now (q.label b.key) b := by
  have hkept : ((c.ask now q).2.buckets.filter fun b => q.selects b.key) =
      (c.buckets.filter fun b => q.selects b.key).filter fun b => !b.entries.anyExpired now := by
    rw [ask_snd, purge, buckets_keep, List.filter_filter, List.filter_filter]
    refine List.filter_congr fun b _ => ?_
    cases q.selects b.key <;> simp
  rw [stock_eq, hkept, ask_snd]
  rfl

/-- Leaving out some of the parts that make up a list changes nothing exactly if these are empty. -/
theorem filter_flatMap_eq_iff {α β : Type} (l : List α) (p : α → Bool) (f : α → List β) :
    (l.filter p).flatMap f = l.flatMap f ↔ ∀ a ∈ l, p a = false → f a = [] := by
  induction l with
  | nil => exact ⟨fun _ _ ha => (nomatch ha), fun _ => rfl⟩
  | cons a l ih =>
      rw [List.forall_mem_cons, ← ih, List.filter_cons, List.flatMap_cons]
      cases hp : p a with
      | true =>
          rw [if_pos rfl, List.flatMap_cons, List.append_right_inj]
          exact ⟨fun h => ⟨fun hno => (nomatch hno), h⟩, fun h => h.2⟩
      | false =>
          rw [if_neg Bool.false_ne_true]
          constructor
          · intro heq
            have hshort : ((l.filter p).flatMap f).length ≤ (l.flatMap f).length :=
              ((List.filter_sublist (p := p)).flatMap f).length_le
            have hlength := congrArg List.length heq
            rw [List.length_append] at hlength
            have hnil : f a = [] := List.length_eq_zero_iff.1 (by omega)
            rw [hnil] at heq
            exact ⟨fun _ => hnil, heq⟩
          · rintro ⟨hnil, heq⟩
            rw [hnil rfl, heq]
            rfl

/-- A read shows the same before and after it removed keys exactly if it is about the same. -/
theorem arrange_stock_ask_iff (c : Collection) (now : Instant) (q : Query) :
    q.arrange ((c.ask now q).2.stock now q) = q.arrange (c.stock now q) ↔
      (c.ask now q).2.stock now q = c.stock now q := by
  refine ⟨fun h => ?_, fun h => by rw [h]⟩
  cases q with
  | first key =>
      -- the key selects one bucket at most, which stays or goes as a whole
      rw [stock_ask, stock_eq] at h ⊢
      change List.take 1 _ = List.take 1 _ at h
      have hfind : (c.buckets.filter fun b => (Query.first key).selects b.key) =
          (c.find? key).toList := c.filter_sameText key
      rw [hfind] at h ⊢
      cases hf : c.find? key with
      | none => rfl
      | some b =>
          rw [hf, Option.toList_some, List.filter_singleton] at h
          rw [Option.toList_some, List.filter_singleton]
          cases hb : b.entries.anyExpired now with
          | false => rfl
          | true =>
              rw [hb] at h
              have hnil := List.take_eq_nil_iff.1 h.symm
              exact (hnil.resolve_left Nat.one_ne_zero).symm
  | single key => exact h
  | many key omitted => exact List.reverse_injective h
  | matching p omitted => exact List.reverse_injective h

/-! ## What reads lose -/

/-- No key that the query selects has an entry behind an expired one. -/
def LosesNothing (c : Collection) (now : Instant) (q : Query) : Prop :=
  ∀ b ∈ c.buckets, q.selects b.key = true → b.entries.first.isExpired now = true →
    b.entries.later = []

/-- The second read shows the same as the first exactly if the first lost nothing. -/
theorem Reached.ask_twice_iff (h : c.Reached) (hstill : c.Still now later) (q : Query) :
    ((c.ask now q).2.ask later q).1 = (c.ask now q).1 ↔ c.LosesNothing now q := by
  have hstill' : (c.ask now q).2.Still now later :=
    fun s hs => hstill s (slots_ask_subset c now q hs)
  rw [ask_fst, ask_fst, stock_congr hstill', arrange_stock_ask_iff, stock_ask, stock_eq,
    filter_flatMap_eq_iff]
  unfold LosesNothing
  constructor
  · intro hall b hb hsel hfirst
    have hvalues := hall b (List.mem_filter.2 ⟨hb, hsel⟩) (by rw [h.anyExpired_eq hb, hfirst]; rfl)
    exact (h.live_eq_nil_iff hb hfirst).1 (List.map_eq_nil_iff.1 hvalues)
  · intro hall b hmem hexpired
    obtain ⟨hb, hsel⟩ := List.mem_filter.1 hmem
    rw [h.anyExpired_eq hb, Bool.not_eq_false'] at hexpired
    unfold bucketValues
    rw [(h.live_eq_nil_iff hb hexpired).2 (hall b hb hsel hexpired)]
    rfl

/-- A read keeps every live value exactly if it loses nothing. -/
theorem Reached.keeps_live_iff (h : c.Reached) (q : Query) :
    (∀ s ∈ c.slots, s.2.isExpired now = false → s.2.value.isSome = true →
        s ∈ (c.ask now q).2.slots) ↔
      c.LosesNothing now q := by
  constructor
  · intro hkeeps b hb hsel hfirst
    refine List.eq_nil_iff_forall_not_mem.2 fun e he => ?_
    obtain ⟨text, rfl⟩ := h.lasting hb he
    have hslot : (b.key, Entry.holding text) ∈ c.slots :=
      (c.mem_slots_iff).2 ⟨b, hb, rfl, List.mem_cons_of_mem _ he⟩
    obtain ⟨b', hb', hkey, -⟩ := (mem_slots_iff _).1 (hkeeps _ hslot rfl rfl)
    obtain ⟨hmem, hstays⟩ := (mem_buckets_ask_iff c now q b').1 hb'
    obtain rfl := bucket_unique hmem hb (by rw [hkey]; exact Text.sameText_refl _)
    exact hstays ⟨hsel, b'.entries.first, List.mem_cons_self .., hfirst⟩
  · rintro hall ⟨key, e⟩ hs hlive -
    obtain ⟨b, hb, rfl, he⟩ := (c.mem_slots_iff).1 hs
    refine (mem_slots_iff _).2 ⟨b, (mem_buckets_ask_iff c now q b).2 ⟨hb, ?_⟩, rfl, he⟩
    rintro ⟨hsel, hexpired⟩
    have hfirst : b.entries.first.isExpired now = true := by
      rw [← h.anyExpired_eq hb]
      exact List.any_eq_true.2 hexpired
    -- the first entry is the only one, and it is not live
    rcases List.mem_cons.1 he with rfl | hlater
    · rw [hfirst] at hlive
      cases hlive
    · rw [hall b hb hsel hfirst] at hlater
      cases hlater

/-! ## Keys that expire at once -/

theorem Query.sameText_label {q : Query} {stored : String} (h : q.selects stored = true) :
    Text.sameText (q.label stored) stored = true := by
  cases q with
  | first key =>
      rw [Text.sameText_comm]
      exact h
  | single key => exact Text.sameText_refl stored
  | many key omitted =>
      change Text.sameText (if key.isEmpty then stored else key) stored = true
      cases hempty : key.isEmpty with
      | true => exact Text.sameText_refl stored
      | false =>
          rw [Query.selects_many_key hempty, Bool.and_eq_true] at h
          rw [Text.sameText_comm]
          exact h.1
  | matching p omitted => exact Text.sameText_refl stored

theorem arrange_subset (q : Query) (stored : List Value) : q.arrange stored ⊆ stored := by
  cases q with
  | first key => exact List.take_subset 1 stored
  | single key => exact List.Subset.refl stored
  | many key omitted => exact fun v hv => List.mem_reverse.1 hv
  | matching p omitted => exact fun v hv => List.mem_reverse.1 hv

theorem mem_stock_iff {q : Query} {v : Value} :
    v ∈ c.stock now q ↔
      ∃ key e text, (key, e) ∈ c.slots ∧ q.selects key = true ∧ e.isExpired now = false ∧
        e.value = some text ∧ v = .keyed c.name (q.label key) text := by
  unfold stock
  rw [List.mem_filterMap]
  constructor
  · rintro ⟨⟨key, e⟩, hs, hv⟩
    rw [Option.ite_none_right_eq_some, Bool.and_eq_true, Bool.not_eq_true'] at hv
    obtain ⟨⟨hsel, hlive⟩, hvalue⟩ := hv
    obtain ⟨text, htext, rfl⟩ := Option.map_eq_some_iff.1 hvalue
    exact ⟨key, e, text, hs, hsel, hlive, htext, rfl⟩
  · rintro ⟨key, e, text, hs, hsel, hlive, htext, rfl⟩
    refine ⟨(key, e), hs, ?_⟩
    dsimp only
    rw [hsel, hlive, htext]
    rfl

theorem mem_entriesAt_iff {key : String} {e : Entry} :
    e ∈ c.entriesAt key ↔ ∃ stored, (stored, e) ∈ c.slots ∧ Text.sameText stored key = true := by
  constructor
  · intro he
    unfold entriesAt at he
    cases hf : c.find? key with
    | none =>
        rw [hf] at he
        cases he
    | some b =>
        rw [hf] at he
        obtain ⟨hb, hkey⟩ := find?_eq_some_iff.1 hf
        exact ⟨b.key, (c.mem_slots_iff).2 ⟨b, hb, rfl, he⟩, hkey⟩
  · rintro ⟨stored, hs, hkey⟩
    obtain ⟨b, hb, rfl, he⟩ := (c.mem_slots_iff).1 hs
    rw [← entriesAt_congr hkey, entriesAt_of_mem hb]
    exact he

/-- A key is silent in every read exactly if none of its entries is live. -/
theorem silent_iff (c : Collection) (now : Instant) (key : String) :
    (∀ q, ∀ v ∈ (c.ask now q).1, Text.sameText v.key key = false) ↔
      ∀ e ∈ c.entriesAt key, e.liveValue? now = none := by
  constructor
  · intro hall e he
    obtain ⟨stored, hs, hkey⟩ := mem_entriesAt_iff.1 he
    rw [Option.eq_none_iff_forall_ne_some]
    intro text htext
    obtain ⟨hlive, hvalue⟩ := Option.ite_none_left_eq_some.1 htext
    have hv : Value.keyed c.name stored text ∈ (c.ask now (.single key)).1 := by
      rw [ask_fst]
      exact mem_stock_iff.2
        ⟨stored, e, text, hs, hkey, Bool.eq_false_iff.2 hlive, hvalue, rfl⟩
    have hsilent := hall _ _ hv
    rw [show (Value.keyed c.name stored text).key = stored from rfl, hkey] at hsilent
    cases hsilent
  · intro hnone q v hv
    rw [ask_fst] at hv
    obtain ⟨stored, e, text, hs, hsel, hlive, hvalue, rfl⟩ :=
      mem_stock_iff.1 (arrange_subset q _ hv)
    refine Bool.eq_false_iff.2 fun hkey => ?_
    have hstored : Text.sameText stored key = true :=
      Text.sameText_trans (Text.sameText_comm _ _ ▸ Query.sameText_label hsel) hkey
    have hdead := hnone e (mem_entriesAt_iff.2 ⟨stored, hs, hstored⟩)
    unfold Entry.liveValue? at hdead
    rw [hlive, if_neg Bool.false_ne_true, hvalue] at hdead
    cases hdead

/-- A key that is made to expire at once is silent exactly if it had one entry at most. -/
theorem Reached.silent_expireAfter_zero_iff (h : c.Reached) (hclock : now < Entry.clockEnd)
    (hle : now ≤ later) (key : String) :
    (∀ q, ∀ v ∈ ((c.expireAfter now key 0).ask later q).1, Text.sameText v.key key = false) ↔
      (c.entriesAt key).length ≤ 1 := by
  have hentries : (c.expireAfter now key 0).entriesAt key =
      Write.effect now (.expire 0) (c.entriesAt key) := by
    have hwrite := entriesAt_write c now key (.expire 0) key
    rw [if_pos (Text.sameText_refl key)] at hwrite
    exact hwrite
  have hdead (e : Entry) : (e.expireAfter now 0).liveValue? later = none :=
    Entry.liveValue?_of_isExpired (Entry.isExpired_mono (e.isExpired_expireAfter_zero hclock) hle)
  have hlasting := h.lastingAfterFirst key
  rw [silent_iff, hentries]
  cases hes : c.entriesAt key with
  | nil =>
      refine ⟨fun _ => Nat.zero_le 1, fun _ e he => ?_⟩
      rw [List.mem_singleton.1 he]
      exact hdead .blank
  | cons first rest =>
      rw [hes] at hlasting
      change (∀ e ∈ first.expireAfter now 0 :: rest, _) ↔ rest.length + 1 ≤ 1
      rw [List.forall_mem_cons]
      constructor
      · rintro ⟨-, hrest⟩
        have hnil : rest = [] := by
          refine List.eq_nil_iff_forall_not_mem.2 fun e he => ?_
          obtain ⟨text, rfl⟩ := hlasting e he
          cases hrest _ he
        rw [hnil]
        exact Nat.le_refl 1
      · intro hlength
        have hnil : rest = [] := List.length_eq_zero_iff.1 (by omega)
        rw [hnil]
        exact ⟨hdead first, fun e he => nomatch he⟩

/-- **A read can be repeated, and keeps what is live, exactly if it loses nothing**: if no key that it
selects has an entry behind an expired one. A key that expires at once is silent from then on
exactly if it had one entry at most. -/
theorem reads_repeat_iff (h : c.Reached) (now later : Instant) :
    (c.Still now later → ∀ q,
        (((c.ask now q).2.ask later q).1 = (c.ask now q).1 ↔ c.LosesNothing now q) ∧
          ((∀ s ∈ c.slots, s.2.isExpired now = false → s.2.value.isSome = true →
            s ∈ (c.ask now q).2.slots) ↔ c.LosesNothing now q)) ∧
      (now < Entry.clockEnd → now ≤ later → ∀ key,
        ((∀ q, ∀ v ∈ ((c.expireAfter now key 0).ask later q).1, Text.sameText v.key key = false) ↔
          (c.entriesAt key).length ≤ 1)) := by
  refine ⟨fun hstill q => ⟨h.ask_twice_iff hstill q, h.keeps_live_iff q⟩, ?_⟩
  intro hclock hle key
  exact h.silent_expireAfter_zero_iff hclock hle key

/-- A value behind an expired one is shown once; a key with two values is not silent when it is made
to expire. -/
theorem read_not_repeated :
    let expired := ((empty "IP").write 0 "k" (.store "1")).write 0 "k" (.expire 0)
    let behind := expired.write 0 "k" (.store "2")
    let two := ((empty "IP").write 0 "k" (.store "1")).write 0 "k" (.store "2")
    behind.Reached ∧ (behind.ask 0 (.first "k")).1 = [.keyed "IP" "k" "2"] ∧
      ((behind.ask 0 (.first "k")).2.ask 0 (.first "k")).1 = [] ∧
      two.Reached ∧
      ((two.write 0 "k" (.expire 0)).ask 0 (.first "k")).1 = [.keyed "IP" "k" "2"] :=
  ⟨(((Reached.empty "IP").write 0 "k" _).write 0 "k" _).write 0 "k" _, by decide +kernel,
    by decide +kernel, ((Reached.empty "IP").write 0 "k" _).write 0 "k" _, by decide +kernel⟩

/-- Two values, the first of which is still to expire, can be read again and again. -/
theorem reads_repeat_iff_two :
    let two := (((empty "IP").write 0 "k" (.store "1")).write 0 "k" (.expire 60)).write 0 "k"
      (.store "2")
    two.Reached ∧ two.Still 0 0 ∧ 0 < Entry.clockEnd ∧
      ((two.ask 0 (.single "K")).2.ask 0 (.single "K")).1 = (two.ask 0 (.single "K")).1 ∧
      ¬ ∀ q, ∀ v ∈ ((two.expireAfter 0 "k" 0).ask 0 q).1, Text.sameText v.key "k" = false := by
  intro two
  have hreached : two.Reached :=
    (((Reached.empty "IP").write 0 "k" _).write 0 "k" _).write 0 "k" _
  have hstill : two.Still 0 0 := fun s _ => rfl
  have hclock : 0 < Entry.clockEnd := by decide
  obtain ⟨hrepeat, hsilent⟩ := reads_repeat_iff hreached 0 0
  have hloses : two.LosesNothing 0 (.single "K") := by
    intro b hb _ hfirst
    have hwaiting : two.buckets.all (fun b => !b.entries.first.isExpired 0) = true := by
      decide +kernel
    have hlive := List.all_eq_true.1 hwaiting b hb
    rw [hfirst] at hlive
    cases hlive
  refine ⟨hreached, hstill, hclock, ((hrepeat hstill (.single "K")).1).2 hloses, ?_⟩
  rw [hsilent hclock (Nat.le_refl 0) "k"]
  decide +kernel

end Collection

end Rampart
