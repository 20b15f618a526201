import Rampart.Pattern.Basic
import Rampart.Proofs.Slices

/-!
# Places and matches

A search goes from place to place through a text, and what it finds are stretches between two places. A place
is between two characters, so each stretch is a slice of the text: that of a match, and that of each group on
the way. Every way through an expression only goes forward.

Of all matches that start at a place or behind it, a search finds the one with the first start. What matches at
a place depends on the place alone, and not on where the search began.
-/

namespace Rampart

/-! ## Places -/

namespace Cursor

variable {c d e : Cursor}

/-- A later place in the same text: some characters are passed on the way to it. -/
def Reaches (c d : Cursor) : Prop :=
  ∃ passed, c.rest = passed ++ d.rest ∧ d.offset = c.offset + Text.byteLength passed ∧
    d.before = passed.getLast?.or c.before

theorem Reaches.refl (c : Cursor) : c.Reaches c := ⟨[], rfl, rfl, rfl⟩

theorem Reaches.trans (h : c.Reaches d) (h' : d.Reaches e) : c.Reaches e := by
  obtain ⟨passed, hrest, hoffset, hbefore⟩ := h
  obtain ⟨passed', hrest', hoffset', hbefore'⟩ := h'
  refine ⟨passed ++ passed', ?_, ?_, ?_⟩
  · rw [hrest, hrest', List.append_assoc]
  · rw [hoffset', hoffset, Text.byteLength_append, Nat.add_assoc]
  · rw [hbefore', hbefore, List.getLast?_append, Option.or_assoc]

theorem Reaches.offset_le (h : c.Reaches d) : c.offset ≤ d.offset := by
  obtain ⟨passed, -, hoffset, -⟩ := h
  omega

theorem Reaches.length_le (h : c.Reaches d) : d.rest.length ≤ c.rest.length := by
  obtain ⟨passed, hrest, -, -⟩ := h
  rw [hrest, List.length_append]
  exact Nat.le_add_left ..

/-- A place is told by its offset. -/
theorem Reaches.eq_of_offset (h : c.Reaches d) (hoffset : d.offset ≤ c.offset) : c = d := by
  obtain ⟨passed, hrest, hpassed, hbefore⟩ := h
  have hnil : passed = [] := Text.byteLength_eq_zero.1 (by omega)
  subst hnil
  cases c
  cases d
  simp_all

theorem Reaches.eq_of_end (h : c.Reaches d) (hend : c.rest = []) : c = d := by
  obtain ⟨passed, hrest, hpassed, -⟩ := id h
  rw [hend] at hrest
  have hnil := (List.append_eq_nil_iff.1 hrest.symm).1
  rw [hnil] at hpassed
  exact h.eq_of_offset (Nat.le_of_eq hpassed)

/-- What passes more characters on the same way comes to a later place. -/
theorem Reaches.of_passed {passed between : List Char} (hrest : d.rest = between ++ e.rest)
    (hoffset : d.offset = c.offset + Text.byteLength passed) (hbefore : d.before = passed.getLast?.or c.before)
    (hoffset' : e.offset = c.offset + Text.byteLength (passed ++ between))
    (hbefore' : e.before = (passed ++ between).getLast?.or c.before) : d.Reaches e := by
  refine ⟨between, hrest, ?_, ?_⟩
  · rw [hoffset', hoffset, Text.byteLength_append, Nat.add_assoc]
  · rw [hbefore', hbefore, List.getLast?_append, Option.or_assoc]

/-- Of two later places, one is later than the other. -/
theorem Reaches.of_offset_le (hd : c.Reaches d) (he : c.Reaches e) (h : d.offset ≤ e.offset) :
    d.Reaches e := by
  obtain ⟨passed, hrest, hoffset, hbefore⟩ := hd
  obtain ⟨passed', hrest', hoffset', hbefore'⟩ := he
  rcases List.append_eq_append_iff.1 (hrest.symm.trans hrest') with ⟨between, rfl, hbetween⟩ |
    ⟨between, rfl, hbetween⟩
  · exact .of_passed hbetween hoffset hbefore hoffset' hbefore'
  · -- `e` would be the earlier one, so the two are the same
    have hback : e.Reaches d := .of_passed hbetween hoffset' hbefore' hoffset hbefore
    rw [hback.eq_of_offset h]
    exact .refl d

/-- What is known of a place of a text. -/
theorem exists_passed {text : List Char} (h : (start text).Reaches c) :
    ∃ passed, text = passed ++ c.rest ∧ c.offset = Text.byteLength passed ∧ c.before = passed.getLast? := by
  obtain ⟨passed, hrest, hoffset, hbefore⟩ := h
  exact ⟨passed, hrest, hoffset.trans (Nat.zero_add _), hbefore.trans (Option.or_none ..)⟩

theorem reaches_next (h : c.next? = some d) : c.Reaches d := by
  unfold next? at h
  split at h
  · cases h
  · rename_i first rest hrest
    cases h
    exact ⟨[first], hrest, rfl, rfl⟩

/-- A later place is the same place or behind the next character. -/
theorem Reaches.eq_or_next (h : c.Reaches d) : c = d ∨ ∃ next, c.next? = some next ∧ next.Reaches d := by
  obtain ⟨passed, hrest, hoffset, hbefore⟩ := id h
  cases passed with
  | nil => exact .inl (h.eq_of_offset (Nat.le_of_eq hoffset))
  | cons first passed =>
      refine .inr ⟨⟨c.offset + first.utf8Size, some first, passed ++ d.rest⟩, ?_, passed, rfl, ?_, ?_⟩
      · unfold next?
        rw [hrest]
        rfl
      · rw [hoffset, Text.byteLength_cons, Nat.add_assoc]
      · rw [hbefore, List.getLast?_cons]
        cases passed.getLast? <;> rfl

/-- A step passes a character. -/
theorem length_next (h : c.next? = some d) : c.rest.length = d.rest.length + 1 := by
  unfold next? at h
  split at h
  · cases h
  · rename_i first rest hrest
    cases h
    rw [hrest, List.length_cons]

theorem next?_eq_none_iff : c.next? = none ↔ c.rest = [] := by
  unfold next?
  split <;> simp_all

theorem textTo_of_reaches {passed : List Char} (h : c.rest = passed ++ d.rest) : c.textTo d = passed := by
  unfold textTo
  rw [h, List.length_append, Nat.add_sub_cancel, List.take_left]

end Cursor

/-! ## Stretches -/

/-- The stretch lies in the text. -/
def Span.In (text : List Char) (s : Span) : Prop :=
  (Cursor.start text).Reaches s.first ∧ s.first.Reaches s.last

/-- **A stretch of a text is a slice of it.** -/
theorem Span.In.slice? {text : List Char} {s : Span} (h : s.In text) :
    Text.slice? s.offset s.length text = some s.text.toList := by
  obtain ⟨before, htext, hoffset, -⟩ := Cursor.exists_passed h.1
  obtain ⟨passed, hpassed, hend, -⟩ := h.2
  have hpart : s.text.toList = passed := by
    rw [Span.text, String.toList_ofList, Cursor.textTo_of_reaches hpassed]
  refine Text.slice?_eq_some_iff.2 ⟨before, s.last.rest, ?_, hoffset.symm, ?_⟩
  · rw [hpart, ← hpassed, htext]
  · rw [hpart, Span.length, hend, Nat.add_sub_cancel_left]

/-! ## Ways through an expression -/

namespace Thread

variable {t u v : Thread}

/-- The thread goes on from another one: forward, and each group that it adds is on its way. -/
structure Follows (t u : Thread) : Prop where
  place : t.place.Reaches u.place
  groups : ∀ g ∈ u.groups, g ∈ t.groups ∨
    t.place.Reaches g.2.first ∧ g.2.first.Reaches g.2.last

theorem Follows.refl (t : Thread) : t.Follows t := ⟨.refl _, fun _ hg => .inl hg⟩

theorem Follows.trans (h : t.Follows u) (h' : u.Follows v) : t.Follows v := by
  refine ⟨h.place.trans h'.place, fun g hg => ?_⟩
  rcases h'.groups g hg with hu | ⟨hfirst, hlast⟩
  · exact h.groups g hu
  · exact .inr ⟨h.place.trans hfirst, hlast⟩

theorem mem_of_mem_distinct {ts : List Thread} (h : t ∈ distinct ts) : t ∈ ts := by
  induction ts with
  | nil => cases h
  | cons u ts ih =>
      rcases List.mem_cons.1 h with rfl | h
      · exact List.mem_cons_self ..
      · exact List.mem_cons_of_mem _ (ih (List.mem_filter.1 h).1)

end Thread

namespace Expr

open Thread (Follows)

/-- Where several places are gone on from, with a state between them, each end comes from one of them. -/
theorem mem_foldl_visit {σ : Type} {visit : σ → Thread → σ × List Thread} {ts : List Thread}
    {acc : σ × List Thread} {u : Thread}
    (h : u ∈ (ts.foldl (fun acc t => ((visit acc.1 t).1, acc.2 ++ (visit acc.1 t).2)) acc).2) :
    u ∈ acc.2 ∨ ∃ t ∈ ts, ∃ seen, u ∈ (visit seen t).2 := by
  induction ts generalizing acc with
  | nil => exact .inl h
  | cons t ts ih =>
      rcases ih h with hacc | ⟨t', ht', seen, hu⟩
      · rcases List.mem_append.1 hacc with hacc | hu
        · exact .inl hacc
        · exact .inr ⟨t, List.mem_cons_self .., _, hu⟩
      · exact .inr ⟨t', List.mem_cons_of_mem _ ht', seen, hu⟩

/-- To stay is to follow, before all other ways or after them. -/
theorem follows_choice {greedy : Bool} {t : Thread} {us : List Thread} (h : ∀ u ∈ us, t.Follows u) :
    ∀ u ∈ (if greedy then us ++ [t] else t :: us), t.Follows u := by
  intro u hu
  split at hu
  · exact (List.mem_append.1 hu).elim (h u) fun hu => List.mem_singleton.1 hu ▸ .refl t
  · exact (List.mem_cons.1 hu).elim (fun hu => hu ▸ .refl t) (h u)

/-! ### Rounds -/

section Rounds

variable {round : Thread → List Thread} (hround : ∀ t, ∀ u ∈ round t, t.Follows u)

include hround

theorem follows_exactly (n : Nat) {ts : List Thread} : ∀ u ∈ exactly round n ts, ∃ t ∈ ts, t.Follows u := by
  induction n generalizing ts with
  | zero => exact fun u hu => ⟨u, hu, .refl u⟩
  | succ n ih =>
      intro u hu
      rw [exactly] at hu
      split at hu
      · cases hu
      · obtain ⟨v, hv, hvu⟩ := ih u hu
        obtain ⟨t, ht, htv⟩ := List.mem_flatMap.1 (Thread.mem_of_mem_distinct hv)
        exact ⟨t, ht, (hround t v htv).trans hvu⟩

/-- What is gone on to after a round follows, if what each visit leads to does. -/
theorem follows_foldl_visit {σ : Type} (visit : σ → Thread → σ × List Thread)
    (hvisit : ∀ seen t, ∀ u ∈ (visit seen t).2, t.Follows u) (seen : σ) (t : Thread) :
    ∀ u ∈ ((round t).foldl (fun acc u => ((visit acc.1 u).1, acc.2 ++ (visit acc.1 u).2)) (seen, [])).2,
      t.Follows u := by
  intro u hu
  rcases mem_foldl_visit hu with hnil | ⟨v, hv, seen, hu⟩
  · cases hnil
  · exact (hround t v hv).trans (hvisit seen v u hu)

theorem follows_upTo (greedy : Bool) (n : Nat) (seen : List (Nat × Nat)) (t : Thread) :
    ∀ u ∈ (upTo round greedy n seen t).2, t.Follows u := by
  induction n generalizing seen t with
  | zero => exact fun u hu => List.mem_singleton.1 hu ▸ .refl t
  | succ n ih =>
      intro u hu
      rw [upTo] at hu
      split at hu
      · cases hu
      · exact follows_choice (follows_foldl_visit hround _ ih _ t) u hu

theorem follows_anyNumber (greedy : Bool) (fuel : Nat) (seen : List Nat) (t : Thread) :
    ∀ u ∈ (anyNumber round greedy fuel seen t).2, t.Follows u := by
  induction fuel generalizing seen t with
  | zero =>
      intro u hu
      rw [anyNumber] at hu
      split at hu
      · cases hu
      · exact List.mem_singleton.1 hu ▸ .refl t
  | succ n ih =>
      intro u hu
      rw [anyNumber] at hu
      split at hu
      · cases hu
      · exact follows_choice (follows_foldl_visit hround _ ih _ t) u hu

theorem follows_oneOrMore (greedy : Bool) (t : Thread) : ∀ u ∈ oneOrMore round greedy t, t.Follows u :=
  follows_foldl_visit hround
    (fun seen u => anyNumber round greedy
      (if u.place.offset = t.place.offset then 0 else t.place.rest.length) seen u)
    (fun seen u => follows_anyNumber hround greedy _ seen u) [] t

end Rounds

/-- **Every way through an expression goes forward.** -/
theorem follows_ends (e : Expr) (t : Thread) : ∀ u ∈ e.ends t, t.Follows u := by
  induction e generalizing t with
  | empty => exact fun u hu => List.mem_singleton.1 hu ▸ .refl t
  | one set =>
      intro u hu
      rw [ends] at hu
      split at hu
      · cases hu
      · rename_i c cs hrest
        split at hu
        · rw [List.mem_singleton.1 hu]
          exact ⟨⟨[c], hrest, rfl, rfl⟩, fun _ hg => .inl hg⟩
        · cases hu
  | look l =>
      intro u hu
      rw [ends] at hu
      split at hu
      · exact List.mem_singleton.1 hu ▸ .refl t
      · cases hu
  | group i e ih =>
      intro u hu
      obtain ⟨v, hv, rfl⟩ := List.mem_map.1 hu
      have hfollows := ih t v hv
      refine ⟨hfollows.place, List.forall_mem_cons.2 ⟨.inr ⟨.refl _, hfollows.place⟩, hfollows.groups⟩⟩
  | seq a b iha ihb =>
      intro u hu
      obtain ⟨v, hv, hvu⟩ := List.mem_flatMap.1 (Thread.mem_of_mem_distinct hu)
      exact (iha t v hv).trans (ihb v u hvu)
  | alt a b iha ihb =>
      intro u hu
      rcases List.mem_append.1 (Thread.mem_of_mem_distinct hu) with hu | hu
      · exact iha t u hu
      · exact ihb t u hu
  | rep e least most greedy ih =>
      have hexactly (n : Nat) : ∀ v ∈ exactly e.ends n [t], t.Follows v := by
        intro v hv
        obtain ⟨w, hw, hwv⟩ := follows_exactly ih n v hv
        exact List.mem_singleton.1 hw ▸ hwv
      intro u hu
      unfold ends at hu
      -- first the rounds there must be, then those there may be, with a bound or without one
      split at hu
      · obtain ⟨v, hv, hvu⟩ := List.mem_flatMap.1 (Thread.mem_of_mem_distinct hu)
        exact (hexactly least v hv).trans (follows_upTo ih greedy _ _ v u (Thread.mem_of_mem_distinct hvu))
      · split at hu
        · split at hu
          · exact follows_choice (follows_oneOrMore ih greedy t) u (Thread.mem_of_mem_distinct hu)
          · exact follows_anyNumber ih greedy _ _ t u hu
        · obtain ⟨v, hv, hvu⟩ := List.mem_flatMap.1 (Thread.mem_of_mem_distinct hu)
          exact (hexactly _ v hv).trans (follows_oneOrMore ih greedy v u hvu)

end Expr

/-! ## The search -/

/-- Of the matches that start at a place or behind it, the one with the first start. -/
structure Span.IsFirst (matchAt? : Cursor → Option Span) (c : Cursor) (s : Span) : Prop where
  reached : c.Reaches s.first
  matched : matchAt? s.first = some s
  first : ∀ d, c.Reaches d → (matchAt? d).isSome → s.offset ≤ d.offset

namespace Pattern

variable {p : Pattern} {c : Cursor} {s : Span}

/-- The stretch of the match that starts at a place. -/
def matchAt? (p : Pattern) (c : Cursor) : Option Span := (p.expr.matchAt c).map fun t => ⟨c, t.place⟩

theorem first_of_matchAt? (h : p.matchAt? c = some s) : s.first = c := by
  obtain ⟨t, -, rfl⟩ := Option.map_eq_some_iff.1 h
  rfl

/-- A match ends at its start or behind it. -/
theorem reaches_of_matchAt? (h : p.matchAt? c = some s) : s.first.Reaches s.last := by
  obtain ⟨t, ht, rfl⟩ := Option.map_eq_some_iff.1 h
  exact (Expr.follows_ends p.expr ⟨c, []⟩ t (List.mem_of_mem_head? ht)).place

/-- **A search tries the place first**, and then the place behind the next character. -/
theorem findFrom?_eq (p : Pattern) (c : Cursor) :
    p.findFrom? c = (p.matchAt? c).or (c.next?.bind p.findFrom?) := by
  obtain ⟨offset, before, rest⟩ := c
  unfold findFrom? matchFrom? matchAt? Cursor.next?
  dsimp only
  cases rest with
  | nil =>
      rw [Expr.findFrom]
      cases p.expr.matchAt ⟨offset, before, []⟩ <;> rfl
  | cons first rest =>
      rw [Expr.findFrom]
      cases p.expr.matchAt ⟨offset, before, first :: rest⟩ <;> rfl

/-- **A search finds the match with the first start**, if there is one, and nothing otherwise. -/
theorem findFrom?_spec (p : Pattern) (c : Cursor) :
    match p.findFrom? c with
    | some s => s.IsFirst p.matchAt? c
    | none => ∀ d, c.Reaches d → p.matchAt? d = none := by
  -- by what is left of the text; the place behind the next character leaves less
  induction hlength : c.rest.length using Nat.strongRecOn generalizing c with
  | ind length ih =>
    rw [findFrom?_eq]
    cases hmatch : p.matchAt? c with
    | some s =>
        have hfirst := first_of_matchAt? hmatch
        refine ⟨hfirst ▸ .refl c, hfirst.symm ▸ hmatch, fun d hd _ => ?_⟩
        rw [Span.offset, hfirst]
        exact hd.offset_le
    | none =>
        cases hnext : c.next? with
        | none =>
            intro d hd
            rw [← hd.eq_of_end (Cursor.next?_eq_none_iff.1 hnext), hmatch]
        | some next =>
            have hlater := ih next.rest.length (by rw [← hlength, Cursor.length_next hnext]; omega) next rfl
            rw [Option.none_or, Option.bind_some]
            split at hlater
            · refine ⟨(Cursor.reaches_next hnext).trans hlater.reached, hlater.matched, fun d hd hsome => ?_⟩
              rcases hd.eq_or_next with rfl | ⟨next', hnext', hd⟩
              · rw [hmatch] at hsome
                cases hsome
              · cases hnext.symm.trans hnext'
                exact hlater.first d hd hsome
            · intro d hd
              rcases hd.eq_or_next with rfl | ⟨next', hnext', hd⟩
              · exact hmatch
              · cases hnext.symm.trans hnext'
                exact hlater d hd

/-! ## Groups -/

theorem matchAt_of_findFrom {e : Expr} {offset : Nat} {before : Option Char} {rest : List Char}
    {r : Cursor × Thread} (h : e.findFrom offset before rest = some r) : e.matchAt r.1 = some r.2 := by
  induction rest generalizing offset before with
  | nil =>
      rw [Expr.findFrom] at h
      obtain ⟨t, ht, rfl⟩ := Option.map_eq_some_iff.1 h
      exact ht
  | cons c cs ih =>
      rw [Expr.findFrom] at h
      split at h
      · rename_i t ht
        cases h
        exact ht
      · exact ih h

/-- **The stretches of a match and of its groups lie in the text.** -/
theorem in_of_captures? {input : String} {whole : Span} {groups : List (Option Span)}
    (h : p.captures? input = some (whole, groups)) :
    whole.In input.toList ∧ (∀ g, some g ∈ groups → g.In input.toList) ∧
      ∃ more, groups = some whole :: more := by
  obtain ⟨⟨s, gs⟩, hmatch, heq⟩ := Option.map_eq_some_iff.1 h
  cases heq
  obtain ⟨r, hfind, heq⟩ := Option.map_eq_some_iff.1 hmatch
  cases heq
  have hfound : p.findFrom? (.start input.toList) = some ⟨r.1, r.2.place⟩ :=
    Option.map_eq_some_iff.2 ⟨_, hmatch, rfl⟩
  have hfirst := findFrom?_spec p (.start input.toList)
  rw [hfound] at hfirst
  have hwhole : Span.In input.toList ⟨r.1, r.2.place⟩ :=
    ⟨hfirst.reached, reaches_of_matchAt? hfirst.matched⟩
  have hfollows := Expr.follows_ends p.expr ⟨r.1, []⟩ r.2 (List.mem_of_mem_head? (matchAt_of_findFrom hfind))
  refine ⟨hwhole, fun g hg => ?_, _, rfl⟩
  rcases List.mem_cons.1 hg with hg | hg
  · exact Option.some.inj hg ▸ hwhole
  · obtain ⟨i, -, hlookup⟩ := List.mem_map.1 hg
    obtain ⟨earlier, later, hgroups, -⟩ := List.lookup_eq_some_iff.1 hlookup
    have hmem : (i + 1, g) ∈ r.2.groups := by
      dsimp only at hgroups
      rw [hgroups]
      exact List.mem_append_right _ (List.mem_cons_self ..)
    rcases hfollows.groups _ hmem with hnil | ⟨hfirst, hlast⟩
    · cases hnil
    · exact ⟨hwhole.1.trans hfirst, hlast⟩

end Pattern

end Rampart
