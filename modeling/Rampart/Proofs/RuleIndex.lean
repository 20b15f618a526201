import Mathlib.Data.List.Nodup
import Mathlib.Data.List.Perm.Basic
import Rampart.Proofs.Compile
import Rampart.RuleSet

/-!
# The indexes of a rule set

A rule set keeps its chains in one list for each phase, and beside them an index of ids, which holds
the place of each chain in its list, and an index of tags. The three are written one after the other,
so what has to be shown is that they never come apart: a set denotes a list of chains, those that were
added in the order in which they came, and lists and indexes say exactly what that list says.

A chain is refused before anything is written. One that is added leaves every older place as it is,
since it goes behind the chains of its phase.
-/

namespace Rampart

/-- Some declaration is read as the chain. -/
def Chain.Compiled (c : Chain) : Prop := ∃ files s, Chain.ofSettings files s = .ok c

theorem Chain.Compiled.phase_mem {c : Chain} (h : c.Compiled) : c.phase ∈ RuleSet.phases := by
  obtain ⟨files, s, hc⟩ := h
  have hphase := Rule.isPhase_of_ofSettings (Chain.head_of_ofSettings hc)
  simp only [Action.isPhase, Bool.and_eq_true, decide_eq_true_eq] at hphase
  simp only [RuleSet.phases, List.mem_cons, List.not_mem_nil, or_false, Chain.phase]
  omega

namespace RuleSet

variable {s : RuleSet} {c : Chain} {cs : List Chain}

/-! ## One call -/

theorem contains_iff {id : Int} : s.contains id = true ↔ id ∈ s.places.map Prod.fst := by
  simp only [contains, List.lookup_isSome_iff, beq_iff_eq, List.mem_map]
  constructor
  · rintro ⟨e, he, rfl⟩
    exact ⟨e, he, rfl⟩
  · rintro ⟨e, he, rfl⟩
    exact ⟨e, he, rfl⟩

/-- The set with a chain that is not refused. -/
def insert (s : RuleSet) (c : Chain) : RuleSet := ((s.notePlace c).noteTags c).append c

/-- What a call comes to: the chain is refused and nothing is written, or it is inserted. -/
theorem add_cases (s : RuleSet) (c : Chain) :
    (s.add c = (.error withoutId, s) ∧ c.id = 0) ∨
    (s.add c = (.error (duplicate c.id), s) ∧ s.contains c.id = true ∧ c.id ≠ 0) ∨
    (s.add c = (.ok (), s.insert c) ∧ s.contains c.id = false ∧ c.id ≠ 0) := by
  by_cases hzero : c.id = 0
  · exact .inl ⟨if_pos hzero, hzero⟩
  · cases hcontains : s.contains c.id with
    | true =>
        refine .inr (.inl ⟨?_, rfl, hzero⟩)
        rw [add, if_neg hzero, if_pos hcontains]
    | false =>
        refine .inr (.inr ⟨?_, rfl, hzero⟩)
        rw [add, if_neg hzero, hcontains, if_neg Bool.false_ne_true]
        rfl

/-- A chain that is refused leaves no trace. -/
theorem add_of_error {e : Error} (h : (s.add c).1 = .error e) : (s.add c).2 = s := by
  rcases s.add_cases c with ⟨hadd, -⟩ | ⟨hadd, -⟩ | ⟨hadd, -⟩
  · rw [hadd]
  · rw [hadd]
  · rw [hadd] at h
    cases h

theorem add_of_ok (h : (s.add c).1 = .ok ()) :
    (s.add c).2 = s.insert c ∧ s.contains c.id = false ∧ c.id ≠ 0 := by
  rcases s.add_cases c with ⟨hadd, -⟩ | ⟨hadd, -⟩ | ⟨hadd, hnew⟩
  · rw [hadd] at h
    cases h
  · rw [hadd] at h
    cases h
  · exact ⟨by rw [hadd], hnew⟩

theorem add_eq_ok_iff : (s.add c).1 = .ok () ↔ c.id ≠ 0 ∧ s.contains c.id = false := by
  constructor
  · intro h
    exact ⟨(add_of_ok h).2.2, (add_of_ok h).2.1⟩
  · rintro ⟨hzero, hnew⟩
    rw [add, if_neg hzero, hnew, if_neg Bool.false_ne_true]

@[simp] theorem places_insert (s : RuleSet) (c : Chain) :
    (s.insert c).places = s.places ++ [(c.id, c.phase, (s.ofPhase c.phase).length)] := rfl

@[simp] theorem tagged_insert (s : RuleSet) (c : Chain) :
    (s.insert c).tagged = s.tagged ++ c.head.info.tags.map fun tag => (tag, c.id) := rfl

/-- A chain goes behind those of its phase, and the other phases stay as they are. -/
theorem ofPhase_insert (hc : c.phase ∈ phases) (phase : Nat) :
    (s.insert c).ofPhase phase = s.ofPhase phase ++ [c].filter fun d => d.phase == phase := by
  have hrange : 1 ≤ c.phase ∧ c.phase ≤ 5 := by
    simp only [phases, List.mem_cons, List.not_mem_nil, or_false] at hc
    omega
  cases phase with
  | zero =>
      have hne : (c.phase == 0) = false := by
        rw [beq_eq_false_iff_ne]
        omega
      rw [List.filter_singleton, hne]
      rfl
  | succ n =>
      change ((s.lists.mapIdx _)[n]?).getD [] = (s.lists[n]?).getD [] ++ _
      rw [Vector.getElem?_mapIdx, List.filter_singleton]
      by_cases hphase : n + 1 = c.phase
      · have hn : n < 5 := by omega
        rw [Vector.getElem?_eq_getElem hn, Option.map_some, if_pos hphase, hphase, beq_self_eq_true]
        rfl
      · rw [beq_eq_false_iff_ne.2 (Ne.symm hphase), cond_false, List.append_nil]
        simp only [if_neg hphase, Option.map_id']

/-! ## What a set denotes -/

/-- The lists and indexes of the set say what a list of chains says. -/
structure Denotes (s : RuleSet) (cs : List Chain) : Prop where
  phase_mem : ∀ c ∈ cs, c.phase ∈ phases
  nonzero : ∀ c ∈ cs, c.id ≠ 0
  nodup : (cs.map Chain.id).Nodup
  ofPhase : ∀ phase, s.ofPhase phase = cs.filter fun c => c.phase == phase
  ids : s.places.map Prod.fst = cs.map Chain.id
  /-- Every place is that of a chain with the id it is noted under. -/
  leads : ∀ e ∈ s.places, ((s.ofPhase e.2.1)[e.2.2]?).map Chain.id = some e.1
  tagged : s.tagged = cs.flatMap fun c => c.head.info.tags.map fun tag => (tag, c.id)

theorem denotes_empty : empty.Denotes [] where
  phase_mem := fun c hc => by cases hc
  nonzero := fun c hc => by cases hc
  nodup := List.nodup_nil
  ofPhase phase := by
    cases phase with
    | zero => rfl
    | succ n =>
        rw [RuleSet.ofPhase, empty, Vector.getElem?_replicate]
        split
        · rfl
        · rfl
  ids := rfl
  leads := fun e he => by cases he
  tagged := rfl

theorem Denotes.insert (h : s.Denotes cs) (hc : c.phase ∈ phases) (hzero : c.id ≠ 0)
    (hnew : s.contains c.id = false) : (s.insert c).Denotes (cs ++ [c]) where
  phase_mem d hd := by
    rcases List.mem_append.1 hd with hd | hd
    · exact h.phase_mem d hd
    · exact List.mem_singleton.1 hd ▸ hc
  nonzero d hd := by
    rcases List.mem_append.1 hd with hd | hd
    · exact h.nonzero d hd
    · exact List.mem_singleton.1 hd ▸ hzero
  nodup := by
    have hfresh : c.id ∉ cs.map Chain.id := by
      rw [← h.ids, ← contains_iff, hnew]
      exact Bool.false_ne_true
    rw [List.map_append, List.map_singleton, ← List.concat_eq_append]
    exact h.nodup.concat hfresh
  ofPhase phase := by
    rw [ofPhase_insert hc, h.ofPhase, List.filter_append]
  ids := by
    rw [places_insert, List.map_append, List.map_append, h.ids]
    rfl
  leads e he := by
    rw [ofPhase_insert hc]
    rcases List.mem_append.1 he with he | he
    · -- what was found before is found in the same place of a longer list
      obtain ⟨d, hd, hid⟩ := Option.map_eq_some_iff.1 (h.leads e he)
      have hlt := (List.getElem?_eq_some_iff.1 hd).1
      rw [List.getElem?_append_left hlt, hd, Option.map_some, hid]
    · obtain rfl := List.mem_singleton.1 he
      simp
  tagged := by
    rw [tagged_insert, List.flatMap_append, h.tagged]
    simp

/-- **One call keeps what a set denotes**: the chain is the last one from then on, or it was
refused. -/
theorem Denotes.add (h : s.Denotes cs) (hc : c.phase ∈ phases) :
    (s.add c).2.Denotes (match (s.add c).1 with | .ok () => cs ++ [c] | .error _ => cs) := by
  rcases s.add_cases c with ⟨hadd, -⟩ | ⟨hadd, -⟩ | ⟨hadd, hnew, hzero⟩
  · rw [hadd]
    exact h
  · rw [hadd]
    exact h
  · rw [hadd]
    exact h.insert hc hzero hnew

/-! ## Many calls -/

/-- Of chains that are added one after the other, those for which it went well. -/
def accepted (s : RuleSet) : List Chain → List Chain
  | [] => []
  | c :: cs =>
    match (s.add c).1 with
    | .ok () => c :: accepted (s.add c).2 cs
    | .error _ => accepted (s.add c).2 cs

theorem Denotes.addAll {more : List Chain} (h : s.Denotes cs)
    (hmore : ∀ c ∈ more, c.phase ∈ phases) :
    (s.addAll more).Denotes (cs ++ accepted s more) := by
  induction more generalizing s cs with
  | nil =>
      rw [accepted, List.append_nil]
      exact h
  | cons c more ih =>
      have hstep := h.add (hmore c (List.mem_cons_self ..))
      have hrest := fun d hd => hmore d (List.mem_cons_of_mem _ hd)
      rw [accepted]
      cases hresult : (s.add c).1 with
      | ok u =>
          rw [hresult] at hstep
          have := ih hstep hrest
          rw [List.append_assoc] at this
          exact this
      | error e =>
          rw [hresult] at hstep
          exact ih hstep hrest

theorem contains_insert {id : Int} :
    (s.insert c).contains id = true ↔ s.contains id = true ∨ c.id = id := by
  rw [contains_iff, contains_iff, places_insert, List.map_append, List.mem_append]
  simp [eq_comm]

/-- The ids that are taken after one more call. -/
theorem contains_add {id : Int} :
    (s.add c).2.contains id = true ↔ s.contains id = true ∨ (id ≠ 0 ∧ c.id = id) := by
  rcases s.add_cases c with ⟨hadd, hzero⟩ | ⟨hadd, hold, -⟩ | ⟨hadd, -, hzero⟩
  · rw [hadd]
    constructor
    · exact .inl
    · rintro (h | ⟨hne, rfl⟩)
      · exact h
      · exact absurd hzero hne
  · rw [hadd]
    constructor
    · exact .inl
    · rintro (h | ⟨-, rfl⟩)
      · exact h
      · exact hold
  · rw [hadd, contains_insert]
    constructor
    · rintro (h | rfl)
      · exact .inl h
      · exact .inr ⟨hzero, rfl⟩
    · rintro (h | ⟨-, hid⟩)
      · exact .inl h
      · exact .inr hid

/-- The ids that are taken after some calls: those that a chain among them brought. -/
theorem contains_addAll {id : Int} :
    (s.addAll cs).contains id = true ↔ s.contains id = true ∨ (id ≠ 0 ∧ ∃ c ∈ cs, c.id = id) := by
  induction cs generalizing s with
  | nil => simp [addAll]
  | cons c cs ih =>
      change ((s.add c).2.addAll cs).contains id = true ↔ _
      rw [ih, contains_add]
      simp only [List.mem_cons, exists_eq_or_imp]
      tauto

theorem contains_empty (id : Int) : empty.contains id = false := rfl

/-! ## What the indexes say -/

namespace Denotes

variable (h : s.Denotes cs)
include h

theorem mem_ofPhase_iff {phase : Nat} : c ∈ s.ofPhase phase ↔ c ∈ cs ∧ c.phase = phase := by
  rw [h.ofPhase, List.mem_filter, beq_iff_eq]

theorem contains_iff_mem {id : Int} : s.contains id = true ↔ ∃ c ∈ cs, c.id = id := by
  rw [contains_iff, h.ids, List.mem_map]

/-- Phase by phase, the set shows every chain once. -/
theorem all_perm : s.all.Perm cs := by
  have key (ps : List Nat) (hps : ps.Nodup) :
      (ps.flatMap s.ofPhase).Perm (cs.filter fun c => decide (c.phase ∈ ps)) := by
    induction ps with
    | nil => simp
    | cons p ps ih =>
        obtain ⟨hp, hps⟩ := List.nodup_cons.1 hps
        have hhere : (cs.filter fun c => decide (c.phase ∈ p :: ps)).filter (fun c => c.phase == p) =
            s.ofPhase p := by
          rw [h.ofPhase, List.filter_filter]
          refine List.filter_congr fun c _ => ?_
          by_cases hc : c.phase = p <;> simp [hc]
        have hrest : (cs.filter fun c => decide (c.phase ∈ p :: ps)).filter
            (fun c => !(c.phase == p)) = cs.filter fun c => decide (c.phase ∈ ps) := by
          rw [List.filter_filter]
          refine List.filter_congr fun c _ => ?_
          by_cases hc : c.phase = p <;> simp [hc, hp]
        have hsplit := List.filter_append_perm (fun c : Chain => c.phase == p)
          (cs.filter fun c => decide (c.phase ∈ p :: ps))
        rw [hhere, hrest] at hsplit
        exact (List.Perm.append_left _ (ih hps)).trans hsplit
  refine (key phases (by decide)).trans ?_
  rw [List.filter_eq_self.2 fun c hc => decide_eq_true (h.phase_mem c hc)]

/-- The index of ids leads to a chain with the id. -/
theorem exists_of_lookup {id : Int} {place : Nat × Nat} (hplace : s.places.lookup id = some place) :
    ∃ d ∈ cs, (s.ofPhase place.1)[place.2]? = some d ∧ d.id = id := by
  obtain ⟨before, after, hplaces, -⟩ := List.lookup_eq_some_iff.1 hplace
  have hmem : (id, place) ∈ s.places := by
    rw [hplaces]
    exact List.mem_append_right _ (List.mem_cons_self ..)
  obtain ⟨d, hd, hid⟩ := Option.map_eq_some_iff.1 (h.leads _ hmem)
  exact ⟨d, (h.mem_ofPhase_iff.1 (List.mem_of_getElem? hd)).1, hd, hid⟩

theorem get?_eq_some_iff {id : Int} : s.get? id = some c ↔ c ∈ cs ∧ c.id = id := by
  constructor
  · intro hget
    obtain ⟨place, hplace, hc⟩ := Option.bind_eq_some_iff.1 hget
    obtain ⟨d, hd, hat, hid⟩ := h.exists_of_lookup hplace
    obtain rfl := Option.some.inj (hat.symm.trans hc)
    exact ⟨hd, hid⟩
  · rintro ⟨hc, rfl⟩
    have hcontains : s.contains c.id = true := h.contains_iff_mem.2 ⟨c, hc, rfl⟩
    obtain ⟨place, hplace⟩ := Option.isSome_iff_exists.1 hcontains
    obtain ⟨d, hd, hat, hid⟩ := h.exists_of_lookup hplace
    rw [get?, hplace, Option.bind_some, hat, List.inj_on_of_nodup_map h.nodup hd hc hid]

theorem size_eq : s.size = cs.length := by
  rw [size, ← List.length_map (Prod.fst : Int × Nat × Nat → Int), h.ids, List.length_map]

end Denotes

/-- Lists and index agree: every chain stands in the list of its phase, under an id of its own by
which the index finds it. -/
structure Indexed (s : RuleSet) : Prop where
  nonzero : ∀ c ∈ s.all, c.id ≠ 0
  /-- No id is used twice, in whatever phases. -/
  nodup : (s.all.map Chain.id).Nodup
  size : s.size = (s.ofPhase 1).length + (s.ofPhase 2).length + (s.ofPhase 3).length +
    (s.ofPhase 4).length + (s.ofPhase 5).length
  /-- A chain is found by an id if it is its own, and stands in the list of its phase. -/
  get?_iff : ∀ id c, s.get? id = some c ↔ c.id = id ∧ c ∈ s.ofPhase c.phase
  phase : ∀ phase, ∀ c ∈ s.ofPhase phase, c.phase = phase

theorem Denotes.indexed (h : s.Denotes cs) : s.Indexed where
  nonzero c hc := h.nonzero c (h.all_perm.mem_iff.1 hc)
  nodup := (h.all_perm.map Chain.id).nodup_iff.2 h.nodup
  size := by
    rw [h.size_eq, ← h.all_perm.length_eq, all, phases]
    simp only [List.flatMap_cons, List.flatMap_nil, List.length_append, List.length_nil]
    omega
  get?_iff id c := by
    rw [h.get?_eq_some_iff, h.mem_ofPhase_iff]
    tauto
  phase phase c hc := (h.mem_ofPhase_iff.1 hc).2

/--
**Lists and indexes stay together**, whatever chains are added to an empty set.

The lists of the phases hold the chains for which the call went well, in the order of the calls. A
call goes well exactly if the id is not zero and no call before it brought the same id; one that does
not go well leaves lists and indexes as they were.
-/
theorem indexes_stay_consistent (hcs : ∀ c ∈ cs, c.Compiled) :
    (empty.addAll cs).Indexed ∧
    (∀ phase, (empty.addAll cs).ofPhase phase =
      (accepted empty cs).filter fun c => c.phase == phase) ∧
    ∀ before c,
      (((empty.addAll before).add c).1 = .ok () ↔ c.id ≠ 0 ∧ ∀ d ∈ before, d.id ≠ c.id) ∧
      ∀ e, ((empty.addAll before).add c).1 = .error e →
        ((empty.addAll before).add c).2 = empty.addAll before := by
  have hdenotes := denotes_empty.addAll fun c hc => (hcs c hc).phase_mem
  rw [List.nil_append] at hdenotes
  refine ⟨hdenotes.indexed, hdenotes.ofPhase, ?_⟩
  intro before c
  refine ⟨?_, fun e he => add_of_error he⟩
  rw [add_eq_ok_iff]
  refine and_congr_right fun hzero => ?_
  rw [← Bool.not_eq_true, contains_addAll, contains_empty]
  constructor
  · intro hnone d hd hid
    exact hnone (.inr ⟨hzero, d, hd, hid⟩)
  · rintro hnone (h | ⟨-, d, hd, hid⟩)
    · cases h
    · exact hnone d hd hid

/-- Rules of which the third takes the id of the first and the fourth has none. -/
def fiveRules : List RuleSettings :=
  [⟨{ id := 1, phase := some 1 }, []⟩, ⟨{ id := 2 }, []⟩, ⟨{ actions := ["id:1"] }, []⟩, ⟨{}, []⟩,
    ⟨{ id := 3, phase := some 1 }, []⟩]

theorem indexes_stay_consistent_five :
    ∃ cs, fiveRules.mapM (Chain.ofSettings .empty) = .ok cs ∧ (∀ c ∈ cs, c.Compiled) ∧
      (empty.addAll cs).Indexed ∧
      phases.map (fun phase => ((empty.addAll cs).ofPhase phase).map Chain.id) =
        [[1, 3], [2], [], [], []] := by
  have hlists : (fiveRules.mapM (Chain.ofSettings .empty)).toOption.map (fun cs =>
      phases.map fun phase => ((empty.addAll cs).ofPhase phase).map Chain.id) =
        some [[1, 3], [2], [], [], []] := by decide +kernel
  obtain ⟨cs, hcs, hids⟩ := exists_ok_of_map hlists
  have hcompiled : ∀ c ∈ cs, c.Compiled := by
    intro c hc
    obtain ⟨r, -, hr⟩ := exists_of_mem_mapM hcs hc
    exact ⟨.empty, r, hr⟩
  exact ⟨cs, hcs, hcompiled, (indexes_stay_consistent hcompiled).1, hids⟩

end RuleSet

end Rampart
