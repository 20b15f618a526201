import Rampart.Proofs.Compile
import Rampart.Proofs.LoadErrors

/-!
# The shape of a chain

A chain is read link by link. Each link hands its phase on to the next, which keeps it unless it names one
itself, and knows whether another follows it. So what a link is read as depends on its place, but whether
it can be read does not: what is handed on is always one of the phases, and it takes no part in anything else.

Hence a declaration is refused exactly if one of its links cannot be read by itself, and the error is that of
the first such link, under the id that the head declares.
-/

namespace Rampart

/-- A step that cannot fail adds no error. -/
theorem bind_ok_eq_error_iff {ε α β : Type} {x : Except ε α} {e : ε} (f : α → β) :
    (x >>= fun a => .ok (f a)) = .error e ↔ x = .error e := by
  cases x with
  | ok a => exact ⟨nofun, nofun⟩
  | error e' =>
      show Except.error e' = Except.error e ↔ _
      rw [Except.error.injEq, Except.error.injEq]

/-! ## What a link says of its phase -/

/-- The phase that an action gives a rule, however it is spelled. -/
def Directive.phase? (text : String) : Option Nat :=
  match ofText text with
  | .ok (.attribute (.phase n)) => some n
  | _ => none

/-- The phase that a link names: the last that an action gives, or the one of the declaration. -/
def LinkSettings.namedPhase? (s : LinkSettings) : Option Nat :=
  (s.actions.filterMap Directive.phase?).getLast?.or s.phase

namespace Rule

variable {files : FileTree} {s : LinkSettings} {inherited : Option Nat} {isHead hasSuccessor : Bool}
variable {r q : Rule}

/-! ## One link -/

/-- What an attribute does to the place of a rule: it can name a phase, and ask for a successor. -/
theorem place_of_withAttribute {a : Attribute} (h : r.withAttribute a = .ok q) :
    q.actions = r.actions ∧
      (q.info.phase = match a with | .phase n => n | _ => r.info.phase) ∧
      (r.chained = true → q.chained = true) := by
  cases a with
  | message text =>
      obtain ⟨m, -, rfl⟩ := exists_of_withAttribute_message h
      exact ⟨rfl, rfl, id⟩
  | chain =>
      obtain rfl := Except.ok.inj h
      exact ⟨rfl, rfl, fun _ => rfl⟩
  | _ =>
      obtain rfl := Except.ok.inj h
      exact ⟨rfl, rfl, id⟩

/-- One action gives the rule its phase, or leaves it. -/
theorem phase_withDirective {text : String} {d : Directive} (hd : Directive.ofText text = .ok d)
    (h : r.withDirective isHead d = .ok q) :
    q.info.phase = (Directive.phase? text).getD r.info.phase := by
  unfold Directive.phase?
  rw [hd]
  rcases withDirective_cases h with ⟨a, rfl, ha⟩ | ⟨a, rfl, -, rfl⟩
  · rw [(place_of_withAttribute ha).2.1]
    cases a <;> rfl
  · rfl

/-- A rule that expects a successor goes on to do so. -/
theorem chained_withDirective {d : Directive} (h : r.withDirective isHead d = .ok q)
    (hr : r.chained = true) : q.chained = true := by
  rcases withDirective_cases h with ⟨a, -, ha⟩ | ⟨a, -, -, rfl⟩
  · exact (place_of_withAttribute ha).2.2 hr
  · exact hr

/-- Behind the head no disruptive action is added. -/
theorem undisruptive_withDirective {d : Directive} (h : r.withDirective false d = .ok q)
    (hr : ∀ a ∈ r.actions, a.stage ≠ .disruptive) : ∀ a ∈ q.actions, a.stage ≠ .disruptive := by
  rcases withDirective_cases h with ⟨a, -, ha⟩ | ⟨a, -, hstage, rfl⟩
  · rw [(place_of_withAttribute ha).1]
    exact hr
  · intro b hb
    rcases List.mem_append.1 hb with hold | hnew
    · exact hr b hold
    · rw [List.mem_singleton.1 hnew]
      exact hstage rfl

/-- **A link is in the phase that it names**, or in the one that it inherits. -/
theorem phase_of_ofSettings
    (h : ofSettings files s inherited isHead hasSuccessor = .ok r) :
    r.info.phase = s.namedPhase?.getD (inherited.getD defaultPhase) := by
  obtain ⟨plain, hplain, hactions⟩ := exists_of_ofSettings h
  rw [last_given_directives phase_withDirective hactions, info_ofFields hplain]
  unfold LinkSettings.namedPhase?
  cases (s.actions.filterMap Directive.phase?).getLast? with
  | some n => rfl
  | none => cases s.phase <;> rfl

/-- Before its actions are read, a link expects a successor if it says so or has one, and does nothing. -/
theorem place_of_ofFields {plain : Rule} (h : ofFields files s inherited hasSuccessor = .ok plain) :
    plain.chained = (s.chained || hasSuccessor) ∧ plain.actions = [] := by
  unfold ofFields at h
  obtain ⟨message, -, h⟩ := bind_eq_ok.1 h
  obtain ⟨inspected, -, h⟩ := bind_eq_ok.1 h
  obtain ⟨test, -, h⟩ := bind_eq_ok.1 h
  rw [← Except.ok.inj h]
  exact ⟨rfl, rfl⟩

/-- A link that another follows expects it. -/
theorem chained_of_ofSettings (h : ofSettings files s inherited isHead true = .ok r) :
    r.chained = true := by
  obtain ⟨plain, hplain, hactions⟩ := exists_of_ofSettings h
  refine directives_induction (motive := fun r => r.chained = true) chained_withDirective hactions ?_
  rw [(place_of_ofFields hplain).1, Bool.or_true]

/-- Only a head holds disruptive actions. -/
theorem undisruptive_of_ofSettings (h : ofSettings files s inherited false hasSuccessor = .ok r) :
    ∀ a ∈ r.actions, a.stage ≠ .disruptive := by
  obtain ⟨plain, hplain, hactions⟩ := exists_of_ofSettings h
  refine directives_induction (motive := fun r => ∀ a ∈ r.actions, a.stage ≠ .disruptive)
    undisruptive_withDirective hactions ?_
  rw [(place_of_ofFields hplain).2]
  exact List.forall_mem_nil _

/-! ## A link wherever it stands -/

/-- The rule at another place of a chain: in another phase, and with or without a successor. -/
def placed (r : Rule) (phase : Nat) (chained : Bool) : Rule :=
  { r with info := { r.info with phase := phase }, chained := chained }

/-- The rules differ at most by their place in a chain, and by their phases only if both are phases. -/
def Alike (r q : Rule) : Prop :=
  ∃ phase chained, q = r.placed phase chained ∧
    (r.info.phase = phase ∨ Action.isPhase r.info.phase = true ∧ Action.isPhase phase = true)

/-- Two readings fail with the same error, or give rules that differ at most by their place. -/
inductive AlikeReadings : Except Error Rule → Except Error Rule → Prop where
  | ok {r q : Rule} (h : r.Alike q) : AlikeReadings (.ok r) (.ok q)
  | error (e : Error) : AlikeReadings (.error e) (.error e)

namespace AlikeReadings

theorem bind {x y : Except Error Rule} {f g : Rule → Except Error Rule} (h : AlikeReadings x y)
    (hfg : ∀ r q, r.Alike q → AlikeReadings (f r) (g q)) : AlikeReadings (x >>= f) (y >>= g) := by
  cases h with
  | ok h => exact hfg _ _ h
  | error e => exact .error e

theorem error_iff {x y : Except Error Rule} (h : AlikeReadings x y) (e : Error) :
    x = .error e ↔ y = .error e := by
  cases h with
  | ok h => exact ⟨nofun, nofun⟩
  | error e' => exact Iff.rfl

end AlikeReadings

theorem Alike.withAttribute (h : r.Alike q) (a : Attribute) :
    AlikeReadings (r.withAttribute a) (q.withAttribute a) := by
  obtain ⟨phase, chained, rfl, hphase⟩ := h
  cases a with
  | message text =>
      rw [Rule.withAttribute, Rule.withAttribute]
      cases MacroText.ofText text with
      | error e => exact .error e
      | ok m => exact .ok ⟨phase, chained, rfl, hphase⟩
  -- from here on both are in the same phase
  | phase n => exact .ok ⟨n, chained, rfl, .inl rfl⟩
  | chain => exact .ok ⟨phase, true, rfl, hphase⟩
  | _ => exact .ok ⟨phase, chained, rfl, hphase⟩

theorem Alike.withDirective (h : r.Alike q) (isHead : Bool) (d : Directive) :
    AlikeReadings (r.withDirective isHead d) (q.withDirective isHead d) := by
  cases d with
  | «attribute» a => exact h.withAttribute a
  | action a =>
      obtain ⟨phase, chained, rfl, hphase⟩ := h
      rw [Rule.withDirective, Rule.withDirective]
      split
      · exact .error _
      · exact .ok ⟨phase, chained, rfl, hphase⟩

theorem Alike.directives (h : r.Alike q) (isHead : Bool) (actions : List String) :
    AlikeReadings
      (actions.foldlM (fun r text => Directive.ofText text >>= Rule.withDirective isHead r) r)
      (actions.foldlM (fun r text => Directive.ofText text >>= Rule.withDirective isHead r) q) := by
  induction actions generalizing r q with
  | nil => exact .ok h
  | cons text actions ih =>
      rw [List.foldlM_cons, List.foldlM_cons]
      cases Directive.ofText text with
      | error e => exact .error e
      | ok d => exact (h.withDirective isHead d).bind fun _ _ => ih

/-- What a link inherits is one of the phases, and so is the default. -/
theorem isPhase_getD (h : ∀ phase ∈ inherited, Action.isPhase phase = true) :
    Action.isPhase (inherited.getD defaultPhase) = true := by
  cases inherited with
  | none => rfl
  | some phase => exact h phase rfl

/-- **The place of a link** takes no part in whether it can be read, nor in the error if it cannot. -/
theorem alikeReadings_of_place (files : FileTree) (s : LinkSettings) (isHead hasSuccessor : Bool)
    (h : ∀ phase ∈ inherited, Action.isPhase phase = true) :
    AlikeReadings (ofSettings files s inherited isHead hasSuccessor)
      (ofSettings files s none isHead false) := by
  have hplain : AlikeReadings (ofFields files s inherited hasSuccessor)
      (ofFields files s none false) := by
    unfold ofFields
    cases s.message.mapM MacroText.ofText with
    | error e => exact .error e
    | ok message =>
        cases Variable.ofList s.references with
        | error e => exact .error e
        | ok inspected =>
            cases Test.ofText files s.operator with
            | error e => exact .error e
            | ok test =>
                refine .ok ⟨(s.phase.or none).getD defaultPhase, s.chained || false, rfl, ?_⟩
                cases s.phase with
                | some phase => exact .inl rfl
                | none => exact .inr ⟨isPhase_getD h, rfl⟩
  unfold ofSettings
  refine hplain.bind fun plain plain' halike => (halike.directives isHead s.actions).bind ?_
  rintro r q ⟨phase, chained, rfl, hsame | ⟨hr, hq⟩⟩
  · have hq : (r.placed phase chained).info.phase = r.info.phase := hsame.symm
    rw [hq]
    split
    · exact .ok ⟨phase, chained, rfl, .inl hsame⟩
    · exact .error _
  · have hq : Action.isPhase (r.placed phase chained).info.phase = true := hq
    rw [if_pos hr, if_pos hq]
    exact .ok ⟨phase, chained, rfl, .inr ⟨hr, hq⟩⟩

end Rule

/-- Why a link cannot be read, if it stands by itself. -/
def LinkSettings.error? (files : FileTree) (isHead : Bool) (s : LinkSettings) : Option Error :=
  match Rule.ofSettings files s none isHead false with
  | .ok _ => none
  | .error e => some e

/-- Why links of the declaration cannot be read, each by itself, in the order of the links. -/
def RuleSettings.linkErrors (files : FileTree) (s : RuleSettings) : List Error :=
  (s.head.error? files true).toList ++ s.successors.filterMap (·.error? files false)

namespace Rule

variable {files : FileTree}

theorem error?_eq_some_iff {s : LinkSettings} {isHead : Bool} {e : Error} :
    s.error? files isHead = some e ↔ ofSettings files s none isHead false = .error e := by
  unfold LinkSettings.error?
  cases ofSettings files s none isHead false with
  | ok r => exact ⟨nofun, nofun⟩
  | error e' => rw [Option.some.injEq, Except.error.injEq]

/-- A link is refused for the same reason wherever it stands. -/
theorem error_iff_error? {s : LinkSettings} {inherited : Option Nat} {isHead hasSuccessor : Bool}
    {e : Error} (h : ∀ phase ∈ inherited, Action.isPhase phase = true) :
    ofSettings files s inherited isHead hasSuccessor = .error e ↔ s.error? files isHead = some e := by
  rw [(alikeReadings_of_place files s isHead hasSuccessor h).error_iff, error?_eq_some_iff]

theorem error?_of_ofSettings {s : LinkSettings} {inherited : Option Nat} {isHead hasSuccessor : Bool}
    {r : Rule} (h : ∀ phase ∈ inherited, Action.isPhase phase = true)
    (hr : ofSettings files s inherited isHead hasSuccessor = .ok r) : s.error? files isHead = none := by
  refine Option.eq_none_iff_forall_ne_some.2 fun e he => ?_
  rw [(error_iff_error? h).2 he] at hr
  cases hr

/-! ## The links behind the head -/

/-- Each successor is read in the phase of the link before it. -/
theorem read_of_successorsOf {phase : Nat} {ss : List LinkSettings} {rs : List Rule}
    (h : successorsOf files phase ss = .ok rs) :
    rs.length = ss.length ∧ ∀ i l r, ss[i]? = some l → rs[i]? = some r →
      ofSettings files l (phase :: rs.map (·.info.phase))[i]? false (decide (i + 1 < ss.length)) =
        .ok r := by
  induction ss generalizing phase rs with
  | nil =>
      obtain rfl := Except.ok.inj h
      refine ⟨rfl, fun i l r hl _ => ?_⟩
      rw [List.getElem?_nil] at hl
      cases hl
  | cons s ss ih =>
      rw [successorsOf] at h
      obtain ⟨q, hq, h⟩ := bind_eq_ok.1 h
      obtain ⟨more, hmore, h⟩ := bind_eq_ok.1 h
      obtain rfl := Except.ok.inj h
      obtain ⟨hlength, hread⟩ := ih hmore
      refine ⟨congrArg (· + 1) hlength, fun i l r hl hr => ?_⟩
      cases i with
      | zero =>
          obtain rfl := Option.some.inj hl
          obtain rfl := Option.some.inj hr
          have hlast : decide (0 + 1 < (s :: ss).length) = !ss.isEmpty := by
            cases ss <;> simp
          rw [hlast]
          exact hq
      | succ i =>
          have hlast : decide (i + 1 + 1 < (s :: ss).length) = decide (i + 1 < ss.length) := by simp
          rw [hlast]
          exact hread i l r hl hr

/-- The links behind a head are refused for the first of them that cannot be read. -/
theorem successorsOf_error_iff {phase : Nat} (hphase : Action.isPhase phase = true)
    (ss : List LinkSettings) (e : Error) :
    successorsOf files phase ss = .error e ↔
      (ss.filterMap (·.error? files false)).head? = some e := by
  induction ss generalizing phase with
  | nil => exact ⟨nofun, nofun⟩
  | cons s ss ih =>
      have hinherited : ∀ p ∈ some phase, Action.isPhase p = true := by
        rintro p ⟨⟩
        exact hphase
      rw [successorsOf]
      cases hs : ofSettings files s (some phase) false (!ss.isEmpty) with
      | error e' =>
          rw [List.filterMap_cons_some ((error_iff_error? hinherited).1 hs)]
          exact ⟨fun he => congrArg some (Except.error.inj he),
            fun he => congrArg Except.error (Option.some.inj he)⟩
      | ok r =>
          rw [List.filterMap_cons_none (error?_of_ofSettings hinherited hs),
            ← ih (isPhase_of_ofSettings hs)]
          exact bind_ok_eq_error_iff (r :: ·)

end Rule

namespace Chain

variable {files : FileTree} {s : RuleSettings} {c : Chain}

/-- The phase of the link before one of the links. -/
def phaseBefore (c : Chain) : Nat → Option Nat
  | 0 => none
  | i + 1 => c.links[i]?.map (·.info.phase)

/-- What every chain is that was read from a declaration. -/
structure WellFormed (c : Chain) (s : RuleSettings) : Prop where
  /-- The chain has the links of its declaration. -/
  length_links : c.links.length = s.links.length
  /-- Every link is in one of the five phases. -/
  phase_mem : ∀ r ∈ c.links, 1 ≤ r.info.phase ∧ r.info.phase ≤ 5
  /-- A link is in the phase that it names, or else in that of the link before it, a head in the second. -/
  phase_eq : ∀ (i : Nat) (l : LinkSettings) (r : Rule), s.links[i]? = some l → c.links[i]? = some r →
    r.info.phase = l.namedPhase?.getD ((c.phaseBefore i).getD 2)
  /-- Every link that another follows expects it. -/
  chained : ∀ i r, c.links[i]? = some r → i + 1 < c.links.length → r.chained = true
  /-- Behind the head nothing disrupts. -/
  undisruptive : ∀ r ∈ c.successors, ∀ a ∈ r.actions, a.stage ≠ .disruptive

/-- Each link of a chain is read from the link of the declaration in its place. -/
theorem read_of_ofSettings (h : ofSettings files s = .ok c) :
    c.links.length = s.links.length ∧ ∀ i l r, s.links[i]? = some l → c.links[i]? = some r →
      Rule.ofSettings files l (c.phaseBefore i) (i == 0) (decide (i + 1 < s.links.length)) =
        .ok r := by
  obtain ⟨head, hhead, h⟩ := bind_eq_ok.1 (ofLinks_of_ofSettings h)
  obtain ⟨more, hmore, h⟩ := bind_eq_ok.1 h
  obtain rfl := Except.ok.inj h
  obtain ⟨hlength, hread⟩ := Rule.read_of_successorsOf hmore
  refine ⟨congrArg (· + 1) hlength, fun i l r hl hr => ?_⟩
  cases i with
  | zero =>
      obtain rfl := Option.some.inj hl
      obtain rfl := Option.some.inj hr
      have hlast : decide (0 + 1 < s.links.length) = !s.successors.isEmpty := by
        unfold RuleSettings.links
        cases s.successors <;> simp
      rw [hlast]
      exact hhead
  | succ i =>
      have hlast : decide (i + 1 + 1 < s.links.length) = decide (i + 1 < s.successors.length) := by
        simp [RuleSettings.links]
      have hbefore : phaseBefore ⟨head, more⟩ (i + 1) =
          (head.info.phase :: more.map (·.info.phase))[i]? := by
        exact List.getElem?_map.symm
      rw [hlast, hbefore]
      exact hread i l r hl hr

/-- A link of a chain has a link of the declaration in its place. -/
theorem exists_read (h : ofSettings files s = .ok c) {i : Nat} {r : Rule}
    (hr : c.links[i]? = some r) :
    ∃ l, s.links[i]? = some l ∧
      Rule.ofSettings files l (c.phaseBefore i) (i == 0) (decide (i + 1 < s.links.length)) =
        .ok r := by
  obtain ⟨hlength, hread⟩ := read_of_ofSettings h
  obtain ⟨hi, -⟩ := List.getElem?_eq_some_iff.1 hr
  have hl := List.getElem?_eq_getElem (hlength ▸ hi)
  exact ⟨_, hl, hread i _ r hl hr⟩

theorem wellFormed_of_ofSettings (h : ofSettings files s = .ok c) : c.WellFormed s where
  length_links := (read_of_ofSettings h).1
  phase_mem r hr := by
    obtain ⟨i, hi⟩ := List.getElem?_of_mem hr
    obtain ⟨l, -, hread⟩ := exists_read h hi
    have hphase := Rule.isPhase_of_ofSettings hread
    unfold Action.isPhase at hphase
    simpa using hphase
  phase_eq i l r hl hr := Rule.phase_of_ofSettings ((read_of_ofSettings h).2 i l r hl hr)
  chained i r hr hnext := by
    obtain ⟨l, -, hread⟩ := exists_read h hr
    rw [(read_of_ofSettings h).1] at hnext
    rw [decide_eq_true hnext] at hread
    exact Rule.chained_of_ofSettings hread
  undisruptive r hr := by
    obtain ⟨i, hi⟩ := List.getElem?_of_mem hr
    -- the successor stands one further among all links
    obtain ⟨l, -, hread⟩ := exists_read h (i := i + 1) hi
    exact Rule.undisruptive_of_ofSettings hread

/-- Reading the links of a declaration fails for the first of them that cannot be read. -/
theorem ofLinks_error_iff (e : Error) :
    ofLinks files s = .error e ↔ (s.linkErrors files).head? = some e := by
  have hinherited : ∀ phase ∈ (none : Option Nat), Action.isPhase phase = true :=
    fun _ hphase => nomatch hphase
  unfold ofLinks RuleSettings.linkErrors
  cases hhead : Rule.ofSettings files s.head none true (!s.successors.isEmpty) with
  | error e' =>
      rw [(Rule.error_iff_error? hinherited).1 hhead]
      exact ⟨fun he => congrArg some (Except.error.inj he),
        fun he => congrArg Except.error (Option.some.inj he)⟩
  | ok head =>
      rw [Rule.error?_of_ofSettings hinherited hhead, Option.toList_none, List.nil_append,
        ← Rule.successorsOf_error_iff (Rule.isPhase_of_ofSettings hhead)]
      exact bind_ok_eq_error_iff (Chain.mk head)

/-- What is wrong with a link belongs to no rule yet. -/
theorem ruleId?_of_mem_linkErrors {e : Error} (h : e ∈ s.linkErrors files) : e.ruleId? = none := by
  have hlink {l : LinkSettings} {isHead : Bool} (hl : l.error? files isHead = some e) :
      e.ruleId? = none :=
    OfNoRule.link files l none isHead false e (Rule.error?_eq_some_iff.1 hl)
  rcases List.mem_append.1 h with hhead | hmore
  · exact hlink (Option.mem_toList.1 hhead)
  · obtain ⟨l, -, hl⟩ := List.mem_filterMap.1 hmore
    exact hlink hl

/-- A declaration is refused for the first link that cannot be read, under the id of its head. -/
theorem ofSettings_of_linkErrors {cause : Error} {rest : List Error}
    (h : s.linkErrors files = cause :: rest) :
    ofSettings files s = .error (.ruleLoad s.declaredId cause) := by
  have hmem : cause ∈ s.linkErrors files := by
    rw [h]
    exact List.mem_cons_self
  have hlinks : ofLinks files s = .error cause := by
    rw [ofLinks_error_iff, h]
    rfl
  unfold ofSettings
  rw [hlinks, Except.mapError, Error.forRule_of_ruleId? (ruleId?_of_mem_linkErrors hmem)]

/-- A declaration is read if each of its links can be. -/
theorem exists_ofSettings_iff :
    (∃ c, ofSettings files s = .ok c) ↔ s.linkErrors files = [] := by
  constructor
  · rintro ⟨c, hc⟩
    cases herrors : s.linkErrors files with
    | nil => rfl
    | cons cause rest =>
        rw [ofSettings_of_linkErrors herrors] at hc
        cases hc
  · intro hnone
    unfold ofSettings
    cases hlinks : ofLinks files s with
    | ok c => exact ⟨c, rfl⟩
    | error e =>
        rw [ofLinks_error_iff, hnone] at hlinks
        cases hlinks

/--
**Chains are well formed.**

A chain that is read from a declaration has its links, each in one of the five phases: the one that it
names, or else that of the link before it, the second for a head. Every link that another follows expects
it, and only the head holds disruptive actions.

A declaration is read exactly if each of its links can be. Otherwise it is refused under the id that its
head declares, for the first of the links that cannot. Which links these are, and why, does not depend on
where in a chain they stand.
-/
theorem compiled_chains_well_formed (files : FileTree) (s : RuleSettings) :
    (∀ c, ofSettings files s = .ok c → c.WellFormed s) ∧
      ((∃ c, ofSettings files s = .ok c) ↔ s.linkErrors files = []) ∧
      (∀ cause rest, s.linkErrors files = cause :: rest →
        ofSettings files s = .error (.ruleLoad s.declaredId cause)) ∧
      ∀ l isHead inherited hasSuccessor e, (∀ phase ∈ inherited, Action.isPhase phase = true) →
        (Rule.ofSettings files l inherited isHead hasSuccessor = .error e ↔
          l.error? files isHead = some e) :=
  ⟨fun _ => wellFormed_of_ofSettings, exists_ofSettings_iff, fun _ _ => ofSettings_of_linkErrors,
    fun _ _ _ _ _ => Rule.error_iff_error?⟩

/-- A head in the first phase, a link that names none, and one that names the third. -/
def threeLinks : RuleSettings :=
  ⟨{ id := 2001, actions := ["phase:1", "deny"] },
    [{ actions := ["setvar:tx.seen=1"] }, { phase := some 3 }]⟩

/-- A link that tries to deny. -/
def denying : LinkSettings := { actions := ["deny"] }

/-- The third link tries to deny. -/
def lateDenial : RuleSettings := ⟨{ actions := ["id:2003"] }, [{}, denying]⟩

/-- Why a link that denies is refused behind a head. -/
def lateDenialError : Error :=
  .invalidRule "disruptive action `deny' is only allowed on the chain head"

/-- The link between keeps the first phase. The third link of the other declaration is refused, as it
would be in the last phase and with a successor. -/
theorem compiled_chains_well_formed_three :
    (∃ c, ofSettings .empty threeLinks = .ok c ∧ c.WellFormed threeLinks ∧
      c.links.map (·.info.phase) = [1, 1, 3]) ∧
      ofSettings .empty lateDenial = .error (.ruleLoad 2003 lateDenialError) ∧
      Rule.ofSettings .empty denying (some 5) false true = .error lateDenialError := by
  have hread : (ofSettings .empty threeLinks).toOption.map (·.links.map (·.info.phase)) =
      some [1, 1, 3] := by
    decide +kernel
  obtain ⟨c, hc, hphases⟩ := exists_ok_of_map hread
  have herrors : lateDenial.linkErrors .empty = [lateDenialError] := by decide +kernel
  have hid : lateDenial.declaredId = 2003 := by decide
  have hdenying : denying.error? .empty false = some lateDenialError := by decide +kernel
  have hphase : ∀ phase ∈ some 5, Action.isPhase phase = true := by decide
  have hthree := compiled_chains_well_formed .empty threeLinks
  have hlate := compiled_chains_well_formed .empty lateDenial
  refine ⟨⟨c, hc, hthree.1 c hc, hphases⟩, ?_, ?_⟩
  · rw [hlate.2.2.1 lateDenialError [] herrors, hid]
  · exact (hlate.2.2.2 denying false (some 5) true lateDenialError hphase).2 hdenying

end Chain

end Rampart
