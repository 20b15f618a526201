import Rampart.Proofs.Retargeting
import Rampart.Proofs.Walk

/-!
# What a rule reports

A rule leaves two kinds of trace of the values that match: it logs records, and it remembers names.
Before a value is tested it is held against three lists: the targets that actions have put out of
force for the id of the rule, those for one of its tags, and the targets that exceptions exclude.
`Spares` says what it takes to get past all three. The first two lists do not change while the rule
is evaluated and the third one is fixed when it begins, so every trace is of a value that they spare.
-/

namespace Rampart

/-- Some exception excludes the variable, and selects the rule by a tag, by its message or by its
id. -/
def Exceptions.Excludes (e : Exceptions) (r : RuleInfo) (message : Option String) (b : Variable) :
    Prop :=
  ∃ targets, .exclusion b ∈ targets ∧
    ((∃ tag, (tag, targets) ∈ e.byTag ∧ r.hasTag tag = true) ∨
      (∃ text, (text, targets) ∈ e.byMessage ∧ message = some text) ∨
      (r.id, targets) ∈ e.byId)

/-- Neither a decision nor an exception keeps the value from the rule. -/
structure Rule.Spares (r : Rule) (e : Exceptions) (o : Overrides) (message : Option String)
    (v : Value) : Prop where
  byId : ∀ id target, (id, target) ∈ o.targetsById → id = r.info.id →
    Text.sameText target v.name = false
  byTag : ∀ tag target, (tag, target) ∈ o.targetsByTag → r.info.hasTag tag = true →
    Text.sameText target v.name = false
  byName : ∀ b, e.Excludes r.info message b → b.pattern? = none →
    Text.sameText b.fullName v.name = false
  byPattern : ∀ b p, e.Excludes r.info message b → b.pattern? = some p →
    ¬ (Text.sameText b.name v.collection = true ∧ p.isMatch v.key = true)

/-- **The values that a rule does not pass over** are those that are spared. -/
theorem Rule.passesOver_eq_false_iff {r : Rule} {e : Exceptions} {x : Exchange} {o : Overrides}
    {v : Value} :
    r.passesOver (e.forRule r x).1 o v = false ↔ r.Spares e o (r.expandMessage x).1 v := by
  have hdenotes : ((e.forRule r x).1.excludes v) = false ↔
      ∀ b, e.Excludes r.info (r.expandMessage x).1 b → ¬ b.denotes v = true := by
    unfold Retargeting.excludes
    rw [List.any_eq_false]
    exact forall_congr' fun b => imp_congr_left Exceptions.mem_excluded_iff
  unfold passesOver isTargetRemoved Overrides.removesTarget
  rw [Bool.or_eq_false_iff, Bool.or_eq_false_iff, hdenotes, List.any_eq_false, List.any_eq_false]
  constructor
  · rintro ⟨hno, hid, htag⟩
    refine ⟨?_, ?_, ?_, ?_⟩
    · intro id target hmem heq
      have hkept := hid (id, target) hmem
      rw [heq, beq_self_eq_true, Bool.true_and, Bool.not_eq_true] at hkept
      exact hkept
    · intro tag target hmem hhas
      have hkept := htag (tag, target) hmem
      change ¬ (r.info.hasTag tag && Text.sameText target v.name) = true at hkept
      rw [hhas, Bool.true_and, Bool.not_eq_true] at hkept
      exact hkept
    · intro b hb hp
      have hkept := hno b hb
      unfold Variable.denotes at hkept
      rw [hp, Bool.not_eq_true] at hkept
      exact hkept
    · intro b p hb hp hboth
      have hkept := hno b hb
      unfold Variable.denotes at hkept
      rw [hp, Bool.and_eq_true] at hkept
      exact hkept hboth
  · intro h
    refine ⟨?_, ?_, ?_⟩
    · intro b hb
      unfold Variable.denotes
      cases hp : b.pattern? with
      | none => exact Bool.eq_false_iff.1 (h.byName b hb hp)
      | some p =>
          intro hboth
          exact h.byPattern b p hb hp (Bool.and_eq_true_iff.1 hboth)
    · rintro ⟨id, target⟩ hmem hboth
      obtain ⟨hid, hsame⟩ := Bool.and_eq_true_iff.1 hboth
      exact Bool.eq_false_iff.1 (h.byId id target hmem (eq_of_beq hid)) hsame
    · rintro ⟨tag, target⟩ hmem hboth
      obtain ⟨htag, hsame⟩ := Bool.and_eq_true_iff.1 hboth
      exact Bool.eq_false_iff.1 (h.byTag tag target hmem htag) hsame

/-! ## Traces -/

/-- The names that are remembered as matched, each with the text that matched. -/
def Exchange.remembered (x : Exchange) : List Value := x.tx.matched.values.values

/-- A change of collections leaves what is remembered. -/
theorem OnlyCollections.remembered {x y : Exchange} (h : OnlyCollections x y) :
    y.remembered = x.remembered := by
  unfold Exchange.remembered
  rw [h.matched]

/-- The record is evidence of a match of the text in a value of the name. -/
structure MatchRecord.Reports (m : MatchRecord) (name text : String) : Prop where
  isOpen : m.isFinal = false
  name : m.matchedName = name
  text : m.matchedText = text

namespace Rule

/-- Noting a match of the value logs the record. -/
def Logs (r : Rule) (p : Progress) (v : Value) (m : MatchRecord) : Prop :=
  ∃ text reference verdict, (r.noteMatch v text reference verdict p).logged = p.logged ++ [m]

/-- Noting a match of the value adds the name to those that are remembered. -/
def Remembers (r : Rule) (p : Progress) (v w : Value) : Prop :=
  ∃ text reference verdict,
    (r.noteMatch v text reference verdict p).exchange.remembered = p.exchange.remembered ++ [w]

/-- A note of a match logs one record and remembers one match, both of the value and the text that
matched. -/
theorem noteMatch_reports (r : Rule) (value : Value) (text reference : String) (v : Verdict)
    (p : Progress) :
    ∃ m, (r.noteMatch value text reference v p).logged = p.logged ++ [m] ∧
      m.Reports value.name text ∧
      (r.noteMatch value text reference v p).exchange.tx.matched =
        p.exchange.tx.matched.record value.name text
          ((value.origins.head?.map (·.offset)).getD 0) := by
  let found : Progress := { p with record := p.record.withMatch r.test value text reference v }
  let captured := if r.capture then found.storeCaptures v.captures else found
  let noted := (captured.noteMatch value text).takeMessage r
  let acted := noted.runActions r (r.actionsOf .everyMatch)
  have hcaptured : captured.logged = p.logged ∧ captured.record = found.record ∧
      captured.exchange.tx.matched = p.exchange.tx.matched := by
    unfold captured
    split
    · exact ⟨rfl, rfl, rfl⟩
    · exact ⟨rfl, rfl, rfl⟩
  obtain ⟨hlogged, hrecord, hmatched⟩ := hcaptured
  -- the actions come between the note and the log, and change the data of the record at most
  have hacted : acted.logged = p.logged := (logged_runActions noted r _).trans hlogged
  obtain ⟨data, hdata⟩ := record_runActions noted r (s := .everyMatch) (by decide)
  have hname : acted.record.matchedName = value.name := by
    rw [hdata]
    exact congrArg MatchRecord.matchedName hrecord
  have htext : acted.record.matchedText = text := by
    rw [hdata]
    exact congrArg MatchRecord.matchedText hrecord
  have hlast : acted.exchange.tx.matched = (captured.noteMatch value text).exchange.tx.matched :=
    (onlyCollections_runActions noted r).matched.trans
      (purges_expandMessage r _).onlyCollections.matched
  refine ⟨{ acted.record with isFinal := false }, ?_, ⟨rfl, hname, htext⟩, ?_⟩
  · exact congrArg (· ++ [_]) hacted
  · exact hlast.trans (congrArg (Matches.record · value.name text _) hmatched)

/-- A note of a match leaves two traces, and both bear the name of the value that matched. -/
theorem traces_noteMatch (r : Rule) (value : Value) (text reference : String) (v : Verdict)
    (p : Progress) :
    ∃ m w, (r.noteMatch value text reference v p).logged = p.logged ++ [m] ∧
      m.matchedName = value.name ∧
      (r.noteMatch value text reference v p).exchange.remembered =
        p.exchange.remembered ++ [w] ∧
      w.key = value.name := by
  obtain ⟨m, hlogged, hm, hmatched⟩ := r.noteMatch_reports value text reference v p
  unfold Exchange.remembered
  rw [hmatched]
  exact ⟨m, _, hlogged, hm.name, rfl, rfl⟩

/-- The name of the traces that a match leaves is that of the value. -/
theorem Logs.matchedName {r : Rule} {p : Progress} {v : Value} {m : MatchRecord}
    (h : r.Logs p v m) : m.matchedName = v.name := by
  obtain ⟨text, reference, verdict, hm⟩ := h
  obtain ⟨m', _, hm', hname, _⟩ := r.traces_noteMatch v text reference verdict p
  obtain rfl := List.singleton_inj.1 (List.append_cancel_left (hm.symm.trans hm'))
  exact hname

theorem Remembers.key {r : Rule} {p : Progress} {v w : Value} (h : r.Remembers p v w) :
    w.key = v.name := by
  obtain ⟨text, reference, verdict, hw⟩ := h
  obtain ⟨_, w', _, _, hw', hname⟩ := r.traces_noteMatch v text reference verdict p
  obtain rfl := List.singleton_inj.1 (List.append_cancel_left (hw.symm.trans hw'))
  exact hname

/-- On its way from a progress the rule comes to note a match of the value: one of its targets has
found it, and it is spared at that moment. -/
structure Notes (r : Rule) (e : Exceptions) (p q : Progress) (v : Value) : Prop where
  walk : ∃ matched, r.Walk e p (matched, q)
  found : r.Finds (e.forRule r p.exchange).1 p.exchange v
  spared : r.Spares e q.exchange.tx.decision.overrides (r.expandMessage p.exchange).1 v

/-- Records and names were added to those of a progress, all of them by matches that the rule noted
on its way. -/
structure Adds (r : Rule) (e : Exceptions) (p s : Progress) : Prop where
  logged : ∃ more, s.logged = p.logged ++ more ∧
    ∀ m ∈ more, ∃ q v, r.Notes e p q v ∧ r.Logs q v m
  remembered : ∃ more, s.exchange.remembered = p.exchange.remembered ++ more ∧
    ∀ w ∈ more, ∃ q v, r.Notes e p q v ∧ r.Remembers q v w

variable {r : Rule} {e : Exceptions} {p s s' : Progress}

theorem Adds.refl : r.Adds e p p :=
  ⟨⟨[], (List.append_nil _).symm, by simp⟩, ⟨[], (List.append_nil _).symm, by simp⟩⟩

/-- A step that leaves the traces adds nothing. -/
theorem Adds.silent (h : r.Adds e p s) (hlogged : s'.logged = s.logged)
    (hremembered : s'.exchange.remembered = s.exchange.remembered) : r.Adds e p s' where
  logged := by
    rw [hlogged]
    exact h.logged
  remembered := by
    rw [hremembered]
    exact h.remembered

theorem Adds.note (h : r.Adds e p s) {value : Value} (hnotes : r.Notes e p s value)
    (text reference : String) (v : Verdict) :
    r.Adds e p (r.noteMatch value text reference v s) := by
  obtain ⟨m, w, hm, _, hw, _⟩ := r.traces_noteMatch value text reference v s
  obtain ⟨records, hrecords, hearlier⟩ := h.logged
  obtain ⟨names, hnames, hearlier'⟩ := h.remembered
  refine ⟨⟨records ++ [m], ?_, ?_⟩, ⟨names ++ [w], ?_, ?_⟩⟩
  · rw [hm, hrecords, List.append_assoc]
  · intro m' hm'
    rcases List.mem_append.1 hm' with hm' | hm'
    · exact hearlier m' hm'
    · rw [List.mem_singleton.1 hm']
      exact ⟨s, value, hnotes, text, reference, v, hm⟩
  · rw [hw, hnames, List.append_assoc]
  · intro w' hw'
    rcases List.mem_append.1 hw' with hw' | hw'
    · exact hearlier' w' hw'
    · rw [List.mem_singleton.1 hw']
      exact ⟨s, value, hnotes, text, reference, v, hw⟩

theorem Walk.adds {s : Bool × Progress} (h : r.Walk e p s) : r.Adds e p s.2 := by
  induction h with
  | start => exact .refl
  | read _ hy ih => exact ih.silent rfl hy.onlyCollections.remembered
  | @note s value hwalk text reference v hfound hover ih =>
      have hspared : r.Spares e s.2.exchange.tx.decision.overrides (r.expandMessage p.exchange).1
          value := passesOver_eq_false_iff.1 hover
      exact ih.note ⟨⟨s.1, hwalk⟩, hfound, hspared⟩ text reference v

/-- A rule without targets leaves no trace of a match. -/
theorem silent_testOnce (r : Rule) (p : Progress) :
    (r.testOnce p).2.logged = p.logged ∧
      (r.testOnce p).2.exchange.tx.matched = p.exchange.tx.matched := by
  let tested : Progress :=
    { p with exchange := (r.test.evaluate r.info r.capture "" p.exchange).2 }
  have hread : tested.exchange.tx.matched = p.exchange.tx.matched :=
    (purges_test r.test r.info r.capture "" p.exchange).onlyCollections.matched
  unfold testOnce
  dsimp only
  split
  · refine ⟨logged_runActions tested r _, ?_⟩
    exact (onlyCollections_runActions tested r).matched.trans hread
  · exact ⟨rfl, hread⟩

theorem adds_testOnce (r : Rule) (e : Exceptions) (p : Progress) :
    r.Adds e p (r.testOnce p).2 := by
  obtain ⟨hlogged, hmatched⟩ := r.silent_testOnce p
  exact .silent .refl hlogged (congrArg (fun m => m.values.values) hmatched)

/-- **A rule reports spared values only.** Every record that it logs and every name that it adds to
those that are remembered is of a value that was spared when its match was noted; if the rule does
not match, it forgets all names in the end. -/
theorem evaluate_reports (r : Rule) (e : Exceptions) (p : Progress) :
    ∃ s, r.Adds e p s ∧ ((r.evaluate e p).2 = s ∨ (r.evaluate e p).2 = s.clearMatches) := by
  obtain ⟨tested, hway, hcome⟩ := r.evaluate_cases e p
  refine ⟨tested.2, ?_, ?_⟩
  · rcases hway with ⟨_, rfl⟩ | ⟨_, rfl⟩
    · exact r.adds_testOnce e p
    · exact (r.walk_testAll e p).adds
  · rcases hcome with ⟨_, heq⟩ | ⟨_, heq⟩
    · exact .inl (congrArg Prod.snd heq)
    · exact .inr (congrArg Prod.snd heq)

end Rule

end Rampart
