import Rampart.Proofs.Reference
import Rampart.Rule.Compile

/-!
# Compiling and the list of targets

The list of targets of a link is read by itself. The attributes and actions of the link are read
onto the rule around it, so another list of targets gives the same rule aiming at other variables.

The entries of its list of actions are put onto the rule one after the other. What each of them keeps is
kept by all, and of those that give a part of the rule the last counts.
-/

namespace Rampart

namespace Rule

/-- The rule aiming at other variables. -/
def aiming (r : Rule) (vs : List Variable) : Rule := { r with inspected := vs }

/-- An attribute that gives the message is read as a text with references. -/
theorem exists_of_withAttribute_message {r q : Rule} {text : String}
    (h : r.withAttribute (.message text) = .ok q) :
    ∃ m, MacroText.ofText text = .ok m ∧
      q = { r with info := { r.info with rawMessage := some text }, message := some m } := by
  rw [withAttribute] at h
  obtain ⟨m, hm, h⟩ := bind_eq_ok.1 h
  exact ⟨m, hm, (Except.ok.inj h).symm⟩

theorem withAttribute_aiming {r q : Rule} {a : Attribute} (h : r.withAttribute a = .ok q)
    (vs : List Variable) : (r.aiming vs).withAttribute a = .ok (q.aiming vs) := by
  cases a with
  | message text =>
      obtain ⟨m, hm, rfl⟩ := exists_of_withAttribute_message h
      exact bind_eq_ok.2 ⟨m, hm, rfl⟩
  | _ =>
      obtain rfl := Except.ok.inj h
      rfl

theorem inspected_withAttribute {r q : Rule} {a : Attribute} (h : r.withAttribute a = .ok q) :
    q.inspected = r.inspected := by
  cases a with
  | message text =>
      obtain ⟨m, -, rfl⟩ := exists_of_withAttribute_message h
      rfl
  | _ =>
      obtain rfl := Except.ok.inj h
      rfl

theorem withDirective_aiming {isHead : Bool} {r q : Rule} {d : Directive}
    (h : r.withDirective isHead d = .ok q) (vs : List Variable) :
    (r.aiming vs).withDirective isHead d = .ok (q.aiming vs) := by
  cases d with
  | «attribute» a => exact withAttribute_aiming h vs
  | action a =>
      rw [withDirective] at h ⊢
      split at h
      · cases h
      · rename_i hallowed
        rw [if_neg hallowed]
        obtain rfl := Except.ok.inj h
        rfl

/-- What one entry of a list of actions makes of a rule. -/
theorem withDirective_cases {isHead : Bool} {r q : Rule} {d : Directive}
    (h : r.withDirective isHead d = .ok q) :
    (∃ a, d = .attribute a ∧ r.withAttribute a = .ok q) ∨
      ∃ a, d = .action a ∧ (isHead = false → a.stage ≠ .disruptive) ∧
        q = { r with actions := r.actions ++ [a] } := by
  cases d with
  | «attribute» a => exact .inl ⟨a, rfl, h⟩
  | action a =>
      rw [withDirective] at h
      split at h
      · cases h
      · rename_i hallowed
        refine .inr ⟨a, rfl, ?_, (Except.ok.inj h).symm⟩
        rintro rfl hstage
        exact hallowed (by rw [hstage]; rfl)

theorem inspected_withDirective {isHead : Bool} {r q : Rule} {d : Directive}
    (h : r.withDirective isHead d = .ok q) : q.inspected = r.inspected := by
  rcases withDirective_cases h with ⟨a, -, ha⟩ | ⟨a, -, -, rfl⟩
  · exact inspected_withAttribute ha
  · rfl

/-- The first entry of a list of actions is read and put onto the rule, then the others. -/
theorem exists_of_directives_cons {isHead : Bool} {text : String} {actions : List String} {r q : Rule}
    (h : (text :: actions).foldlM
      (fun r text => Directive.ofText text >>= withDirective isHead r) r = .ok q) :
    ∃ d m, Directive.ofText text = .ok d ∧ r.withDirective isHead d = .ok m ∧
      actions.foldlM (fun r text => Directive.ofText text >>= withDirective isHead r) m = .ok q := by
  rw [List.foldlM_cons] at h
  obtain ⟨m, hm, hrest⟩ := bind_eq_ok.1 h
  obtain ⟨d, hd, hm⟩ := bind_eq_ok.1 hm
  exact ⟨d, m, hd, hm, hrest⟩

/-- The rule that the entries of a list of actions make of a rule. -/
theorem directives_aiming {isHead : Bool} {actions : List String} {r q : Rule}
    (h : actions.foldlM (fun r text => Directive.ofText text >>= withDirective isHead r) r = .ok q)
    (vs : List Variable) :
    q.inspected = r.inspected ∧
      actions.foldlM (fun r text => Directive.ofText text >>= withDirective isHead r)
        (r.aiming vs) = .ok (q.aiming vs) := by
  induction actions generalizing r with
  | nil =>
      rw [List.foldlM_nil] at h ⊢
      obtain rfl := Except.ok.inj h
      exact ⟨rfl, rfl⟩
  | cons text actions ih =>
      obtain ⟨d, m, hd, hm, h⟩ := exists_of_directives_cons h
      obtain ⟨hsame, hrest⟩ := ih h
      rw [List.foldlM_cons]
      refine ⟨hsame.trans (inspected_withDirective hm), ?_⟩
      exact bind_eq_ok.2 ⟨m.aiming vs, bind_eq_ok.2 ⟨d, hd, withDirective_aiming hm vs⟩, hrest⟩

/-- What each entry of a list of actions keeps is kept by all of them. -/
theorem directives_induction {isHead : Bool} {motive : Rule → Prop}
    (step : ∀ {d : Directive} {r q : Rule}, r.withDirective isHead d = .ok q → motive r → motive q)
    {actions : List String} {r q : Rule}
    (h : actions.foldlM (fun r text => Directive.ofText text >>= withDirective isHead r) r = .ok q)
    (hr : motive r) : motive q := by
  induction actions generalizing r with
  | nil =>
      obtain rfl := Except.ok.inj h
      exact hr
  | cons text actions ih =>
      obtain ⟨d, m, -, hm, hrest⟩ := exists_of_directives_cons h
      exact ih hrest (step hm hr)

/-- Of the entries that give a part of a rule, the last counts. -/
theorem last_given_directives {α : Type} {isHead : Bool} {part : Rule → α}
    {given? : String → Option α}
    (step : ∀ {text : String} {d : Directive} {r q : Rule}, Directive.ofText text = .ok d →
      r.withDirective isHead d = .ok q → part q = (given? text).getD (part r))
    {actions : List String} {r q : Rule}
    (h : actions.foldlM (fun r text => Directive.ofText text >>= withDirective isHead r) r = .ok q) :
    part q = (actions.filterMap given?).getLast?.getD (part r) := by
  induction actions generalizing r with
  | nil =>
      obtain rfl := Except.ok.inj h
      rfl
  | cons text actions ih =>
      obtain ⟨d, m, hd, hm, hrest⟩ := exists_of_directives_cons h
      rw [ih hrest, step hd hm]
      cases hgiven : given? text with
      | none => rw [List.filterMap_cons_none hgiven, Option.getD_none]
      | some n =>
          rw [List.filterMap_cons_some hgiven, List.getLast?_cons, Option.getD_some, Option.getD_some]

/-- The entries of a list of actions are all read. -/
theorem read_of_directives {isHead : Bool} {actions : List String} {r q : Rule}
    (h : actions.foldlM (fun r text => Directive.ofText text >>= withDirective isHead r) r = .ok q) :
    ∀ text ∈ actions, ∃ d, Directive.ofText text = .ok d := by
  induction actions generalizing r with
  | nil => exact List.forall_mem_nil _
  | cons text actions ih =>
      obtain ⟨d, m, hd, -, hrest⟩ := exists_of_directives_cons h
      exact List.forall_mem_cons.2 ⟨⟨d, hd⟩, ih hrest⟩

/-- A link is a rule that has only its fields, and then what its actions make of it. -/
theorem exists_of_ofSettings {files : FileTree} {s : LinkSettings} {inherited : Option Nat}
    {isHead hasSuccessor : Bool} {r : Rule}
    (h : ofSettings files s inherited isHead hasSuccessor = .ok r) :
    ∃ plain, ofFields files s inherited hasSuccessor = .ok plain ∧
      s.actions.foldlM (fun r text => Directive.ofText text >>= withDirective isHead r) plain =
        .ok r := by
  unfold ofSettings at h
  obtain ⟨plain, hplain, h⟩ := bind_eq_ok.1 h
  obtain ⟨q, hq, h⟩ := bind_eq_ok.1 h
  split at h
  · obtain rfl := Except.ok.inj h
    exact ⟨plain, hplain, hq⟩
  · cases h

/-- What a rule says about itself before its actions are read. -/
theorem info_ofFields {files : FileTree} {s : LinkSettings} {inherited : Option Nat}
    {hasSuccessor : Bool} {plain : Rule}
    (h : ofFields files s inherited hasSuccessor = .ok plain) :
    plain.info =
      { id := s.id
        phase := (s.phase.or inherited).getD defaultPhase
        rawMessage := s.message
        tags := s.tags } := by
  unfold ofFields at h
  obtain ⟨message, -, h⟩ := bind_eq_ok.1 h
  obtain ⟨inspected, -, h⟩ := bind_eq_ok.1 h
  obtain ⟨test, -, h⟩ := bind_eq_ok.1 h
  rw [← Except.ok.inj h]

/-- **A link is read apart from its targets**: they are what its references are read as, and other
references give the same rule aiming elsewhere. -/
theorem ofSettings_references {files : FileTree} {s : LinkSettings} {inherited : Option Nat}
    {isHead hasSuccessor : Bool} {r : Rule}
    (h : ofSettings files s inherited isHead hasSuccessor = .ok r) :
    Variable.ofList s.references = .ok r.inspected ∧
      ∀ references vs, Variable.ofList references = .ok vs →
        ofSettings files { s with references := references } inherited isHead hasSuccessor =
          .ok (r.aiming vs) := by
  unfold ofSettings ofFields at h
  obtain ⟨plain, hplain, h⟩ := bind_eq_ok.1 h
  obtain ⟨message, hmessage, hplain⟩ := bind_eq_ok.1 hplain
  obtain ⟨inspected, hinspected, hplain⟩ := bind_eq_ok.1 hplain
  obtain ⟨test, htest, hplain⟩ := bind_eq_ok.1 hplain
  obtain rfl := Except.ok.inj hplain
  obtain ⟨q, hq, h⟩ := bind_eq_ok.1 h
  split at h
  · rename_i hphase
    obtain rfl := Except.ok.inj h
    refine ⟨?_, fun references vs hvs => ?_⟩
    · rw [(directives_aiming hq []).1]
      exact hinspected
    · unfold ofSettings ofFields
      refine bind_eq_ok.2 ⟨_, bind_eq_ok.2 ⟨message, hmessage, bind_eq_ok.2 ⟨vs, hvs,
        bind_eq_ok.2 ⟨test, htest, rfl⟩⟩⟩, bind_eq_ok.2 ⟨q.aiming vs, ?_, if_pos hphase⟩⟩
      exact (directives_aiming hq vs).2
  · cases h

/-- The targets of the links behind a head are read in the same way. -/
theorem references_of_mem_successorsOf {files : FileTree} {phase : Nat} {ss : List LinkSettings}
    {rs : List Rule} (h : successorsOf files phase ss = .ok rs) {r : Rule} (hr : r ∈ rs) :
    ∃ s ∈ ss, Variable.ofList s.references = .ok r.inspected := by
  induction ss generalizing phase rs with
  | nil =>
      obtain rfl := Except.ok.inj h
      cases hr
  | cons s ss ih =>
      rw [successorsOf] at h
      obtain ⟨q, hq, h⟩ := bind_eq_ok.1 h
      obtain ⟨more, hmore, h⟩ := bind_eq_ok.1 h
      obtain rfl := Except.ok.inj h
      rcases List.mem_cons.1 hr with rfl | hr
      · exact ⟨s, List.mem_cons_self .., (ofSettings_references hq).1⟩
      · obtain ⟨t, ht, hread⟩ := ih hmore hr
        exact ⟨t, List.mem_cons_of_mem _ ht, hread⟩

/-- The phase of a rule is one of the phases. -/
theorem isPhase_of_ofSettings {files : FileTree} {s : LinkSettings} {inherited : Option Nat}
    {isHead hasSuccessor : Bool} {r : Rule}
    (h : ofSettings files s inherited isHead hasSuccessor = .ok r) :
    Action.isPhase r.info.phase = true := by
  unfold ofSettings at h
  obtain ⟨plain, -, h⟩ := bind_eq_ok.1 h
  obtain ⟨q, -, h⟩ := bind_eq_ok.1 h
  split at h
  · rename_i hphase
    obtain rfl := Except.ok.inj h
    exact hphase
  · cases h

end Rule

namespace Chain

theorem ofLinks_of_ofSettings {files : FileTree} {s : RuleSettings} {c : Chain}
    (h : ofSettings files s = .ok c) : ofLinks files s = .ok c := by
  unfold ofSettings at h
  cases hlinks : ofLinks files s with
  | error e =>
      rw [hlinks] at h
      cases h
  | ok d =>
      rw [hlinks] at h
      exact h

/-- The head of a chain is what the head of its declaration is read as. -/
theorem head_of_ofSettings {files : FileTree} {s : RuleSettings} {c : Chain}
    (h : ofSettings files s = .ok c) :
    Rule.ofSettings files s.head none true (!s.successors.isEmpty) = .ok c.head := by
  obtain ⟨head, hhead, h⟩ := bind_eq_ok.1 (ofLinks_of_ofSettings h)
  obtain ⟨more, -, h⟩ := bind_eq_ok.1 h
  obtain rfl := Except.ok.inj h
  exact hhead

/-- A declaration of one link stands for the rule that the link is read as. -/
theorem ofSettings_single {files : FileTree} {s : LinkSettings} {c : Chain}
    (h : ofSettings files ⟨s, []⟩ = .ok c) :
    Rule.ofSettings files s none true false = .ok c.head ∧ c.successors = [] := by
  obtain ⟨r, hr, h⟩ := bind_eq_ok.1 (ofLinks_of_ofSettings h)
  obtain ⟨more, hmore, h⟩ := bind_eq_ok.1 h
  obtain rfl := Except.ok.inj h
  exact ⟨hr, (Except.ok.inj hmore).symm⟩

/-- The targets of every link of a chain are read from the references of a link of its
declaration. -/
theorem references_of_mem_links {files : FileTree} {s : RuleSettings} {c : Chain}
    (h : ofSettings files s = .ok c) {r : Rule} (hr : r ∈ c.links) :
    ∃ l ∈ s.links, Variable.ofList l.references = .ok r.inspected := by
  obtain ⟨head, hhead, h⟩ := bind_eq_ok.1 (ofLinks_of_ofSettings h)
  obtain ⟨more, hmore, h⟩ := bind_eq_ok.1 h
  obtain rfl := Except.ok.inj h
  rcases List.mem_cons.1 hr with rfl | hr
  · exact ⟨s.head, List.mem_cons_self .., (Rule.ofSettings_references hhead).1⟩
  · obtain ⟨l, hl, hread⟩ := Rule.references_of_mem_successorsOf hmore hr
    exact ⟨l, List.mem_cons_of_mem _ hl, hread⟩

end Chain

end Rampart
