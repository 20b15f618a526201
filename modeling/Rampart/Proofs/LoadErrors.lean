import Rampart.Exceptions
import Rampart.Rule.Compile

/-!
# Errors of no rule

An error can belong to a rule: it carries the id, and whatever caused it. None of the readers that a rule is
put together from gives such an error. So the one place that attaches an id, where the declaration of a whole
chain is read, always attaches it, and to the error that the reader gave.
-/

namespace Rampart

/-- What fails here fails with an error that belongs to no rule. -/
def OfNoRule {α : Type} (x : Except Error α) : Prop := ∀ e, x = .error e → e.ruleId? = none

/-- What belongs to no rule comes to belong to the given one. -/
theorem Error.forRule_of_ruleId? {e : Error} {id : Int} (h : e.ruleId? = none) :
    e.forRule id = .ruleLoad id e := by
  cases e with
  | ruleLoad i cause => cases h
  | _ => rfl

namespace OfNoRule

theorem ok {α : Type} (a : α) : OfNoRule (.ok a) := fun _ h => nomatch h

theorem error {α : Type} {e : Error} (h : e.ruleId? = none) : OfNoRule (.error e : Except Error α) := by
  intro e' he
  cases he
  exact h

theorem map {α β : Type} {x : Except Error α} (h : OfNoRule x) (f : α → β) : OfNoRule (x.map f) := by
  cases x with
  | ok a => exact .ok (f a)
  | error e => exact .error (h e rfl)

theorem bind {α β : Type} {x : Except Error α} {f : α → Except Error β} (h : OfNoRule x)
    (hf : ∀ a, OfNoRule (f a)) : OfNoRule (x >>= f) := by
  cases x with
  | ok a => exact hf a
  | error e => exact .error (h e rfl)

theorem mapM {α β : Type} {f : α → Except Error β} (h : ∀ a, OfNoRule (f a)) (as : List α) :
    OfNoRule (as.mapM f) := by
  induction as with
  | nil => exact .ok []
  | cons a as ih =>
      rw [List.mapM_cons]
      cases ha : f a with
      | error e => exact .error (h a e ha)
      | ok b =>
          cases has : as.mapM f with
          | error e => exact .error (ih e has)
          | ok bs => exact .ok (b :: bs)

theorem foldlM {α β : Type} {f : β → α → Except Error β} (h : ∀ b a, OfNoRule (f b a)) (as : List α)
    (b : β) : OfNoRule (as.foldlM f b) := by
  induction as generalizing b with
  | nil => exact .ok b
  | cons a as ih =>
      rw [List.foldlM_cons]
      exact (h b a).bind ih

/-! ## Variables -/

theorem selector (key : Option String) : OfNoRule (Selector.ofText key) := by
  unfold Selector.ofText
  split
  · exact .ok _
  · dsimp only
    split
    · exact .ok _
    · split
      · split
        · exact .ok _
        · exact .error rfl
      · exact .ok _

theorem ofPlain (cs : List Char) : OfNoRule (Variable.ofPlain cs) := by
  unfold Variable.ofPlain
  dsimp only
  split
  · exact (selector _).map _
  · split
    · exact (selector _).map _
    · split
      · exact (selector _).map _
      · split
        · exact .ok _
        · split
          · exact .ok _
          · split
            · exact .error rfl
            · split
              · exact .ok _
              · split
                · exact .ok _
                · exact .error rfl

theorem ofChars (cs : List Char) : OfNoRule (Variable.ofChars cs) := by
  fun_induction Variable.ofChars cs with
  | case1 cs rest _ ih => exact ih.map _
  | case2 cs rest _ ih => exact ih.map _
  | case3 cs => exact ofPlain _

theorem ofList (references : List String) : OfNoRule (Variable.ofList references) := by
  refine (mapM (fun reference => ?_) references).map _
  unfold Variable.Target.ofText
  dsimp only
  split
  · exact (ofChars _).bind fun _ => (selector _).bind fun _ => .ok _
  · exact (ofChars _).map _

/-! ## Exceptions -/

theorem targets (references : List String) : OfNoRule (Exceptions.targetsOf references) := by
  unfold Exceptions.targetsOf
  split
  · exact .error rfl
  · exact mapM (fun reference => ofChars reference.toList) references

theorem exception (s : ExceptionSettings) : OfNoRule (Exceptions.none.add s) := by
  unfold Exceptions.add
  split
  · exact (targets s.targets).map _
  · exact (targets s.targets).map _
  · exact (targets s.targets).map _
  · exact .error rfl

/-! ## Texts with references -/

theorem segmentsOf (cs : List Char) : OfNoRule (MacroText.segmentsOf cs) := by
  fun_induction MacroText.segmentsOf cs with
  | case1 => exact .ok _
  | case2 => exact .ok _
  | case3 cs before inner _ reference rest _ e hv => exact .error (ofChars _ e hv)
  | case4 cs before inner _ reference rest _ v _ ih => exact ih.map _

theorem macroText (raw : String) : OfNoRule (MacroText.ofText raw) :=
  (segmentsOf raw.toList).map _

/-! ## Tests -/

theorem patternOf (param : String) : OfNoRule (Operator.patternOf param) := by
  unfold Operator.patternOf
  split
  · exact .ok _
  · exact .error rfl

theorem entriesOf (files : FileTree) (path : String) : OfNoRule (Operator.entriesOf files path) := by
  unfold Operator.entriesOf
  split
  · exact .error rfl
  · exact .ok _

theorem phrasesOf (param : String) : OfNoRule (Operator.phrasesOf param) := by
  unfold Operator.phrasesOf
  split
  · exact .error rfl
  · exact .ok _

theorem phrasesIn (files : FileTree) (path : String) : OfNoRule (Operator.phrasesIn files path) :=
  (entriesOf files path).map _

theorem networksOf (param : String) : OfNoRule (Operator.networksOf param) := by
  unfold Operator.networksOf
  refine (mapM (fun part => ?_) _).bind fun networks => ?_
  · split
    · exact .ok _
    · exact .error rfl
  · split
    · exact .error rfl
    · exact .ok _

theorem networksIn (files : FileTree) (path : String) : OfNoRule (Operator.networksIn files path) := by
  unfold Operator.networksIn
  refine (entriesOf files path).bind fun lines => (mapM (fun line => ?_) lines).bind fun _ => .ok _
  split
  · exact .ok _
  · exact .error rfl

theorem numberOf (test : NumberTest) (param : String) : OfNoRule (Operator.numberOf test param) := by
  unfold Operator.numberOf
  refine (macroText param).bind fun m => ?_
  split
  · exact .ok _
  · dsimp only
    split
    · exact .ok _
    · exact .error rfl

theorem textOf (test : TextTest) (param : String) : OfNoRule (Operator.textOf test param) :=
  (macroText param).map _

theorem operator (files : FileTree) (name param : String) :
    OfNoRule (Operator.ofName files name param) := by
  unfold Operator.ofName
  -- one reader for each name of an operator
  split
  · exact (patternOf param).map _
  · exact phrasesOf param
  · exact phrasesIn files param
  · exact phrasesIn files param
  · exact textOf .equals param
  · exact textOf .contains param
  · exact textOf .beginsWith param
  · exact textOf .endsWith param
  · exact textOf .within param
  · exact numberOf .eq param
  · exact numberOf .ge param
  · exact numberOf .gt param
  · exact numberOf .le param
  · exact numberOf .lt param
  · exact networksOf param
  · exact networksIn files param
  · exact networksIn files param
  · exact (patternOf param).map _
  · exact (patternOf param).map _
  · exact .ok _
  · exact .ok _
  · exact .error rfl

theorem test (files : FileTree) (s : String) : OfNoRule (Test.ofText files s) := by
  unfold Test.ofText
  dsimp only
  refine map ?_ _
  split
  · split
    · exact operator files _ _
    · exact operator files _ ""
  · exact (patternOf _).map _

/-! ## Actions and attributes -/

theorem refused {α : Type} (name value expected : String) :
    OfNoRule (Action.refused name value expected : Except Error α) :=
  .error rfl

theorem natural (max : Nat) (name value : String) : OfNoRule (Action.natural max name value) := by
  unfold Action.natural
  split
  · exact .ok _
  · exact refused _ _ _

theorem integer (name value : String) : OfNoRule (Action.integer name value) := by
  unfold Action.integer
  split
  · exact .ok _
  · exact refused _ _ _

theorem phaseOf (value : String) : OfNoRule (Action.phaseOf value) := by
  have hchecked (n : Nat) : OfNoRule
      (if Action.isPhase n then .ok n
        else Action.refused "phase" value "expected a phase between 1 and 5") := by
    split
    · exact .ok n
    · exact refused _ _ _
  unfold Action.phaseOf
  dsimp only
  split
  · exact hchecked 2
  · exact hchecked 4
  · exact hchecked 5
  · exact (natural _ _ _).bind hchecked

theorem targetOf (name target : String) : OfNoRule (Action.targetOf name target) := by
  unfold Action.targetOf
  split
  · exact refused _ _ _
  · split
    · exact refused _ _ _
    · exact (macroText _).map _

theorem changeOf (value : String) : OfNoRule (Action.changeOf value) := by
  unfold Action.changeOf
  split
  · exact (macroText _).map _
  · exact (macroText _).map _
  · exact (macroText _).map _

theorem setVarOf (param : String) : OfNoRule (Action.setVarOf param) := by
  unfold Action.setVarOf
  split
  · exact (targetOf _ _).bind fun _ => .ok _
  · dsimp only
    split
    · exact ((changeOf _).map _).bind fun _ => (targetOf _ _).bind fun _ => .ok _
    · exact (targetOf _ _).bind fun _ => .ok _

theorem expireVarOf (param : String) : OfNoRule (Action.expireVarOf param) := by
  unfold Action.expireVarOf
  split
  · exact refused _ _ _
  · refine (macroText _).bind fun s => ?_
    have htarget (target : String) (seconds : MacroText) :
        OfNoRule (Action.targetOf "expirevar" target >>= fun found =>
          .ok (Action.expireVar found.1 found.2 seconds)) :=
      (targetOf _ _).bind fun _ => .ok _
    split
    · exact (natural _ _ _).bind fun _ => htarget _ _
    · exact htarget _ _

theorem initCollectionOf (param : String) : OfNoRule (Action.initCollectionOf param) := by
  unfold Action.initCollectionOf
  split
  · exact refused _ _ _
  · split
    · exact refused _ _ _
    · exact (macroText _).map _

theorem removeRulesOf (value : String) : OfNoRule (Action.removeRulesOf value) := by
  unfold Action.removeRulesOf
  split
  · exact (integer _ _).bind fun _ => (integer _ _).bind fun _ => .ok _
  · exact (integer _ _).map _

theorem controlOf (param : String) : OfNoRule (Action.controlOf param) := by
  unfold Action.controlOf
  split
  · exact refused _ _ _
  · dsimp only
    split
    · exact (removeRulesOf _).map _
    · split
      · exact refused _ _ _
      · exact (integer _ _).map _
    · split
      · exact refused _ _ _
      · exact .ok _
    · exact refused _ _ _

theorem severity (value : String) :
    OfNoRule (match Severity.ofText? value with
      | some s => .ok (Attribute.severity s)
      | none => Action.refused "severity" value "unknown severity") := by
  split
  · exact .ok _
  · exact refused _ _ _

theorem transform (value : String) : OfNoRule (Transform.ofName value) := by
  unfold Transform.ofName
  split
  · exact .ok _
  · exact .error rfl

theorem named {name value : String} {d : Except Error Directive}
    (h : Directive.ofName? name value = some d) : OfNoRule d := by
  unfold Directive.ofName? at h
  -- one reader for each name of an attribute or an action
  split at h
  all_goals first | obtain rfl := Option.some.inj h | cases h
  · exact ((integer _ _).map _).map _
  · exact .ok _
  · exact .ok _
  · exact (severity _).map _
  · exact ((phaseOf _).map _).map _
  · exact .ok _
  · exact .ok _
  · exact ((natural _ _ _).map _).map _
  · exact ((natural _ _ _).map _).map _
  · exact .ok _
  · exact .ok _
  · exact .ok _
  · exact ((transform _).map _).map _
  · exact (setVarOf _).map _
  · exact ((macroText _).map _).map _
  · exact (expireVarOf _).map _
  · exact (initCollectionOf _).map _
  · exact ((macroText _).map _).map _
  · exact ((natural _ _ _).map _).map _
  · exact ((natural _ _ _).map _).map _
  · exact (controlOf _).map _
  · exact .ok _
  · exact .ok _
  · exact .ok _
  · exact .ok _
  · exact .ok _
  · exact ((macroText _).map _).map _

theorem directive (s : String) : OfNoRule (Directive.ofText s) := by
  unfold Directive.ofText
  dsimp only
  split
  · rename_i d hd
    exact named hd
  · exact .error rfl

/-! ## Links -/

theorem withAttribute (r : Rule) (a : Attribute) : OfNoRule (r.withAttribute a) := by
  cases a with
  | message text => exact (macroText text).bind fun _ => .ok _
  | _ => exact .ok _

theorem withDirective (isHead : Bool) (r : Rule) (d : Directive) :
    OfNoRule (r.withDirective isHead d) := by
  cases d with
  | «attribute» a => exact withAttribute r a
  | action a =>
      rw [Rule.withDirective]
      split
      · exact .error rfl
      · exact .ok _

theorem optionalText (message : Option String) : OfNoRule (message.mapM MacroText.ofText) := by
  cases message with
  | none => exact .ok _
  | some text => exact (macroText text).map _

/-- **A link is refused with an error of no rule.** -/
theorem link (files : FileTree) (s : LinkSettings) (inherited : Option Nat)
    (isHead hasSuccessor : Bool) :
    OfNoRule (Rule.ofSettings files s inherited isHead hasSuccessor) := by
  have hplain : OfNoRule (Rule.ofFields files s inherited hasSuccessor) :=
    (optionalText s.message).bind fun _ => (ofList s.references).bind fun _ =>
      (test files s.operator).bind fun _ => .ok _
  refine hplain.bind fun plain => (foldlM (fun r text => ?_) s.actions plain).bind fun r => ?_
  · exact (directive text).bind fun d => withDirective isHead r d
  · split
    · exact .ok r
    · exact refused _ _ _

end OfNoRule

end Rampart
