import Rampart.MacroText
import Rampart.MatchRecord
import Rampart.Transform.Basic

/-!
# Actions

What a rule does when it matches. Some actions run for every value that matched, some once the whole
chain has matched, and the disruptive ones only then and only if the engine may step in. Attributes
do nothing: they say something about the rule.
-/

namespace Rampart

/-- When an action runs. -/
inductive Stage where
  /-- For every value that matched, whatever becomes of the chain. -/
  | everyMatch
  /-- Once the whole chain has matched. -/
  | fullMatch
  /-- Once the whole chain has matched and the engine may step in. -/
  | disruptive
  deriving DecidableEq, Repr

/-- A change of a value in a collection. -/
inductive Change where
  | set (text : MacroText)
  | one
  | add (delta : MacroText)
  | sub (delta : MacroText)
  | erase

/-- What is put out of force for the rest of the transaction. -/
inductive Control where
  | removeRules (first last : Int)
  | removeTargetById (id : Int) (target : String)
  | removeTargetByTag (tag target : String)
  deriving DecidableEq, Repr

/-- How a rule steps in. -/
inductive Disruption where
  | deny
  | drop
  | block
  /-- Do not step in. -/
  | pass
  /-- Ask no further rules. -/
  | allow
  | redirect (url : MacroText)

/-- What a rule does when it matches. -/
inductive Action where
  | setVar (collection : CollectionName) (key : MacroText) (change : Change)
  | logData (text : MacroText)
  | expireVar (collection : CollectionName) (key seconds : MacroText)
  | initCollection (collection : CollectionName) (key : MacroText)
  | setEnv (assignment : MacroText)
  | skip (count : Nat)
  | status (code : Nat)
  | control (c : Control)
  | disrupt (d : Disruption)

/-- What an attribute says about a rule. -/
inductive Attribute where
  | id (n : Int)
  | message (text : String)
  | tag (text : String)
  | severity (s : Severity)
  | phase (n : Nat)
  | version (text : String)
  | revision (text : String)
  | maturity (n : Nat)
  | accuracy (n : Nat)
  | chain
  | multiMatch
  | capture
  | transform (t : Transform)

/-- An entry in the list of actions of a rule. -/
inductive Directive where
  | attribute (a : Attribute)
  | action (a : Action)

/-- The name of a disruptive action. -/
def Disruption.name : Disruption → String
  | deny => "deny"
  | drop => "drop"
  | block => "block"
  | pass => "pass"
  | allow => "allow"
  | redirect _ => "redirect"

namespace Action

/-- The name of an action as it is written in rules. -/
def name : Action → String
  | setVar _ _ _ => "setvar"
  | logData _ => "logdata"
  | expireVar _ _ _ => "expirevar"
  | initCollection _ _ => "initcol"
  | setEnv _ => "setenv"
  | skip _ => "skip"
  | status _ => "status"
  | control _ => "ctl"
  | disrupt d => d.name

/-- When the action runs. -/
def stage : Action → Stage
  | setVar _ _ _ => .everyMatch
  | logData _ => .everyMatch
  | disrupt _ => .disruptive
  | _ => .fullMatch

/-- The status to answer with where no rule has set one. -/
def defaultStatus : Nat := 403

/-- The status of a redirection where no rule has set a fitting one. -/
def defaultRedirectStatus : Nat := 302

/-- The statuses that redirect. -/
def redirectStatuses : List Nat := [301, 302, 303, 307]

/-- Changes the value under a key of a collection that can be reached. -/
def applyChange (r : RuleInfo) (v : View) (key : String) (x : Exchange) : Change → Exchange
  | .set text =>
    let expanded := text.expand r x
    expanded.2.writing v fun part c => part.setFirst c key expanded.1
  | .one => x.writing v fun part c => part.setFirst c key "1"
  | .erase => x.writing v fun part c => part.erase c key
  | .add delta => count x delta fun a b => a + b
  | .sub delta => count x delta fun a b => a - b
where
  /-- Replaces the integer under the key by what `f` makes of it and of the expanded `delta`. -/
  count (x : Exchange) (delta : MacroText) (f : Int → Int → Int) : Exchange :=
    let current := x.reading v fun part c => part.readFirst c x.now key
    let before := (current.1.map Text.leadingInt).getD 0
    let expanded := delta.expand r current.2
    let after := Text.clamp (f before (Text.leadingInt expanded.1))
    expanded.2.writing v fun part c => part.setFirst c key (Text.decimal after)

/-- Puts rules or targets out of force. -/
def applyControl (o : Overrides) : Control → Overrides
  | .removeRules first last =>
    if first = last then o.removeRule first else o.removeRange first last
  | .removeTargetById id target => o.removeTargetById id target
  | .removeTargetByTag tag target => o.removeTargetByTag tag target

/-- Steps in with a status, on behalf of the rule that a record is about. -/
def stepIn (d : Disruption) (status : Nat) (url : Option String) (x : Exchange) (m : MatchRecord) :
    Exchange × MatchRecord :=
  let i : Intervention :=
    ⟨m.ruleId, d.name, status, url, if m.message.isEmpty then none else some m.message⟩
  (x.update fun t => t.decide (·.intervene i), { m with disruptive := true })

/-- Steps in, or does what stands in its place. -/
def applyDisruption (r : RuleInfo) (d : Disruption) (x : Exchange) (m : MatchRecord) :
    Exchange × MatchRecord :=
  match d with
  | .pass => (x, m)
  | .allow =>
    (x.update fun t => t.decide fun d => { d with allowed := true }, { m with disruptive := true })
  | .redirect url =>
    let status :=
      (x.tx.decision.status.filter redirectStatuses.contains).getD defaultRedirectStatus
    let expanded := url.expand r x
    stepIn d status (some expanded.1) expanded.2 m
  | _ => stepIn d (x.tx.decision.status.getD defaultStatus) none x m

/-- Runs the action of a rule; the record of the match goes along. -/
def run (r : RuleInfo) (x : Exchange) (m : MatchRecord) : Action → Exchange × MatchRecord
  | setVar collection key change =>
    let k := key.expand r x
    match k.2.view? collection.text with
    | none => (k.2, m)
    | some v => (applyChange r v k.1 k.2 change, m)
  | logData text =>
    let expanded := text.expand r x
    (expanded.2, { m with data := expanded.1 })
  | expireVar collection key seconds =>
    let k := key.expand r x
    let s := seconds.expand r k.2
    match s.2.view? collection.text with
    | none => (s.2, m)
    | some v =>
      let ttl := (Text.leadingInt s.1).toNat
      (s.2.writing v fun part c => part.expireAfter c s.2.now k.1 ttl, m)
  | initCollection collection key =>
    let k := key.expand r x
    (k.2.update fun t => (t.bind collection.text k.1).2, m)
  | setEnv assignment =>
    let expanded := assignment.expand r x
    match Text.splitOnce? '=' expanded.1 with
    | some (name, text) =>
      (expanded.2.update fun t => { t with environment := t.environment.set name text }, m)
    | none => (expanded.2, m)
  | skip count => (x.update fun t => t.decide fun d => { d with skip := count }, m)
  | status code => (x.update fun t => t.decide fun d => { d with status := some code }, m)
  | control c =>
    (x.update fun t => t.decide fun d => { d with overrides := applyControl d.overrides c }, m)
  | disrupt d => applyDisruption r d x m

end Action

end Rampart
