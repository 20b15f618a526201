import Rampart.Exceptions
import Rampart.MatchLog

/-!
# The evaluation of chains

A chain is a conjunction: its rules are evaluated one after the other, and each of them has to match
at least one value. Evidence is logged for every value as it is found. Once the last rule has
matched, the actions that wait for the whole chain are run, those of the last rule first, and the
record that closes the chain is logged.

A chain whose head is out of force holds without being evaluated, and a later rule that is out of
force ends its chain.
-/

namespace Rampart

/-- How far the engine goes. -/
inductive Mode where
  /-- Evaluates chains and steps in. -/
  | on
  /-- Evaluates chains and logs what they find, but never steps in. -/
  | detectionOnly
  /-- Does not evaluate chains. -/
  | off
  deriving DecidableEq, Repr

/-- The name by which the mode is shown. -/
def Mode.name : Mode → String
  | on => "On"
  | detectionOnly => "DetectionOnly"
  | off => "Off"

/-- What evaluates chains. -/
structure Engine where
  mode : Mode
  exceptions : Exceptions

/-- A chain under evaluation: the exchange, the record that is carried along, and the records that
were logged, oldest first. -/
structure Progress where
  exchange : Exchange
  record : MatchRecord
  logged : List MatchRecord

namespace Progress

/-- The evaluation of a chain begins. -/
def start (x : Exchange) (c : Chain) : Progress := ⟨x, .start x.tx c.head.info, []⟩

/-- Runs actions of a rule one after the other. -/
def runActions (p : Progress) (r : Rule) (actions : List Action) : Progress :=
  actions.foldl
    (fun p a =>
      let after := a.run r.info p.exchange p.record
      { p with exchange := after.1, record := after.2 })
    p

/-- Takes the message of a rule into the record, if the rule has one. -/
def takeMessage (p : Progress) (r : Rule) : Progress :=
  let message := r.expandMessage p.exchange
  { p with
    exchange := message.2
    record := { p.record with message := message.1.getD p.record.message } }

/-- Logs the record as it is now. -/
def log (p : Progress) (isFinal : Bool) : Progress :=
  { p with logged := p.logged ++ [{ p.record with isFinal := isFinal }] }

/-- Forgets the values that matched. -/
def clearMatches (p : Progress) : Progress :=
  { p with exchange := p.exchange.update fun t => { t with matched := t.matched.clear } }

/-- Stores captured texts in the collection of the transaction, under their numbers. -/
def storeCaptures (p : Progress) (captures : List String) : Progress :=
  { p with
    exchange := p.exchange.update fun t =>
      { t with
        own := captures.zipIdx.foldl (fun c text => c.setFirst text.2.repr text.1) t.own } }

/-- Records a match among the values that matched. -/
def noteMatch (p : Progress) (value : Value) (text : String) : Progress :=
  let offset := (value.origins.head?.map (·.offset)).getD 0
  { p with
    exchange := p.exchange.update fun t =>
      { t with matched := t.matched.record value.name text offset } }

end Progress

/-- The place of a match inside a value as it is written in evidence. -/
def spanText (span : Nat × Nat) : String := "o" ++ span.1.repr ++ "," ++ span.2.repr

/-- The record with the evidence for a match of a value that was normalised to a text in the given
steps. -/
def MatchRecord.withMatch (m : MatchRecord) (test : Test) (value : Value) (text reference : String)
    (v : Verdict) : MatchRecord :=
  let items :=
    value.origins.map Origin.text ++ (v.span.map spanText).toList ++ [reference]
  { items.foldl addReference m with
    evidence := test.evidence value.name value.text
    matchedName := value.name
    matchedText := text }

namespace Rule

/-- Takes note of a match: captures are stored, the match is recorded, and the actions for every
match are run before the record is logged. -/
def noteMatch (r : Rule) (value : Value) (text reference : String) (v : Verdict) (p : Progress) :
    Progress :=
  let found := { p with record := p.record.withMatch r.test value text reference v }
  let captured := if r.capture then found.storeCaptures v.captures else found
  let noted := (captured.noteMatch value text).takeMessage r
  (noted.runActions r (r.actionsOf .everyMatch)).log false

/-- Puts the test of a rule to a text that stands for a value. The flag says that some text of the
rule has matched. -/
def testText (r : Rule) (value : Value) (s : Bool × Progress) (t : String × String) :
    Bool × Progress :=
  let v := r.test.evaluate r.info r.capture t.1 s.2.exchange
  let p := { s.2 with exchange := v.2 }
  if v.1.matched then (true, r.noteMatch value t.1 t.2 v.1 p) else (s.1, p)

/-- The value is not to be inspected at this moment. -/
def passesOver (r : Rule) (t : Retargeting) (o : Overrides) (v : Value) : Bool :=
  t.excludes v || r.isTargetRemoved o v.name

/-- Tests a value on its way through the pipeline of a rule, unless it is not to be inspected. -/
def testValue (r : Rule) (t : Retargeting) (s : Bool × Progress) (v : Value) : Bool × Progress :=
  if r.passesOver t s.2.exchange.tx.decision.overrides v then s
  else (r.pipeline.run v.text r.multiMatch).foldl (r.testText v) s

/-- Tests the values that a variable stands for. -/
def testVariable (r : Rule) (t : Retargeting) (s : Bool × Progress) (v : Variable) :
    Bool × Progress :=
  let found := v.evaluate r.info s.2.exchange
  found.1.foldl (r.testValue t) (s.1, { s.2 with exchange := found.2 })

/-- The variables that a rule inspects: its own without those that are excluded or out of force, and
then those that were added. -/
def targets (r : Rule) (t : Retargeting) (o : Overrides) : List Variable :=
  (r.inspected.filter fun v => !v.isIn t.excluded && !r.isTargetRemoved o v.fullName) ++ t.added

/-- Tests the empty text once. Nothing is recorded, but the actions for every match are run. -/
def testOnce (r : Rule) (p : Progress) : Bool × Progress :=
  let v := r.test.evaluate r.info r.capture "" p.exchange
  let p := { p with exchange := v.2 }
  if v.1.matched then (true, p.runActions r (r.actionsOf .everyMatch)) else (false, p)

/-- Tests every value of every variable that a rule inspects. -/
def testAll (r : Rule) (exceptions : Exceptions) (p : Progress) : Bool × Progress :=
  let retargeting := exceptions.forRule r p.exchange
  let p := { p with exchange := retargeting.2 }
  let targets := r.targets retargeting.1 p.exchange.tx.decision.overrides
  targets.foldl (r.testVariable retargeting.1) (false, p)

/-- Evaluates one rule of a chain; says whether it matched. If it did not, the values that matched
before are forgotten. -/
def evaluate (r : Rule) (exceptions : Exceptions) (p : Progress) : Bool × Progress :=
  let tested := if r.isUnconditional then r.testOnce p else r.testAll exceptions p
  if tested.1 then tested else (false, tested.2.clearMatches)

end Rule

/-- What the evaluation of a chain came to. -/
structure Outcome where
  /-- The chain matched, or its head is out of force. -/
  holds : Bool
  exchange : Exchange
  /-- The records to log, oldest first. -/
  logged : List MatchRecord

namespace Engine

/-- Evaluates a rule and those after it. The rules that matched are given if the chain did; a rule
that expects a successor which does not exist fails the chain, and one whose successor is out of
force closes it. -/
def evaluateLinks (e : Engine) (r : Rule) : List Rule → Progress → Option (List Rule) × Progress
  | rest, p =>
    let step := r.evaluate e.exceptions p
    if !step.1 then (none, step.2)
    else if !r.chained then (some [r], step.2)
    else
      match rest with
      | [] => (none, step.2)
      | next :: more =>
        if step.2.exchange.tx.decision.overrides.removesRule next.info.id then (some [r], step.2)
        else
          let after := evaluateLinks e next more step.2
          (after.1.map (r :: ·), after.2)

/-- Runs the actions of a rule that wait for the whole chain. -/
def runClosing (e : Engine) (p : Progress) (r : Rule) : Progress :=
  let closed := p.runActions r (r.actionsOf .fullMatch)
  if e.mode = .on then closed.runActions r (r.actionsOf .disruptive) else closed

/-- Closes a chain whose rules have matched. -/
def close (e : Engine) (head : Rule) (matched : List Rule) (p : Progress) : Progress :=
  (matched.reverse.foldl e.runClosing (p.takeMessage head)).log true

/-- Evaluates a chain. -/
def evaluate (e : Engine) (x : Exchange) (c : Chain) : Outcome :=
  if e.mode = .off then ⟨false, x, []⟩
  else if x.tx.decision.overrides.removesRule c.id then ⟨true, x, []⟩
  else
    let run := e.evaluateLinks c.head c.successors (.start x c)
    match run.1 with
    | some matched =>
      let closed := e.close c.head matched run.2
      ⟨true, closed.exchange, closed.logged⟩
    | none => ⟨false, run.2.exchange, run.2.logged⟩

end Engine

end Rampart
