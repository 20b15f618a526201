import Rampart.Action.Reference
import Rampart.Operator.Reference
import Rampart.Rule.Basic
import Rampart.Rule.Settings

/-!
# Compiling rules

Reading the declaration of a rule. The attributes among the actions of a link take precedence over
its fields, and later ones over earlier ones. A link that names no phase takes that of the link
before it. Only the head of a chain may hold disruptive actions. Whatever is wrong anywhere in a
chain is an error of the chain, under the id that its head declares.
-/

namespace Rampart

namespace Rule

/-- The phase of a rule that names none. -/
def defaultPhase : Nat := 2

/-- A rule that has only its fields, before its actions are read. -/
def ofFields (files : FileTree) (s : LinkSettings) (inherited : Option Nat) (hasSuccessor : Bool) :
    Except Error Rule := do
  let message ← s.message.mapM MacroText.ofText
  let inspected ← Variable.ofList s.references
  let test ← Test.ofText files s.operator
  .ok
    { info :=
        { id := s.id
          phase := (s.phase.or inherited).getD defaultPhase
          rawMessage := s.message
          tags := s.tags }
      message := message
      inspected := inspected
      test := test
      pipeline := .empty
      actions := []
      multiMatch := false
      capture := false
      chained := s.chained || hasSuccessor }

/-- The rule with what an attribute says about it. -/
def withAttribute (r : Rule) : Attribute → Except Error Rule
  | .id n => .ok { r with info := { r.info with id := n } }
  | .message text => do
    let message ← MacroText.ofText text
    .ok { r with info := { r.info with rawMessage := some text }, message := some message }
  | .tag text => .ok { r with info := { r.info with tags := r.info.tags ++ [text] } }
  | .severity s => .ok { r with info := { r.info with severity := some s } }
  | .phase n => .ok { r with info := { r.info with phase := n } }
  | .version text => .ok { r with info := { r.info with version := some text } }
  | .revision text => .ok { r with info := { r.info with revision := some text } }
  | .maturity n => .ok { r with info := { r.info with maturity := some n } }
  | .accuracy n => .ok { r with info := { r.info with accuracy := some n } }
  | .chain => .ok { r with chained := true }
  | .multiMatch => .ok { r with multiMatch := true }
  | .capture => .ok { r with capture := true }
  | .transform t => .ok { r with pipeline := r.pipeline.push t }

/-- The rule with one more entry of its list of actions. -/
def withDirective (isHead : Bool) (r : Rule) : Directive → Except Error Rule
  | .attribute a => r.withAttribute a
  | .action a =>
    if !isHead && a.stage == .disruptive then
      .error (.invalidRule ("disruptive action `" ++ a.name ++ "' is only allowed on the chain head"))
    else .ok { r with actions := r.actions ++ [a] }

/-- One link of a chain. -/
def ofSettings (files : FileTree) (s : LinkSettings) (inherited : Option Nat) (isHead : Bool)
    (hasSuccessor : Bool) : Except Error Rule := do
  let plain ← ofFields files s inherited hasSuccessor
  let r ← s.actions.foldlM (fun r text => Directive.ofText text >>= withDirective isHead r) plain
  if Action.isPhase r.info.phase then .ok r
  else Action.refused "phase" r.info.phase.repr "expected a phase between 1 and 5"

/-- The links that follow a link of the given phase. -/
def successorsOf (files : FileTree) (phase : Nat) : List LinkSettings → Except Error (List Rule)
  | [] => .ok []
  | s :: rest => do
    let r ← ofSettings files s (some phase) false (!rest.isEmpty)
    let more ← successorsOf files r.info.phase rest
    .ok (r :: more)

end Rule

namespace Chain

/-- The links of a chain. -/
def ofLinks (files : FileTree) (s : RuleSettings) : Except Error Chain := do
  let head ← Rule.ofSettings files s.head none true (!s.successors.isEmpty)
  let successors ← Rule.successorsOf files head.info.phase s.successors
  .ok ⟨head, successors⟩

/-- The chain that a declaration stands for. -/
def ofSettings (files : FileTree) (s : RuleSettings) : Except Error Chain :=
  (ofLinks files s).mapError (·.forRule s.declaredId)

end Chain

end Rampart
