import Rampart.Rule.Basic
import Rampart.Variable.Reference

/-!
# Exceptions

Changes to the targets of rules that are already written: an exception selects rules by a tag, by
their message or by an id, and excludes variables from their targets or adds variables to them.
-/

namespace Rampart

/-- The declaration of an exception. Exactly one of the selectors has to be there. -/
structure ExceptionSettings where
  tag : Option String := none
  message : Option String := none
  id : Option Int := none
  targets : List String
  deriving DecidableEq, Repr

/-- The number of selectors of a declaration. -/
def ExceptionSettings.selectorCount (s : ExceptionSettings) : Nat :=
  s.tag.isSome.toNat + s.message.isSome.toNat + s.id.isSome.toNat

/-- Exceptions by what selects the rules. -/
structure Exceptions where
  byTag : List (String × List Variable)
  byMessage : List (String × List Variable)
  byId : List (Int × List Variable)

namespace Exceptions

/-- No exceptions. -/
def none : Exceptions := ⟨[], [], []⟩

/-- The number of exceptions. -/
def size (e : Exceptions) : Nat := e.byTag.length + e.byMessage.length + e.byId.length

/-- There are no exceptions. -/
def isEmpty (e : Exceptions) : Bool := e.size == 0

/-- The variables of a list of targets, of which there has to be one. -/
def targetsOf (references : List String) : Except Error (List Variable) :=
  if references.isEmpty then .error (.invalidConfig "exception without targets")
  else references.mapM Variable.ofText

/-- One more exception for rules with a tag. -/
def addByTag (e : Exceptions) (tag : String) (targets : List String) : Except Error Exceptions :=
  (targetsOf targets).map fun vs => { e with byTag := e.byTag ++ [(tag, vs)] }

/-- One more exception for rules whose expanded message is the given one. -/
def addByMessage (e : Exceptions) (message : String) (targets : List String) :
    Except Error Exceptions :=
  (targetsOf targets).map fun vs => { e with byMessage := e.byMessage ++ [(message, vs)] }

/-- One more exception for the rule with an id. -/
def addById (e : Exceptions) (id : Int) (targets : List String) : Except Error Exceptions :=
  (targetsOf targets).map fun vs => { e with byId := e.byId ++ [(id, vs)] }

/-- One more exception. -/
def add (e : Exceptions) (s : ExceptionSettings) : Except Error Exceptions :=
  match s.tag, s.message, s.id with
  | some tag, .none, .none => e.addByTag tag s.targets
  | .none, some message, .none => e.addByMessage message s.targets
  | .none, .none, some id => e.addById id s.targets
  | _, _, _ =>
    .error <| .invalidConfig
      ("exception needs exactly one of tag, msg or id, got " ++ s.selectorCount.repr)

/-- The exceptions after one more declaration, and the errors so far with the one that it may
cause. -/
def load (acc : Exceptions × List Error) (s : ExceptionSettings) : Exceptions × List Error :=
  match acc.1.add s with
  | .ok e => (e, acc.2)
  | .error err => (acc.1, acc.2 ++ [err])

/-- The exceptions that can be read, and one error for each of the others. -/
def ofSettings (ss : List ExceptionSettings) : Exceptions × List Error := ss.foldl load (none, [])

/-- The targets of the exceptions that select a rule with the given expanded message. -/
def targetsFor (e : Exceptions) (r : RuleInfo) (message : Option String) : List Variable :=
  ((e.byTag.filter fun t => r.hasTag t.1).flatMap (·.2)) ++
    ((e.byMessage.filter fun t => message == some t.1).flatMap (·.2)) ++
      ((e.byId.filter fun t => t.1 == r.id).flatMap (·.2))

end Exceptions

/-- What exceptions make of the targets of a rule. -/
structure Retargeting where
  excluded : List Variable
  added : List Variable

namespace Retargeting

/-- The targets of a rule stay as they are. -/
def none : Retargeting := ⟨[], []⟩

/-- What a list of targets of exceptions says. -/
def ofTargets (vs : List Variable) : Retargeting where
  excluded := vs.filterMap (·.exclusionBase?)
  added := vs.filter fun v => v.exclusionBase?.isNone

/-- The value is one that an excluded variable denotes. -/
def excludes (t : Retargeting) (v : Value) : Bool := t.excluded.any (·.denotes v)

end Retargeting

/-- What the exceptions make of the targets of a rule at this moment. -/
def Exceptions.forRule (e : Exceptions) (r : Rule) (x : Exchange) : Retargeting × Exchange :=
  if e.isEmpty then (.none, x)
  else
    let message := r.expandMessage x
    (.ofTargets (e.targetsFor r.info message.1), message.2)

end Rampart
