import Rampart.Action.Basic

/-!
# References to actions

The written form of actions and attributes: a name, and behind a colon a value, which can stand
between single quotes.
-/

namespace Rampart

namespace Action

/-- A part of a value that does not have the expected form. -/
def refused {α : Type} (name value expected : String) : Except Error α :=
  .error (.invalidParameter name value expected)

/-- A natural number up to `max`. -/
def natural (max : Nat) (name value : String) : Except Error Nat :=
  match Text.natural? 10 max (Text.trimChars value.toList) with
  | some n => .ok n
  | none => refused name value "expected a number"

/-- An integer of 64 bits. -/
def integer (name value : String) : Except Error Int :=
  match Text.integer? (Text.trimChars value.toList) with
  | some n => .ok n
  | none => refused name value "expected a number"

/-- The greatest numbers of 8, 16 and 64 bits. -/
def maxByte : Nat := 255
@[inherit_doc maxByte] def maxWord : Nat := 65535
@[inherit_doc maxByte] def maxLong : Nat := 18446744073709551615

/-- A number of a phase is one of the phases. -/
def isPhase (n : Nat) : Bool := decide (1 ≤ n) && decide (n ≤ 5)

/-- A phase, by number or by name. -/
def phaseOf (value : String) : Except Error Nat := do
  let n ← match Text.lower (Text.trim value) with
    | "request" => .ok 2
    | "response" => .ok 4
    | "logging" => .ok 5
    | other => natural maxByte "phase" other
  if isPhase n then .ok n else refused "phase" value "expected a phase between 1 and 5"

/-- A key of a collection: the collection, a point and the key. -/
def targetOf (name target : String) : Except Error (CollectionName × MacroText) :=
  match Text.splitOnce? '.' target with
  | none => refused name target "expected collection.key"
  | some (collection, key) =>
    match CollectionName.ofText? (Text.upper (Text.trim collection)) with
    | none => refused name target "unknown collection"
    | some c => (MacroText.ofText (Text.trim key)).map fun k => (c, k)

/-- The change that stands behind the equals sign. -/
def changeOf (value : String) : Except Error Change :=
  match value.toList with
  | '+' :: n => (MacroText.ofText (String.ofList n)).map .add
  | '-' :: n => (MacroText.ofText (String.ofList n)).map .sub
  | _ => (MacroText.ofText value).map .set

/-- A change of a value in a collection. -/
def setVarOf (param : String) : Except Error Action :=
  match param.toList with
  | '!' :: target => do
    let (c, k) ← targetOf "setvar" (String.ofList target)
    .ok (.setVar c k .erase)
  | _ => do
    let (target, change) ← match Text.splitOnce? '=' param with
      | some (target, value) => (changeOf value).map fun change => (target, change)
      | none => .ok (param, Change.one)
    let (c, k) ← targetOf "setvar" target
    .ok (.setVar c k change)

/-- A deadline for a value in a collection. -/
def expireVarOf (param : String) : Except Error Action :=
  match Text.splitOnce? '=' param with
  | none => refused "expirevar" param "expected coll.key=seconds"
  | some (target, seconds) => do
    let s ← MacroText.ofText (Text.trim seconds)
    if !s.hasReference then
      let _ ← natural maxLong "expirevar" s.raw
    let (c, k) ← targetOf "expirevar" target
    .ok (.expireVar c k s)

/-- The binding of a shared collection to a compartment. -/
def initCollectionOf (param : String) : Except Error Action :=
  match Text.splitOnce? '=' param with
  | none => refused "initcol" param "expected collection=key"
  | some (collection, key) =>
    match (CollectionName.ofText? (Text.upper (Text.trim collection))).filter (!·.isOwn) with
    | none => refused "initcol" param "unknown collection"
    | some c => (MacroText.ofText (Text.trim key)).map (.initCollection c)

/-- The rules of a range, or a single rule. -/
def removeRulesOf (value : String) : Except Error Control :=
  match Text.splitOnce? '-' value with
  | some (first, last) => do
    let a ← integer "ctl" first
    let b ← integer "ctl" last
    .ok (.removeRules a b)
  | none => (integer "ctl" value).map fun n => .removeRules n n

/-- What is put out of force for the rest of the transaction. -/
def controlOf (param : String) : Except Error Action :=
  match Text.splitOnce? '=' param with
  | none => refused "ctl" param "expected option=value"
  | some (option, value) =>
    let value := Text.trim value
    match Text.lower (Text.trim option) with
    | "ruleremovebyid" => (removeRulesOf value).map .control
    | "ruleremovetargetbyid" =>
      match Text.splitOnce? ';' value with
      | none => refused "ctl" value "expected id;TARGET"
      | some (id, target) =>
        (integer "ctl" id).map fun n => .control (.removeTargetById n (Text.trim target))
    | "ruleremovetargetbytag" =>
      match Text.splitOnce? ';' value with
      | none => refused "ctl" value "expected tag;TARGET"
      | some (tag, target) => .ok (.control (.removeTargetByTag (Text.trim tag) (Text.trim target)))
    | _ => refused "ctl" param "unsupported option"

/-- A value without single quotes around it. -/
def unquote (value : List Char) : List Char :=
  if 1 < value.length ∧ value.head? = some '\'' ∧ value.getLast? = some '\'' then value.tail.dropLast
  else value

end Action

namespace Directive

/-- The directive of a name in small letters, with its value; nothing if there is none. -/
def ofName? (name value : String) : Option (Except Error Directive) :=
  let act (a : Except Error Action) := some (a.map Directive.action)
  let attr (a : Except Error Attribute) := some (a.map Directive.attribute)
  match name with
  | "id" => attr ((Action.integer "id" value).map .id)
  | "msg" => attr (.ok (.message value))
  | "tag" => attr (.ok (.tag value))
  | "severity" =>
    attr <| match Severity.ofText? value with
      | some s => .ok (.severity s)
      | none => Action.refused "severity" value "unknown severity"
  | "phase" => attr ((Action.phaseOf value).map .phase)
  | "ver" => attr (.ok (.version value))
  | "rev" => attr (.ok (.revision value))
  | "maturity" => attr ((Action.natural Action.maxByte "maturity" value).map .maturity)
  | "accuracy" => attr ((Action.natural Action.maxByte "accuracy" value).map .accuracy)
  | "chain" => attr (.ok .chain)
  | "multimatch" => attr (.ok .multiMatch)
  | "capture" => attr (.ok .capture)
  | "t" => attr ((Transform.ofName value).map .transform)
  | "setvar" => act (Action.setVarOf value)
  | "logdata" => act ((MacroText.ofText value).map .logData)
  | "expirevar" => act (Action.expireVarOf value)
  | "initcol" => act (Action.initCollectionOf value)
  | "setenv" => act ((MacroText.ofText value).map .setEnv)
  | "skip" => act ((Action.natural Action.maxLong "skip" value).map .skip)
  | "status" => act ((Action.natural Action.maxWord "status" value).map .status)
  | "ctl" => act (Action.controlOf value)
  | "deny" => act (.ok (.disrupt .deny))
  | "drop" => act (.ok (.disrupt .drop))
  | "block" => act (.ok (.disrupt .block))
  | "pass" => act (.ok (.disrupt .pass))
  | "allow" => act (.ok (.disrupt .allow))
  | "redirect" => act ((MacroText.ofText value).map fun url => .disrupt (.redirect url))
  | _ => none

/-- The directive that a text stands for. -/
def ofText (s : String) : Except Error Directive :=
  let cs := Text.trimChars s.toList
  let (name, value) :=
    match Text.cutAt? (· == ':') cs with
    | some (name, value) => (Text.trimChars name, Text.trimChars value)
    | none => (cs, [])
  let named := Text.lower (String.ofList name)
  match ofName? named (String.ofList (Action.unquote value)) with
  | some d => d
  | none => .error (.invalidAction (String.ofList cs))

end Directive

end Rampart
