import Rampart.Settings.Basic
import Rampart.Toml.Document
import Rampart.Toml.Printer

/-!
# Settings as documents

Reading settings from the data of a document, and writing them as sections. A field that is missing
has its default, a field that is unknown is passed over, and a field that does not have the expected
form makes the whole unreadable. A record can also be given as an array of its fields in their order.
-/

namespace Rampart

namespace Toml

/-- A text. -/
def Item.text? : Item → Option String
  | .text s => some s
  | _ => none

/-- A truth value. -/
def Item.boolean? : Item → Option Bool
  | .boolean b => some b
  | _ => none

/-- An integer of 64 bits. -/
def Item.integer? : Item → Option Int
  | .integer n => if Text.minInt ≤ n ∧ n ≤ Text.maxInt then some n else none
  | _ => none

/-- A natural number up to `max`. -/
def Item.natural? (max : Nat) : Item → Option Nat
  | .integer n => if 0 ≤ n ∧ n ≤ max then some n.toNat else none
  | _ => none

/-- The elements of an array. -/
def Item.list? {α : Type} (read : Item → Option α) : Item → Option (List α)
  | .array _ items => items.mapM read
  | _ => none

/-- A field of a record with its default. -/
def Fields.field {α : Type} (f : Fields) (place : Nat) (name : String) (read : Item → Option α)
    (default : α) : Option α :=
  match f.get? place name with
  | some i => read i
  | none => some default

/-- A field of a record that need not be there. -/
def Fields.optional {α : Type} (f : Fields) (place : Nat) (name : String)
    (read : Item → Option α) : Option (Option α) :=
  f.field place name (fun i => (read i).map some) none

end Toml

open Toml

/-! ## Reading -/

/-- How far the engine goes: the name of a mode, or a table in which it is the only key and stands
for nothing. -/
def Mode.ofItem? (i : Item) : Option Mode :=
  let named : String → Option Mode
    | "on" => some .on
    | "detection_only" => some .detectionOnly
    | "off" => some .off
    | _ => none
  match i with
  | .text s => named s
  | .table _ [(s, .array _ [])] => named s
  | .table _ [(s, .table _ [])] => named s
  | _ => none

/-- The name of a handler and how far it goes. -/
def EngineSettings.ofItem? (i : Item) : Option EngineSettings := do
  let f ← i.fields?
  let d : EngineSettings := {}
  some
    { name := ← f.field 0 "name" Item.text? d.name
      mode := ← f.field 1 "mode" Mode.ofItem? d.mode
      captureEnvironment := ← f.field 2 "capture_process_env" Item.boolean? d.captureEnvironment }

/-- The greatest number of a word of 64 bits. -/
def maxSize : Nat := 18446744073709551615

/-- The collections that transactions share. -/
def CollectionSettings.ofItem? (i : Item) : Option CollectionSettings := do
  let f ← i.fields?
  let d : CollectionSettings := {}
  some
    { names := ← f.field 0 "names" (Item.list? Item.text?) d.names
      initialCapacity := ← f.field 1 "initial_capacity" (Item.natural? maxSize) d.initialCapacity }

/-- How matches are logged. -/
def MatchLogSettings.ofItem? (i : Item) : Option MatchLogSettings := do
  let f ← i.fields?
  let d : MatchLogSettings := {}
  some
    { enabled := ← f.field 0 "enabled" Item.boolean? d.enabled
      maxEntries := ← f.field 1 "max_entries" (Item.natural? maxSize) d.maxEntries
      forward := ← f.field 2 "forward_to_tracing" Item.boolean? d.forward }

/-- An exception. -/
def ExceptionSettings.ofItem? (i : Item) : Option ExceptionSettings := do
  let f ← i.fields?
  some
    { tag := ← f.optional 0 "tag" Item.text?
      message := ← f.optional 1 "msg" Item.text?
      id := ← f.optional 2 "id" Item.integer?
      targets := ← (f.get? 3 "targets").bind (Item.list? Item.text?) }

/-- One link of a rule, without those that follow it. -/
def LinkSettings.ofFields? (f : Fields) : Option LinkSettings := do
  let d : LinkSettings := {}
  some
    { id := ← f.field 0 "id" Item.integer? d.id
      phase := ← f.optional 1 "phase" (Item.natural? 255)
      message := ← f.optional 2 "msg" Item.text?
      tags := ← f.field 3 "tags" (Item.list? Item.text?) d.tags
      references := ← f.field 4 "variables" (Item.list? Item.text?) d.references
      operator := ← f.field 5 "operator" Item.text? d.operator
      actions := ← f.field 6 "actions" (Item.list? Item.text?) d.actions
      chained := ← f.field 7 "chained" Item.boolean? d.chained }

/-- A rule. The links of a chain are nested in each other. -/
def RuleSettings.ofItem? (i : Item) : Option RuleSettings :=
  match _hf : i.fields? with
  | none => none
  | some f => do
    let head ← LinkSettings.ofFields? f
    match _hv : f.get? 8 "chain" with
    | none => some ⟨head, []⟩
    | some next => do
      let rest ← ofItem? next
      some ⟨head, rest.links⟩
termination_by sizeOf i
decreasing_by exact Item.sizeOf_get?_lt _hf _hv

/-- The rules of a file. -/
def RuleFile.ofFields? (f : Fields) : Option RuleFile := do
  some
    { rules := ← f.field 0 "rules" (Item.list? RuleSettings.ofItem?) []
      exceptions := ← f.field 1 "exceptions" (Item.list? ExceptionSettings.ofItem?) []
      removedIds := ← f.field 2 "remove_rule_ids" (Item.list? Item.integer?) [] }

/-- The rules with the log of their matches. -/
def RuleSetSettings.ofItem? (i : Item) : Option RuleSetSettings := do
  let f ← i.fields?
  let d : RuleSetSettings := {}
  let own ← RuleFile.ofFields? f
  some
    { rules := own.rules
      exceptions := own.exceptions
      removedIds := own.removedIds
      matchLog := ← f.field 3 "match_log" MatchLogSettings.ofItem? d.matchLog
      includes := ← f.field 4 "include" (Item.list? Item.text?) d.includes }

/-- What a handler is set up from. -/
def Settings.ofEntries? (es : Toml.Entries) : Option Settings := do
  let f := Fields.named es
  let d : Settings := {}
  some
    { engine := ← f.field 0 "engine" EngineSettings.ofItem? d.engine
      collections := ← f.field 1 "collections" CollectionSettings.ofItem? d.collections
      rules := ← f.field 2 "waf" RuleSetSettings.ofItem? d.rules }

/-! ## Writing -/

/-- The name of a mode in settings. -/
def Mode.settingName : Mode → String
  | on => "on"
  | detectionOnly => "detection_only"
  | off => "off"

/-- An array of texts. -/
def textsItem (texts : List String) : Item := .array .closed (texts.map .text)

/-- A pair with a value. -/
def pairOf (key : String) (value : Item) : Toml.Entries.Pair := ⟨[], key, value⟩

/-- A pair with a value, if there is one. -/
def optionalPair {α : Type} (key : String) (item : α → Item) : Option α → List Toml.Entries.Pair
  | some a => [pairOf key (item a)]
  | none => []

/-- The pairs of a link. -/
def LinkSettings.pairs (s : LinkSettings) : List Toml.Entries.Pair :=
  [pairOf "id" (.integer s.id)] ++ optionalPair "phase" (.integer ·) s.phase ++
    optionalPair "msg" .text s.message ++
    [pairOf "tags" (textsItem s.tags), pairOf "variables" (textsItem s.references),
      pairOf "operator" (.text s.operator), pairOf "actions" (textsItem s.actions),
      pairOf "chained" (.boolean s.chained)]

/-- The sections of the links that follow one with the given path and key. -/
def chainSections (path : List String) (key : String) : List LinkSettings → List Section
  | [] => []
  | s :: rest =>
    ⟨some ⟨path ++ [key], "chain", false⟩, s.pairs⟩ :: chainSections (path ++ [key]) "chain" rest

/-- The sections of a rule. -/
def RuleSettings.sections (s : RuleSettings) : List Section :=
  ⟨some ⟨["waf"], "rules", true⟩, s.head.pairs⟩ :: chainSections ["waf"] "rules" s.successors

/-- The section of an exception. -/
def ExceptionSettings.sections (s : ExceptionSettings) : Section :=
  ⟨some ⟨["waf"], "exceptions", true⟩,
    optionalPair "tag" .text s.tag ++ optionalPair "msg" .text s.message ++
      optionalPair "id" .integer s.id ++ [pairOf "targets" (textsItem s.targets)]⟩

/-- The sections of settings. -/
def Settings.sections (s : Settings) : List Section :=
  [⟨some ⟨[], "engine", false⟩,
      [pairOf "name" (.text s.engine.name), pairOf "mode" (.text s.engine.mode.settingName),
        pairOf "capture_process_env" (.boolean s.engine.captureEnvironment)]⟩,
    ⟨some ⟨[], "collections", false⟩,
      [pairOf "names" (textsItem s.collections.names),
        pairOf "initial_capacity" (.integer s.collections.initialCapacity)]⟩,
    ⟨some ⟨[], "waf", false⟩,
      pairOf "remove_rule_ids" (.array .closed (s.rules.removedIds.map .integer)) ::
        if s.rules.includes.isEmpty then [] else [pairOf "include" (textsItem s.rules.includes)]⟩,
    ⟨some ⟨["waf"], "match_log", false⟩,
      [pairOf "enabled" (.boolean s.rules.matchLog.enabled),
        pairOf "max_entries" (.integer s.rules.matchLog.maxEntries),
        pairOf "forward_to_tracing" (.boolean s.rules.matchLog.forward)]⟩] ++
    s.rules.rules.flatMap RuleSettings.sections ++
    s.rules.exceptions.map ExceptionSettings.sections

/-- The document of settings, if every number in it fits into an integer of 64 bits. -/
def Settings.document? (s : Settings) : Option String :=
  let sizes := [s.collections.initialCapacity, s.rules.matchLog.maxEntries]
  if sizes.all fun n => decide ((n : Int) ≤ Text.maxInt) then some (printSections s.sections)
  else none

end Rampart
