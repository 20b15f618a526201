import Rampart.Settings.Basic

/-!
# Checking settings

Checks of settings before a handler is set up from them. A finding that is an error refuses the
settings; a warning only says that they will probably not do what was meant.
-/

namespace Rampart

/-- How grave a finding is. -/
inductive Gravity where
  | error
  | warning
  deriving DecidableEq, Repr

/-- What a check has found, and in which field. -/
structure Finding where
  field : String
  message : String
  gravity : Gravity
  deriving DecidableEq, Repr

/-- A finding that refuses the settings. -/
def Finding.error (field message : String) : Finding := ⟨field, message, .error⟩

/-- A finding that refuses nothing. -/
def Finding.warning (field message : String) : Finding := ⟨field, message, .warning⟩

/-- A finding with its field. -/
def Finding.text (f : Finding) : String := f.field ++ ": " ++ f.message

/-- The findings that refuse the settings. -/
def errorsOf (fs : List Finding) : List Finding := fs.filter fun f => f.gravity == .error

/-- The findings that refuse nothing. -/
def warningsOf (fs : List Finding) : List Finding := fs.filter fun f => f.gravity == .warning

/-- A check of settings. -/
inductive Check where
  /-- Looks at the fields alone. -/
  | basic
  /-- Compiles every rule and every exception; what cannot be compiled is an error. -/
  | compile
  /-- Compiles every rule and every exception; what cannot be compiled is a warning. -/
  | lenient
  deriving DecidableEq, Repr

namespace Check

/-- The handler has a name. -/
def engine (s : EngineSettings) : List Finding :=
  if (Text.trimChars s.name.toList).isEmpty then
    [.error "engine.name" "Engine name cannot be empty"]
  else []

/-- The names of the shared collections differ from each other, up to case, and from that of the
collection that every transaction has of its own. The names before the current one are at hand in
capitals. -/
def collectionNames (before : List String) : List String → List Finding
  | [] => []
  | name :: rest =>
    let found (message : String) := Finding.error "collections.names" message
    if name.isEmpty then found "Collection name cannot be empty" :: collectionNames before rest
    else if Text.sameText name Transaction.ownName then
      found "TX is per transaction and cannot be shared" :: collectionNames before rest
    else if before.contains (Text.upper name) then
      found ("Duplicate collection name: " ++ name) :: collectionNames before rest
    else collectionNames (Text.upper name :: before) rest

/-- An element of a list in the settings. -/
def element (field : String) (index : Nat) : String := field ++ "[" ++ index.repr ++ "]"

/-- A link names no phase or one that exists. -/
def linkPhase (field : String) (l : LinkSettings) : List Finding :=
  match l.phase with
  | some phase =>
    if RuleSet.phases.contains phase then []
    else [.error (field ++ ".phase") ("Phase " ++ phase.repr ++ " is outside 1-5")]
  | none => []

/-- A rule at some place in the list: its id is not among the given ones, its phases exist, and it
either has variables or is meant to match always. -/
def rule (ids : List Int) (index : Nat) (r : RuleSettings) : List Finding :=
  let field := element "waf.rules" index
  let id := r.head.id
  (if ids.contains id then [.error (field ++ ".id") ("Duplicate rule id: " ++ Text.decimal id)]
    else []) ++
    r.links.flatMap (linkPhase field) ++
    if r.head.references.isEmpty && r.head.operator != ({} : LinkSettings).operator then
      [.warning (field ++ ".variables")
        "Rule without variables matches once against an empty value"]
    else []

/-- The rules of a list from some place on; the ids before it are at hand. -/
def rulesFrom (ids : List Int) (index : Nat) : List RuleSettings → List Finding
  | [] => []
  | r :: rest =>
    let known := if r.head.id = 0 then ids else r.head.id :: ids
    rule ids index r ++ rulesFrom known (index + 1) rest

/-- The rules, and the ids that are removed although no rule has them. -/
def rules (s : RuleSetSettings) : List Finding :=
  let ids := (s.rules.map (·.head.id)).filter (· ≠ 0)
  rulesFrom [] 0 s.rules ++
    (s.removedIds.filter fun id => !ids.contains id).map fun id =>
      .warning "waf.remove_rule_ids" ("Rule " ++ Text.decimal id ++ " is removed but never defined")

/-- An exception at some place in the list has one selector and a target. -/
def exception (s : ExceptionSettings) (index : Nat) : List Finding :=
  let field := element "waf.exceptions" index
  (if s.selectorCount = 1 then []
    else [.error field "Exception needs exactly one of tag, msg or id"]) ++
    if s.targets.isEmpty then
      [.error (field ++ ".targets") "Exception needs at least one target"]
    else []

/-- The log has room for an entry. -/
def matchLog (s : MatchLogSettings) : List Finding :=
  if s.maxEntries = 0 then
    [.warning "waf.match_log.max_entries" "Match log keeps a single entry when max_entries is 0"]
  else []

/-- What the fields of settings show. -/
def fields (s : Settings) : List Finding :=
  engine s.engine ++ collectionNames [] s.collections.names ++ rules s.rules ++
    (s.rules.exceptions.zipIdx.flatMap fun e => exception e.1 e.2) ++ matchLog s.rules.matchLog

/-- What compiling the rules and exceptions shows. -/
def compiled (files : FileTree) (gravity : Gravity) (s : Settings) : List Finding :=
  (RuleSet.ofSettings files s.rules).2.map fun e =>
    let field :=
      match e.ruleId? with
      | some id => "waf.rules." ++ Text.decimal id
      | none => "waf.exceptions"
    ⟨field, e.message, gravity⟩

/-- What a check finds. -/
def run (files : FileTree) (s : Settings) : Check → List Finding
  | basic => fields s
  | compile => compiled files .error s
  | lenient => compiled files .warning s

/-- The checks that are made unless others are asked for. -/
def standard : List Check := [.basic, .compile]

/-- What several checks find. -/
def runAll (checks : List Check) (files : FileTree) (s : Settings) : List Finding :=
  checks.flatMap (run files s)

end Check

end Rampart
