import Rampart.Calendar
import Rampart.RuleInfo
import Rampart.Transaction

/-!
# Variables

What a rule can inspect. A variable names a part of a transaction and selects keys of it; evaluated,
it stands for a list of values. Evaluation can read collections, and a read removes what has
expired, so it also gives the exchange that is left.
-/

namespace Rampart

/-- Sets of values of a transaction. -/
inductive SetSource where
  | args
  | argsGet
  | requestHeaders
  | requestCookies
  | matchedVars
  deriving DecidableEq, Repr

namespace SetSource

/-- The name of the set. -/
def name : SetSource → String
  | args => "ARGS"
  | argsGet => "ARGS_GET"
  | requestHeaders => "REQUEST_HEADERS"
  | requestCookies => "REQUEST_COOKIES"
  | matchedVars => "MATCHED_VARS"

/-- The name of the view that shows the keys of the set. -/
def namesName : SetSource → String
  | args => "ARGS_NAMES"
  | argsGet => "ARGS_GET_NAMES"
  | requestHeaders => "REQUEST_HEADERS_NAMES"
  | requestCookies => "REQUEST_COOKIES_NAMES"
  | matchedVars => "MATCHED_VARS_NAMES"

/-- Every set. -/
def all : List SetSource := [args, argsGet, requestHeaders, requestCookies, matchedVars]

/-- The values of the set. -/
def values (t : Transaction) : SetSource → AnchoredSet
  | args => t.request.args
  | argsGet => t.request.argsGet
  | requestHeaders => t.request.headers
  | requestCookies => t.request.cookies
  | matchedVars => t.matched.values

/-- The set whose keys the view of names shows. The names of matched values are kept as a set of
their own. -/
def named (t : Transaction) : SetSource → AnchoredSet
  | matchedVars => t.matched.names
  | s => s.values t

end SetSource

/-- Single values of a transaction. -/
inductive SingleSource where
  | requestUri
  | requestMethod
  | queryString
  | requestBody
  | remoteAddr
  | matchedVar
  | matchedVarName
  deriving DecidableEq, Repr

namespace SingleSource

/-- The name of the value. -/
def name : SingleSource → String
  | requestUri => "REQUEST_URI"
  | requestMethod => "REQUEST_METHOD"
  | queryString => "QUERY_STRING"
  | requestBody => "REQUEST_BODY"
  | remoteAddr => "REMOTE_ADDR"
  | matchedVar => "MATCHED_VAR"
  | matchedVarName => "MATCHED_VAR_NAME"

/-- Every single value. -/
def all : List SingleSource :=
  [requestUri, requestMethod, queryString, requestBody, remoteAddr, matchedVar, matchedVarName]

/-- The value in a transaction. -/
def anchor (t : Transaction) : SingleSource → Anchor
  | requestUri => t.request.uri
  | requestMethod => t.request.method
  | queryString => t.request.query
  | requestBody => t.request.body
  | remoteAddr => t.request.remote
  | matchedVar => t.matched.last
  | matchedVarName => t.matched.lastName

end SingleSource

/-- Collections that rules can name: the one of the transaction, and five that are shared. -/
inductive CollectionName where
  | tx
  | global
  | ip
  | session
  | user
  | resource
  deriving DecidableEq, Repr

namespace CollectionName

/-- The name of the collection. -/
def text : CollectionName → String
  | tx => "TX"
  | global => "GLOBAL"
  | ip => "IP"
  | session => "SESSION"
  | user => "USER"
  | resource => "RESOURCE"

/-- Every collection that rules can name. -/
def all : List CollectionName := [tx, global, ip, session, user, resource]

/-- The collection of a name in capitals. -/
def ofText? (s : String) : Option CollectionName := all.find? fun c => c.text == s

/-- The collection belongs to the transaction alone. -/
def isOwn : CollectionName → Bool
  | tx => true
  | _ => false

end CollectionName

namespace Calendar.Field

/-- The name of the variable that shows the field. -/
def name : Calendar.Field → String
  | time => "TIME"
  | year => "TIME_YEAR"
  | month => "TIME_MON"
  | day => "TIME_DAY"
  | hour => "TIME_HOUR"
  | minute => "TIME_MIN"
  | second => "TIME_SEC"
  | weekday => "TIME_WDAY"
  | epoch => "TIME_EPOCH"

/-- Every field. -/
def all : List Calendar.Field := [time, year, month, day, hour, minute, second, weekday, epoch]

end Calendar.Field

/-- The keys of a set or a collection that a variable selects. -/
inductive Selector where
  | all
  /-- One key, up to case. -/
  | key (key : String)
  /-- The keys that a pattern matches. -/
  | pattern (pattern : Pattern)

namespace Selector

/-- The pattern of the selector. -/
def pattern? : Selector → Option Pattern
  | pattern p => some p
  | _ => none

/-- The name of a variable with the selector as it is written behind it. -/
def fullName (name : String) : Selector → String
  | all => name
  | key k => name ++ ":" ++ k
  | pattern p => name ++ ":/" ++ p.source ++ "/"

/-- The exclusions with the selected keys excluded too. -/
def addTo (e : Exclusions) : Selector → Exclusions
  | all => e
  | key k => e.addKey k
  | pattern p => e.addPattern p

/-- The values of a set under the selected keys. A single key is read regardless of exclusions. -/
def ofSet (s : AnchoredSet) (e : Exclusions) : Selector → List Value
  | all => s.all e
  | key k => s.atKey k
  | pattern p => s.matching p e

/-- The values of a collection under the selected keys. -/
def ofCollection (now : Instant) (e : Exclusions) (part : Compartment) (c : Collection) :
    Selector → List Value × Collection
  | all => part.readMany c now "" e
  | key k => part.readMany c now k e
  | pattern p => part.readMatching c now p e

end Selector

/-- What a rule can inspect. -/
inductive Variable where
  /-- Values of a set. -/
  | set (source : SetSource) (selector : Selector) (omitted : Exclusions)
  /-- Keys of a set, as values. -/
  | names (source : SetSource) (selector : Selector) (omitted : Exclusions)
  /-- Values of a collection. -/
  | collection (name : CollectionName) (selector : Selector) (omitted : Exclusions)
  /-- A single value. -/
  | single (source : SingleSource)
  /-- Texts of the environment: the one of the exact name `key`, or all. -/
  | env (key : Option String) (omitted : Exclusions)
  /-- A field of the time of the request. -/
  | time (field : Calendar.Field)
  /-- A field of the rule itself, or all. -/
  | rule (key : Option String)
  /-- Nothing; says that what `base` stands for is not to be inspected. -/
  | exclusion (base : Variable)
  /-- The number of values that `base` stands for. -/
  | count (base : Variable)

namespace Variable

/-- The name without a selector. -/
def name : Variable → String
  | set s _ _ => s.name
  | names s _ _ => s.namesName
  | collection c _ _ => c.text
  | single s => s.name
  | env _ _ => "ENV"
  | time f => f.name
  | rule _ => "RULE"
  | exclusion b => b.name
  | count b => b.name

/-- A name with a key behind it, if there is one. -/
def keyedName (name : String) : Option String → String
  | none => name
  | some k => name ++ ":" ++ k

/-- The name with its selector. A count is marked, an exclusion is not. -/
def fullName : Variable → String
  | set s sel _ => sel.fullName s.name
  | names s sel _ => sel.fullName s.namesName
  | collection c sel _ => sel.fullName c.text
  | single s => s.name
  | env key _ => keyedName "ENV" key
  | time f => f.name
  | rule key => keyedName "RULE" key
  | exclusion b => b.fullName
  | count b => "&" ++ b.fullName

/-- The variable that is not to be inspected. -/
def exclusionBase? : Variable → Option Variable
  | exclusion b => some b
  | _ => none

/-- The pattern that selects keys. -/
def pattern? : Variable → Option Pattern
  | set _ sel _ => sel.pattern?
  | names _ sel _ => sel.pattern?
  | collection _ sel _ => sel.pattern?
  | _ => none

/-- The variable without the keys that a selector selects, if it can leave out keys. -/
def exclude (sel : Selector) : Variable → Variable
  | set s own e => set s own (sel.addTo e)
  | names s own e => names s own (sel.addTo e)
  | collection c own e => collection c own (sel.addTo e)
  | env key e => env key (sel.addTo e)
  | count b => count (b.exclude sel)
  | v => v

/-- The texts of the environment under a name, or all, without those that are excluded. -/
def envValues (v : Environment) (key : Option String) (e : Exclusions) : List Value :=
  (v.entries.filter fun entry => key.all (· == entry.1) && !e.omits entry.1).map fun entry =>
    .keyed "ENV" entry.1 entry.2

/-- The fields of a rule that are set, or the one of a name. -/
def ruleValues (r : RuleInfo) (key : Option String) : List Value :=
  r.fields.filterMap fun f =>
    if key.all fun k => Text.sameText k f.1 then f.2.map (.keyed "RULE" f.1) else none

/-- The values that the variable stands for, and what is left of the exchange. -/
def evaluate (r : RuleInfo) : Variable → Exchange → List Value × Exchange
  | set s sel e, x => (sel.ofSet (s.values x.tx) e, x)
  | names s sel e, x => ((sel.ofSet (s.named x.tx) e).map (.keyAsValue s.namesName), x)
  | collection c sel e, x =>
    match x.view? c.text with
    | none => ([], x)
    | some v => x.reading v fun part content => sel.ofCollection x.now e part content
  | single s, x => ((s.anchor x.tx).values, x)
  | env key e, x => (envValues x.tx.environment key e, x)
  | time f, x => ([.keyless f.name (Calendar.fieldText x.tx.request.time f)], x)
  | rule key, x => (ruleValues r key, x)
  | exclusion _, x => ([], x)
  | count b, x =>
    let counted := b.evaluate r x
    ([.keyless (count b).fullName counted.1.length.repr], counted.2)

/-- A variable of the same full name, up to case, is in the list. -/
def isIn (v : Variable) (vs : List Variable) : Bool :=
  vs.any fun w => Text.sameText w.fullName v.fullName

/-- The value is one that the variable denotes: by its collection and a pattern of keys, or by its
name. -/
def denotes (v : Variable) (value : Value) : Bool :=
  match v.pattern? with
  | some p => Text.sameText v.name value.collection && p.isMatch value.key
  | none => Text.sameText v.fullName value.name

end Variable

end Rampart
