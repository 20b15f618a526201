import Rampart.RuleInfo
import Rampart.Transaction

/-!
# Records of matches

The evidence that a rule leaves when it matches, and its text as a line of a log. While a chain is
evaluated one record is carried along: each match fills in its part, and a copy is logged. When a
record was made is left out; nothing reads it.
-/

namespace Rampart

/-- Evidence of a match. -/
structure MatchRecord where
  transactionId : String := ""
  client : Option Address := none
  uri : Option String := none
  /-- The rule that heads the chain. -/
  ruleId : Int := 0
  phase : Nat := 0
  message : String := ""
  data : String := ""
  /-- What the test said about the value. -/
  evidence : String := ""
  /-- Where the value was found and how it was transformed. -/
  reference : String := ""
  matchedName : String := ""
  matchedText : String := ""
  tags : List String := []
  severity : Option Severity := none
  version : Option String := none
  revision : Option String := none
  maturity : Option Nat := none
  accuracy : Option Nat := none
  /-- A rule stepped in, or ended the inspection. -/
  disruptive : Bool := false
  /-- The record closes a chain that matched. -/
  isFinal : Bool := false
  deriving DecidableEq, Repr

namespace MatchRecord

/-- The record of a rule in a transaction before anything has matched. -/
def start (t : Transaction) (r : RuleInfo) : MatchRecord where
  transactionId := t.request.id
  client := t.request.client
  uri := t.request.uri.text?
  ruleId := r.id
  phase := r.phase
  tags := r.tags
  severity := r.severity
  version := r.version
  revision := r.revision
  maturity := r.maturity
  accuracy := r.accuracy

/-- A reference with one more item; items stand between semicolons, and empty ones are passed
over. -/
def joinReference (reference item : String) : String :=
  if item.isEmpty then reference
  else if reference.isEmpty then item
  else reference ++ ";" ++ item

/-- The record with one more item in its reference. -/
def addReference (m : MatchRecord) (item : String) : MatchRecord :=
  { m with reference := joinReference m.reference item }

/-- A field of a line. -/
def fieldText (name value : String) : String := "[" ++ name ++ " \"" ++ value ++ "\"]"

/-- A field of a line with a blank before it, if there is a value. -/
def optionalField (name : String) : Option String → String
  | some value => " " ++ fieldText name value
  | none => ""

/-- The record as a line of a log. -/
def line (m : MatchRecord) : String :=
  (if m.evidence.isEmpty then "" else m.evidence ++ ". ") ++
    fieldText "id" (Text.decimal m.ruleId) ++
    optionalField "rev" m.revision ++
    " " ++ fieldText "msg" m.message ++
    " " ++ fieldText "data" m.data ++
    optionalField "severity" (m.severity.map fun s => s.level.repr) ++
    optionalField "ver" m.version ++
    " " ++ fieldText "maturity" (m.maturity.getD 0).repr ++
    " " ++ fieldText "accuracy" (m.accuracy.getD 0).repr ++
    String.join (m.tags.map fun tag => " " ++ fieldText "tag" tag) ++
    optionalField "uri" m.uri ++
    " " ++ fieldText "unique_id" m.transactionId ++
    " " ++ fieldText "ref" m.reference

end MatchRecord

end Rampart
