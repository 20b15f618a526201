import Rampart.FileTree
import Rampart.Operator.Basic

/-!
# References to operators

The written form of tests: an operator behind an at sign, its parameter after a blank, and an
exclamation mark before it if it is negated. A text without an at sign is a pattern. Lists can be
read from files, one entry a line; lines that are blank or start with a number sign are passed over.
-/

namespace Rampart

namespace Operator

/-- The pattern of a parameter. -/
def patternOf (param : String) : Except Error Pattern :=
  match Pattern.ofText Pattern.valueFlags param with
  | .ok p => .ok p
  | .error cause => .error (.invalidPattern param cause)

/-- The entries of a list in a file. -/
def entriesOf (files : FileTree) (path : String) : Except Error (List String) :=
  match files.readText path with
  | .error cause => .error (.missingResource path cause)
  | .ok content =>
    .ok <| ((Text.lines content).map Text.trim).filter fun line =>
      !line.isEmpty && line.toList.head? != some '#'

/-- The phrases of a parameter. -/
def phrasesOf (param : String) : Except Error Operator :=
  match (Text.words param).map Text.lower with
  | [] => .error (.invalidParameter "pm" param "no phrases given")
  | ps => .ok (.phrases .inline param ps)

/-- The phrases of a file. -/
def phrasesIn (files : FileTree) (path : String) : Except Error Operator :=
  (entriesOf files path).map fun lines => .phrases .file path (lines.map Text.lower)

/-- The networks of a parameter, between commas. -/
def networksOf (param : String) : Except Error Operator := do
  let parts := (Text.splitAt ',' param.toList).filter fun p => !(Text.trimChars p).isEmpty
  let networks ← parts.mapM fun p =>
    match Network.ofText? (String.ofList p) with
    | some n => .ok n
    | none =>
      .error (.invalidParameter "ipMatch" (Text.trim (String.ofList p)) "not an address or network")
  if networks.isEmpty then .error (.invalidParameter "ipMatch" param "no networks given")
  else .ok (.address .inline param networks)

/-- The networks of a file. -/
def networksIn (files : FileTree) (path : String) : Except Error Operator := do
  let lines ← entriesOf files path
  let networks ← lines.mapM fun line =>
    match Network.ofText? line with
    | some n => .ok n
    | none => .error (.invalidParameter "ipMatchFromFile" line "not a network")
  .ok (.address .file path networks)

/-- A comparison of integers; a parameter without references has to be one. -/
def numberOf (test : NumberTest) (param : String) : Except Error Operator := do
  let m ← MacroText.ofText param
  if m.hasReference then .ok (.number test m none)
  else
    let raw := Text.trim m.raw
    match Text.integer? raw.toList with
    | some n => .ok (.number test m (some n))
    | none => .error (.invalidParameter test.name raw "expected an integer")

/-- A comparison of texts. -/
def textOf (test : TextTest) (param : String) : Except Error Operator :=
  (MacroText.ofText param).map (.text test)

/-- The operator of a name in any case, with its parameter. -/
def ofName (files : FileTree) (name param : String) : Except Error Operator :=
  match Text.lower name with
  | "rx" => (patternOf param).map .pattern
  | "pm" => phrasesOf param
  | "pmfromfile" | "pmf" => phrasesIn files param
  | "streq" => textOf .equals param
  | "contains" => textOf .contains param
  | "beginswith" => textOf .beginsWith param
  | "endswith" => textOf .endsWith param
  | "within" => textOf .within param
  | "eq" => numberOf .eq param
  | "ge" => numberOf .ge param
  | "gt" => numberOf .gt param
  | "le" => numberOf .le param
  | "lt" => numberOf .lt param
  | "ipmatch" => networksOf param
  | "ipmatchfromfile" | "ipmatchf" => networksIn files param
  | "verifycc" => (patternOf param).map (.digits .card)
  | "verifysvnr" => (patternOf param).map (.digits .person)
  | "unconditionalmatch" => .ok (.always param)
  | "nomatch" => .ok (.never param)
  | _ => .error (.unknownOperator name)

end Operator

/-- The test that a text stands for. -/
def Test.ofText (files : FileTree) (s : String) : Except Error Test :=
  let trimmed := Text.trimChars s.toList
  let (negated, rest) :=
    match trimmed with
    | '!' :: rest => (true, Text.trimLeft rest)
    | _ => (false, trimmed)
  let operator :=
    match rest with
    | '@' :: named =>
      match Text.cutAt? Text.isBlank named with
      | some (name, param) => Operator.ofName files (String.ofList name) (Text.trim (String.ofList param))
      | none => Operator.ofName files (String.ofList named) ""
    | _ => (Operator.patternOf (String.ofList rest)).map .pattern
  operator.map fun o => ⟨o, negated⟩

end Rampart
