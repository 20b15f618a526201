import Rampart.Address
import Rampart.Checksum
import Rampart.MacroText

/-!
# Operators

The test that a rule puts to a value. Evaluated, an operator says whether the value matched, and as
far as it can tell where and with which captured texts. Parameters can hold references, whose
expansion can read collections, so evaluation also gives the exchange that is left.
-/

namespace Rampart

/-- What a test found out. -/
structure Verdict where
  matched : Bool
  /-- The offset and the number of bytes of what matched. -/
  span : Option (Nat × Nat)
  /-- The texts that were captured, the whole match first. -/
  captures : List String
  deriving DecidableEq, Repr

namespace Verdict

/-- The value did not match. -/
def no : Verdict := ⟨false, none, []⟩

/-- The value matched as a whole. -/
def yes : Verdict := ⟨true, none, []⟩

/-- The value matched if the condition holds. -/
def ofBool (b : Bool) : Verdict := if b then yes else no

/-- The value matched at an offset for some bytes. -/
def located (span : Nat × Nat) (captures : List String) : Verdict := ⟨true, some span, captures⟩

end Verdict

/-- Comparisons of texts. -/
inductive TextTest where
  | equals
  | contains
  | beginsWith
  | endsWith
  /-- The value occurs in the parameter. -/
  | within
  deriving DecidableEq, Repr

/-- Comparisons of integers. -/
inductive NumberTest where
  | eq
  | ge
  | gt
  | le
  | lt
  deriving DecidableEq, Repr

/-- Checks of numbers by their digits. -/
inductive DigitCheck where
  | card
  | person
  deriving DecidableEq, Repr

/-- Where the entries of a list parameter come from. -/
inductive ListSource where
  | inline
  | file
  deriving DecidableEq, Repr

/-- A test of values. -/
inductive Operator where
  /-- A pattern matches somewhere in the value. -/
  | pattern (p : Pattern)
  /-- One of some phrases in small letters occurs in the value, in any case. -/
  | phrases (source : ListSource) (param : String) (phrases : List String)
  | text (test : TextTest) (param : MacroText)
  /-- The integer that the value starts with compares as stated to the parameter, which is an integer
  or is expanded. -/
  | number (test : NumberTest) (param : MacroText) (literal : Option Int)
  /-- The value is an address in one of some networks. -/
  | address (source : ListSource) (param : String) (networks : List Network)
  /-- A match of the pattern passes a check of digits. -/
  | digits (check : DigitCheck) (p : Pattern)
  | always (param : String)
  | never (param : String)

namespace TextTest

/-- The name of the comparison in evidence. -/
def name : TextTest → String
  | equals => "StrEq"
  | contains => "Contains"
  | beginsWith => "BeginsWith"
  | endsWith => "EndsWith"
  | within => "Within"

/-- The offset and the number of bytes of what matched. -/
def span? (param input : List Char) : TextTest → Option (Nat × Nat)
  | equals => if input = param then some (0, Text.byteLength input) else none
  | contains => (Text.cut? param input).map fun p => (Text.byteLength p.1, Text.byteLength param)
  | beginsWith => if param.isPrefixOf input then some (0, Text.byteLength param) else none
  | endsWith =>
    if param.isSuffixOf input then
      some (Text.byteLength input - Text.byteLength param, Text.byteLength param)
    else none
  | within =>
    if input.isEmpty then none
    else (Text.cut? input param).map fun _ => (0, Text.byteLength input)

end TextTest

namespace NumberTest

/-- The name of the comparison in evidence. -/
def name : NumberTest → String
  | eq => "Eq"
  | ge => "Ge"
  | gt => "Gt"
  | le => "Le"
  | lt => "Lt"

/-- The comparison holds between the value and what is expected. -/
def holds (actual expected : Int) : NumberTest → Bool
  | eq => actual == expected
  | ge => decide (expected ≤ actual)
  | gt => decide (expected < actual)
  | le => decide (actual ≤ expected)
  | lt => decide (actual < expected)

end NumberTest

namespace DigitCheck

/-- The name of the check in evidence. -/
def name : DigitCheck → String
  | card => "VerifyCC"
  | person => "VerifySVNR"

/-- A text passes the check. -/
def passes : DigitCheck → String → Bool
  | card => Checksum.luhn
  | person => Checksum.svnr

end DigitCheck

namespace Operator

/-- The name of the operator in evidence. -/
def name : Operator → String
  | pattern _ => "Rx"
  | phrases .inline _ _ => "Pm"
  | phrases .file _ _ => "PmFromFile"
  | text t _ => t.name
  | number t _ _ => t.name
  | address .inline _ _ => "IpMatch"
  | address .file _ _ => "IpMatchFromFile"
  | digits c _ => c.name
  | always _ => "UnconditionalMatch"
  | never _ => "NoMatch"

/-- The parameter as it was written. -/
def param : Operator → String
  | pattern p => p.source
  | phrases _ param _ => param
  | text _ param => param.raw
  | number _ param _ => param.raw
  | address _ param _ => param
  | digits _ p => p.source
  | always param => param
  | never param => param

/-- The greatest number of texts that are captured. -/
def captureLimit : Nat := 10

/-- The place and the captured texts of the match that is found in a text. -/
def testMatch (find? : String → Option Span) (captures? : String → Option (Span × List (Option Span)))
    (capture : Bool) (input : String) : Verdict :=
  if capture then
    match captures? input with
    | some (whole, groups) =>
      .located (whole.offset, whole.length)
        ((groups.take captureLimit).map fun g => (g.map Span.text).getD "")
    | none => .no
  else
    match find? input with
    | some whole => .located (whole.offset, whole.length) []
    | none => .no

/-- The place and the captured texts of the first match of a pattern. -/
def testPattern (p : Pattern) (capture : Bool) (input : String) : Verdict :=
  testMatch p.find? p.captures? capture input

/-- The leftmost of two finds; the first one where they start together. -/
def leftmost (a b : Option (List Char × List Char)) : Option (List Char × List Char) :=
  match a, b with
  | some x, some y => if Text.byteLength y.1 < Text.byteLength x.1 then some y else some x
  | some x, none => some x
  | none, b => b

/-- The leftmost of the phrases in a text in small letters, with what stands before it. -/
def findPhrase (input : List Char) (phrases : List String) : Option (List Char × List Char) :=
  phrases.foldl
    (fun best p => leftmost best ((Text.cut? p.toList input).map fun r => (r.1, p.toList))) none

/-- The place of the leftmost phrase, and the text that stands there. -/
def testPhrases (phrases : List String) (capture : Bool) (input : String) : Verdict :=
  match findPhrase (Text.fold input) phrases with
  | some (before, phrase) =>
    let here := (input.toList.drop before.length).take phrase.length
    .located (Text.byteLength before, Text.byteLength phrase)
      (if capture then [String.ofList here] else [])
  | none => .no

/-- The first match that is found at a place or behind it, with a character after its start, whose
text passes a check; the search goes on behind the start of each match that fails it. -/
def firstPassing (findFrom? : Cursor → Option Span) (passes : String → Bool) :
    Nat → Cursor → Option Span
  | 0, _ => none
  | fuel + 1, c =>
    if c.rest.isEmpty then none
    else
      match findFrom? c with
      | none => none
      | some s =>
        if passes s.text then some s
        else
          match s.first.next? with
          | some next => firstPassing findFrom? passes fuel next
          | none => none

/-- The place of the first match whose text passes a check. -/
def testPassing (passes : String → Bool) (findFrom? : Cursor → Option Span) (capture : Bool)
    (input : String) : Verdict :=
  match firstPassing findFrom? passes (input.toList.length + 1) (.start input.toList) with
  | some s => .located (s.offset, s.length) (if capture then [s.text] else [])
  | none => .no

/-- The place of the first match of a pattern whose text passes a check of digits. -/
def testDigits (check : DigitCheck) (p : Pattern) (capture : Bool) (input : String) : Verdict :=
  testPassing check.passes p.findFrom? capture input

/-- The whole value matches if it is an address in one of the networks. -/
def testAddress (networks : List Network) (input : String) : Verdict :=
  match Address.ofText? (Text.trim input) with
  | some a => if networks.any (·.contains a) then .located (0, Text.size input) [] else .no
  | none => .no

/-- Tests a value under a rule, capturing texts if asked to. -/
def evaluate (r : RuleInfo) (capture : Bool) (input : String) :
    Operator → Exchange → Verdict × Exchange
  | pattern p, x => (testPattern p capture input, x)
  | phrases _ _ ps, x => (testPhrases ps capture input, x)
  | text t param, x =>
    let expanded := param.expand r x
    (match t.span? expanded.1.toList input.toList with
      | some span => .located span []
      | none => .no, expanded.2)
  | number t _ (some literal), x => (.ofBool (t.holds (Text.leadingInt input) literal), x)
  | number t param none, x =>
    let expanded := param.expand r x
    (.ofBool (t.holds (Text.leadingInt input) (Text.leadingInt expanded.1)), expanded.2)
  | address _ _ networks, x => (testAddress networks input, x)
  | digits check p, x => (testDigits check p capture input, x)
  | always _, x => (.yes, x)
  | never _, x => (.no, x)

end Operator

/-- An operator as a rule uses it: as it is, or negated. -/
structure Test where
  operator : Operator
  negated : Bool

namespace Test

/-- The greatest number of characters of a value that evidence quotes. -/
def quoteLimit : Nat := 200

/-- The opposite verdict, without a place. -/
def negate (v : Verdict) : Verdict := .ofBool (!v.matched)

/-- Tests a value under a rule. A negated test has neither a place nor captured texts to show. -/
def evaluate (t : Test) (r : RuleInfo) (capture : Bool) (input : String) (x : Exchange) :
    Verdict × Exchange :=
  let v := t.operator.evaluate r capture input x
  (if t.negated then negate v.1 else v.1, v.2)

/-- The evidence for a match of a value under a name. -/
def evidence (t : Test) (name value : String) : String :=
  "Matched \"Operator `" ++ t.operator.name ++ "' with parameter `" ++ t.operator.param ++
    "' against variable `" ++ name ++ "' (Value: `" ++
    String.ofList (value.toList.take quoteLimit) ++ "' )"

end Test

end Rampart
