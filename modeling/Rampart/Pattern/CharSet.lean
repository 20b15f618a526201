import Rampart.Text.Blank
import Rampart.Unicode.Category
import Rampart.Unicode.Folding
import Rampart.Unicode.Property
import Rampart.Unicode.Script

/-!
# Sets of characters

The sets a pattern can name: ranges, tables of the character database, and what is built of them.
A set is kept as it was written, and membership is decided by its form. Closing a set under case
means asking for a member among the characters that differ from the given one by case alone.
-/

namespace Rampart

/-- A set of code points. -/
inductive CharSet where
  /-- No code point. -/
  | none
  /-- The code points from `lo` to `hi`. -/
  | range (lo hi : Nat)
  /-- The code points of a table. -/
  | table (ranges : Unicode.Ranges)
  | union (a b : CharSet)
  | inter (a b : CharSet)
  /-- Every code point that `a` lacks. -/
  | compl (a : CharSet)
  /-- Every code point that differs from a member by case at most. -/
  | caseClosure (a : CharSet)
  /-- Every code point that differs from a member by the case of a letter A to Z at most. -/
  | asciiClosure (a : CharSet)

namespace CharSet

/-- The other case of a letter A to Z. -/
def asciiOtherCase (n : Nat) : Nat :=
  if 65 ≤ n ∧ n ≤ 90 then n + 32 else if 97 ≤ n ∧ n ≤ 122 then n - 32 else n

/-- The code point is a member. -/
def contains : CharSet → Nat → Bool
  | none, _ => false
  | range lo hi, n => decide (lo ≤ n) && decide (n ≤ hi)
  | table rs, n => rs.contains n
  | union a b, n => a.contains n || b.contains n
  | inter a b, n => a.contains n && b.contains n
  | compl a, n => !a.contains n
  | caseClosure a, n => (Unicode.caseOrbit n).any fun m => a.contains m
  | asciiClosure a, n => a.contains n || a.contains (asciiOtherCase n)

@[simp] theorem contains_union (a b : CharSet) (n : Nat) :
    (union a b).contains n = (a.contains n || b.contains n) := rfl

@[simp] theorem contains_inter (a b : CharSet) (n : Nat) :
    (inter a b).contains n = (a.contains n && b.contains n) := rfl

@[simp] theorem contains_compl (a : CharSet) (n : Nat) :
    (compl a).contains n = !a.contains n := rfl

/-- One character. -/
def single (c : Char) : CharSet := range c.toNat c.toNat

/-- The members of any of the sets. -/
def unions (sets : List CharSet) : CharSet := sets.foldl union none

/-- The members of `a` that are not in `b`. -/
def diff (a b : CharSet) : CharSet := inter a (compl b)

/-- The members of exactly one of the two sets. -/
def symmDiff (a b : CharSet) : CharSet := union (diff a b) (diff b a)

/-- Every code point. -/
def any : CharSet := compl none

/-- The set, or all that it lacks. -/
def complIf (negated : Bool) (a : CharSet) : CharSet := if negated then compl a else a

/-- No byte above 127 is a member. -/
def isAscii (a : CharSet) : Bool := (List.range 128).all fun i => !a.contains (128 + i)

/-- The digits 0 to 9. -/
def asciiDigit : CharSet := range 48 57

/-- The letters A to Z and a to z. -/
def asciiLetter : CharSet := union (range 65 90) (range 97 122)

/-- Letters, digits and the underscore. -/
def asciiWord : CharSet := unions [asciiDigit, asciiLetter, single '_']

/-- The blanks of ASCII. -/
def asciiSpace : CharSet := union (range 9 13) (single ' ')

/-- The sets that go by a name inside brackets, between colons. -/
def posix? : String → Option CharSet
  | "alnum" => some (union asciiDigit asciiLetter)
  | "alpha" => some asciiLetter
  | "ascii" => some (range 0 127)
  | "blank" => some (union (single '\t') (single ' '))
  | "cntrl" => some (union (range 0 31) (range 127 127))
  | "digit" => some asciiDigit
  | "graph" => some (range 33 126)
  | "lower" => some (range 97 122)
  | "print" => some (range 32 126)
  | "punct" => some (unions [range 33 47, range 58 64, range 91 96, range 123 126])
  | "space" => some asciiSpace
  | "upper" => some (range 65 90)
  | "word" => some asciiWord
  | "xdigit" => some (unions [asciiDigit, range 65 70, range 97 102])
  | _ => Option.none

/-- A name in small letters without separators and without a leading `is`. -/
def looseName (name : String) : String :=
  let kept := name.toList.filter fun c =>
    c.toNat < 128 && !(c == '-' || c == '_' || Text.isBlank c)
  let small := kept.map Char.toLower
  match small with
  | ['i', 's', 'c'] => "isc"
  | 'i' :: 's' :: rest => String.ofList rest
  | _ => String.ofList small

/-- The code points of some categories. -/
def categories (ks : List Unicode.Category) : CharSet := unions (ks.map fun k => table k.ranges)

/-- Every code point that is assigned. -/
def assigned : CharSet := categories Unicode.Category.all

/-- The set of a general category, or of a group of them, by its loose name. -/
def category? : String → Option CharSet
  | "any" => some any
  | "assigned" => some assigned
  | "ascii" => some (range 0 127)
  | "lu" | "uppercaseletter" => some (categories [.uppercaseLetter])
  | "ll" | "lowercaseletter" => some (categories [.lowercaseLetter])
  | "lt" | "titlecaseletter" => some (categories [.titlecaseLetter])
  | "lc" | "casedletter" =>
    some (categories [.uppercaseLetter, .lowercaseLetter, .titlecaseLetter])
  | "lm" | "modifierletter" => some (categories [.modifierLetter])
  | "lo" | "otherletter" => some (categories [.otherLetter])
  | "l" | "letter" =>
    some (categories [.uppercaseLetter, .lowercaseLetter, .titlecaseLetter, .modifierLetter,
      .otherLetter])
  | "mn" | "nonspacingmark" => some (categories [.nonspacingMark])
  | "mc" | "spacingmark" => some (categories [.spacingMark])
  | "me" | "enclosingmark" => some (categories [.enclosingMark])
  | "m" | "mark" | "combiningmark" =>
    some (categories [.nonspacingMark, .spacingMark, .enclosingMark])
  | "nd" | "decimalnumber" | "digit" => some (categories [.decimalNumber])
  | "nl" | "letternumber" => some (categories [.letterNumber])
  | "no" | "othernumber" => some (categories [.otherNumber])
  | "n" | "number" => some (categories [.decimalNumber, .letterNumber, .otherNumber])
  | "pc" | "connectorpunctuation" => some (categories [.connectorPunctuation])
  | "pd" | "dashpunctuation" => some (categories [.dashPunctuation])
  | "ps" | "openpunctuation" => some (categories [.openPunctuation])
  | "pe" | "closepunctuation" => some (categories [.closePunctuation])
  | "pi" | "initialpunctuation" => some (categories [.initialPunctuation])
  | "pf" | "finalpunctuation" => some (categories [.finalPunctuation])
  | "po" | "otherpunctuation" => some (categories [.otherPunctuation])
  | "p" | "punctuation" | "punct" =>
    some (categories [.connectorPunctuation, .dashPunctuation, .openPunctuation,
      .closePunctuation, .initialPunctuation, .finalPunctuation, .otherPunctuation])
  | "sm" | "mathsymbol" => some (categories [.mathSymbol])
  | "sc" | "currencysymbol" => some (categories [.currencySymbol])
  | "sk" | "modifiersymbol" => some (categories [.modifierSymbol])
  | "so" | "othersymbol" => some (categories [.otherSymbol])
  | "s" | "symbol" =>
    some (categories [.mathSymbol, .currencySymbol, .modifierSymbol, .otherSymbol])
  | "zs" | "spaceseparator" => some (categories [.spaceSeparator])
  | "zl" | "lineseparator" => some (categories [.lineSeparator])
  | "zp" | "paragraphseparator" => some (categories [.paragraphSeparator])
  | "z" | "separator" =>
    some (categories [.spaceSeparator, .lineSeparator, .paragraphSeparator])
  | "cc" | "control" | "cntrl" => some (categories [.control])
  | "cf" | "format" => some (categories [.format])
  | "cs" | "surrogate" => some none
  | "co" | "privateuse" => some (categories [.privateUse])
  | "cn" | "unassigned" => some (compl assigned)
  | "c" | "other" =>
    some (unions [categories [.control, .format, .privateUse], compl assigned])
  | _ => Option.none

/-- The set of a property that a character has or lacks, by its loose name. -/
def property? : String → Option CharSet
  | "alphabetic" | "alpha" => some (table Unicode.alphabeticRanges)
  | "lowercase" | "lower" => some (table Unicode.lowercaseRanges)
  | "uppercase" | "upper" => some (table Unicode.uppercaseRanges)
  | "whitespace" | "wspace" | "space" => some (table Text.blankRanges)
  | "cased" => some (table Unicode.casedRanges)
  | "caseignorable" | "ci" => some (table Unicode.caseIgnorableRanges)
  | "joincontrol" | "joinc" => some (range 0x200C 0x200D)
  | _ => Option.none

/-- The set of a script, by its loose name. -/
def script? (name : String) : Option CharSet :=
  (Unicode.Script.named? name).map fun s => table s.ranges

/-- The set that a bare name stands for: a property, a general category or a script. -/
def named? (name : String) : Option CharSet :=
  let loose := looseName name
  (property? loose).or ((category? loose).or (script? loose))

/-- The set of the characters whose property `name` has the given value. -/
def valued? (name value : String) : Option CharSet :=
  match looseName name with
  | "gc" | "generalcategory" => category? (looseName value)
  | "sc" | "script" => script? (looseName value)
  | _ => Option.none

end CharSet

end Rampart
