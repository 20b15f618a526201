/-!
# What is wrong with a pattern

The reasons for which the text of a pattern is refused, one constructor each. A message that also
quotes the pattern and points at the place of the mistake is left out: only the reason is kept.
-/

namespace Rampart

/-- A reason to refuse the text of a pattern. -/
inductive PatternError where
  | groupUnclosed
  | groupUnopened
  | groupNameInvalid
  | groupNameDuplicate (name : String)
  | lookAround
  | backreference
  | flagUnknown (flag : Char)
  | flagDuplicate
  | flagDangling
  | flagUnclosed
  | repetitionMissing
  | repetitionUnclosed
  | repetitionCount
  | repetitionInvalid
  | escapeUnclosed
  | escapeUnknown (letter : Char)
  | hexInvalid
  | boundaryInvalid
  | classUnclosed
  | classRange
  | classEscape
  | propertyUnknown
  | unicodeNeeded
  deriving DecidableEq, Repr

/-- What the reason says to the author of a pattern. -/
def PatternError.reason : PatternError → String
  | groupUnclosed => "unclosed group"
  | groupUnopened => "unopened group"
  | groupNameInvalid => "invalid capture group name"
  | groupNameDuplicate name => "duplicate capture group name " ++ name
  | lookAround => "look-around is not supported"
  | backreference => "backreferences are not supported"
  | flagUnknown flag => "unrecognized flag " ++ String.singleton flag
  | flagDuplicate => "duplicate flag"
  | flagDangling => "dangling flag negation operator"
  | flagUnclosed => "expected flag but got end of pattern"
  | repetitionMissing => "repetition operator missing expression"
  | repetitionUnclosed => "unclosed counted repetition"
  | repetitionCount => "repetition quantifier expects a valid decimal"
  | repetitionInvalid => "the start of a repetition count is greater than its end"
  | escapeUnclosed => "incomplete escape sequence"
  | escapeUnknown letter => "unrecognized escape sequence " ++ String.singleton letter
  | hexInvalid => "hexadecimal literal is not a character"
  | boundaryInvalid => "invalid special word boundary"
  | classUnclosed => "unclosed character class"
  | classRange => "invalid character class range"
  | classEscape => "invalid escape sequence in character class"
  | propertyUnknown => "Unicode property not found"
  | unicodeNeeded => "pattern can match invalid UTF-8"

/-- The display text of the error. -/
def PatternError.message (e : PatternError) : String := "regex parse error: " ++ e.reason

end Rampart
