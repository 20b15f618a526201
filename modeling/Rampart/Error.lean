import Rampart.Pattern.Error
import Rampart.Text.Numeral

/-!
# Errors

The reasons for which a rule, an exception or a part of them is refused when rules are loaded. An
error keeps its cause; its text is made from the cause in one place.
-/

namespace Rampart

/-- Why a resource could not be read. -/
inductive ResourceError where
  | missing
  | directory
  | notDirectory
  | invalidName
  | notText
  deriving DecidableEq, Repr

/-- The display text of the reason. -/
def ResourceError.message : ResourceError → String
  | missing => "No such file or directory (os error 2)"
  | directory => "Is a directory (os error 21)"
  | notDirectory => "Not a directory (os error 20)"
  | invalidName => "file name contained an unexpected NUL byte"
  | notText => "stream did not contain valid UTF-8"

/-- Why something was refused at load time. -/
inductive Error where
  | invalidConfig (what : String)
  | invalidRule (what : String)
  | invalidVariable (reference : String)
  | unknownOperator (name : String)
  | unknownTransform (name : String)
  | invalidAction (text : String)
  | invalidParameter (name value expected : String)
  | invalidPattern (pattern : String) (cause : PatternError)
  | missingResource (path : String) (cause : ResourceError)
  /-- A rule was refused for the given cause. -/
  | ruleLoad (id : Int) (cause : Error)
  deriving DecidableEq, Repr

namespace Error

/-- The error as one of a rule. What already belongs to a rule is kept. -/
def forRule (id : Int) : Error → Error
  | ruleLoad i cause => ruleLoad i cause
  | e => ruleLoad id e

/-- The rule that the error belongs to. -/
def ruleId? : Error → Option Int
  | ruleLoad id _ => some id
  | _ => none

/-- The display text of the error. -/
def message : Error → String
  | invalidConfig what => "Invalid WAF config: " ++ what
  | invalidRule what => "Invalid rule: " ++ what
  | invalidVariable reference => "Invalid variable `" ++ reference ++ "'"
  | unknownOperator name => "Unknown operator `" ++ name ++ "'"
  | unknownTransform name => "Unknown transformation `" ++ name ++ "'"
  | invalidAction text => "Invalid action `" ++ text ++ "'"
  | invalidParameter name value expected =>
    name ++ ": the input \"" ++ value ++ "\" is not valid: " ++ expected
  | invalidPattern pattern cause => "Invalid pattern `" ++ pattern ++ "': " ++ cause.message
  | missingResource path cause => "Failed to read resource " ++ path ++ ": " ++ cause.message
  | ruleLoad id cause => "Rule " ++ Text.decimal id ++ ": " ++ cause.message

@[simp] theorem ruleId?_forRule_ruleLoad (id i : Int) (cause : Error) :
    ((ruleLoad i cause).forRule id).ruleId? = some i := rfl

end Error

end Rampart
