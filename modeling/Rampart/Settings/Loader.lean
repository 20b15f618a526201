import Rampart.Settings.Document
import Rampart.Settings.Validation

/-!
# Loading settings

Settings are read from a file or from a text; the files of rules that they name are read after them,
in the order in which they are named, and the whole is checked. A path of a file of rules starts
from the directory of the file of settings; one that leads to a directory stands for the files in it
whose names end in `.toml`, in the order of their names.
-/

namespace Rampart

/-- Why settings could not be loaded or saved. -/
inductive SettingsError where
  | read (path : String)
  | write (path : String)
  | parse (origin : String)
  | missing (path : String)
  | unwritable
  | invalid (findings : List Finding)
  deriving DecidableEq, Repr

namespace FilePath

/-- The parts of a path between slashes without the empty ones and the points at its end. The first
part is kept. -/
def trimParts : List (List Char) → List (List Char)
  | [] => []
  | first :: rest => first :: (rest.reverse.dropWhile fun n => n.isEmpty || n == ['.']).reverse

/-- The path of the directory that the last name of a path is taken from; the working directory if
there is no name. -/
def parent (path : String) : String :=
  let parts := trimParts (Text.splitAt '/' path.toList)
  if parts = [[]] then "."
  else
    let above := trimParts parts.dropLast
    if above = [[]] then "/" else "/".intercalate (above.map String.ofList)

/-- A path that starts from a directory, unless it starts from the root. -/
def join (directory path : String) : String :=
  if path.toList.head? = some '/' ∨ directory.isEmpty then path
  else if directory.toList.getLast? = some '/' then directory ++ path
  else directory ++ "/" ++ path

/-- A name has the extension of settings files, with a name before it. -/
def isSettingsFile (name : String) : Bool :=
  let reversed := name.toList.reverse
  "lmot.".toList.isPrefixOf reversed && 5 < reversed.length

end FilePath

namespace SettingsError

/-- The display text of the findings that refuse settings. -/
def invalidText (findings : List Finding) : String :=
  "invalid configuration: " ++ "; ".intercalate (findings.map Finding.text)

/-- The display text for a file that is not there. -/
def missingText (path : String) : String := "configuration file not found: " ++ path

end SettingsError

namespace Settings

/-- The text of a file that has to be there. -/
def readFile (files : FileTree) (path : String) : Except SettingsError String :=
  if files.contains path then
    match files.readText path with
    | .ok content => .ok content
    | .error _ => .error (.read path)
  else .error (.missing path)

/-- The files that an entry of the list of files stands for. -/
def includedFiles (files : FileTree) (path : String) : List String :=
  if files.isDirectory path then
    (((files.filesIn path).filter FilePath.isSettingsFile).mergeSort fun a b => a ≤ b).map
      (FilePath.join path)
  else [path]

/-- The rules of a file. -/
def readRules (files : FileTree) (path : String) : Except SettingsError RuleFile := do
  let content ← readFile files path
  match (Toml.ofText? content).bind fun es => RuleFile.ofFields? (.named es) with
  | some rules => .ok rules
  | none => .error (.parse path)

/-- The settings with the rules of all the files that they name. -/
def mergeIncludes (files : FileTree) (directory : String) (s : Settings) :
    Except SettingsError Settings := do
  let paths := s.rules.includes.flatMap fun entry =>
    includedFiles files (FilePath.join directory entry)
  let rules ← paths.foldlM (fun rules path => (readRules files path).map rules.merge)
    { s.rules with includes := [] }
  .ok { s with rules := rules }

/-- The settings of a document, with the rules of the files that it names. -/
def ofDocument (files : FileTree) (origin directory content : String) :
    Except SettingsError Settings :=
  match (Toml.ofText? content).bind Settings.ofEntries? with
  | some s => mergeIncludes files directory s
  | none => .error (.parse origin)

/-- Settings that checks do not refuse, and the warnings of the checks. -/
def checked (checks : List Check) (files : FileTree) (s : Settings) :
    Except SettingsError Settings × List Finding :=
  let findings := Check.runAll checks files s
  let errors := errorsOf findings
  (if errors.isEmpty then .ok s else .error (.invalid errors), warningsOf findings)

/-- Checks settings if they could be read. -/
def checkedIfRead (checks : List Check) (files : FileTree) (r : Except SettingsError Settings) :
    Except SettingsError Settings × List Finding :=
  match r with
  | .ok s => checked checks files s
  | .error e => (.error e, [])

/-- The settings in a file, and the warnings of the checks. -/
def load (checks : List Check) (files : FileTree) (path : String) :
    Except SettingsError Settings × List Finding :=
  checkedIfRead checks files do
    let content ← readFile files path
    ofDocument files path (FilePath.parent path) content

/-- What stands for the path of settings that are not in a file. -/
def textOrigin : String := "<string>"

/-- The settings in a text, and the warnings of the checks. -/
def loadText (checks : List Check) (files : FileTree) (content : String) :
    Except SettingsError Settings × List Finding :=
  checkedIfRead checks files (ofDocument files textOrigin "." content)

/-- The settings in a file, or the default ones, unchecked, if there is no file. -/
def loadOrDefault (checks : List Check) (files : FileTree) (path : String) :
    Except SettingsError Settings × List Finding :=
  if files.contains path then load checks files path else (.ok {}, [])

/-- Writes settings to a file. -/
def save (files : FileTree) (path : String) (s : Settings) : Except SettingsError FileTree :=
  match s.document? with
  | none => .error .unwritable
  | some content =>
    match files.write? path (Text.encode content.toList) with
    | some written => .ok written
    | none => .error (.write path)

end Settings

end Rampart
