import Rampart.Text.Cut
import Rampart.Toml.Literal

/-!
# The sections of settings files

The written form of a TOML document: pairs of a key and a value, one a line, and the headers that
stand above them. A reading takes characters from the start of a text and fails if they do not have
the expected form.
-/

namespace Rampart.Toml

/-- The header of a section: a table, or one more element of an array of tables. -/
structure Header where
  path : List String
  key : String
  isElement : Bool

/-- Pairs under a header. Those at the start of a document have none. -/
structure Section where
  header : Option Header
  pairs : List Entries.Pair

/-- The number of levels at which values can be nested and keys can be split. -/
def levelLimit : Nat := 79

/-- A reading of the start of a text. -/
abbrev Reader (α : Type) := StateT (List Char) Option α

namespace Reader

/-- The next character is the expected one. -/
def char (c : Char) : Reader Unit := fun cs => (dropChar? c cs).map fun rest => ((), rest)

/-- The next character. -/
def next : Reader Char
  | c :: cs => some (c, cs)
  | [] => none

/-- The next character, which is left in place, if there is one. -/
def peek : Reader (Option Char) := fun cs => some (cs.head?, cs)

/-- The characters up to the first one that fails a test. -/
def takeWhile (p : Char → Bool) : Reader (List Char) := fun cs =>
  some (cs.takeWhile p, cs.dropWhile p)

/-- Takes the next character if it is the expected one; says whether it was. -/
def accept (c : Char) : Reader Bool
  | d :: cs => some (if c = d then (true, cs) else (false, d :: cs))
  | [] => some (false, [])

/-- Spaces and tabulators. -/
def blanks : Reader Unit := do
  let _ ← takeWhile fun c => c == ' ' || c == '\t'

/-- A character that may stand in a comment. -/
def isPrintable (c : Char) : Bool :=
  c == '\t' || decide (' ' ≤ c) && c != '\x7f'

/-- A comment, if there is one. -/
def comment : Reader Unit := do
  if ← accept '#' then
    let _ ← takeWhile isPrintable

/-- The end of a line, of one or two characters. -/
def lineEnd : Reader Unit
  | '\n' :: cs => some ((), cs)
  | '\r' :: '\n' :: cs => some ((), cs)
  | _ => none

/-- The end of a line or of the text. -/
def lineEndOrEnd : Reader Unit
  | [] => some ((), [])
  | cs => lineEnd cs

/-- What may follow on a line. -/
def restOfLine : Reader Unit := do
  blanks
  comment
  lineEndOrEnd

/-- Blanks, comments and ends of lines, at most as many lines as given. -/
def blankLines : Nat → Reader Unit
  | 0 => blanks
  | fuel + 1 => do
    blanks
    match ← peek with
    | some '#' =>
      comment
      lineEnd
      blankLines fuel
    | some '\n' | some '\r' =>
      lineEnd
      blankLines fuel
    | _ => pure ()

/-- Blanks, comments and ends of lines. -/
def space : Reader Unit := fun cs => blankLines cs.length cs

/-! ## Texts -/

/-- The character of a code point with the given number of hexadecimal digits. -/
def codePoint (digits : Nat) : Reader Char := fun cs => do
  if cs.length < digits then none
  else
    let c ← (Text.digits? 16 (cs.take digits)).bind Text.char?
    some (c, cs.drop digits)

/-- What a backslash and the characters behind it stand for. -/
def escape : Reader Char := do
  match ← next with
  | 'b' => pure '\x08'
  | 't' => pure '\t'
  | 'n' => pure '\n'
  | 'f' => pure '\x0c'
  | 'r' => pure '\r'
  | '"' => pure '"'
  | '\\' => pure '\\'
  | 'u' => codePoint 4
  | 'U' => codePoint 8
  | _ => failure

/-- The characters of a text on one line, up to its closing quote. -/
def lineText (quote : Char) : Nat → Reader (List Char)
  | 0 => failure
  | fuel + 1 => do
    let c ← next
    if c = quote then pure []
    else if c = '\\' ∧ quote = '"' then
      let e ← escape
      (e :: ·) <$> lineText quote fuel
    else if isPrintable c then (c :: ·) <$> lineText quote fuel
    else failure

/-- A text without the blanks and line ends at its start. -/
def dropSpace : List Char → List Char
  | ' ' :: cs | '\t' :: cs | '\n' :: cs => dropSpace cs
  | '\r' :: '\n' :: cs => dropSpace cs
  | cs => cs

/-- What follows a backslash at the end of a line, without the blanks and line ends at its start. -/
def continued? (cs : List Char) : Option (List Char) :=
  (lineEnd (cs.dropWhile fun c => c == ' ' || c == '\t')).map fun r => dropSpace r.2

/-- The number of times that a character stands at the start of a text. -/
def runLength (c : Char) (cs : List Char) : Nat := (cs.takeWhile (· == c)).length

/-- The characters of a text on several lines, up to its three closing quotes, before which two more
may stand. -/
def blockText (quote : Char) : Nat → Reader (List Char)
  | 0, _ => none
  | fuel + 1, cs =>
    let quotes := runLength quote cs
    if 3 ≤ quotes then
      some (List.replicate (min quotes 5 - 3) quote, cs.drop (min quotes 5))
    else
      match cs with
      | [] => none
      | '\r' :: '\n' :: rest | '\n' :: rest => (('\n' :: ·) <$> blockText quote fuel) rest
      | '\\' :: rest =>
        if quote = '"' then
          match continued? rest with
          | some rest => blockText quote fuel rest
          | none => (do let e ← escape; (e :: ·) <$> blockText quote fuel) rest
        else (('\\' :: ·) <$> blockText quote fuel) rest
      | c :: rest => if isPrintable c then ((c :: ·) <$> blockText quote fuel) rest else none

/-- A text on one line between quotes of the given kind. -/
def quoted (quote : Char) : Reader String := do
  char quote
  String.ofList <$> fun cs => lineText quote (cs.length + 1) cs

/-- A text between quotes of the given kind, on one line or between three of them on several. A line
end right behind the opening does not count. -/
def textOf (quote : Char) : Reader String := fun cs =>
  if 3 ≤ runLength quote cs then
    let inner := cs.drop 3
    let body :=
      match lineEnd inner with
      | some (_, rest) => rest
      | none => inner
    (String.ofList <$> blockText quote (body.length + 1)) body
  else quoted quote cs

/-! ## Keys -/

/-- A character of a key without quotes. -/
def isKeyChar (c : Char) : Bool := c.isAlphanum || c == '_' || c == '-'

/-- A part of a key, with the blanks around it. -/
def keyPart : Reader String := do
  blanks
  let part ← match ← peek with
    | some '"' => quoted '"'
    | some '\'' => quoted '\''
    | _ => do
      let name ← takeWhile isKeyChar
      if name.isEmpty then failure else pure (String.ofList name)
  blanks
  pure part

/-- Parts of a key between points, at most the given number of them. -/
def keyParts : Nat → Reader (List String)
  | 0 => failure
  | fuel + 1 => do
    let part ← keyPart
    if ← accept '.' then (part :: ·) <$> keyParts fuel else pure [part]

/-- A key: the path that leads to it, and its last part. -/
def key : Reader (List String × String) := do
  let parts ← keyParts levelLimit
  match parts.getLast? with
  | some last => pure (parts.dropLast, last)
  | none => failure

/-! ## Values -/

/-- A value that is written as a word. A blank between a date and a time belongs to the word. -/
def word : Reader Item := fun cs =>
  let w := cs.takeWhile isWordChar
  let rest := cs.dropWhile isWordChar
  match rest with
  | ' ' :: d :: _ =>
    if isDate w && isDigit d then
      let more := rest.tail
      let both := w ++ ' ' :: more.takeWhile isWordChar
      (ofWord? both).map fun i => (i, more.dropWhile isWordChar)
    else (ofWord? w).map fun i => (i, rest)
  | _ => (ofWord? w).map fun i => (i, rest)

mutual

/-- A value, with at most the given number of levels inside it. The first number bounds the readings
that follow each other. -/
def value : Nat → Nat → Reader Item
  | 0, _ => failure
  | fuel + 1, levels => do
    match ← peek with
    | some '"' => .text <$> textOf '"'
    | some '\'' => .text <$> textOf '\''
    | some '[' => do
      char '['
      match levels with
      | 0 => failure
      | inner + 1 => (.array .closed) <$> elements fuel inner
    | some '\x7b' => do
      char '\x7b'
      match levels with
      | 0 => failure
      | inner + 1 => do
        let ps ← pairsInside fuel inner
        match Entries.addPairs? .closed [] ps with
        | some es => pure (.table .closed es)
        | none => failure
    | _ => word

/-- The elements of an array up to its end. A comma may stand behind the last one. -/
def elements : Nat → Nat → Reader (List Item)
  | 0, _ => failure
  | fuel + 1, levels => do
    space
    if ← accept ']' then pure []
    else
      let item ← value fuel levels
      space
      if ← accept ',' then (item :: ·) <$> elements fuel levels
      else
        char ']'
        pure [item]

/-- The pairs of a table between braces, up to its end. -/
def pairsInside : Nat → Nat → Reader (List Entries.Pair)
  | 0, _ => failure
  | fuel + 1, levels => do
    blanks
    if ← accept '\x7d' then pure [] else morePairs fuel levels

/-- One or more pairs with commas between them, up to the end of their table. -/
def morePairs : Nat → Nat → Reader (List Entries.Pair)
  | 0, _ => failure
  | fuel + 1, levels => do
    let (path, k) ← key
    char '='
    blanks
    let v ← value fuel levels
    blanks
    let pair : Entries.Pair := ⟨path, k, v⟩
    if ← accept ',' then (pair :: ·) <$> morePairs fuel levels
    else
      char '\x7d'
      pure [pair]

end

/-! ## Lines -/

/-- A pair on a line of its own. -/
def pair : Reader Entries.Pair := fun cs =>
  (do
    let (path, k) ← key
    char '='
    blanks
    let v ← value (2 * cs.length + 2) levelLimit
    restOfLine
    pure ⟨path, k, v⟩ : Reader Entries.Pair) cs

/-- A header on a line of its own. -/
def header : Reader Header := do
  char '['
  let isElement ← accept '['
  let (path, k) ← key
  char ']'
  if isElement then char ']'
  restOfLine
  pure ⟨path, k, isElement⟩

/-- The sections of a document, at most as many lines as given; the pairs of the current one, last
first, are at hand. -/
def sections (current : Option Header) (pairs : List Entries.Pair) : Nat → Reader (List Section)
  | 0 => failure
  | fuel + 1 => do
    blanks
    match ← peek with
    | none => pure [⟨current, pairs.reverse⟩]
    | some '#' | some '\n' | some '\r' => do
      restOfLine
      sections current pairs fuel
    | some '[' => do
      let h ← header
      (⟨current, pairs.reverse⟩ :: ·) <$> sections (some h) [] fuel
    | some _ => do
      let p ← pair
      sections current (p :: pairs) fuel

end Reader

/-- The sections of a document, which may start with a byte order mark. -/
def Section.ofText? (s : String) : Option (List Section) :=
  let cs :=
    match s.toList with
    | '\ufeff' :: rest => rest
    | cs => cs
  (Reader.sections none [] (cs.length + 1) cs).map (·.1)

end Rampart.Toml
