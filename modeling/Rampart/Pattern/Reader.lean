import Rampart.Pattern.Error
import Rampart.Pattern.Expr
import Rampart.Text.Cut
import Rampart.Text.Numeral

/-!
# Reading patterns

The written form of regular expressions. A pattern is read from left to right with a stack of the
groups that are open; every step takes at least one character, so the length of the pattern bounds
the number of steps. Flags hold from where they are set to the end of the group around them.
-/

namespace Rampart.Pattern

/-- Ways to read what follows in a pattern. -/
structure Flags where
  ignoreCase : Bool := false
  multiLine : Bool := false
  dotAll : Bool := false
  /-- Repetitions are lazy unless marked. -/
  swapGreed : Bool := false
  unicode : Bool := true
  /-- Lines may also end in carriage returns. -/
  carriage : Bool := false
  /-- Blanks and comments are passed over. -/
  extended : Bool := false

/-- A part of the pattern was read, or there is something wrong with it. -/
abbrev Read (α : Type) := Except PatternError (α × List Char)

/-- Passes over blanks, and over comments from `#` to the end of the line. -/
def skipExtended : Bool → List Char → List Char
  | _, [] => []
  | true, c :: cs => if c = '\n' then skipExtended false cs else skipExtended true cs
  | false, c :: cs =>
    if Text.isBlank c then skipExtended false cs
    else if c = '#' then skipExtended true cs
    else c :: cs

/-- Passes over blanks and comments where the flags say so. -/
def skip (f : Flags) (cs : List Char) : List Char := if f.extended then skipExtended false cs else cs

namespace Flags

/-- The set, closed under case where the flags say so. -/
def close (f : Flags) (s : CharSet) : CharSet :=
  if f.ignoreCase then (if f.unicode then .caseClosure s else .asciiClosure s) else s

/-- The set closed under case where the flags say so, or all that it lacks then. -/
def closeAnd (f : Flags) (negated : Bool) (s : CharSet) : CharSet := .complIf negated (f.close s)

/-- A set is refused if it would match bytes that form no character. -/
def checked (f : Flags) (s : CharSet) : Except PatternError CharSet :=
  if f.unicode || s.isAscii then .ok s else .error .unicodeNeeded

/-- The characters that belong to words. -/
def word (f : Flags) : CharSet := if f.unicode then .table Unicode.wordRanges else .asciiWord

/-- The expression for a character that stands for itself. -/
def literal (f : Flags) (c : Char) : Expr := .one (f.close (.single c))

/-- The expression for a dot. -/
def dot (f : Flags) : Except PatternError Expr :=
  if !f.unicode then .error .unicodeNeeded
  else if f.dotAll then .ok (.one .any)
  else if f.carriage then .ok (.one (.compl (.union (.single '\n') (.single '\r'))))
  else .ok (.one (.compl (.single '\n')))

/-- The condition that a caret states. -/
def caret (f : Flags) : Look := if f.multiLine then .lineStart f.carriage else .textStart

/-- The condition that a dollar sign states. -/
def dollar (f : Flags) : Look := if f.multiLine then .lineEnd f.carriage else .textEnd

/-- Sets one flag. -/
def set (f : Flags) (value : Bool) : Char → Except PatternError Flags
  | 'i' => .ok { f with ignoreCase := value }
  | 'm' => .ok { f with multiLine := value }
  | 's' => .ok { f with dotAll := value }
  | 'U' => .ok { f with swapGreed := value }
  | 'u' => .ok { f with unicode := value }
  | 'R' => .ok { f with carriage := value }
  | 'x' => .ok { f with extended := value }
  | c => .error (.flagUnknown c)

end Flags

/-- What an escape sequence or a plain character stands for. -/
inductive Atom where
  /-- A character; `byte` marks one that was written as two hexadecimal digits. -/
  | char (c : Char) (byte : Bool)
  | set (s : CharSet)
  | look (l : Look)

/-- Characters that have a meaning of their own in patterns. -/
def metaChars : List Char :=
  ['\\', '.', '+', '*', '?', '(', ')', '|', '[', ']', '\x7b', '\x7d', '^', '$', '#', '&', '-', '~']

/-- A character that stands for itself after a backslash. -/
def isEscapable (c : Char) : Bool :=
  metaChars.contains c || (c.toNat < 128 && !c.isAlphanum && c != '<' && c != '>')

/-- The character that some hexadecimal digits name. -/
def hexChar? (cs : List Char) : Except PatternError Char :=
  match (Text.digits? 16 cs).bind Text.char? with
  | some c => .ok c
  | none => .error .hexInvalid

/-- A fixed number of hexadecimal digits. -/
def readHexDigits (f : Flags) : Nat → List Char → List Char → Read Char
  | 0, taken, cs => (hexChar? taken.reverse).map fun c => (c, cs)
  | n + 1, taken, cs =>
    match cs with
    | [] => .error .escapeUnclosed
    | c :: rest =>
      if (Text.digitValue? 16 c).isSome then readHexDigits f n (c :: taken) (skip f rest)
      else .error .hexInvalid

/-- Hexadecimal digits up to a closing brace. -/
def readHexBrace (f : Flags) : Nat → List Char → List Char → Read Char
  | 0, _, _ => .error .escapeUnclosed
  | fuel + 1, taken, cs =>
    match skip f cs with
    | [] => .error .escapeUnclosed
    | c :: rest =>
      if c = '\x7d' then (hexChar? taken.reverse).map fun d => (d, skip f rest)
      else if (Text.digitValue? 16 c).isSome then readHexBrace f fuel (c :: taken) rest
      else .error .hexInvalid

/-- A character by its code point, after the letter that announces it. -/
def readHex (f : Flags) (letter : Char) (cs : List Char) : Read Atom :=
  match skip f cs with
  | [] => .error .escapeUnclosed
  | '\x7b' :: rest =>
    (readHexBrace f (rest.length + 1) [] rest).map fun r => (.char r.1 false, r.2)
  | first =>
    let count := if letter = 'x' then 2 else if letter = 'u' then 4 else 8
    (readHexDigits f count [] first).map fun r => (.char r.1 (letter == 'x'), r.2)

/-- The text up to a closing brace. -/
def readBraced (f : Flags) : Nat → List Char → List Char → Read (List Char)
  | 0, _, _ => .error .escapeUnclosed
  | fuel + 1, taken, cs =>
    match skip f cs with
    | [] => .error .escapeUnclosed
    | c :: rest =>
      if c = '\x7d' then .ok (taken.reverse, rest) else readBraced f fuel (c :: taken) rest

/-- The set of the characters with a property; the flag says that it is negated once more. -/
def propertySet (name : List Char) : Option (Bool × CharSet) :=
  match Text.cut? ['!', '='] name with
  | some (n, v) =>
    (CharSet.valued? (String.ofList n) (String.ofList v)).map fun s => (true, s)
  | none =>
    let valued :=
      match Text.cutAt? (· == ':') name with
      | some p => some p
      | none => Text.cutAt? (· == '=') name
    match valued with
    | some (n, v) =>
      (CharSet.valued? (String.ofList n) (String.ofList v)).map fun s => (false, s)
    | none => (CharSet.named? (String.ofList name)).map fun s => (false, s)

/-- A property of characters, after the letter that announces it. -/
def readProperty (f : Flags) (negated : Bool) (cs : List Char) :
    Except PatternError (Atom × List Char) := do
  let (name, rest) ← match skip f cs with
    | [] => .error .escapeUnclosed
    | '\x7b' :: rest => readBraced f (rest.length + 1) [] rest
    | '\\' :: _ => .error .propertyUnknown
    | c :: rest => .ok ([c], skip f rest)
  if !f.unicode then .error .unicodeNeeded
  else
    match propertySet name with
    | some (again, s) => .ok (.set (f.closeAnd (negated != again) s), rest)
    | none => .error .propertyUnknown

/-- The set that one of the letters d, s and w stands for. -/
def perlSet (f : Flags) (letter : Char) : CharSet :=
  match letter with
  | 'd' => if f.unicode then .categories [.decimalNumber] else .asciiDigit
  | 's' => if f.unicode then .table Text.blankRanges else .asciiSpace
  | _ => f.word

/-- The letters and hyphens at the start of a text. -/
def takeNameChars (f : Flags) : Nat → List Char → List Char → List Char × List Char
  | 0, taken, cs => (taken.reverse, cs)
  | fuel + 1, taken, cs =>
    match cs with
    | c :: rest =>
      if c.isAlpha || c == '-' then takeNameChars f fuel (c :: taken) (skip f rest)
      else (taken.reverse, cs)
    | [] => (taken.reverse, [])

/-- What follows the escape for a word boundary: nothing, or the kind of the boundary in braces.
Braces that start with neither a letter nor a hyphen count repetitions. -/
def readBoundary (f : Flags) (cs : List Char) : Read Look :=
  match cs with
  | '\x7b' :: inner =>
    match skip f inner with
    | [] => .error .boundaryInvalid
    | c :: rest =>
      if c.isAlpha || c == '-' then
        match takeNameChars f (rest.length + 1) [] (c :: rest) with
        | (name, '\x7d' :: after) =>
          match String.ofList name with
          | "start" => .ok (.wordStart f.word, after)
          | "end" => .ok (.wordEnd f.word, after)
          | "start-half" => .ok (.wordStartHalf f.word, after)
          | "end-half" => .ok (.wordEndHalf f.word, after)
          | _ => .error .boundaryInvalid
        | _ => .error .boundaryInvalid
      else .ok (.boundary f.word, cs)
  | _ => .ok (.boundary f.word, cs)

/-- What follows a backslash. -/
def readEscape (f : Flags) : List Char → Read Atom
  | [] => .error .escapeUnclosed
  | c :: rest =>
    if '0' ≤ c ∧ c ≤ '9' then .error .backreference
    else if isEscapable c then .ok (.char c false, rest)
    else
      match c with
      | 'x' | 'u' | 'U' => readHex f c rest
      | 'p' => readProperty f false rest
      | 'P' => readProperty f true rest
      | 'd' | 's' | 'w' => .ok (.set (perlSet f c), rest)
      | 'D' | 'S' | 'W' =>
        (f.checked (.compl (perlSet f c.toLower))).map fun s => (.set s, rest)
      | 'a' => .ok (.char '\x07' false, rest)
      | 'f' => .ok (.char '\x0c' false, rest)
      | 't' => .ok (.char '\t' false, rest)
      | 'n' => .ok (.char '\n' false, rest)
      | 'r' => .ok (.char '\r' false, rest)
      | 'v' => .ok (.char '\x0b' false, rest)
      | 'A' => .ok (.look .textStart, rest)
      | 'z' => .ok (.look .textEnd, rest)
      | 'b' => (readBoundary f rest).map fun r => (.look r.1, r.2)
      | 'B' => .ok (.look (.noBoundary f.word), rest)
      | '<' => .ok (.look (.wordStart f.word), rest)
      | '>' => .ok (.look (.wordEnd f.word), rest)
      | _ => .error (.escapeUnknown c)

/-- The expression for an atom outside brackets. -/
def Atom.expr (f : Flags) : Atom → Except PatternError Expr
  | .char c byte =>
    if !f.unicode && byte && 127 < c.toNat then .error .unicodeNeeded else .ok (f.literal c)
  | .set s => .ok (.one s)
  | .look l => .ok (.look l)

/-! ## Bracketed sets -/

/-- Operations on bracketed sets. -/
inductive SetOp where
  | inter
  | diff
  | symmDiff

/-- The result of an operation; both sides are closed under case first. -/
def SetOp.apply (f : Flags) (op : SetOp) (a b : CharSet) : CharSet :=
  match op with
  | inter => .inter (f.close a) (f.close b)
  | diff => .diff (f.close a) (f.close b)
  | symmDiff => .symmDiff (f.close a) (f.close b)

/-- A bracketed set that is being read: its negation, the operation that waits for a right side, and
the members read since then. -/
structure Bracket where
  negated : Bool
  waiting : Option (SetOp × CharSet)
  members : CharSet

namespace Bracket

/-- Adds members. -/
def add (b : Bracket) (s : CharSet) : Bracket := { b with members := .union b.members s }

/-- What the bracket holds if it ends here, negation aside. -/
def content (f : Flags) (b : Bracket) : CharSet :=
  match b.waiting with
  | some (op, left) => op.apply f left b.members
  | none => b.members

/-- Starts the right side of an operation. -/
def operate (f : Flags) (b : Bracket) (op : SetOp) : Bracket :=
  { b with waiting := some (op, b.content f), members := .none }

/-- The set of a bracket that ends here. -/
def close (f : Flags) (b : Bracket) : CharSet := f.closeAnd b.negated (b.content f)

end Bracket

/-- Hyphens at the start of a bracket, which stand for themselves. -/
def readHyphens (f : Flags) : Nat → Bracket → List Char → Bracket × List Char
  | 0, b, cs => (b, cs)
  | fuel + 1, b, cs =>
    match cs with
    | '-' :: rest => readHyphens f fuel (b.add (.single '-')) (skip f rest)
    | _ => (b, cs)

/-- The start of a bracket after its opening: a caret that negates it, hyphens, and a closing
bracket, which stands for itself if it comes first. -/
def openBracket (f : Flags) (cs : List Char) : Read Bracket :=
  let (negated, afterCaret) :=
    match skip f cs with
    | '^' :: rest => (true, skip f rest)
    | rest => (false, rest)
  match readHyphens f (afterCaret.length + 1) ⟨negated, none, .none⟩ afterCaret with
  | (_, []) => .error .classUnclosed
  | (b, ']' :: rest) =>
    if afterCaret.head? = some '-' then .ok (b, ']' :: rest)
    else if (skip f rest).isEmpty then .error .classUnclosed
    else .ok (b.add (.single ']'), skip f rest)
  | (b, rest) => .ok (b, rest)

/-- A named set between `[:` and `:]`, after its opening bracket. -/
def posixSet? (f : Flags) : List Char → Option (CharSet × List Char)
  | ':' :: cs =>
    let (negated, name) :=
      match cs with
      | '^' :: rest => (true, rest)
      | _ => (false, cs)
    match Text.cutAt? (· == ':') name with
    | some (n, ']' :: rest) =>
      (CharSet.posix? (String.ofList n)).map fun s => (f.closeAnd negated s, rest)
    | _ => none
  | _ => none

/-- One item of a bracket: an escape sequence or a character. -/
def readItem (f : Flags) : List Char → Read Atom
  | [] => .error .classUnclosed
  | '\\' :: rest => readEscape f rest
  | c :: rest => .ok (.char c false, rest)

/-- A character that a set may hold in the current mode. -/
def memberChar (f : Flags) (c : Char) : Except PatternError Char :=
  if f.unicode || c.toNat < 128 then .ok c else .error .unicodeNeeded

/-- The members that an item or a range adds. -/
def readMembers (f : Flags) (cs : List Char) : Except PatternError (CharSet × List Char) := do
  let (first, rest) ← readItem f cs
  match skip f rest with
  | [] => .error .classUnclosed
  | '-' :: more =>
    let next := (skip f more).head?
    if next = some ']' || next = some '-' then
      let s ← single first
      .ok (s, '-' :: more)
    else if next.isNone then .error .classUnclosed
    else
      let (last, rest) ← readItem f (skip f more)
      match first, last with
      | .char a _, .char b _ =>
        let a ← memberChar f a
        let b ← memberChar f b
        if b < a then .error .classRange else .ok (.range a.toNat b.toNat, rest)
      | _, _ => .error .classRange
  | rest =>
    let s ← single first
    .ok (s, rest)
where
  /-- The members that one item adds. -/
  single : Atom → Except PatternError CharSet
    | .char c _ => (memberChar f c).map CharSet.single
    | .set s => .ok s
    | .look _ => .error .classEscape

/-- The rest of a bracket, and of the brackets around it in `outer`. -/
def readBracket (f : Flags) : Nat → List Bracket → Bracket → List Char → Read CharSet
  | 0, _, _, _ => .error .classUnclosed
  | fuel + 1, outer, b, cs =>
    match skip f cs with
    | [] => .error .classUnclosed
    | '[' :: rest =>
      match posixSet? f rest with
      | some (s, after) => readBracket f fuel outer (b.add s) after
      | none =>
        match openBracket f rest with
        | .error e => .error e
        | .ok (inner, after) => readBracket f fuel (b :: outer) inner after
    | ']' :: rest =>
      match outer with
      | [] => (f.checked (b.close f)).map fun s => (s, rest)
      | around :: outer => readBracket f fuel outer (around.add (b.close f)) rest
    | '&' :: '&' :: rest => readBracket f fuel outer (b.operate f .inter) rest
    | '-' :: '-' :: rest => readBracket f fuel outer (b.operate f .diff) rest
    | '~' :: '~' :: rest => readBracket f fuel outer (b.operate f .symmDiff) rest
    | rest =>
      match readMembers f rest with
      | .error e => .error e
      | .ok (s, after) => readBracket f fuel outer (b.add s) after

/-! ## Groups and repetitions -/

/-- A group that is being read: the alternatives that are finished and the parts of the current one,
last first, where `none` stands for a setting of flags; the number it reports under; and the flags
to return to. -/
structure Group where
  branches : List Expr
  parts : List (Option Expr)
  index : Option Nat
  outerFlags : Flags

namespace Group

/-- A group that just opened. -/
def opened (index : Option Nat) (outerFlags : Flags) : Group := ⟨[], [], index, outerFlags⟩

/-- Adds a part. -/
def add (g : Group) (e : Expr) : Group := { g with parts := some e :: g.parts }

/-- The current alternative. -/
def branch (g : Group) : Expr := .seqs (g.parts.reverse.filterMap id)

/-- Starts the next alternative. -/
def nextBranch (g : Group) : Group := { g with branches := g.branch :: g.branches, parts := [] }

/-- The expression of a group that ends here. -/
def close (g : Group) : Expr :=
  let body := Expr.alts (g.branch :: g.branches).reverse
  match g.index with
  | some i => .group i body
  | none => body

end Group

/-- What has been read of a pattern: the flags in force, the number of numbered groups and the names
that were given to them. -/
structure Progress where
  flags : Flags
  count : Nat
  names : List String

/-- A character that may stand in the name of a group. -/
def isNameChar (first : Bool) (c : Char) : Bool :=
  if first then c == '_' || Unicode.isAlphabetic c
  else c == '_' || c == '.' || c == '[' || c == ']' || Unicode.isAlphabetic c ||
    [Unicode.Category.decimalNumber, .letterNumber, .otherNumber].any (·.contains c)

/-- The name of a group, up to a closing angle bracket. -/
def readName : List Char → List Char → Read String
  | _, [] => .error .groupNameInvalid
  | taken, c :: rest =>
    if c = '>' then
      if taken.isEmpty then .error .groupNameInvalid
      else .ok (String.ofList taken.reverse, rest)
    else if isNameChar taken.isEmpty c then readName (c :: taken) rest
    else .error .groupNameInvalid

/-- The flags of a group up to a colon or a closing parenthesis, with the character that ended them.
`seen` lists the flags that were named so far. -/
def readFlags (f : Flags) (negated : Bool) (dangling : Bool) (seen : List Char) :
    List Char → Except PatternError (Flags × List Char × Char × List Char)
  | [] => .error .flagUnclosed
  | c :: rest =>
    if c = ':' ∨ c = ')' then
      if dangling then .error .flagDangling else .ok (f, seen, c, rest)
    else if c = '-' then
      if negated then .error .flagDuplicate else readFlags f true true ('-' :: seen) rest
    else
      match f.set (!negated) c with
      | .error e => .error e
      | .ok f' =>
        if seen.contains c then .error .flagDuplicate
        else readFlags f' negated false (c :: seen) rest

/-- What an opening parenthesis starts. -/
inductive Opening where
  /-- A group with the flags that hold in it. -/
  | group (index : Option Nat) (inner : Flags)
  /-- Flags for the rest of the group around them. -/
  | flags (f : Flags)

/-- What follows an opening parenthesis. -/
def readOpening (p : Progress) (cs : List Char) :
    Except PatternError (Opening × Progress × List Char) :=
  let cs := skip p.flags cs
  let named (rest : List Char) := do
    let (name, rest) ← readName [] rest
    if p.names.contains name then .error (.groupNameDuplicate name)
    else
      .ok (.group (some (p.count + 1)) p.flags,
        { p with count := p.count + 1, names := name :: p.names }, rest)
  match cs with
  | '?' :: '=' :: _ | '?' :: '!' :: _ | '?' :: '<' :: '=' :: _ | '?' :: '<' :: '!' :: _ =>
    .error .lookAround
  | '?' :: 'P' :: '<' :: rest => named rest
  | '?' :: '<' :: rest => named rest
  | '?' :: rest =>
    if rest.isEmpty then .error .groupUnclosed
    else do
      let (f, seen, stop, after) ← readFlags p.flags false false [] rest
      if stop = ')' then
        if seen.isEmpty then .error .repetitionMissing else .ok (.flags f, p, after)
      else .ok (.group none f, p, after)
  | _ => .ok (.group (some (p.count + 1)) p.flags, { p with count := p.count + 1 }, cs)

/-- A decimal number with blanks around it; `none` if there are no digits. -/
def readCount (f : Flags) (cs : List Char) : Except PatternError (Option Nat × List Char) :=
  let start := Text.trimLeft cs
  let (taken, rest) := takeDigits (start.length + 1) [] start
  let rest := Text.trimLeft rest
  if taken.isEmpty then .ok (none, skip f rest)
  else
    match (Text.digits? 10 taken).filter (· ≤ 4294967295) with
    | some n => .ok (some n, skip f rest)
    | none => .error .repetitionCount
where
  /-- The digits at the start of a text. -/
  takeDigits : Nat → List Char → List Char → List Char × List Char
    | 0, taken, cs => (taken.reverse, cs)
    | fuel + 1, taken, cs =>
      match cs with
      | c :: rest =>
        if c.isDigit then takeDigits fuel (c :: taken) (skip f rest) else (taken.reverse, cs)
      | [] => (taken.reverse, [])

/-- A count of repetitions after its opening brace: the least and the greatest number. -/
def readRange (f : Flags) (cs : List Char) :
    Except PatternError ((Nat × Option Nat) × List Char) := do
  if (skip f cs).isEmpty then .error .repetitionUnclosed
  let (least, rest) ← readCount f (skip f cs)
  let (range, rest) ← match rest with
    | [] => .error .repetitionUnclosed
    | ',' :: more =>
      match least, skip f more with
      | _, [] => .error .repetitionUnclosed
      | none, _ => .error .repetitionCount
      | some n, '\x7d' :: after => .ok ((n, none), '\x7d' :: after)
      | some n, after => do
        match ← readCount f after with
        | (some m, after) => .ok ((n, some m), after)
        | (none, _) => .error .repetitionCount
    | _ =>
      match least with
      | some n => .ok ((n, some n), rest)
      | none => .error .repetitionCount
  match rest with
  | '\x7d' :: after =>
    match range with
    | (n, some m) => if m < n then .error .repetitionInvalid else .ok (range, skip f after)
    | _ => .ok (range, skip f after)
  | _ => .error .repetitionUnclosed

/-- Repeats the last part of a group. A question mark that follows asks for few repetitions. -/
def repeatLast (f : Flags) (g : Group) (least : Nat) (most : Option Nat) (cs : List Char) :
    Read Group :=
  match g.parts with
  | some e :: parts =>
    let (lazy, rest) :=
      match cs with
      | '?' :: rest => (true, rest)
      | _ => (false, cs)
    .ok ({ g with parts := some (.rep e least most (lazy == f.swapGreed)) :: parts }, rest)
  | _ => .error .repetitionMissing

/-- Reads the rest of a pattern inside the group `g`, with the groups around it in `outer`. -/
def readExpr : Nat → Progress → List Group → Group → List Char → Except PatternError Expr
  | 0, _, _, _, _ => .error .groupUnclosed
  | fuel + 1, p, outer, g, cs =>
    match skip p.flags cs with
    | [] => if outer.isEmpty then .ok g.close else .error .groupUnclosed
    | '(' :: rest => do
      match ← readOpening p rest with
      | (.flags f, p, after) =>
        readExpr fuel { p with flags := f } outer { g with parts := none :: g.parts } after
      | (.group index inner, p', after) =>
        readExpr fuel { p' with flags := inner } (g :: outer) (.opened index p.flags) after
    | ')' :: rest =>
      match outer with
      | [] => .error .groupUnopened
      | around :: outer =>
        readExpr fuel { p with flags := g.outerFlags } outer (around.add g.close) rest
    | '|' :: rest => readExpr fuel p outer g.nextBranch rest
    | '[' :: rest => do
      let (b, after) ← openBracket p.flags rest
      let (s, after) ← readBracket p.flags (after.length + 1) [] b after
      readExpr fuel p outer (g.add (.one s)) after
    | '?' :: rest => do
      let (g, after) ← repeatLast p.flags g 0 (some 1) rest
      readExpr fuel p outer g after
    | '*' :: rest => do
      let (g, after) ← repeatLast p.flags g 0 none rest
      readExpr fuel p outer g after
    | '+' :: rest => do
      let (g, after) ← repeatLast p.flags g 1 none rest
      readExpr fuel p outer g after
    | '\x7b' :: rest => do
      if !(g.parts.head?.join).isSome then .error .repetitionMissing
      let ((least, most), after) ← readRange p.flags rest
      let (g, after) ← repeatLast p.flags g least most after
      readExpr fuel p outer g after
    | '\\' :: rest => do
      let (a, after) ← readEscape p.flags rest
      readExpr fuel p outer (g.add (← a.expr p.flags)) after
    | '.' :: rest => do readExpr fuel p outer (g.add (← p.flags.dot)) rest
    | '^' :: rest => readExpr fuel p outer (g.add (.look p.flags.caret)) rest
    | '$' :: rest => readExpr fuel p outer (g.add (.look p.flags.dollar)) rest
    | c :: rest => readExpr fuel p outer (g.add (p.flags.literal c)) rest

/-- The expression that the text of a pattern stands for under the given flags. -/
def read (f : Flags) (source : List Char) : Except PatternError Expr :=
  readExpr (source.length + 1) ⟨f, 0, []⟩ [] (.opened none f) source

end Rampart.Pattern
