import Rampart.Toml.Section

/-!
# Writing settings files

The text of sections. Texts stand between double quotes on one line, with every character that may
not stand there escaped; arrays stand on one line, and tables inside them between braces.
-/

namespace Rampart.Toml

/-- A number in four hexadecimal digits. -/
def fourDigits (n : Nat) : List Char :=
  [n / 4096 % 16, n / 256 % 16, n / 16 % 16, n % 16].map Nat.digitChar

/-- A character between quotes. -/
def charText (c : Char) : List Char :=
  if c = '"' then ['\\', '"']
  else if c = '\\' then ['\\', '\\']
  else if c = '\n' then ['\\', 'n']
  else if c = '\r' then ['\\', 'r']
  else if Reader.isPrintable c then [c]
  else '\\' :: 'u' :: fourDigits c.toNat

/-- A text between quotes. -/
def quotedText (s : String) : String := String.ofList ('"' :: s.toList.flatMap charText ++ ['"'])

/-- A part of a key. -/
def keyText (k : String) : String :=
  if k.toList.all Reader.isKeyChar && !k.isEmpty then k else quotedText k

/-- The parts of a key with points between them. -/
def pathText (path : List String) (k : String) : String :=
  ".".intercalate ((path ++ [k]).map keyText)

mutual

/-- The text of a value. -/
def Item.print : Item → String
  | .text s => quotedText s
  | .integer n => Text.decimal n
  | .boolean b => if b then "true" else "false"
  | .float literal => literal
  | .moment literal => literal
  | .array _ items => "[" ++ ", ".intercalate (printItems items) ++ "]"
  | .table _ entries => "\x7b" ++ ", ".intercalate (printEntries entries) ++ "\x7d"

/-- The texts of values. -/
def printItems : List Item → List String
  | [] => []
  | i :: is => i.print :: printItems is

/-- The texts of pairs. -/
def printEntries : List (String × Item) → List String
  | [] => []
  | e :: es => printEntry e :: printEntries es

/-- The text of a pair inside a table between braces. -/
def printEntry : String × Item → String
  | (k, i) => keyText k ++ " = " ++ i.print

end

/-- The line of a pair. -/
def Entries.Pair.print (p : Entries.Pair) : String :=
  pathText p.path p.key ++ " = " ++ p.value.print ++ "\n"

/-- The line of a header. -/
def Header.print (h : Header) : String :=
  let name := pathText h.path h.key
  if h.isElement then "[[" ++ name ++ "]]\n" else "[" ++ name ++ "]\n"

/-- The lines of a section. -/
def Section.print (s : Section) : String :=
  (s.header.map Header.print).getD "" ++ String.join (s.pairs.map Entries.Pair.print)

/-- The text of some sections. -/
def printSections (ss : List Section) : String := "\n".intercalate (ss.map Section.print)

end Rampart.Toml
