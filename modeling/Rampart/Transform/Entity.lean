import Rampart.Text.Cut
import Rampart.Text.Numeral

/-!
# Character references

Texts in which a character can be written as a reference between `&` and `;`, by one of six names or
by its number in decimal or hexadecimal digits.
-/

namespace Rampart.Entity

/-- The references by name in the order in which they are resolved. -/
def named : List (String × String) :=
  [("&lt;", "<"), ("&gt;", ">"), ("&quot;", "\""), ("&apos;", "'"), ("&nbsp;", " "), ("&amp;", "&")]

/-- Resolves the references by name, one name after the other. -/
def decodeNamed (cs : List Char) : List Char :=
  named.foldl (fun cs e => Text.replaceAll e.1.toList e.2.toList cs) cs

/-- The number that stands in a reference. -/
def number? : List Char → Option Nat
  | 'x' :: hex => Text.natural? 16 4294967295 hex
  | 'X' :: hex => Text.natural? 16 4294967295 hex
  | digits => Text.natural? 10 4294967295 digits

/-- The character of a reference by number whose start has been taken off, and the number of
characters up to the semicolon. -/
def reference? (cs : List Char) : Option (Char × Nat) :=
  match Text.cutAt? (· == ';') cs with
  | some (number, _) => ((number? number).bind Text.char?).map fun c => (c, number.length)
  | none => none

/-- Resolves the references by number, after the first `skip` characters are passed over. -/
def decodeNumberedFrom : Nat → List Char → List Char
  | _, [] => []
  | skip + 1, _ :: cs => decodeNumberedFrom skip cs
  | 0, c :: cs =>
    if c = '&' then
      match cs with
      | '#' :: tail =>
        match reference? tail with
        | some (d, length) => d :: decodeNumberedFrom (length + 2) cs
        | none => '&' :: decodeNumberedFrom 0 cs
      | _ => '&' :: decodeNumberedFrom 0 cs
    else c :: decodeNumberedFrom 0 cs

/-- Resolves the references by name, then those by number. -/
def decode (cs : List Char) : List Char := decodeNumberedFrom 0 (decodeNamed cs)

/-- The reference by name that stands for a character that needs one. -/
def escapeChar : Char → List Char
  | '&' => "&amp;".toList
  | '<' => "&lt;".toList
  | '>' => "&gt;".toList
  | '"' => "&quot;".toList
  | '\'' => "&apos;".toList
  | c => [c]

/-- A text in which every character that needs a reference is written as one. -/
def escape (cs : List Char) : List Char := cs.flatMap escapeChar

end Rampart.Entity
