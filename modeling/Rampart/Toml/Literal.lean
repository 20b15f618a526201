import Rampart.Text.Cut
import Rampart.Text.Numeral
import Rampart.Toml.Item

/-!
# Numbers, points in time and truth values

The values that are written as one word. Digits may be grouped by underlines, each between two
digits. Integers are those of 64 bits; a number with a fraction is refused only if it is too great
and positive.
-/

namespace Rampart.Toml

/-- A character of a word. -/
def isWordChar (c : Char) : Bool :=
  c.isAlphanum || c == '_' || c == '-' || c == '+' || c == '.' || c == ':'

/-- A decimal digit. -/
def isDigit (c : Char) : Bool := (Text.digitValue? 10 c).isSome

/-- Digits of a base without the underlines between them. -/
def digits? (base : Nat) (cs : List Char) : Option (List Char) :=
  let groups := Text.splitAt '_' cs
  if groups.all fun g => !g.isEmpty && g.all fun c => (Text.digitValue? base c).isSome then
    some groups.flatten
  else none

/-- Decimal digits that do not start with a zero unless they are a single one. -/
def plainDigits? (cs : List Char) : Option (List Char) :=
  match cs with
  | '0' :: _ :: _ => none
  | _ => digits? 10 cs

/-- A sign, if there is one, and what follows it. -/
def splitSign : List Char → Option Char × List Char
  | '+' :: cs => (some '+', cs)
  | '-' :: cs => (some '-', cs)
  | cs => (none, cs)

/-- The integer of a word: decimal with an optional sign, or in one of three other bases. -/
def integer? (cs : List Char) : Option Int :=
  let ofBase (base : Nat) (cs : List Char) := (digits? base cs).bind (Text.digits? base)
  let value : Option Int :=
    match cs with
    | '0' :: 'x' :: rest => (ofBase 16 rest).map Int.ofNat
    | '0' :: 'o' :: rest => (ofBase 8 rest).map Int.ofNat
    | '0' :: 'b' :: rest => (ofBase 2 rest).map Int.ofNat
    | _ => do
      let (sign, rest) := splitSign cs
      let digits ← plainDigits? rest
      let n ← Text.digits? 10 digits
      some (if sign = some '-' then -(n : Int) else n)
  value.filter fun n => Text.minInt ≤ n && n ≤ Text.maxInt

/-- The least number that is rounded to infinity, as all numbers beyond it are. -/
def floatLimit : Nat := Nat.pow 2 1024 - Nat.pow 2 970

/-- A number `m · 10 ^ e` is not rounded to infinity. Only where its decimal point stands near that
of the limit is it compared to it. -/
def isFinite (m : Nat) (e : Int) : Bool :=
  let places : Int := m.repr.length + e
  if m = 0 ∨ places < 300 then true
  else if 310 < places then false
  else if 0 ≤ e then decide (m * Nat.pow 10 e.toNat < floatLimit)
  else decide (m < floatLimit * Nat.pow 10 (-e).toNat)

/-- A word is a number with a fraction or an exponent. -/
def isFloat (cs : List Char) : Bool :=
  let (sign, unsigned) := splitSign cs
  if unsigned = ['i', 'n', 'f'] ∨ unsigned = ['n', 'a', 'n'] then true
  else
    let (mantissa, exponent) :=
      match Text.cutAt? (fun c => c == 'e' || c == 'E') unsigned with
      | some (m, e) => (m, some e)
      | none => (unsigned, none)
    let (whole, fraction) :=
      match Text.cutAt? (· == '.') mantissa with
      | some (w, f) => (w, some f)
      | none => (mantissa, none)
    if exponent.isNone && fraction.isNone then false
    else
      let value : Option (Nat × Int) := do
        let w ← plainDigits? whole
        let f ← (fraction.map (digits? 10)).getD (some [])
        let e ← (exponent.map fun e =>
          let signed := splitSign e
          ((digits? 10 signed.2).bind (Text.digits? 10)).map fun n =>
            if signed.1 = some '-' then -(n : Int) else n).getD (some 0)
        let m ← Text.digits? 10 (w ++ f)
        some (m, e - f.length)
      match value with
      | some (m, e) => sign == some '-' || isFinite m e
      | none => false

/-- A number of two digits between two bounds, and what follows it. -/
def twoDigits? (least greatest : Nat) : List Char → Option (Nat × List Char)
  | a :: b :: rest => do
    let n ← Text.digits? 10 [a, b]
    if least ≤ n ∧ n ≤ greatest then some (n, rest) else none
  | _ => none

/-- An expected character at the start of a text. -/
def dropChar? (c : Char) : List Char → Option (List Char)
  | d :: cs => if c = d then some cs else none
  | [] => none

/-- The number of days of a month. -/
def daysOfMonth (year month : Nat) : Nat :=
  if month = 2 then
    if year % 4 = 0 ∧ (year % 100 ≠ 0 ∨ year % 400 = 0) then 29 else 28
  else if [4, 6, 9, 11].contains month then 30
  else 31

/-- What follows a date at the start of a text. -/
def dropDate? (cs : List Char) : Option (List Char) := do
  let year ← Text.digits? 10 (cs.take 4)
  let (month, rest) ← twoDigits? 1 12 (← dropChar? '-' (cs.drop 4))
  let (_, rest) ← twoDigits? 1 (daysOfMonth year month) (← dropChar? '-' rest)
  some rest

/-- What follows a time at the start of a text. -/
def dropTime? (cs : List Char) : Option (List Char) := do
  let (_, rest) ← twoDigits? 0 23 cs
  let (_, rest) ← twoDigits? 0 59 (← dropChar? ':' rest)
  let (_, rest) ← twoDigits? 0 60 (← dropChar? ':' rest)
  match rest with
  | '.' :: fraction =>
    if (fraction.head?.map isDigit).getD false then some (fraction.dropWhile isDigit) else none
  | _ => some rest

/-- A text is empty or the distance from the time of Greenwich. -/
def isOffset : List Char → Bool
  | [] => true
  | ['Z'] | ['z'] => true
  | sign :: cs =>
    (sign == '+' || sign == '-') &&
      match twoDigits? 0 23 cs with
      | some (_, ':' :: rest) => (twoDigits? 0 59 rest).any fun r => r.2.isEmpty
      | _ => false

/-- A text is a date. -/
def isDate (cs : List Char) : Bool := dropDate? cs == some []

/-- A text is a date, a time, or both. -/
def isMoment (cs : List Char) : Bool :=
  match dropDate? cs with
  | some [] => true
  | some (delimiter :: time) =>
    (delimiter == 'T' || delimiter == 't' || delimiter == ' ') && (dropTime? time).any isOffset
  | none => dropTime? cs == some []

/-- The value of a word. -/
def ofWord? (cs : List Char) : Option Item :=
  if cs = ['t', 'r', 'u', 'e'] then some (.boolean true)
  else if cs = ['f', 'a', 'l', 's', 'e'] then some (.boolean false)
  else if isMoment cs then some (.moment (String.ofList cs))
  else if isFloat cs then some (.float (String.ofList cs))
  else (integer? cs).map .integer

end Rampart.Toml
