import Rampart.Text.Cut
import Rampart.Text.Numeral

/-!
# Internet addresses

Addresses of both families, their text, and networks of addresses that share their first bits.
-/

namespace Rampart

/-- An internet address. -/
inductive Address where
  | v4 (bits : BitVec 32)
  | v6 (bits : BitVec 128)
  deriving DecidableEq, Repr

namespace Address

/-! ## Reading -/

/-- Digits at the start of a text as a number: at most `most` of them, with a value up to `max`, and
unless `zeros` allows it not starting with a zero that is followed by more. -/
def readNumber (base most max : Nat) (zeros : Bool) (cs : List Char) : Option (Nat × List Char) :=
  let digits := cs.takeWhile fun c => (Text.digitValue? base c).isSome
  if digits.length > most then none
  else if !zeros && digits.length > 1 && digits.head? == some '0' then none
  else ((Text.digits? base digits).filter (· ≤ max)).map fun n => (n, cs.drop digits.length)

/-- An expected character at the start of a text. -/
def readChar (c : Char) : List Char → Option (List Char)
  | d :: cs => if c = d then some cs else none
  | [] => none

/-- The bits of a list of groups of the given width, the first group highest. -/
def joinGroups (width : Nat) (groups : List Nat) : Nat :=
  groups.foldl (fun n g => n * Nat.pow 2 width + g) 0

/-- Four decimal numbers with points between them, as a list. -/
def readV4Groups (cs : List Char) : Option (List Nat × List Char) := do
  let (a, cs) ← readNumber 10 3 255 false cs
  let (b, cs) ← readNumber 10 3 255 false (← readChar '.' cs)
  let (c, cs) ← readNumber 10 3 255 false (← readChar '.' cs)
  let (d, cs) ← readNumber 10 3 255 false (← readChar '.' cs)
  some ([a, b, c, d], cs)

/-- Groups of hexadecimal digits with colons between them, at most `limit` of them, where an address
in the form of four decimal numbers can stand for the last two. The flag says that one did. -/
def readGroups (first : Bool) : Nat → List Char → List Nat × Bool × List Char
  | 0, cs => ([], false, cs)
  | limit + 1, cs =>
    match if first then some cs else readChar ':' cs with
    | none => ([], false, cs)
    | some inner =>
      let tail := if 0 < limit then readV4Groups inner else none
      match tail with
      | some ([a, b, c, d], rest) => ([a * 256 + b, c * 256 + d], true, rest)
      | _ =>
        match readNumber 16 4 65535 true inner with
        | none => ([], false, cs)
        | some (g, rest) =>
          let more := readGroups false limit rest
          (g :: more.1, more.2.1, more.2.2)

/-- Eight groups, of which a run of zeros can be left out between two colons. -/
def readV6Groups (cs : List Char) : Option (List Nat × List Char) := do
  let (head, decimal, rest) := readGroups true 8 cs
  if head.length = 8 then some (head, rest)
  else if decimal then none
  else
    let rest ← readChar ':' (← readChar ':' rest)
    let (tail, _, rest) := readGroups true (7 - head.length) rest
    some (head ++ List.replicate (8 - head.length - tail.length) 0 ++ tail, rest)

/-- The address that a text stands for. -/
def ofText? (s : String) : Option Address :=
  match readV4Groups s.toList with
  | some (groups, []) => some (.v4 (.ofNat 32 (joinGroups 8 groups)))
  | some _ => none
  | none =>
    match readV6Groups s.toList with
    | some (groups, []) => some (.v6 (.ofNat 128 (joinGroups 16 groups)))
    | _ => none

/-! ## Writing -/

/-- The groups of a number, the highest first. -/
def splitGroups (width : Nat) : Nat → Nat → List Nat
  | 0, _ => []
  | count + 1, n => splitGroups width count (n / Nat.pow 2 width) ++ [n % Nat.pow 2 width]

/-- Four decimal numbers with points between them. -/
def v4Text (n : Nat) : String := ".".intercalate ((splitGroups 8 4 n).map Nat.repr)

/-- A group in hexadecimal digits. -/
def groupText (g : Nat) : String := String.ofList (Nat.toDigits 16 g)

/-- Groups with colons between them. -/
def groupsText (groups : List Nat) : String := ":".intercalate (groups.map groupText)

/-- The start and the length of the first of the longest runs of zeros in a list, where `place` is the
position of the list and `run` the number of zeros just before it. -/
def longestZeros (place run : Nat) (best : Nat × Nat) : List Nat → Nat × Nat
  | [] => best
  | g :: gs =>
    if g = 0 then
      let run := run + 1
      let best := if best.2 < run then (place + 1 - run, run) else best
      longestZeros (place + 1) run best gs
    else longestZeros (place + 1) 0 best gs

/-- Eight groups, where the first of the longest runs of at least two zeros is left out. Addresses
that stand for one of the other family end in its form. -/
def v6Text (n : Nat) : String :=
  let groups := splitGroups 16 8 n
  if groups.take 6 = [0, 0, 0, 0, 0, 65535] then "::ffff:" ++ v4Text (n % Nat.pow 2 32)
  else
    let zeros := longestZeros 0 0 (0, 0) groups
    if 1 < zeros.2 then
      groupsText (groups.take zeros.1) ++ "::" ++ groupsText (groups.drop (zeros.1 + zeros.2))
    else groupsText groups

/-- The text of an address. -/
def text : Address → String
  | v4 bits => v4Text bits.toNat
  | v6 bits => v6Text bits.toNat

end Address

/-- The addresses that agree with one in their first bits. -/
inductive Network where
  | v4 (base : BitVec 32) (length : Nat) (fits : length ≤ 32)
  | v6 (base : BitVec 128) (length : Nat) (fits : length ≤ 128)

namespace Network

/-- The number of bits that are compared. -/
def length : Network → Nat
  | v4 _ n _ => n
  | v6 _ n _ => n

/-- The word whose first `n` bits are set. -/
def mask (width n : Nat) : BitVec width :=
  if n = 0 then 0 else BitVec.allOnes width <<< (width - n)

/-- The network of an address with the number of bits to compare, if the address has as many. -/
def ofAddress? (a : Address) (n : Nat) : Option Network :=
  match a with
  | .v4 bits => if h : n ≤ 32 then some (.v4 bits n h) else none
  | .v6 bits => if h : n ≤ 128 then some (.v6 bits n h) else none

/-- The network that holds one address. -/
def single : Address → Network
  | .v4 bits => .v4 bits 32 (by decide)
  | .v6 bits => .v6 bits 128 (by decide)

/-- The network that a text stands for: an address, or an address, a slash and a number of bits. -/
def ofText? (s : String) : Option Network :=
  match Text.splitOnce? '/' s with
  | none => (Address.ofText? (Text.trim s)).map single
  | some (address, bits) => do
    let a ← Address.ofText? (Text.trim address)
    let n ← Text.natural? 10 255 (Text.trimChars bits.toList)
    ofAddress? a n

/-- The address belongs to the network: it is of the same family and agrees in the bits that are
compared. -/
def contains : Network → Address → Bool
  | v4 base n _, .v4 a => a &&& mask 32 n == base &&& mask 32 n
  | v6 base n _, .v6 a => a &&& mask 128 n == base &&& mask 128 n
  | _, _ => false

end Network

end Rampart
