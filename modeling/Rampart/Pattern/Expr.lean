import Rampart.Pattern.CharSet

/-!
# Regular expressions

The forms a regular expression is built of, and the assertions it can make about a place in a text.
-/

namespace Rampart

/-- A condition on a place in a text, given by the characters on either side of it. -/
inductive Look where
  /-- The start of the text. -/
  | textStart
  /-- The end of the text. -/
  | textEnd
  /-- The start of a line; with `carriage`, lines may also end in carriage returns. -/
  | lineStart (carriage : Bool)
  /-- The end of a line; with `carriage`, lines may also end in carriage returns. -/
  | lineEnd (carriage : Bool)
  /-- A word character on exactly one side; the set says what belongs to words. -/
  | boundary (word : CharSet)
  /-- A word character on both sides or on none. -/
  | noBoundary (word : CharSet)
  /-- A word starts here. -/
  | wordStart (word : CharSet)
  /-- A word ends here. -/
  | wordEnd (word : CharSet)
  /-- No word character before. -/
  | wordStartHalf (word : CharSet)
  /-- No word character after. -/
  | wordEndHalf (word : CharSet)

/-- A neighbour that belongs to words. -/
def Look.inWord (word : CharSet) : Option Char → Bool
  | some c => word.contains c.toNat
  | none => false

/-- The condition holds between the characters `before` and `after`, which are missing at the ends
of the text. -/
def Look.holds : Look → (before after : Option Char) → Bool
  | textStart, b, _ => b.isNone
  | textEnd, _, a => a.isNone
  | lineStart false, b, _ => b.all (· == '\n')
  | lineStart true, b, a => b.all fun c => c == '\n' || (c == '\r' && a != some '\n')
  | lineEnd false, _, a => a.all (· == '\n')
  | lineEnd true, b, a => a.all fun c => c == '\r' || (c == '\n' && b != some '\r')
  | boundary w, b, a => inWord w b != inWord w a
  | noBoundary w, b, a => inWord w b == inWord w a
  | wordStart w, b, a => !inWord w b && inWord w a
  | wordEnd w, b, a => inWord w b && !inWord w a
  | wordStartHalf w, b, _ => !inWord w b
  | wordEndHalf w, _, a => !inWord w a

/-- A regular expression. -/
inductive Expr where
  /-- The empty text. -/
  | empty
  /-- One character of a set. -/
  | one (set : CharSet)
  /-- The empty text, where a condition holds. -/
  | look (place : Look)
  /-- A group whose text is reported under a number. -/
  | group (index : Nat) (body : Expr)
  /-- One text after the other. -/
  | seq (a b : Expr)
  /-- Either of two, the first one preferred. -/
  | alt (a b : Expr)
  /-- A text at least `least` times and at most `most` times, more preferred if `greedy`. -/
  | rep (body : Expr) (least : Nat) (most : Option Nat) (greedy : Bool)

namespace Expr

/-- The expression can match the empty text somewhere. -/
def nullable : Expr → Bool
  | empty => true
  | one _ => false
  | look _ => true
  | group _ e => e.nullable
  | seq a b => a.nullable && b.nullable
  | alt a b => a.nullable || b.nullable
  | rep e least _ _ => least == 0 || e.nullable

/-- One expression after the other. -/
def seqs : List Expr → Expr
  | [] => empty
  | [e] => e
  | e :: es => seq e (seqs es)

/-- Any of the expressions, the earlier ones preferred. -/
def alts : List Expr → Expr
  | [] => empty
  | [e] => e
  | e :: es => alt e (alts es)

end Expr

end Rampart
