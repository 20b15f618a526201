import Rampart.Operator.Basic
import Rampart.Proofs.Places

/-!
# Matchers

Where a test searches a value for a pattern, it relies on three facts. What matches at a place is told by the
text and the place. From a place on, the match with the first start is found, if there is one. And whatever is
found lies in the text, with the stretches of its groups.

A matcher is anything that has these facts, and a pattern is one. A value can be tested with another matcher
for each pattern: what is proved of that holds of the tests, and of every other way to match that has the
three facts, whichever expressions it can read.
-/

namespace Rampart

/-- A way to find the matches of a pattern in texts. -/
structure Matcher where
  /-- The match that starts at a place of a text. -/
  matchAt? (text : List Char) (c : Cursor) : Option Span
  /-- The match that is found at a place of a text or behind it. -/
  findFrom? (text : List Char) (c : Cursor) : Option Span
  /-- The match that is found in a text, and the stretches of its groups, starting with the whole match. -/
  captures? (s : String) : Option (Span × List (Option Span))
  /-- A match begins at its place, and ends there or at a later one. -/
  matchAt?_spec {text : List Char} {c : Cursor} {s : Span} (hc : (Cursor.start text).Reaches c)
    (h : matchAt? text c = some s) : s.first = c ∧ c.Reaches s.last
  /-- The match with the first start is found, and nothing only if there is none. -/
  findFrom?_spec {text : List Char} {c : Cursor} (hc : (Cursor.start text).Reaches c) :
    match findFrom? text c with
    | some s => s.IsFirst (matchAt? text) c
    | none => ∀ d, c.Reaches d → matchAt? text d = none
  /-- The match that is found and its groups lie in the text. -/
  captures?_spec {s : String} {whole : Span} {groups : List (Option Span)}
    (h : captures? s = some (whole, groups)) :
    whole.In s.toList ∧ (∀ g, some g ∈ groups → g.In s.toList) ∧ ∃ more, groups = some whole :: more

/-- A pattern is a way to find its matches. -/
def Pattern.matcher (p : Pattern) : Matcher where
  matchAt? _ := p.matchAt?
  findFrom? _ := p.findFrom?
  captures? := p.captures?
  matchAt?_spec _ h := ⟨first_of_matchAt? h, first_of_matchAt? h ▸ reaches_of_matchAt? h⟩
  findFrom?_spec _ := p.findFrom?_spec _
  captures?_spec := in_of_captures?

namespace Matcher

variable {m : Matcher} {text : List Char} {c d : Cursor} {s : Span}

/-- The match that is found in a text. -/
def find? (m : Matcher) (s : String) : Option Span := m.findFrom? s.toList (.start s.toList)

theorem isFirst_of_findFrom? (hc : (Cursor.start text).Reaches c) (h : m.findFrom? text c = some s) :
    s.IsFirst (m.matchAt? text) c := by
  have hspec := m.findFrom?_spec hc
  rwa [h] at hspec

theorem matchAt?_eq_none_of_findFrom? (hc : (Cursor.start text).Reaches c)
    (h : m.findFrom? text c = none) (hd : c.Reaches d) : m.matchAt? text d = none := by
  have hspec := m.findFrom?_spec hc
  rw [h] at hspec
  exact hspec d hd

/-- A match at a place of a text lies in it. -/
theorem in_of_matchAt? (hc : (Cursor.start text).Reaches s.first)
    (h : m.matchAt? text s.first = some s) : s.In text :=
  ⟨hc, (m.matchAt?_spec hc h).2⟩

theorem in_of_findFrom? (hc : (Cursor.start text).Reaches c) (h : m.findFrom? text c = some s) :
    s.In text := by
  have hfirst := isFirst_of_findFrom? hc h
  exact in_of_matchAt? (hc.trans hfirst.reached) hfirst.matched

end Matcher

/-! ## Tests by other matchers -/

namespace Operator

/-- Tests a value under a rule, where the matches of each pattern are found by the given matcher. -/
def evaluateBy (m : Pattern → Matcher) (r : RuleInfo) (capture : Bool) (input : String) :
    Operator → Exchange → Verdict × Exchange
  | pattern p, x => (testMatch (m p).find? (m p).captures? capture input, x)
  | digits check p, x =>
    (testPassing check.passes ((m p).findFrom? input.toList) capture input, x)
  | o, x => o.evaluate r capture input x

theorem evaluateBy_matcher (o : Operator) (r : RuleInfo) (capture : Bool) (input : String) (x : Exchange) :
    o.evaluateBy Pattern.matcher r capture input x = o.evaluate r capture input x := by
  cases o <;> rfl

end Operator

namespace Test

/-- Tests a value under a rule, where the matches of each pattern are found by the given matcher. -/
def evaluateBy (t : Test) (m : Pattern → Matcher) (r : RuleInfo) (capture : Bool) (input : String)
    (x : Exchange) : Verdict × Exchange :=
  let v := t.operator.evaluateBy m r capture input x
  (if t.negated then negate v.1 else v.1, v.2)

/-- The tests find the matches of a pattern by the pattern itself. -/
theorem evaluateBy_matcher (t : Test) : t.evaluateBy Pattern.matcher = t.evaluate := by
  funext r capture input x
  unfold evaluateBy evaluate
  rw [Operator.evaluateBy_matcher]

end Test

end Rampart
