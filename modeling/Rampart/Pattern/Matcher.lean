import Rampart.Pattern.Expr

/-!
# Matching

An expression maps a place in a text to the places where a match from there can end, best first. Two
ways to reach the same end are alike to everything that follows, so only the better one is kept; that
bounds the work by the length of the text. A repetition goes on from each place it reaches only once,
which also ends repetitions of the empty text.

The first end is the match that a search with backtracking finds first.
-/

namespace Rampart

/-- A place in a text: how many bytes lie before it, the character before it, and what follows. -/
structure Cursor where
  offset : Nat
  before : Option Char
  rest : List Char

namespace Cursor

/-- The start of a text. -/
def start (text : List Char) : Cursor := ⟨0, none, text⟩

/-- The place behind the next character. -/
def next? (p : Cursor) : Option Cursor :=
  match p.rest with
  | [] => none
  | c :: cs => some ⟨p.offset + c.utf8Size, some c, cs⟩

/-- The text from a place up to a later one. -/
def textTo (p q : Cursor) : List Char := p.rest.take (p.rest.length - q.rest.length)

end Cursor

/-- A stretch of a text between two places. -/
structure Span where
  first : Cursor
  last : Cursor

namespace Span

/-- The number of bytes before the stretch. -/
def offset (s : Span) : Nat := s.first.offset

/-- The number of bytes of the stretch. -/
def length (s : Span) : Nat := s.last.offset - s.first.offset

/-- The stretch as a text. -/
def text (s : Span) : String := String.ofList (s.first.textTo s.last)

end Span

/-- A way to reach a place: the place, and the last stretch of each group on the way. -/
structure Thread where
  place : Cursor
  groups : List (Nat × Span)

namespace Thread

/-- The threads without those that reach a place again. -/
def distinct : List Thread → List Thread
  | [] => []
  | t :: ts =>
    t :: (distinct ts).filter fun u => u.place.offset != t.place.offset

end Thread

namespace Expr

/-- The ends of `count` rounds of `round`. -/
def exactly (round : Thread → List Thread) : Nat → List Thread → List Thread
  | 0, ts => ts
  | n + 1, ts =>
    match Thread.distinct (ts.flatMap round) with
    | [] => []
    | us => exactly round n us

/-- The ends of at most `count` rounds of `round`. The places that were gone on from are listed in
`seen`, with the number of rounds that were left there. -/
def upTo (round : Thread → List Thread) (greedy : Bool) :
    Nat → List (Nat × Nat) → Thread → List (Nat × Nat) × List Thread
  | 0, seen, t => (seen, [t])
  | n + 1, seen, t =>
    if seen.contains (n + 1, t.place.offset) then (seen, [])
    else
      let r := (round t).foldl
        (fun acc u =>
          let more := upTo round greedy n acc.1 u
          (more.1, acc.2 ++ more.2))
        ((n + 1, t.place.offset) :: seen, [])
      (r.1, if greedy then r.2 ++ [t] else t :: r.2)

/-- The ends of any number of rounds of `round`, going on from each place once; `fuel` is the number
of characters that are left. The places gone on from are listed in `seen`. -/
def anyNumber (round : Thread → List Thread) (greedy : Bool) :
    Nat → List Nat → Thread → List Nat × List Thread
  | fuel, seen, t =>
    if seen.contains t.place.offset then (seen, [])
    else
      match fuel with
      | 0 => (t.place.offset :: seen, [t])
      | n + 1 =>
        let r := (round t).foldl
          (fun acc u =>
            let more := anyNumber round greedy n acc.1 u
            (more.1, acc.2 ++ more.2))
          (t.place.offset :: seen, [])
        (r.1, if greedy then r.2 ++ [t] else t :: r.2)

/-- The ends of one round or more. A first round that stays in place is not followed by another. -/
def oneOrMore (round : Thread → List Thread) (greedy : Bool) (t : Thread) : List Thread :=
  ((round t).foldl
    (fun acc u =>
      let fuel := if u.place.offset = t.place.offset then 0 else t.place.rest.length
      let more := anyNumber round greedy fuel acc.1 u
      (more.1, acc.2 ++ more.2))
    ([], [])).2

/-- The ends of a match from a place, best first. -/
def ends : Expr → Thread → List Thread
  | empty, t => [t]
  | one set, t =>
    match t.place.rest with
    | [] => []
    | c :: cs =>
      if set.contains c.toNat then
        [{ t with place := ⟨t.place.offset + c.utf8Size, some c, cs⟩ }]
      else []
  | look l, t => if l.holds t.place.before t.place.rest.head? then [t] else []
  | group i e, t =>
    (e.ends t).map fun u => { u with groups := (i, ⟨t.place, u.place⟩) :: u.groups }
  | seq a b, t => Thread.distinct ((a.ends t).flatMap b.ends)
  | alt a b, t => Thread.distinct (a.ends t ++ b.ends t)
  | rep e least most greedy, t =>
    match most with
    | some m =>
      Thread.distinct <| (exactly e.ends least [t]).flatMap fun u =>
        Thread.distinct (upTo e.ends greedy (m - least) [] u).2
    | none =>
      match least with
      | 0 =>
        if e.nullable then
          let more := oneOrMore e.ends greedy t
          Thread.distinct (if greedy then more ++ [t] else t :: more)
        else (anyNumber e.ends greedy t.place.rest.length [] t).2
      | k + 1 =>
        Thread.distinct ((exactly e.ends k [t]).flatMap (oneOrMore e.ends greedy))

/-- The match that a search with backtracking finds first among those that start at a place. -/
def matchAt (e : Expr) (p : Cursor) : Option Thread := (e.ends ⟨p, []⟩).head?

/-- The first match that starts at a place or behind it, with its start. -/
def findFrom (e : Expr) (offset : Nat) (before : Option Char) :
    List Char → Option (Cursor × Thread)
  | [] => (e.matchAt ⟨offset, before, []⟩).map fun t => (⟨offset, before, []⟩, t)
  | c :: cs =>
    match e.matchAt ⟨offset, before, c :: cs⟩ with
    | some t => some (⟨offset, before, c :: cs⟩, t)
    | none => findFrom e (offset + c.utf8Size) (some c) cs

end Expr

end Rampart
