import Rampart.Exceptions
import Rampart.MatchLog
import Rampart.Rule.Compile

/-!
# Rule sets

The chains that are in force, by their phase and in the order in which they were added, with two
indexes and the exceptions that apply to them: one index says where the chain with an id stands, the
other which ids a tag belongs to. Loading keeps what can be read: a chain that is refused leaves one
error and nothing else.
-/

namespace Rampart

/-- The declarations that a rule set is loaded from. -/
structure RuleSetSettings where
  rules : List RuleSettings := []
  exceptions : List ExceptionSettings := []
  /-- Rules that are left out when the set is loaded. -/
  removedIds : List Int := []
  matchLog : MatchLogSettings := {}
  /-- Files of rules, or directories of such files, that belong to the set. -/
  includes : List String := []
  deriving DecidableEq, Repr

/-- Chains by their phase, with indexes of their ids and tags. -/
structure RuleSet where
  /-- The chains of each phase, in the order in which they were added. -/
  lists : Vector (List Chain) 5
  /-- For the id of each chain its phase and its position among the chains of that phase. -/
  places : List (Int × Nat × Nat)
  /-- Every tag of every chain with the id of the chain, in the order in which they were added. -/
  tagged : List (String × Int)
  exceptions : Exceptions

namespace RuleSet

/-- No chains. -/
def empty : RuleSet := ⟨Vector.replicate 5 [], [], [], .none⟩

/-- The phases in their order. -/
def phases : List Nat := [1, 2, 3, 4, 5]

/-- The chains of a phase. Phases are counted from 1. -/
def ofPhase (s : RuleSet) : Nat → List Chain
  | 0 => []
  | n + 1 => s.lists[n]?.getD []

/-- Every chain, phase by phase. -/
def all (s : RuleSet) : List Chain := phases.flatMap s.ofPhase

theorem mem_phases_of_mem_ofPhase {s : RuleSet} {phase : Nat} {c : Chain}
    (h : c ∈ s.ofPhase phase) : phase ∈ phases := by
  cases phase with
  | zero => cases h
  | succ n =>
      by_cases hn : n < 5
      · simp only [phases, List.mem_cons, List.not_mem_nil, or_false]
        omega
      · rw [ofPhase, Vector.getElem?_eq_none (by omega)] at h
        cases h

theorem mem_all_of_mem_ofPhase {s : RuleSet} {phase : Nat} {c : Chain} (h : c ∈ s.ofPhase phase) :
    c ∈ s.all := List.mem_flatMap.2 ⟨phase, mem_phases_of_mem_ofPhase h, h⟩

/-- The chain with an id, at the place that the index gives for it. -/
def get? (s : RuleSet) (id : Int) : Option Chain :=
  (s.places.lookup id).bind fun place => (s.ofPhase place.1)[place.2]?

/-- There is a chain with the id. -/
def contains (s : RuleSet) (id : Int) : Bool := (s.places.lookup id).isSome

/-- The chains under a tag in the index. -/
def byTag (s : RuleSet) (tag : String) : List Chain :=
  (s.tagged.filter fun t => t.1 == tag).filterMap fun t => s.get? t.2

/-- The number of chains. -/
def size (s : RuleSet) : Nat := s.places.length

/-- Notes the place behind the chains of its phase as that of a chain. -/
def notePlace (s : RuleSet) (c : Chain) : RuleSet :=
  { s with places := s.places ++ [(c.id, c.phase, (s.ofPhase c.phase).length)] }

/-- Notes the tags of a chain. -/
def noteTags (s : RuleSet) (c : Chain) : RuleSet :=
  { s with tagged := s.tagged ++ c.head.info.tags.map fun tag => (tag, c.id) }

/-- Puts a chain behind those of its phase. -/
def append (s : RuleSet) (c : Chain) : RuleSet :=
  { s with lists := s.lists.mapIdx fun i cs => if i + 1 = c.phase then cs ++ [c] else cs }

/-- The error of a chain whose id is zero. -/
def withoutId : Error := .invalidRule "a rule outside a chain needs a non-zero id"

/-- The error of a chain whose id is taken. -/
def duplicate (id : Int) : Error :=
  (Error.invalidRule ("duplicate rule id " ++ Text.decimal id)).forRule id

/-- One more chain, whose id has to be new and different from zero: whether it was added, and the set
after that. -/
def add (s : RuleSet) (c : Chain) : Except Error Unit × RuleSet :=
  if c.id = 0 then (.error withoutId, s)
  else if s.contains c.id then (.error (duplicate c.id), s)
  else (.ok (), ((s.notePlace c).noteTags c).append c)

/-- The set after chains were added one after the other, whatever came of each of them. -/
def addAll (s : RuleSet) (cs : List Chain) : RuleSet := cs.foldl (fun s c => (s.add c).2) s

/-- Compiles a chain and adds it. -/
def addSettings (files : FileTree) (s : RuleSet) (r : RuleSettings) : Except Error Unit × RuleSet :=
  match Chain.ofSettings files r with
  | .ok c => s.add c
  | .error e => (.error e, s)

/-- The set after one more declaration, unless it is removed, and the errors so far with the one that
it may cause. -/
def load (files : FileTree) (removed : List Int) (acc : RuleSet × List Error) (r : RuleSettings) :
    RuleSet × List Error :=
  if removed.contains r.declaredId then acc
  else
    let added := acc.1.addSettings files r
    match added.1 with
    | .ok () => (added.2, acc.2)
    | .error e => (added.2, acc.2 ++ [e])

/-- The chains and exceptions that can be read, and one error for each of the others: first those of
the rules, then those of the exceptions. -/
def ofSettings (files : FileTree) (s : RuleSetSettings) : RuleSet × List Error :=
  let rules := s.rules.foldl (load files s.removedIds) (empty, [])
  let exceptions := Exceptions.ofSettings s.exceptions
  ({ rules.1 with exceptions := exceptions.1 }, rules.2 ++ exceptions.2)

end RuleSet

end Rampart
