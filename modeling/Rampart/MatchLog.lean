import Rampart.MatchRecord

/-!
# The match log

The last records of matches, oldest first, up to a limit. Records can also be forwarded to the event
log of the process, as warnings if a rule stepped in.
-/

namespace Rampart

/-- How matches are logged. -/
structure MatchLogSettings where
  enabled : Bool := true
  maxEntries : Nat := 10000
  /-- Every record is also an event. -/
  forward : Bool := true
  deriving DecidableEq, Repr

/-- How urgent an event is. -/
inductive EventLevel where
  | warn
  | info
  deriving DecidableEq, Repr

/-- A record that is sent to the event log of the process. -/
structure Event where
  level : EventLevel
  record : MatchRecord
  deriving DecidableEq, Repr

/-- The event of a record. -/
def MatchRecord.event (m : MatchRecord) : Event := ⟨if m.disruptive then .warn else .info, m⟩

/-- The last records of matches. -/
structure MatchLog where
  settings : MatchLogSettings
  entries : List MatchRecord

namespace MatchLog

/-- A log without records. -/
def empty (s : MatchLogSettings) : MatchLog := ⟨s, []⟩

/-- The number of records that are kept; there is always room for one. -/
def limit (l : MatchLog) : Nat := max 1 l.settings.maxEntries

/-- The log after a record: the oldest ones give way. -/
def add (l : MatchLog) (m : MatchRecord) : MatchLog :=
  if l.settings.enabled then
    { l with entries := l.entries.drop (l.entries.length + 1 - l.limit) ++ [m] }
  else l

/-- The events of a record. -/
def events (l : MatchLog) (m : MatchRecord) : List Event :=
  if l.settings.enabled && l.settings.forward then [m.event] else []

/-- The log after some records. -/
def addAll (l : MatchLog) (ms : List MatchRecord) : MatchLog := ms.foldl add l

/-- The log without its records. -/
def clear (l : MatchLog) : MatchLog := { l with entries := [] }

/-- The number of records. -/
def size (l : MatchLog) : Nat := l.entries.length

/-- The last records, the newest first. -/
def recent (l : MatchLog) (count : Nat) : List MatchRecord := l.entries.reverse.take count

/-- The records of a rule. -/
def ofRule (l : MatchLog) (id : Int) : List MatchRecord := l.entries.filter fun m => m.ruleId == id

/-- The records that close a chain. -/
def final (l : MatchLog) : List MatchRecord := l.entries.filter (·.isFinal)

/-- The records that are at least as severe as `s`. -/
def severe (l : MatchLog) (s : Severity) : List MatchRecord :=
  l.entries.filter fun m => m.severity.any fun v => v.atLeast s

/-- The records of a transaction. -/
def ofTransaction (l : MatchLog) (id : String) : List MatchRecord :=
  l.entries.filter fun m => m.transactionId == id

@[simp] theorem entries_clear (l : MatchLog) : l.clear.entries = [] := rfl

@[simp] theorem entries_empty (s : MatchLogSettings) : (empty s).entries = [] := rfl

end MatchLog

end Rampart
