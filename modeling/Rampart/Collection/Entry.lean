/-!
# Entries

What a collection holds under a key: a value that may have a time from which on it counts as
expired. The time can be set before there is a value. Times are whole seconds of a clock that never
runs backwards.
-/

namespace Rampart

/-- A point in time, in seconds. -/
abbrev Instant := Nat

/-- A value, if there is one, and the time from which on it counts as expired, if it ever does. -/
structure Entry where
  value : Option String
  deadline : Option Instant
  deriving DecidableEq, Repr

namespace Entry

/-- An entry with neither a value nor a deadline. -/
def blank : Entry := ⟨none, none⟩

/-- An entry that keeps a value for ever. -/
def holding (text : String) : Entry := ⟨some text, none⟩

/-- The first number of seconds that a clock cannot show. -/
def clockEnd : Nat := 9223372036854775808

/-- The time some seconds from now, unless the clock cannot show it. -/
def deadlineAfter (now : Instant) (seconds : Nat) : Option Instant :=
  if now + seconds < clockEnd then some (now + seconds) else none

/-- The entry with another value and the deadline it had. -/
def setValue (e : Entry) (text : String) : Entry := { e with value := some text }

/-- The entry with the deadline `seconds` from now. -/
def expireAfter (e : Entry) (now : Instant) (seconds : Nat) : Entry :=
  { e with deadline := deadlineAfter now seconds }

/-- An entry without a value that expires `seconds` from now. -/
def expiring (now : Instant) (seconds : Nat) : Entry := blank.expireAfter now seconds

/-- The deadline has come. -/
def isExpired (e : Entry) (now : Instant) : Bool := e.deadline.any fun t => decide (t ≤ now)

/-- The value, as long as the deadline has not come. -/
def liveValue? (e : Entry) (now : Instant) : Option String :=
  if e.isExpired now then none else e.value

/-- The seconds that are left before the deadline. -/
def timeLeft? (e : Entry) (now : Instant) : Option Nat := e.deadline.map fun t => t - now

@[simp] theorem isExpired_holding (text : String) (now : Instant) :
    (holding text).isExpired now = false := rfl

@[simp] theorem isExpired_setValue (e : Entry) (text : String) (now : Instant) :
    (e.setValue text).isExpired now = e.isExpired now := rfl

/-- An entry that expires at once is expired. -/
theorem isExpired_expireAfter_zero (e : Entry) {now : Instant} (h : now < clockEnd) :
    (e.expireAfter now 0).isExpired now = true := by
  simp [expireAfter, deadlineAfter, isExpired, h]

/-- An expired entry shows no value. -/
theorem liveValue?_of_isExpired {e : Entry} {now : Instant} (h : e.isExpired now = true) :
    e.liveValue? now = none := by
  simp [liveValue?, h]

end Entry

end Rampart
