import Rampart.Proofs.History

/-!
# Reading back what was written

A write to the first entry of a key keeps the deadline of that entry, and a read passes over an
entry whose deadline has come. So what is written over an expired entry is not read back: the read
shows what it would have shown without the write, and then removes the key with the new text in it.
A read of the key before the write removes the expired entry and makes room for a lasting one.
-/

namespace Rampart

namespace Collection

variable {c : Collection} {now : Instant} {key : String}

/-- The first entry under the key has expired and is still there. -/
def firstExpired (c : Collection) (now : Instant) (key : String) : Bool :=
  (c.entriesAt key).head?.any (·.isExpired now)

/-- A read of the first value shows the first entry that is live. -/
theorem readFirst_fst (c : Collection) (now : Instant) (key : String) :
    (c.readFirst now key).1 = (c.entriesAt key).findSome? (·.liveValue? now) := by
  unfold readFirst entriesAt
  dsimp only
  cases c.find? key with
  | none => rfl
  | some b => exact List.head?_filterMap

theorem findSome?_setValue (e : Entry) (es : List Entry) (text : String) (now : Instant) :
    (e.setValue text :: es).findSome? (·.liveValue? now) =
      if e.isExpired now then (e :: es).findSome? (·.liveValue? now) else some text := by
  rw [List.findSome?_cons, List.findSome?_cons]
  unfold Entry.liveValue?
  rw [Entry.isExpired_setValue]
  cases e.isExpired now with
  | true => rfl
  | false => rfl

/-- A read of the first value leaves no expired entry in front. -/
theorem firstExpired_readFirst (c : Collection) (now : Instant) (key : String) :
    (c.readFirst now key).2.firstExpired now key = false := by
  have hleft : (c.readFirst now key).2.entriesAt key =
      if (c.entriesAt key).any (·.isExpired now) then [] else c.entriesAt key := by
    rw [← empties_sameText]
    exact entriesAt_purge c now (Text.sameText · key) key
  unfold firstExpired
  rw [hleft]
  cases hes : c.entriesAt key with
  | nil => rfl
  | cons e es =>
      rw [List.any_cons]
      cases he : e.isExpired now with
      | true => rfl
      | false =>
          split
          · rfl
          · exact he

/-- **What is written is read back**, in every spelling of its key, unless it was written over an
expired entry; then the read shows what it would have shown without the write. No write is lost
behind a read of its key. -/
theorem read_after_setFirst (c : Collection) (now : Instant) {key key' : String}
    (h : Text.sameText key key' = true) (text : String) :
    ((c.setFirst key text).readFirst now key').1 =
        (if c.firstExpired now key then (c.readFirst now key').1 else some text) ∧
      (((c.readFirst now key).2.setFirst key text).readFirst now key').1 = some text := by
  have written (d : Collection) : ((d.setFirst key text).readFirst now key').1 =
      if d.firstExpired now key then (d.readFirst now key').1 else some text := by
    have hentries : (d.setFirst key text).entriesAt key' =
        Write.effect now (.setFirst text) (d.entriesAt key') := by
      have hwrite := entriesAt_write d now key (.setFirst text) key'
      rw [if_pos h] at hwrite
      exact hwrite
    rw [readFirst_fst, readFirst_fst, hentries, firstExpired, entriesAt_congr h]
    cases d.entriesAt key' with
    | nil => rfl
    | cons e es => exact findSome?_setValue e es text now
  refine ⟨written c, ?_⟩
  have hafter := written (c.readFirst now key).2
  rw [firstExpired_readFirst, if_neg Bool.false_ne_true] at hafter
  exact hafter

/-- A counter that has expired and has not been read since. -/
def lapsedHits : Collection :=
  ((empty "IP").write 0 "hits" (.setFirst "5")).write 0 "hits" (.expire 0)

/-- The text written over the expired counter is not there. -/
theorem write_over_expired_lost :
    lapsedHits.Reached ∧ Text.sameText "hits" "HITS" = true ∧
      ((lapsedHits.setFirst "hits" "6").readFirst 0 "HITS").1 ≠ some "6" :=
  ⟨((Reached.empty "IP").write 0 "hits" _).write 0 "hits" _, by decide +kernel, by decide +kernel⟩

/-- A counter that is still to expire takes the text. -/
theorem read_after_setFirst_hits :
    let hits := ((empty "IP").write 0 "hits" (.setFirst "5")).write 0 "hits" (.expire 60)
    Text.sameText "hits" "HITS" = true ∧
      ((hits.setFirst "hits" "6").readFirst 0 "HITS").1 = some "6" ∧
      (((hits.readFirst 0 "hits").2.setFirst "hits" "6").readFirst 0 "HITS").1 = some "6" := by
  intro hits
  have hkey : Text.sameText "hits" "HITS" = true := by decide +kernel
  have hwaiting : hits.firstExpired 0 "hits" = false := by decide +kernel
  obtain ⟨hread, hafter⟩ := read_after_setFirst hits 0 hkey "6"
  rw [hwaiting] at hread
  exact ⟨hkey, hread, hafter⟩

end Collection

end Rampart
