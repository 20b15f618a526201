import Mathlib.Data.List.DropRight
import Rampart.MatchLog

/-!
# What a log keeps

A log is written to and cleared, in any order, and its oldest record gives way once there is no room for
the next. What it keeps can be told from the calls alone: the records that came behind the last clearing,
of these the last ones, as many as there is room for. The room is at least for one.

One call keeps this fact, and so does every sequence of calls. What is asked of a log is asked of that tail.
-/

namespace Rampart

/-! ## Ends of lists -/

section Ends

variable {α : Type} (as : List α)

theorem length_rtake (n : Nat) : (as.rtake n).length = min as.length n := by
  unfold List.rtake
  rw [List.length_drop]
  omega

/-- No more is taken from a list than there is. -/
theorem rtake_min_length (n : Nat) : as.rtake (min as.length n) = as.rtake n := by
  unfold List.rtake
  congr 1
  omega

/-- The shorter of two ends is an end of the longer one. -/
theorem rtake_rtake {m n : Nat} (h : m ≤ n) : (as.rtake n).rtake m = as.rtake m := by
  simp only [List.rtake_eq_reverse_take_reverse, List.reverse_reverse, List.take_take]
  rw [Nat.min_eq_left h]

end Ends

/-! ## Calls -/

/-- A call that changes a log. -/
inductive LogCall where
  | add (m : MatchRecord)
  | clear

namespace LogCall

/-- The record that the call writes. -/
def record? : LogCall → Option MatchRecord
  | add m => some m
  | clear => none

/-- The records written behind the last clearing, the oldest first. -/
def sinceClear (calls : List LogCall) : List MatchRecord :=
  (calls.rtakeWhile fun call => call.record?.isSome).filterMap record?

@[simp] theorem sinceClear_nil : sinceClear [] = [] := rfl

@[simp] theorem sinceClear_concat_add (calls : List LogCall) (m : MatchRecord) :
    sinceClear (calls ++ [add m]) = sinceClear calls ++ [m] := by
  unfold sinceClear
  rw [List.rtakeWhile_concat_pos _ _ _ rfl, List.filterMap_append]
  rfl

@[simp] theorem sinceClear_concat_clear (calls : List LogCall) :
    sinceClear (calls ++ [clear]) = [] := by
  unfold sinceClear
  rw [List.rtakeWhile_concat_neg _ _ _ (by simp [record?])]
  rfl

end LogCall

namespace MatchLog

/-- The log after a call. -/
def step (l : MatchLog) : LogCall → MatchLog
  | .add m => l.add m
  | .clear => l.clear

/-- The log after some calls. -/
def run (l : MatchLog) (calls : List LogCall) : MatchLog := calls.foldl step l

/-! ## One call -/

@[simp] theorem settings_step (l : MatchLog) (call : LogCall) : (l.step call).settings = l.settings := by
  cases call with
  | add m =>
      change (l.add m).settings = l.settings
      unfold add
      split <;> rfl
  | clear => rfl

theorem limit_pos (l : MatchLog) : 0 < l.limit := by
  unfold limit
  omega

/-- **A record joins the tail**: the oldest one leaves it if there is no room for both. -/
theorem entries_add {l : MatchLog} (hon : l.settings.enabled = true) {ms : List MatchRecord}
    (h : l.entries = ms.rtake l.limit) (m : MatchRecord) :
    (l.add m).entries = (ms ++ [m]).rtake l.limit := by
  obtain ⟨room, hroom⟩ : ∃ room, l.limit = room + 1 :=
    Nat.exists_eq_succ_of_ne_zero (Nat.pos_iff_ne_zero.1 l.limit_pos)
  have hdrop : l.entries.drop (l.entries.length + 1 - l.limit) = l.entries.rtake room := by
    rw [hroom, Nat.add_sub_add_right]
    rfl
  calc (l.add m).entries
      = l.entries.drop (l.entries.length + 1 - l.limit) ++ [m] := by rw [add, if_pos hon]
    _ = (ms.rtake (room + 1)).rtake room ++ [m] := by rw [hdrop, h, hroom]
    _ = ms.rtake room ++ [m] := by rw [rtake_rtake ms (Nat.le_succ room)]
    _ = (ms ++ [m]).rtake l.limit := by rw [hroom, List.rtake_concat_succ]

/-- A log that is switched off takes no record. -/
theorem add_of_disabled {l : MatchLog} (hoff : l.settings.enabled = false) (m : MatchRecord) :
    l.add m = l := by
  rw [add, hoff, if_neg Bool.false_ne_true]

/-! ## Any calls -/

@[simp] theorem run_nil (l : MatchLog) : l.run [] = l := rfl

@[simp] theorem run_concat (l : MatchLog) (calls : List LogCall) (call : LogCall) :
    l.run (calls ++ [call]) = (l.run calls).step call := by
  unfold run
  rw [List.foldl_append]
  rfl

@[simp] theorem settings_run (l : MatchLog) (calls : List LogCall) :
    (l.run calls).settings = l.settings := by
  induction calls using List.reverseRecOn with
  | nil => rfl
  | append_singleton calls call ih => rw [run_concat, settings_step, ih]

theorem limit_run (l : MatchLog) (calls : List LogCall) : (l.run calls).limit = l.limit := by
  unfold limit
  rw [settings_run]

/-- **What a log keeps** after any calls. -/
theorem entries_run {s : MatchLogSettings} (hon : s.enabled = true) (calls : List LogCall) :
    ((empty s).run calls).entries = (LogCall.sinceClear calls).rtake (empty s).limit := by
  -- on the last call, since the tail is that of the calls so far
  induction calls using List.reverseRecOn with
  | nil => simp
  | append_singleton calls call ih =>
      have hon' : ((empty s).run calls).settings.enabled = true := by
        rw [settings_run]
        exact hon
      rw [run_concat]
      cases call with
      | add m =>
          rw [← limit_run _ calls] at ih ⊢
          rw [LogCall.sinceClear_concat_add]
          exact entries_add hon' ih m
      | clear =>
          rw [LogCall.sinceClear_concat_clear, List.rtake_nil]
          rfl

theorem entries_run_of_disabled {s : MatchLogSettings} (hoff : s.enabled = false)
    (calls : List LogCall) : ((empty s).run calls).entries = [] := by
  induction calls using List.reverseRecOn with
  | nil => rfl
  | append_singleton calls call ih =>
      have hoff' : ((empty s).run calls).settings.enabled = false := by
        rw [settings_run]
        exact hoff
      rw [run_concat]
      cases call with
      | add m =>
          change (((empty s).run calls).add m).entries = []
          rw [add_of_disabled hoff', ih]
      | clear => rfl

/--
**The log is the tail of what was logged.**

After any calls a log that is switched on keeps the last of the records that were written behind the last
clearing, in order, as many as there is room for, and always room for one. It shows the newest of them
first, and each question about a rule, a severity, a transaction or the ends of chains is answered by those
of them that it is about, in order. A log that is switched off keeps nothing.
-/
theorem keeps_tail_of_logged (s : MatchLogSettings) (calls : List LogCall) :
    let l := (empty s).run calls
    let logged := LogCall.sinceClear calls
    let kept := logged.rtake (min logged.length (max 1 s.maxEntries))
    (s.enabled = true →
      l.entries = kept ∧
        l.size = min logged.length (max 1 s.maxEntries) ∧
        (∀ count, l.recent count = kept.reverse.take count) ∧
        (∀ id, l.ofRule id = kept.filter fun m => m.ruleId = id) ∧
        l.final = kept.filter (fun m => m.isFinal) ∧
        (∀ v, l.severe v = kept.filter fun m => ∃ w ∈ m.severity, w.level ≤ v.level) ∧
        ∀ id, l.ofTransaction id = kept.filter fun m => m.transactionId = id) ∧
      (s.enabled = false → l.entries = []) := by
  intro l logged kept
  refine ⟨fun hon => ?_, fun hoff => entries_run_of_disabled hoff calls⟩
  have hkept : l.entries = kept :=
    (entries_run hon calls).trans (rtake_min_length logged _).symm
  have hsize : l.size = min logged.length (max 1 s.maxEntries) := by
    rw [size, hkept, length_rtake]
    omega
  have hsevere (v : Severity) (m : MatchRecord) :
      (m.severity.any fun w => w.atLeast v) = decide (∃ w ∈ m.severity, w.level ≤ v.level) := by
    cases m.severity <;> simp [Severity.atLeast]
  refine ⟨hkept, hsize, ?_, ?_, ?_, ?_, ?_⟩
  · intro count
    rw [recent, hkept]
  · intro id
    rw [ofRule, hkept]
    rfl
  · rw [final, hkept]
  · intro v
    rw [severe, hkept]
    exact List.filter_congr fun m _ => hsevere v m
  · intro id
    rw [ofTransaction, hkept]
    rfl

/-- A record of a rule. -/
def recordOf (id : Int) : MatchRecord := { ruleId := id, severity := some .critical }

/-- The log is cleared once, and then written to once more than it has room for. -/
def overflowing : List LogCall :=
  [.add (recordOf 1), .clear, .add (recordOf 2), .add (recordOf 3), .add (recordOf 4)]

theorem keeps_tail_of_logged_overflowing :
    let s : MatchLogSettings := { maxEntries := 2 }
    s.enabled = true ∧
      ((empty s).run overflowing).entries = [recordOf 3, recordOf 4] ∧
      ((empty s).run overflowing).recent 1 = [recordOf 4] ∧
      ((empty s).run overflowing).severe .error = [recordOf 3, recordOf 4] ∧
      ({ s with enabled := false } : MatchLogSettings).enabled = false ∧
      ((empty { s with enabled := false }).run overflowing).entries = [] := by
  intro s
  obtain ⟨hkept, -, hrecent, -, -, hsevere, -⟩ := (keeps_tail_of_logged s overflowing).1 rfl
  refine ⟨rfl, hkept, hrecent 1, (hsevere .error).trans (by decide), rfl, ?_⟩
  exact (keeps_tail_of_logged { s with enabled := false } overflowing).2 rfl

/-- A limit of zero leaves room for one record. -/
example :
    ((empty { maxEntries := 0 }).run [.add (recordOf 1), .add (recordOf 2)]).entries =
      [recordOf 2] := by decide

end MatchLog

end Rampart
