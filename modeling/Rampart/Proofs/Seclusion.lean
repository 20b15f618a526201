import Rampart.Proofs.Session
import Rampart.Proofs.Unbound

/-!
# Unbound transactions do not meet

A handler serves the calls about its transactions in any order, and hands the shared collections on
from one to the next. As long as no transaction binds one, none of them notices the others: what
becomes of it is what becomes of the only transaction of another handler of the same configuration
that gets the calls about it, and no others, in their order.

`Secludes` ties the two sessions together. It is kept by every call, whether the call is about the
transaction, and then both sessions get it, or about another one.
-/

namespace Rampart

/-- What a list holds under a number. -/
def ofNumber {α : Type} (i : Nat) (entries : List (Nat × α)) : List α :=
  (entries.filter fun e => e.1 == i).map (·.2)

theorem ofNumber_append {α : Type} (i : Nat) (as bs : List (Nat × α)) :
    ofNumber i (as ++ bs) = ofNumber i as ++ ofNumber i bs := by
  unfold ofNumber
  rw [List.filter_append, List.map_append]

theorem ofNumber_self {α : Type} (i : Nat) (as : List α) :
    ofNumber i (as.map fun a => (i, a)) = as := by
  unfold ofNumber
  rw [List.filter_eq_self.2 (by simp), List.map_map]
  exact List.map_id as

theorem ofNumber_other {α : Type} {i j : Nat} (h : j ≠ i) (as : List α) :
    ofNumber i (as.map fun a => (j, a)) = [] := by
  unfold ofNumber
  rw [List.filter_eq_nil_iff.2 (by simp [h]), List.map_nil]

namespace Call

/-- The call as one to a session of the transaction with the number `i` alone, if it is about that
transaction; `n` transactions have been started before. -/
def alone (i n : Nat) : Call → List Call
  | start id time => if n = i then [start id time] else []
  | learn number f => if number = i then [learn 0 f] else []
  | phase number k timing => if number = i then [phase 0 k timing] else []

/-- The number of transactions after a call. -/
def count (n : Nat) : Call → Nat
  | start _ _ => n + 1
  | _ => n

/-- The calls about the transaction with the number `i`. -/
def allAlone (i : Nat) : Nat → List Call → List Call
  | _, [] => []
  | n, call :: rest => call.alone i n ++ allAlone i (call.count n) rest

end Call

namespace Session

/-- The records that a call logs, each with the number of the transaction. -/
def records (s : Session) : Call → List (Nat × MatchRecord)
  | .phase number phase timing =>
    match s.transactions[number]? with
    | none => []
    | some t => (s.handler.processPhase t phase timing).logged.map fun m => (number, m)
  | _ => []

/-- The records that calls log, oldest first. -/
def logged (s : Session) : List Call → List (Nat × MatchRecord)
  | [] => []
  | call :: rest => s.records call ++ (s.step call).1.logged rest

variable {s alone : Session} {i : Nat} {t : Transaction}

theorem records_phase (hi : s.transactions[i]? = some t) (phase : Nat) (timing : Timing) :
    s.records (.phase i phase timing) =
      (s.handler.processPhase t phase timing).logged.map fun m => (i, m) := by
  rw [records, hi]

/-! ## Calls one after the other -/

theorem run_append (s : Session) (first later : List Call) :
    s.run (first ++ later) =
      (((s.run first).1.run later).1, (s.run first).2 ++ ((s.run first).1.run later).2) := by
  induction first generalizing s with
  | nil => rfl
  | cons call rest ih =>
      rw [List.cons_append, run, run, ih, List.append_assoc]

theorem logged_append (s : Session) (first later : List Call) :
    s.logged (first ++ later) = s.logged first ++ (s.run first).1.logged later := by
  induction first generalizing s with
  | nil => rfl
  | cons call rest ih =>
      rw [List.cons_append, logged, logged, ih, List.append_assoc]
      rfl

theorem run_one (s : Session) (call : Call) :
    s.run [call] = ((s.step call).1, (s.step call).2.toList) := by
  rw [run, run, List.append_nil]

theorem logged_one (s : Session) (call : Call) : s.logged [call] = s.records call := by
  rw [logged, logged, List.append_nil]

theorem log_processPhase (h : Handler) (t : Transaction) (phase : Nat) (timing : Timing) :
    (h.processPhase t phase timing).handler.log =
      h.log.addAll (h.processPhase t phase timing).logged := by
  cases hruns : h.runs t phase with
  | false =>
      rw [h.processPhase_of_not_runs timing hruns]
      rfl
  | true =>
      rw [h.processPhase_of_runs timing hruns]
      rfl

theorem log_step (s : Session) (call : Call) :
    (s.step call).1.handler.log = s.handler.log.addAll ((s.records call).map (·.2)) := by
  cases call with
  | start id time => rfl
  | learn number f => rfl
  | phase number phase timing =>
      rw [step, records]
      cases s.transactions[number]? with
      | none => rfl
      | some t =>
          dsimp only
          rw [List.map_map, Function.comp_def, List.map_id', log_processPhase]

/-- What calls log is what the log of the handler gets. -/
theorem log_run (s : Session) (calls : List Call) :
    (s.run calls).1.handler.log = s.handler.log.addAll ((s.logged calls).map (·.2)) := by
  induction calls generalizing s with
  | nil => rfl
  | cons call rest ih =>
      rw [run, logged, List.map_append, ih, log_step]
      exact List.foldl_append.symm

/-! ## Sessions that bind nothing -/

/-- No transaction of the session has bound a shared collection, and no rule binds one. -/
structure Unbound (s : Session) : Prop where
  rules : s.handler.rules.BindsNothing
  transactions : ∀ t ∈ s.transactions, t.Unbound

theorem Unbound.getElem? (h : s.Unbound) (hi : s.transactions[i]? = some t) : t.Unbound :=
  h.transactions t (List.mem_of_getElem? hi)

theorem Unbound.step (h : s.Unbound) (call : Call) : (s.step call).1.Unbound := by
  cases call with
  | start id time =>
      refine ⟨h.rules, ?_⟩
      intro t ht
      rcases List.mem_append.1 ht with ht | ht
      · exact h.transactions t ht
      · rw [List.mem_singleton.1 ht]
        rfl
  | learn number f =>
      refine ⟨h.rules, ?_⟩
      intro t ht
      rcases mem_step_learn ht with ht | ⟨t₀, ht₀, rfl⟩
      · exact h.transactions t ht
      · exact h.transactions t₀ ht₀
  | phase number phase timing =>
      cases hnumber : s.transactions[number]? with
      | none =>
          have hidle : (s.step (.phase number phase timing)).1 = s := by
            rw [Session.step, hnumber]
          rw [hidle]
          exact h
      | some t₀ =>
          rw [step_phase hnumber]
          have hsettings := s.handler.sameSettings_processPhase t₀ phase timing
          refine ⟨hsettings.rules ▸ h.rules, ?_⟩
          intro t ht
          rcases List.mem_or_eq_of_mem_set ht with ht | rfl
          · exact h.transactions t ht
          · exact (Handler.processPhase_of_sameSettings hsettings h.rules (h.getElem? hnumber)
              phase timing).2.2.2

/-! ## One transaction alone -/

/-- Beside a session, another one of the same configuration that has only the transaction with the
number `i`, and that as it is in the first one. -/
structure Secludes (i : Nat) (s alone : Session) : Prop where
  settings : s.handler.SameSettings alone.handler
  transactions : alone.transactions = s.transactions[i]?.toList

/-- What a call comes to if the other session gets it too, where it is about the transaction. -/
structure Echoes (i : Nat) (s alone : Session) (call : Call) (own : List Call) : Prop where
  secludes : (s.step call).1.Secludes i (alone.run own).1
  outcomes : (alone.run own).2.map (·.2) = ofNumber i (s.step call).2.toList
  logged : (alone.logged own).map (·.2) = ofNumber i (s.records call)

theorem sameSettings_step (s : Session) (call : Call) :
    s.handler.SameSettings (s.step call).1.handler := by
  cases call with
  | start id time => exact ⟨rfl, rfl, rfl, rfl⟩
  | learn number f => exact ⟨rfl, rfl, rfl, rfl⟩
  | phase number phase timing =>
      rw [step]
      split
      · exact ⟨rfl, rfl, rfl, rfl⟩
      · exact s.handler.sameSettings_processPhase _ phase timing

/-- A call that leaves the transaction as it is, and reports nothing of it, is not missed. -/
theorem Secludes.ignore (h : s.Secludes i alone) {call : Call}
    (htransactions : (s.step call).1.transactions[i]? = s.transactions[i]?)
    (houtcomes : ofNumber i (s.step call).2.toList = [])
    (hlogged : ofNumber i (s.records call) = []) : Echoes i s alone call [] where
  secludes := by
    refine ⟨(s.sameSettings_step call).symm.trans h.settings, ?_⟩
    rw [htransactions]
    exact h.transactions
  outcomes := houtcomes.symm
  logged := hlogged.symm

theorem Secludes.start (h : s.Secludes i alone) (id : String) (time : Int) :
    Echoes i s alone (.start id time) ((Call.start id time).alone i s.transactions.length) := by
  let t := (s.handler.newTransaction id time).1
  have hstep : (s.step (.start id time)).1.transactions = s.transactions ++ [t] := rfl
  rw [Call.alone]
  split
  · rename_i hlast
    have hnone : alone.transactions = [] := by
      rw [h.transactions, List.getElem?_eq_none (Nat.le_of_eq hlast)]
      rfl
    have hnew : (alone.handler.newTransaction id time).1 = t := by
      unfold t Handler.newTransaction
      rw [h.settings.registry, h.settings.environment]
    refine ⟨⟨⟨h.settings.rules, h.settings.mode, h.settings.registry, h.settings.environment⟩, ?_⟩,
      rfl, rfl⟩
    rw [run_one, hstep, ← hlast, List.getElem?_concat_length, step, hnone, hnew]
    rfl
  · rename_i hother
    refine h.ignore ?_ rfl rfl
    rw [hstep]
    rcases Nat.lt_or_gt_of_ne hother with hlt | hgt
    · have hlength : (s.transactions ++ [t]).length ≤ i := by
        rw [List.length_append, List.length_singleton]
        exact hlt
      rw [List.getElem?_eq_none (Nat.le_of_lt hlt), List.getElem?_eq_none hlength]
    · exact List.getElem?_append_left hgt

theorem Secludes.learn (h : s.Secludes i alone) (number : Nat) (f : Request → Request) :
    Echoes i s alone (.learn number f) ((Call.learn number f).alone i s.transactions.length) := by
  rw [Call.alone]
  split
  · rename_i hsame
    subst hsame
    refine ⟨⟨h.settings, ?_⟩, rfl, rfl⟩
    rw [run_one, step, step, h.transactions]
    dsimp only
    rw [List.getElem?_modify]
    cases s.transactions[number]? with
    | none => rfl
    | some t => simp
  · rename_i hother
    refine h.ignore ?_ rfl rfl
    rw [step, List.getElem?_modify]
    simp [hother]

/-- Neither session notices a phase of a transaction that does not exist. -/
theorem Secludes.missing (h : s.Secludes i alone) (hi : s.transactions[i]? = none) (phase : Nat)
    (timing : Timing) : Echoes i s alone (.phase i phase timing) [.phase 0 phase timing] := by
  have hnone : alone.transactions[0]? = none := by
    rw [h.transactions, hi]
    rfl
  have hidle {s' : Session} {j : Nat} (hj : s'.transactions[j]? = none) :
      s'.step (.phase j phase timing) = (s', none) ∧ s'.records (.phase j phase timing) = [] := by
    rw [step, records, hj]
    exact ⟨rfl, rfl⟩
  obtain ⟨hstep, hrecords⟩ := hidle hi
  obtain ⟨hstep', hrecords'⟩ := hidle hnone
  refine ⟨?_, ?_, ?_⟩
  · rw [run_one, hstep, hstep']
    exact h
  · rw [run_one, hstep, hstep']
    rfl
  · rw [logged_one, hrecords, hrecords']
    rfl

/-- Both sessions run a phase of the transaction with the same outcome. -/
theorem Secludes.own (h : s.Secludes i alone) (hs : s.Unbound) (hi : s.transactions[i]? = some t)
    (phase : Nat) (timing : Timing) :
    Echoes i s alone (.phase i phase timing) [.phase 0 phase timing] := by
  have hlt := (List.getElem?_eq_some_iff.1 hi).1
  have hzero : alone.transactions = [t] := by
    rw [h.transactions, hi]
    rfl
  have hi' : alone.transactions[0]? = some t := by
    rw [hzero]
    rfl
  obtain ⟨houtcome, htx, hlogged, -⟩ := Handler.processPhase_of_sameSettings h.settings hs.rules
    (hs.getElem? hi) phase timing
  have hkept := s.handler.sameSettings_processPhase t phase timing
  have hkept' := alone.handler.sameSettings_processPhase t phase timing
  refine ⟨⟨?_, ?_⟩, ?_, ?_⟩
  · rw [run_one, step_phase hi, step_phase hi']
    exact hkept.symm.trans (h.settings.trans hkept')
  · rw [run_one, step_phase hi, step_phase hi', List.getElem?_set_self hlt, hzero, htx]
    rfl
  · rw [run_one, step_phase hi, step_phase hi', houtcome]
    exact (ofNumber_self i [_]).symm
  · rw [logged_one, records_phase hi, records_phase hi', hlogged, ofNumber_self, List.map_map]
    exact List.map_id _

/-- A phase of another transaction is not missed. -/
theorem Secludes.other (h : s.Secludes i alone) {number : Nat} (hother : number ≠ i) (phase : Nat)
    (timing : Timing) : Echoes i s alone (.phase number phase timing) [] := by
  cases hnumber : s.transactions[number]? with
  | none =>
      refine h.ignore ?_ ?_ ?_
      · rw [step, hnumber]
      · rw [step, hnumber]
        rfl
      · rw [records, hnumber]
        rfl
  | some t =>
      refine h.ignore ?_ ?_ ?_
      · rw [step_phase hnumber]
        exact List.getElem?_set_ne hother
      · rw [step_phase hnumber]
        exact ofNumber_other hother [_]
      · rw [records_phase hnumber]
        exact ofNumber_other hother _

/-- **A call keeps a transaction secluded.** -/
theorem Secludes.step (h : s.Secludes i alone) (hs : s.Unbound) (call : Call) :
    Echoes i s alone call (call.alone i s.transactions.length) := by
  cases call with
  | start id time => exact h.start id time
  | learn number f => exact h.learn number f
  | phase number phase timing =>
      rw [Call.alone]
      split
      · rename_i hsame
        subst hsame
        cases hi : s.transactions[number]? with
        | none => exact h.missing hi phase timing
        | some t => exact h.own hs hi phase timing
      · rename_i hother
        exact h.other hother phase timing

theorem length_step (s : Session) (call : Call) :
    (s.step call).1.transactions.length = call.count s.transactions.length := by
  cases call with
  | start id time => exact List.length_append
  | learn number f => exact List.length_modify ..
  | phase number phase timing =>
      rw [Session.step]
      split
      · rfl
      · exact List.length_set

theorem Secludes.run (h : s.Secludes i alone) (hs : s.Unbound) (calls : List Call) :
    let own := Call.allAlone i s.transactions.length calls
    (s.run calls).1.Secludes i (alone.run own).1 ∧
      (alone.run own).2.map (·.2) = ofNumber i (s.run calls).2 ∧
      (alone.logged own).map (·.2) = ofNumber i (s.logged calls) := by
  induction calls generalizing s alone with
  | nil => exact ⟨h, rfl, rfl⟩
  | cons call rest ih =>
      obtain ⟨hfirst, houtcome, hrecords⟩ := h.step hs call
      obtain ⟨hlater, houtcomes, hlogged⟩ := ih hfirst (hs.step call)
      rw [length_step] at hlater houtcomes hlogged
      dsimp only
      rw [Call.allAlone, run_append, logged_append, Session.run, Session.logged, List.map_append,
        List.map_append, ofNumber_append, ofNumber_append, houtcome, hrecords, houtcomes, hlogged]
      exact ⟨hlater, rfl, rfl⟩

theorem shelf_step (h : s.Unbound) (call : Call) :
    (s.step call).1.handler.shelf = s.handler.shelf := by
  cases call with
  | start id time => rfl
  | learn number f => rfl
  | phase number phase timing =>
      cases hnumber : s.transactions[number]? with
      | none => rw [step, hnumber]
      | some t =>
          rw [step_phase hnumber]
          exact Handler.shelf_processPhase h.rules (h.getElem? hnumber) phase timing

theorem shelf_run (h : s.Unbound) (calls : List Call) :
    (s.run calls).1.handler.shelf = s.handler.shelf := by
  induction calls generalizing s with
  | nil => rfl
  | cons call rest ih => exact (ih (h.step call)).trans (shelf_step h call)

/--
**Unbound transactions do not meet.**

Whatever calls a handler gets about transactions that bind no shared collection, and whatever else
these calls are about: a transaction becomes what it becomes if another handler of the same
configuration gets the calls about it alone, with the same outcomes and the same records. What the
calls log is what the log of the handler gets, and the shared collections stay as they are.
-/
theorem unbound_transactions_do_not_meet {s : Session} {h : Handler}
    (hsettings : s.handler.SameSettings h) (hunbound : s.Unbound) (calls : List Call) :
    (∀ i,
      let alone : Session := ⟨h, s.transactions[i]?.toList⟩
      let own := Call.allAlone i s.transactions.length calls
      (alone.run own).1.transactions = (s.run calls).1.transactions[i]?.toList ∧
        (alone.run own).2.map (·.2) = ofNumber i (s.run calls).2 ∧
        (alone.logged own).map (·.2) = ofNumber i (s.logged calls)) ∧
    (s.run calls).1.handler.log = s.handler.log.addAll ((s.logged calls).map (·.2)) ∧
    (s.run calls).1.handler.shelf = s.handler.shelf := by
  refine ⟨?_, s.log_run calls, shelf_run hunbound calls⟩
  intro i alone own
  have hstart : s.Secludes i alone := ⟨hsettings, rfl⟩
  obtain ⟨hsecludes, houtcomes, hlogged⟩ := hstart.run hunbound calls
  exact ⟨hsecludes.transactions, houtcomes, hlogged⟩

/-- The name of a counter. -/
def hits : MacroText := ⟨"hits", [.literal ['h', 'i', 't', 's']]⟩

/-- A handler whose rule counts in a collection of the transaction, and would do so in a shared one
if it was bound. -/
def counting : Handler where
  name := "counting"
  rules :=
    RuleSet.empty.addAll
      [⟨{ Engine.plainRule 1 false with
          actions := [.setVar .ip hits .one, .setVar .tx hits (.add ⟨"1", [.literal ['1']]⟩)] },
        []⟩]
  mode := .on
  registry := ⟨[("IP", 0)]⟩
  shelf := ⟨[.empty "IP"]⟩
  log := .empty {}
  environment := .empty
  statistics := .none

/-- Two transactions that take turns. -/
def countingCalls : List Call :=
  [.start "a" 0, .start "b" 0, .phase 0 2 ⟨0, 0⟩, .phase 1 2 ⟨1, 0⟩, .phase 0 2 ⟨2, 0⟩]

/-- The first one has counted its own two phases. -/
theorem unbound_transactions_do_not_meet_counting :
    counting.SameSettings counting ∧ (new counting).Unbound ∧
      ((new counting).run countingCalls).1.transactions[0]?.toList =
        ((new counting).run [.start "a" 0, .phase 0 2 ⟨0, 0⟩, .phase 0 2 ⟨2, 0⟩]).1.transactions ∧
      ((new counting).run countingCalls).1.handler.shelf = ⟨[.empty "IP"]⟩ := by
  have hsettings : counting.SameSettings counting := ⟨rfl, rfl, rfl, rfl⟩
  have hunbound : (new counting).Unbound := by
    refine ⟨?_, List.forall_mem_nil _⟩
    unfold RuleSet.BindsNothing Chain.BindsNothing Rule.BindsNothing
    decide
  obtain ⟨halone, -, hshelf⟩ := unbound_transactions_do_not_meet hsettings hunbound countingCalls
  exact ⟨hsettings, hunbound, (halone 0).1.symm, hshelf⟩

end Session

end Rampart
