import Rampart.Proofs.Disguise
import Rampart.Proofs.PhaseRuns

/-!
# Transactions that bind nothing

A transaction reaches a shared collection only through a binding, and only one kind of action makes
one. A transaction that has bound nothing, asked by rules without such actions, stays so; and every
chain and every phase comes to the same with any other shelf in the place of the one it is given. In
particular it leaves the shelf as it was.
-/

namespace Rampart

/-- The transaction has bound no shared collection. -/
def Transaction.Unbound (t : Transaction) : Prop := t.bindings = []

/-- No action of the rule binds a collection. -/
def Rule.BindsNothing (r : Rule) : Prop := ∀ a ∈ r.actions, a.binds = false

def Chain.BindsNothing (c : Chain) : Prop := ∀ r ∈ c.links, r.BindsNothing

def RuleSet.BindsNothing (s : RuleSet) : Prop := ∀ c ∈ s.all, c.BindsNothing

/-- Another shelf, and the same decisions. -/
def Disguise.ofShelf (s : Shelf) : Disguise := ⟨id, fun _ => s⟩

theorem keepsTargets_ofShelf (s : Shelf) : (Disguise.ofShelf s).KeepsTargets :=
  ⟨fun _ => rfl, fun _ => rfl⟩

/-- An outcome on another shelf. -/
def Outcome.under (o : Outcome) (g : Disguise) : Outcome :=
  { o with exchange := o.exchange.under g }

/-- The run of a phase on another shelf. -/
def PhaseRun.under (run : PhaseRun) (g : Disguise) : PhaseRun :=
  { run with exchange := run.exchange.under g }

/-! ## Chains -/

section Chains

variable {p : Progress} {r : Rule}

theorem unbound_runActions (h : p.exchange.tx.Unbound) (actions : List Action)
    (ha : ∀ a ∈ actions, a.binds = false) : (p.runActions r actions).exchange.tx.Unbound := by
  refine runActions_induction (I := fun q => q.exchange.tx.Unbound) r actions h ?_
  intro q hq a hmem
  exact (bindings_run (ha a hmem) r.info q.exchange q.record).trans hq

theorem Rule.BindsNothing.binds_of_mem_actionsOf (h : r.BindsNothing) {s : Stage} {a : Action}
    (ha : a ∈ r.actionsOf s) : a.binds = false := h a (List.mem_filter.1 ha).1

/-- The actions of any stage do not notice another shelf. -/
theorem runActions_ofShelf (h : p.exchange.tx.Unbound) (hr : r.BindsNothing) (stage : Stage)
    (s : Shelf) :
    (p.under (.ofShelf s)).runActions r (r.actionsOf stage) =
      (p.runActions r (r.actionsOf stage)).under (.ofShelf s) :=
  runActions_under (.inr h) r _ fun _ ha => ⟨hr.binds_of_mem_actionsOf ha, .inr rfl⟩

theorem unbound_runClosing (e : Engine) (h : p.exchange.tx.Unbound) (hr : r.BindsNothing) :
    (e.runClosing p r).exchange.tx.Unbound := by
  have hclosed : (p.runActions r (r.actionsOf .fullMatch)).exchange.tx.Unbound :=
    unbound_runActions h _ fun _ ha => hr.binds_of_mem_actionsOf ha
  unfold Engine.runClosing
  dsimp only
  split
  · exact unbound_runActions hclosed _ fun _ ha => hr.binds_of_mem_actionsOf ha
  · exact hclosed

theorem runClosing_ofShelf (e : Engine) (h : p.exchange.tx.Unbound) (hr : r.BindsNothing)
    (s : Shelf) :
    e.runClosing (p.under (.ofShelf s)) r = (e.runClosing p r).under (.ofShelf s) := by
  have hclosed : (p.runActions r (r.actionsOf .fullMatch)).exchange.tx.Unbound :=
    unbound_runActions h _ fun _ ha => hr.binds_of_mem_actionsOf ha
  unfold Engine.runClosing
  dsimp only
  rw [runActions_ofShelf h hr]
  split
  · exact runActions_ofShelf hclosed hr _ s
  · rfl

/-- Closing a chain binds nothing and does not notice another shelf. -/
theorem close_ofShelf (e : Engine) (head : Rule) {matched : List Rule}
    (h : p.exchange.tx.Unbound) (hmatched : ∀ r ∈ matched, r.BindsNothing) (s : Shelf) :
    e.close head matched (p.under (.ofShelf s)) = (e.close head matched p).under (.ofShelf s) ∧
      (e.close head matched p).exchange.tx.Unbound := by
  have htaken : (p.takeMessage head).exchange.tx.Unbound :=
    (advance_takeMessage p head).exchange.bindings.trans h
  have step (q : Progress) (hq : q.exchange.tx.Unbound) (r : Rule) (hr : r ∈ matched.reverse) :
      e.runClosing (q.under (.ofShelf s)) r = (e.runClosing q r).under (.ofShelf s) ∧
        (e.runClosing q r).exchange.tx.Unbound := by
    have hr' := hmatched r (List.mem_reverse.1 hr)
    exact ⟨runClosing_ofShelf e hq hr' s, unbound_runClosing e hq hr'⟩
  obtain ⟨hclosed, hunbound⟩ := Disguise.foldl_unnoticed
    (I := fun q : Progress => q.exchange.tx.Unbound) (d := fun q => q.under (.ofShelf s))
    matched.reverse step htaken
  refine ⟨?_, hunbound⟩
  unfold Engine.close
  rw [takeMessage_under (.inr h), hclosed]
  rfl

variable {x : Exchange} {c : Chain}

/-- **A chain that binds nothing does not notice another shelf**, and leaves the transaction
unbound. -/
theorem evaluate_ofShelf (e : Engine) (h : x.tx.Unbound) (hc : c.BindsNothing) (s : Shelf) :
    e.evaluate (x.under (.ofShelf s)) c = (e.evaluate x c).under (.ofShelf s) ∧
      (e.evaluate x c).exchange.tx.Unbound := by
  by_cases hmode : e.mode = .off
  · rw [Engine.evaluate, Engine.evaluate, if_pos hmode, if_pos hmode]
    exact ⟨rfl, h⟩
  by_cases hout : x.tx.decision.overrides.removesRule c.id = true
  · have hout' : (x.under (.ofShelf s)).tx.decision.overrides.removesRule c.id = true := hout
    rw [Engine.evaluate, Engine.evaluate, if_neg hmode, if_neg hmode, if_pos hout, if_pos hout']
    exact ⟨rfl, h⟩
  have hin : x.tx.decision.overrides.removesRule c.id = false := Bool.eq_false_iff.2 hout
  have hin' : (x.under (.ofShelf s)).tx.decision.overrides.removesRule c.id = false := hin
  have hsuits : (Disguise.ofShelf s).Suits (Progress.start x c).exchange := .inr h
  have hafter (rules : List Rule) :
      (e.after (.start x c) rules).exchange.tx.Unbound ∧
        e.after (.start (x.under (.ofShelf s)) c) rules =
          (e.after (.start x c) rules).under (.ofShelf s) :=
    ⟨(e.advance_after (.start x c) rules).exchange.bindings.trans h,
      Engine.after_under (keepsTargets_ofShelf s) hsuits rules⟩
  rcases e.closesAt_or_breaksAt x c with ⟨k, hk⟩ | ⟨k, hk⟩
  · have hlinks : ∀ r ∈ c.links.take (k + 1), r.BindsNothing :=
      fun r hr => hc r (List.mem_of_mem_take hr)
    obtain ⟨hunbound, hsame⟩ := hafter (c.links.take (k + 1))
    obtain ⟨hclose, hclosed⟩ := close_ofShelf e c.head hunbound hlinks s
    rw [Engine.evaluate_eq_of_closesAt hmode hin hk,
      Engine.evaluate_eq_of_closesAt hmode hin' (hk.under (keepsTargets_ofShelf s) hsuits)]
    refine ⟨?_, hclosed⟩
    rw [hsame, hclose]
    rfl
  · obtain ⟨hunbound, hsame⟩ := hafter (c.links.take (k + 1))
    rw [Engine.evaluate_of_breaksAt hmode hin hk,
      Engine.evaluate_of_breaksAt hmode hin' (hk.under (keepsTargets_ofShelf s) hsuits)]
    refine ⟨?_, hunbound⟩
    rw [hsame]
    rfl

end Chains

/-! ## Phases -/

theorem PhaseRun.evaluate_ofShelf (e : Engine) {c : Chain} {run : PhaseRun}
    (h : run.exchange.tx.Unbound) (hc : c.BindsNothing) (s : Shelf) :
    (run.under (.ofShelf s)).evaluate e c = (run.evaluate e c).under (.ofShelf s) ∧
      (run.evaluate e c).exchange.tx.Unbound := by
  obtain ⟨hsame, hunbound⟩ := Rampart.evaluate_ofShelf e h hc s
  refine ⟨?_, hunbound⟩
  unfold PhaseRun.evaluate PhaseRun.under
  dsimp only
  rw [hsame]
  rfl

/-- The chains of a phase do not notice another shelf. -/
theorem Runs.ofShelf {e : Engine} {isLogging : Bool} {chains : List Chain} {run run' : PhaseRun}
    (hruns : Runs e isLogging chains run run') (hchains : ∀ c ∈ chains, c.BindsNothing)
    (h : run.exchange.tx.Unbound) (s : Shelf) :
    Handler.runChains e isLogging chains (run.under (.ofShelf s)) = run'.under (.ofShelf s) ∧
      run'.exchange.tx.Unbound := by
  induction hruns with
  | done run => exact ⟨rfl, h⟩
  | @passOver c rest run _ hskip _ ih =>
      have hskip' : 0 < (run.under (.ofShelf s)).exchange.tx.decision.skip := hskip
      rw [Handler.runChains_passOver e isLogging c rest hskip']
      exact ih (fun c hc => hchains c (List.mem_cons_of_mem _ hc)) h
  | @goOn c rest run _ hskip hopen _ ih =>
      have hskip' : (run.under (.ofShelf s)).exchange.tx.decision.skip = 0 := hskip
      obtain ⟨hsame, hunbound⟩ :=
        PhaseRun.evaluate_ofShelf e h (hchains c List.mem_cons_self) s
      have hopen' : isLogging = true ∨
          ((run.under (.ofShelf s)).evaluate e c).isDecided = false := by
        rw [hsame]
        exact hopen
      rw [Handler.runChains_goOn e rest hskip' hopen', hsame]
      exact ih (fun c hc => hchains c (List.mem_cons_of_mem _ hc)) hunbound
  | @stop c rest run hskip hlogging hdecided =>
      have hskip' : (run.under (.ofShelf s)).exchange.tx.decision.skip = 0 := hskip
      obtain ⟨hsame, hunbound⟩ :=
        PhaseRun.evaluate_ofShelf e h (hchains c List.mem_cons_self) s
      have hdecided' : ((run.under (.ofShelf s)).evaluate e c).isDecided = true := by
        rw [hsame]
        exact hdecided
      subst hlogging
      rw [Handler.runChains_stop e rest hskip' hdecided', hsame]
      exact ⟨rfl, hunbound⟩

namespace Handler

/-- Two handlers of the same configuration; their shelves, logs and statistics may differ. -/
structure SameSettings (h h' : Handler) : Prop where
  rules : h'.rules = h.rules
  mode : h'.mode = h.mode
  registry : h'.registry = h.registry
  environment : h'.environment = h.environment

variable {h h' : Handler} {t : Transaction}

theorem SameSettings.symm (hsame : h.SameSettings h') : h'.SameSettings h where
  rules := hsame.rules.symm
  mode := hsame.mode.symm
  registry := hsame.registry.symm
  environment := hsame.environment.symm

theorem SameSettings.trans {h'' : Handler} (h₁ : h.SameSettings h') (h₂ : h'.SameSettings h'') :
    h.SameSettings h'' where
  rules := h₂.rules.trans h₁.rules
  mode := h₂.mode.trans h₁.mode
  registry := h₂.registry.trans h₁.registry
  environment := h₂.environment.trans h₁.environment

theorem sameSettings_processPhase (h : Handler) (t : Transaction) (phase : Nat) (timing : Timing) :
    h.SameSettings (h.processPhase t phase timing).handler := by
  cases hruns : h.runs t phase with
  | false =>
      rw [h.processPhase_of_not_runs timing hruns]
      exact ⟨rfl, rfl, rfl, rfl⟩
  | true =>
      rw [h.processPhase_of_runs timing hruns]
      exact ⟨rfl, rfl, rfl, rfl⟩

theorem ran_of_sameSettings (hsame : h.SameSettings h') (hrules : h.rules.BindsNothing)
    (ht : t.Unbound) (phase : Nat) (timing : Timing) :
    h'.ran t phase timing = (h.ran t phase timing).under (.ofShelf h'.shelf) ∧
      (h.ran t phase timing).exchange.tx.Unbound := by
  have hengine : h'.engine = h.engine := by
    unfold engine
    rw [hsame.mode, hsame.rules]
  have hchains : ∀ c ∈ h.rules.ofPhase phase, c.BindsNothing :=
    fun c hc => hrules c (RuleSet.mem_all_of_mem_ofPhase hc)
  have hran : h'.ran t phase timing = runChains h.engine (phase == loggingPhase)
      (h.rules.ofPhase phase) ((h.begin t phase timing).under (.ofShelf h'.shelf)) := by
    unfold ran
    rw [hengine, hsame.rules]
    rfl
  rw [hran]
  exact (h.runs_ran t phase timing).ofShelf hchains ht h'.shelf

/-- **A phase of an unbound transaction** comes to the same on every handler of the same
configuration, and leaves the transaction unbound. -/
theorem processPhase_of_sameSettings (hsame : h.SameSettings h') (hrules : h.rules.BindsNothing)
    (ht : t.Unbound) (phase : Nat) (timing : Timing) :
    (h'.processPhase t phase timing).outcome = (h.processPhase t phase timing).outcome ∧
      (h'.processPhase t phase timing).tx = (h.processPhase t phase timing).tx ∧
      (h'.processPhase t phase timing).logged = (h.processPhase t phase timing).logged ∧
      (h.processPhase t phase timing).tx.Unbound := by
  have hruns' : h'.runs t phase = h.runs t phase := by
    unfold runs
    rw [hsame.mode]
  cases hruns : h.runs t phase with
  | false =>
      rw [processPhase_of_not_runs timing hruns, processPhase_of_not_runs timing (hruns'.trans hruns)]
      exact ⟨rfl, rfl, rfl, ht⟩
  | true =>
      obtain ⟨hran, hunbound⟩ := ran_of_sameSettings hsame hrules ht phase timing
      rw [processPhase_of_runs timing hruns, processPhase_of_runs timing (hruns'.trans hruns), hran]
      exact ⟨rfl, rfl, rfl, hunbound⟩

/-- A phase of an unbound transaction leaves the shared collections as they are. -/
theorem shelf_processPhase (hrules : h.rules.BindsNothing) (ht : t.Unbound) (phase : Nat)
    (timing : Timing) : (h.processPhase t phase timing).handler.shelf = h.shelf := by
  cases hruns : h.runs t phase with
  | false => rw [processPhase_of_not_runs timing hruns]
  | true =>
      have hself := (ran_of_sameSettings ⟨rfl, rfl, rfl, rfl⟩ hrules ht phase timing).1
      rw [processPhase_of_runs timing hruns]
      exact congrArg (fun run => run.exchange.shelf) hself

end Handler

end Rampart
