import Rampart.Proofs.RuleIndex

/-!
# Loading in spite of faults

Rules and exceptions are loaded one after the other, and each is either left out by request, taken, or
refused with an error. One that is not taken leaves no trace in what is loaded, so the same comes of
the settings without it. For exceptions this is immediate, since no exception minds another. A rule
can be refused because of the rules before it, but only because of those that were taken.
-/

namespace Rampart

/-- What becomes of an entry of the settings. -/
inductive Fate (β : Type) where
  /-- It is left out by request. -/
  | removed
  /-- It is taken, as what it was read as. -/
  | loaded (b : β)
  /-- It is refused. -/
  | rejected (e : Error)

namespace Fate

variable {β : Type}

/-- What was taken. -/
def loaded? : Fate β → Option β
  | loaded b => some b
  | _ => none

/-- The error with which the entry was refused. -/
def error? : Fate β → Option Error
  | rejected e => some e
  | _ => none

@[simp] theorem loaded?_removed : (removed : Fate β).loaded? = none := rfl
@[simp] theorem loaded?_loaded (b : β) : (loaded b).loaded? = some b := rfl
@[simp] theorem loaded?_rejected (e : Error) : (rejected e : Fate β).loaded? = none := rfl
@[simp] theorem error?_removed : (removed : Fate β).error? = none := rfl
@[simp] theorem error?_loaded (b : β) : (loaded b).error? = none := rfl
@[simp] theorem error?_rejected (e : Error) : (rejected e : Fate β).error? = some e := rfl

/-- The entries that were taken. -/
def kept {α : Type} (as : List α) (fates : List (Fate β)) : List α :=
  ((as.zip fates).filter fun p => p.2.loaded?.isSome).map Prod.fst

theorem kept_cons {α : Type} (a : α) (as : List α) (f : Fate β) (fates : List (Fate β)) :
    kept (a :: as) (f :: fates) = if f.loaded?.isSome then a :: kept as fates else kept as fates := by
  unfold kept
  rw [List.zip_cons_cons, List.filter_cons]
  split
  · rfl
  · rfl

end Fate

/-! ## Any loader -/

/-- A way to load entries onto a state: what becomes of an entry, and the state after one that is
taken. -/
structure Loader (σ α β : Type) where
  fate : σ → α → Fate β
  put : σ → β → σ

namespace Loader

variable {σ α β : Type} (l : Loader σ α β)

/-- The state after an entry. Only one that is taken changes it. -/
def after (s : σ) : Fate β → σ
  | .loaded b => l.put s b
  | _ => s

/-- Loads one more entry and collects the error with which it may be refused. -/
def step (acc : σ × List Error) (a : α) : σ × List Error :=
  (l.after acc.1 (l.fate acc.1 a), acc.2 ++ (l.fate acc.1 a).error?.toList)

/-- What becomes of entries that are loaded one after the other. -/
def fates (s : σ) : List α → List (Fate β)
  | [] => []
  | a :: as => l.fate s a :: fates (l.after s (l.fate s a)) as

/-- Loading puts what was taken onto the state and collects the errors, both in order. -/
theorem foldl_step (s : σ) (es : List Error) (as : List α) :
    as.foldl l.step (s, es) =
      (((l.fates s as).filterMap Fate.loaded?).foldl l.put s,
        es ++ (l.fates s as).filterMap Fate.error?) := by
  induction as generalizing s es with
  | nil => simp [fates]
  | cons a as ih =>
      rw [List.foldl_cons, step, ih, fates]
      cases l.fate s a with
      | removed => simp [after, List.filterMap_cons]
      | loaded b => simp [after, List.filterMap_cons]
      | rejected e => simp [after, List.filterMap_cons]

/-- **What is not taken leaves no trace**: the entries that are taken come to the same by themselves,
without an error. -/
theorem foldl_step_kept (s : σ) (es : List Error) (as : List α) :
    (Fate.kept as (l.fates s as)).foldl l.step (s, es) = ((as.foldl l.step (s, es)).1, es) := by
  induction as generalizing s es with
  | nil => rfl
  | cons a as ih =>
      have hstate : (as.foldl l.step (l.step (s, es) a)).1 =
          (as.foldl l.step (l.after s (l.fate s a), es)).1 := by
        rw [step, foldl_step, foldl_step]
      rw [List.foldl_cons, hstate, ← ih]
      cases hfate : l.fate s a with
      | removed => simp [fates, hfate, Fate.kept_cons, after]
      | rejected e => simp [fates, hfate, Fate.kept_cons, after]
      | loaded b => simp [fates, hfate, Fate.kept_cons, after, step]

end Loader

/-! ## Exceptions -/

/-- The error with which an exception is refused. -/
def ExceptionSettings.error? (s : ExceptionSettings) : Option Error :=
  match Exceptions.none.add s with
  | .ok _ => none
  | .error e => some e

namespace Exceptions

/-- Exceptions as they are loaded. -/
def loader : Loader Exceptions ExceptionSettings Exceptions where
  fate e s :=
    match e.add s with
    | .ok e' => .loaded e'
    | .error err => .rejected err
  put _ e' := e'

theorem load_eq : load = loader.step := by
  funext acc s
  cases h : acc.1.add s with
  | ok e' => simp [load, Loader.step, Loader.after, loader, h]
  | error err => simp [load, Loader.step, Loader.after, loader, h]

/-- Whether an exception is refused does not depend on the others. -/
theorem error?_fate (e : Exceptions) (s : ExceptionSettings) :
    (loader.fate e s).error? = s.error? := by
  -- only the targets are read, and what the exception is added to does not matter for them
  have key (targets : List String) (f g : List Variable → Exceptions) :
      (match (targetsOf targets).map f with
        | .ok e' => Fate.loaded e'
        | .error err => .rejected err).error? =
      match (targetsOf targets).map g with
        | .ok _ => .none
        | .error err => some err := by
    cases targetsOf targets with
    | ok vs => rfl
    | error err => rfl
  rcases s with ⟨_ | tag, _ | message, _ | id, targets⟩
  · rfl
  · exact key targets _ _
  · exact key targets _ _
  · rfl
  · exact key targets _ _
  · rfl
  · rfl
  · rfl

/-- No exception is left out, so one is taken exactly if it is not refused. -/
theorem isSome_loaded?_fate (e : Exceptions) (s : ExceptionSettings) :
    (loader.fate e s).loaded?.isSome = s.error?.isNone := by
  rw [← error?_fate e s]
  unfold loader
  dsimp only
  cases e.add s with
  | ok e' => rfl
  | error err => rfl

theorem filterMap_error?_fates (e : Exceptions) (ss : List ExceptionSettings) :
    (loader.fates e ss).filterMap Fate.error? = ss.filterMap ExceptionSettings.error? := by
  induction ss generalizing e with
  | nil => rfl
  | cons s ss ih => rw [Loader.fates, List.filterMap_cons, List.filterMap_cons, error?_fate, ih]

theorem kept_fates (e : Exceptions) (ss : List ExceptionSettings) :
    Fate.kept ss (loader.fates e ss) = ss.filter fun s => s.error?.isNone := by
  induction ss generalizing e with
  | nil => rfl
  | cons s ss ih => rw [Loader.fates, Fate.kept_cons, List.filter_cons, isSome_loaded?_fate, ih]

end Exceptions

/-! ## Rules -/

namespace RuleSet

/-- Rules as they are loaded, when some ids are left out. -/
def loader (files : FileTree) (removed : List Int) : Loader RuleSet RuleSettings Chain where
  fate s r :=
    if removed.contains r.declaredId then .removed
    else
      match Chain.ofSettings files r with
      | .error e => .rejected e
      | .ok c =>
        match (s.add c).1 with
        | .ok () => .loaded c
        | .error e => .rejected e
  put := insert

theorem load_eq (files : FileTree) (removed : List Int) :
    load files removed = (loader files removed).step := by
  funext acc r
  by_cases hremoved : r.declaredId ∈ removed
  · simp [load, Loader.step, Loader.after, loader, hremoved]
  · cases hread : Chain.ofSettings files r with
    | error e => simp [load, addSettings, Loader.step, Loader.after, loader, hremoved, hread]
    | ok c =>
        cases hadd : (acc.1.add c).1 with
        | ok u =>
            simp [load, addSettings, Loader.step, Loader.after, loader, hremoved, hread, hadd,
              (add_of_ok hadd).1]
        | error e =>
            simp [load, addSettings, Loader.step, Loader.after, loader, hremoved, hread, hadd,
              add_of_error hadd]

variable {files : FileTree} {removed : List Int} {s t : RuleSet} {cs : List Chain}

/-- The fate that a declaration calls for, where chains are `free` to be taken and ids are `used`. -/
def CallsFor (files : FileTree) (removed : List Int) (free : Chain → Prop) (used : Int → Prop)
    (r : RuleSettings) : Fate Chain → Prop
  | .removed => r.declaredId ∈ removed
  | .loaded c => r.declaredId ∉ removed ∧ Chain.ofSettings files r = .ok c ∧ free c
  | .rejected e =>
    r.declaredId ∉ removed ∧
      (Chain.ofSettings files r = .error e ∨
        ∃ c, Chain.ofSettings files r = .ok c ∧
          (c.id = 0 ∧ e = withoutId ∨ used c.id ∧ e = duplicate c.id))

theorem CallsFor.imp {free free' : Chain → Prop} {used used' : Int → Prop} {r : RuleSettings}
    {f : Fate Chain} (h : CallsFor files removed free used r f)
    (hfree : ∀ c, f = .loaded c → free' c) (hused : ∀ id, used id → used' id) :
    CallsFor files removed free' used' r f := by
  cases f with
  | removed => exact h
  | loaded c => exact ⟨h.1, h.2.1, hfree c rfl⟩
  | rejected e =>
      obtain ⟨hremoved, hread | ⟨c, hread, hid⟩⟩ := h
      · exact ⟨hremoved, .inl hread⟩
      · exact ⟨hremoved, .inr ⟨c, hread, hid.imp_right fun h => ⟨hused _ h.1, h.2⟩⟩⟩

/-- The fate that is due to a rule which comes to a set. -/
def Due (files : FileTree) (removed : List Int) (s : RuleSet) : RuleSettings → Fate Chain → Prop :=
  CallsFor files removed (fun c => c.id ≠ 0 ∧ s.contains c.id = false)
    fun id => s.contains id = true

/-- What became of a rule shows in the set that came of the loading: a chain that was taken is found
by its id, and where one was refused for its id, some chain has it. -/
def Fits (files : FileTree) (removed : List Int) (t : RuleSet) : RuleSettings → Fate Chain → Prop :=
  CallsFor files removed (fun c => t.get? c.id = some c) fun id => t.contains id = true

theorem due_fate (files : FileTree) (removed : List Int) (s : RuleSet) (r : RuleSettings) :
    Due files removed s r ((loader files removed).fate s r) := by
  by_cases hremoved : r.declaredId ∈ removed
  · simp [loader, hremoved, Due, CallsFor]
  · cases hread : Chain.ofSettings files r with
    | error e => simp [loader, hremoved, hread, Due, CallsFor]
    | ok c =>
        rcases s.add_cases c with ⟨hadd, hzero⟩ | ⟨hadd, hold, -⟩ | ⟨hadd, hnew, hzero⟩
        · simp [loader, hremoved, hread, hadd, Due, CallsFor, hzero]
        · simp [loader, hremoved, hread, hadd, Due, CallsFor, hold]
        · simp [loader, hremoved, hread, hadd, Due, CallsFor, hnew, hzero]

theorem Denotes.after (h : s.Denotes cs) (r : RuleSettings) :
    ((loader files removed).after s ((loader files removed).fate s r)).Denotes
      (cs ++ ((loader files removed).fate s r).loaded?.toList) := by
  have hdue := due_fate files removed s r
  cases hfate : (loader files removed).fate s r with
  | removed =>
      rw [Fate.loaded?_removed, Option.toList_none, List.append_nil]
      exact h
  | rejected e =>
      rw [Fate.loaded?_rejected, Option.toList_none, List.append_nil]
      exact h
  | loaded c =>
      rw [hfate] at hdue
      obtain ⟨-, hread, hzero, hnew⟩ := hdue
      exact h.insert (Chain.Compiled.phase_mem ⟨files, r, hread⟩) hzero hnew

/-- The set after rules are loaded onto one. -/
def afterAll (files : FileTree) (removed : List Int) (s : RuleSet) (rs : List RuleSettings) :
    RuleSet :=
  (((loader files removed).fates s rs).filterMap Fate.loaded?).foldl insert s

theorem afterAll_cons (r : RuleSettings) (rs : List RuleSettings) :
    afterAll files removed s (r :: rs) =
      afterAll files removed ((loader files removed).after s ((loader files removed).fate s r)) rs := by
  rw [afterAll, Loader.fates]
  cases (loader files removed).fate s r with
  | removed => rfl
  | loaded c => rfl
  | rejected e => rfl

theorem loaded_cons (r : RuleSettings) (rs : List RuleSettings) :
    ((loader files removed).fates s (r :: rs)).filterMap Fate.loaded? =
      ((loader files removed).fate s r).loaded?.toList ++
        ((loader files removed).fates
          ((loader files removed).after s ((loader files removed).fate s r)) rs).filterMap
            Fate.loaded? := by
  rw [Loader.fates]
  cases (loader files removed).fate s r with
  | removed => rfl
  | loaded c => rfl
  | rejected e => rfl

/-- The set that comes of the loading denotes the chains that were taken, in order. -/
theorem Denotes.afterAll (h : s.Denotes cs) (files : FileTree) (removed : List Int)
    (rs : List RuleSettings) :
    (afterAll files removed s rs).Denotes
      (cs ++ ((loader files removed).fates s rs).filterMap Fate.loaded?) := by
  induction rs generalizing s cs with
  | nil =>
      rw [Loader.fates, List.filterMap_nil, List.append_nil]
      exact h
  | cons r rs ih =>
      rw [afterAll_cons, loaded_cons, ← List.append_assoc]
      exact ih (h.after r)

theorem Denotes.fits (h : s.Denotes cs) (files : FileTree) (removed : List Int)
    (rs : List RuleSettings) :
    List.Forall₂ (Fits files removed (RuleSet.afterAll files removed s rs)) rs
      ((loader files removed).fates s rs) := by
  induction rs generalizing s cs with
  | nil => exact .nil
  | cons r rs ih =>
      have hall := h.afterAll files removed (r :: rs)
      refine .cons ((due_fate files removed s r).imp ?_ ?_) ?_
      · intro c hfate
        refine hall.get?_eq_some_iff.2 ⟨?_, rfl⟩
        rw [loaded_cons, hfate]
        exact List.mem_append_right _ (List.mem_append_left _ (List.mem_singleton_self c))
      · intro id hid
        obtain ⟨c, hc, hcid⟩ := h.contains_iff_mem.1 hid
        exact hall.contains_iff_mem.2 ⟨c, List.mem_append_left _ hc, hcid⟩
      · rw [afterAll_cons]
        exact ih (h.after r)

end RuleSet

/-! ## Settings -/

namespace RuleSetSettings

/-- What becomes of the rules. -/
def fates (files : FileTree) (s : RuleSetSettings) : List (Fate Chain) :=
  (RuleSet.loader files s.removedIds).fates .empty s.rules

/-- The settings without the rules that are not taken and the exceptions that are refused. -/
def sound (files : FileTree) (s : RuleSetSettings) : RuleSetSettings :=
  { s with
    rules := Fate.kept s.rules (s.fates files)
    exceptions := s.exceptions.filter fun e => e.error?.isNone }

end RuleSetSettings

namespace RuleSet

theorem ofSettings_eq (files : FileTree) (s : RuleSetSettings) :
    ofSettings files s =
      ({ afterAll files s.removedIds .empty s.rules with
          exceptions := (Exceptions.ofSettings s.exceptions).1 },
        (s.fates files).filterMap Fate.error? ++ s.exceptions.filterMap ExceptionSettings.error?) := by
  unfold ofSettings Exceptions.ofSettings
  rw [load_eq, Exceptions.load_eq, Loader.foldl_step, Loader.foldl_step,
    Exceptions.filterMap_error?_fates, List.nil_append, List.nil_append]
  rfl

/--
**Faults are isolated.**

Each rule is left out because its declared id is to be removed, or taken as a chain which is found by
its id, or refused with one error: the one of reading it, or that its id is zero, or that its id is
taken. The chains that are taken stand in the lists of their phases in the order of the settings, and
the errors are those of the rules that are refused and then those of the exceptions that are refused.
The settings without what is not taken are loaded without an error, and they come to the same set,
with the same lists, the same indexes and the same exceptions.
-/
theorem loading_isolates_faults (files : FileTree) (s : RuleSetSettings) :
    List.Forall₂ (Fits files s.removedIds (ofSettings files s).1) s.rules (s.fates files) ∧
    (∀ phase, (ofSettings files s).1.ofPhase phase =
      ((s.fates files).filterMap Fate.loaded?).filter fun c => c.phase == phase) ∧
    (ofSettings files s).2 =
      (s.fates files).filterMap Fate.error? ++ s.exceptions.filterMap ExceptionSettings.error? ∧
    ofSettings files (s.sound files) = ((ofSettings files s).1, []) := by
  have hdenotes := denotes_empty.afterAll files s.removedIds s.rules
  have hfits := denotes_empty.fits files s.removedIds s.rules
  have hset := ofSettings_eq files s
  refine ⟨?_, ?_, ?_, ?_⟩
  · rw [hset]
    -- exceptions do not matter for what is found in a set
    exact hfits.imp fun r f h => h.imp (fun c hc => (hc ▸ h).2.2) fun id hid => hid
  · intro phase
    rw [hset]
    exact hdenotes.ofPhase phase
  · rw [hset]
  · unfold ofSettings Exceptions.ofSettings RuleSetSettings.sound RuleSetSettings.fates
    dsimp only
    rw [load_eq, Exceptions.load_eq, Loader.foldl_step_kept,
      ← Exceptions.kept_fates Exceptions.none, Loader.foldl_step_kept]
    rfl

end RuleSet

end Rampart
