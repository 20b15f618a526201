import Mathlib.Logic.Relation
import Rampart.Proofs.Footprint
import Rampart.Proofs.History
import Rampart.Proofs.Session

/-!
# One entry under each key

A collection can hold several entries under a key, but no rule makes a second one. Captured texts,
variables that are set and deadlines go to the first entry of their key, or to a new key. So where
only rules write, each key holds exactly one entry.

This holds between any two accesses, also of transactions that are at work at the same time.
`Exchange.Step` is one access of a rule, or a change beside the collections, and `Session.Move` is
such a step of some transaction of a session. The calls to a handler are made of these moves.
-/

namespace Rampart

/-! ## Collections -/

namespace Collection

/-- Every key holds exactly one entry. -/
def Single (c : Collection) : Prop := ∀ b ∈ c.buckets, ∃ e, b.entries.toList = [e]

namespace Single

variable {c : Collection}

theorem of_buckets_eq_nil (h : c.buckets = []) : c.Single := by
  intro b hb
  rw [h] at hb
  cases hb

theorem keep (h : c.Single) (p : Bucket → Bool) : (c.keep p).Single := by
  intro b hb
  exact h b (List.mem_of_mem_filter hb)

/-- A change of the first entry, or a first entry under a new key. -/
theorem putFirst (h : c.Single) (key : String) (g : Entry → Entry) (fresh : Entry) :
    (c.put key (fun es => { es with first := g es.first }) fresh).Single := by
  intro b hb
  unfold put at hb
  split at hb
  · rcases List.mem_append.1 hb with hb | hb
    · exact h b hb
    · rw [List.mem_singleton.1 hb]
      exact ⟨fresh, rfl⟩
  · rw [buckets_modify] at hb
    obtain ⟨b₀, hb₀, rfl⟩ := List.mem_map.1 hb
    obtain ⟨e, he⟩ := h b₀ hb₀
    have hlater : b₀.entries.later = [] := (List.cons.inj he).2
    split
    · exact ⟨g b₀.entries.first, congrArg (g b₀.entries.first :: ·) hlater⟩
    · exact ⟨e, he⟩

theorem setFirst (h : c.Single) (key text : String) : (c.setFirst key text).Single :=
  h.putFirst key (·.setValue text) _

theorem expireAfter (h : c.Single) (now : Instant) (key : String) (seconds : Nat) :
    (c.expireAfter now key seconds).Single :=
  h.putFirst key (·.expireAfter now seconds) _

/-- Under a key there is one entry or none. -/
theorem entriesAt (h : c.Single) (key : String) : ∃ o : Option Entry, c.entriesAt key = o.toList := by
  unfold Collection.entriesAt
  cases hb : c.find? key with
  | none => exact ⟨none, rfl⟩
  | some b =>
      obtain ⟨e, he⟩ := h b (find?_eq_some_iff.1 hb).1
      exact ⟨some e, he⟩

end Single

end Collection

/-! ## The steps of rule evaluation -/

namespace Exchange

/-- One access of a rule to a collection, or a change of the transaction beside its collection. -/
inductive Step (x : Exchange) : Exchange → Prop where
  /-- A read removes selected keys that hold an expired entry. -/
  | read (home : Home) (selects : String → Bool) :
      Step x (x.put home ((x.content home).purge x.now selects))
  /-- The transaction changes, but its collection does not. -/
  | aside {y} (hown : y.tx.own = x.tx.own) (hshelf : y.shelf = x.shelf) (hnow : y.now = x.now) :
      Step x y
  /-- A captured text is stored under a number. -/
  | capture (n : Nat) (text : String) :
      Step x (x.update fun t => { t with own := t.own.setFirst n.repr text })
  /-- A variable is set in a collection that can be reached. -/
  | set {name v} (hv : x.view? name = some v) (k text : String) :
      Step x (x.writing v fun part c => part.setFirst c k text)
  /-- A variable is removed. -/
  | erase {name v} (hv : x.view? name = some v) (k : String) :
      Step x (x.writing v fun part c => part.erase c k)
  /-- A variable gets a deadline. -/
  | expire {name v} (hv : x.view? name = some v) (k : String) (seconds : Nat) :
      Step x (x.writing v fun part c => part.expireAfter c x.now k seconds)

/-- Any number of steps. -/
abbrev Path (x y : Exchange) : Prop := Relation.ReflTransGen Step x y

/-- Every collection of the transaction and of the shelf holds one entry under each key. -/
structure Single (x : Exchange) : Prop where
  own : x.tx.own.Single
  shelf : ∀ c ∈ x.shelf.collections, c.Single

namespace Single

variable {x y : Exchange}

theorem content (h : x.Single) (home : Home) : (x.content home).Single := by
  cases home with
  | own => exact h.own
  | shared place =>
      unfold Exchange.content
      dsimp only
      cases hc : x.shelf.at? place with
      | none => exact .of_buckets_eq_nil rfl
      | some c => exact h.shelf c (List.mem_of_getElem? hc)

theorem put (h : x.Single) (home : Home) {c : Collection} (hc : c.Single) : (x.put home c).Single := by
  cases home with
  | own => exact ⟨hc, h.shelf⟩
  | shared place =>
      refine ⟨h.own, ?_⟩
      intro d hd
      rcases List.mem_or_eq_of_mem_set hd with hd | rfl
      · exact h.shelf d hd
      · exact hc

/-- **No step makes a second entry.** -/
theorem step (h : x.Single) (hstep : x.Step y) : y.Single := by
  cases hstep with
  | read home selects => exact h.put home ((h.content home).keep _)
  | aside hown hshelf hnow => exact ⟨hown ▸ h.own, hshelf ▸ h.shelf⟩
  | capture n text => exact ⟨h.own.setFirst n.repr text, h.shelf⟩
  | @set _ v _ k text => exact h.put v.home ((h.content v.home).setFirst _ text)
  | @erase _ v _ k => exact h.put v.home ((h.content v.home).keep _)
  | @expire _ v _ k seconds => exact h.put v.home ((h.content v.home).expireAfter x.now _ seconds)

/-- **However many steps**, no key gets a second entry. -/
theorem path (h : x.Single) (hpath : Path x y) : y.Single := by
  induction hpath with
  | refl => exact h
  | tail _ hstep ih => exact ih.step hstep

end Single

end Exchange

open Exchange (Step Path)

theorem Purges.path {x y : Exchange} (h : Purges x y) : Path x y := by
  induction h with
  | refl => exact .refl
  | purge _ home selects ih => exact ih.tail (.read home selects)

theorem Touches.path {rules : List Rule} {x y : Exchange} (h : Touches rules x y) : Path x y := by
  induction h with
  | refl => exact .refl
  | read _ hz ih => exact ih.trans hz.path
  | note _ _ ih => exact ih.tail (.aside rfl rfl rfl)
  | capture _ _ _ n text ih => exact ih.tail (.capture n text)
  | set _ _ _ hv _ text ih => exact ih.tail (.set hv _ text)
  | erase _ _ _ hv _ ih => exact ih.tail (.erase hv _)

/-- **An action** takes these steps. -/
theorem path_run {r : Rule} {a : Action} (ha : a ∈ r.actions) (x : Exchange) (m : MatchRecord) :
    Path x (a.run r.info x m).1 := by
  have expanded (text : MacroText) (y : Exchange) : Path y (text.expand r.info y).2 :=
    (purges_expand text r.info y).path
  cases a with
  | setVar name key change => exact (touches_run ha rfl x m).path
  | logData text => exact (touches_run ha rfl x m).path
  | expireVar name key seconds =>
      have hread := (expanded key x).trans (expanded seconds (key.expand r.info x).2)
      rw [Action.run]
      dsimp only
      split
      · exact hread
      · rename_i hv
        exact hread.tail (.expire hv _ _)
  | initCollection name key =>
      refine (expanded key x).tail (.aside ?_ rfl rfl)
      change (Transaction.bind _ _ _).2.own = _
      unfold Transaction.bind
      split <;> rfl
  | setEnv assignment =>
      rw [Action.run]
      split
      · exact (expanded assignment x).tail (.aside rfl rfl rfl)
      · exact expanded assignment x
  | skip count => exact .single (.aside rfl rfl rfl)
  | status code => exact .single (.aside rfl rfl rfl)
  | control c => exact .single (.aside rfl rfl rfl)
  | disrupt d =>
      cases d with
      | pass => exact .refl
      | redirect url => exact (expanded url x).tail (.aside rfl rfl rfl)
      | _ => exact .single (.aside rfl rfl rfl)

theorem path_runActions (p : Progress) (r : Rule) (s : Stage) :
    Path p.exchange (p.runActions r (r.actionsOf s)).exchange := by
  refine runActions_induction (I := fun q => Path p.exchange q.exchange) r _ .refl ?_
  intro q hq a ha
  exact hq.trans (path_run (List.mem_filter.1 ha).1 q.exchange q.record)

namespace Engine

theorem path_runClosing (e : Engine) (p : Progress) (r : Rule) :
    Path p.exchange (e.runClosing p r).exchange := by
  have hfull := path_runActions p r .fullMatch
  unfold runClosing
  dsimp only
  split
  · exact hfull.trans (path_runActions _ r .disruptive)
  · exact hfull

/-- **A chain** takes these steps, whether it matches or not. -/
theorem path_evaluate (e : Engine) (x : Exchange) (c : Chain) : Path x (e.evaluate x c).exchange := by
  have links (rules : List Rule) : Path x (e.after (.start x c) rules).exchange :=
    (e.touches_after (List.Subset.refl rules) (.start x c)).path
  have hcomes := e.comesTo_evaluate x c
  generalize e.evaluate x c = o at hcomes ⊢
  cases hcomes with
  | off _ => exact .refl
  | removed _ _ => exact .refl
  | broken _ _ k _ => exact links _
  | closed _ _ k _ hq =>
      rw [hq]
      refine (links _).trans (close_induction .trans ?_ e.path_runClosing c.head _ _)
      intro p r
      exact (purges_expandMessage r p.exchange).path

end Engine

/-- **A phase** takes these steps. -/
theorem Runs.path {e : Engine} {isLogging : Bool} {chains : List Chain} {run run' : PhaseRun}
    (h : Runs e isLogging chains run run') : Path run.exchange run'.exchange := by
  induction h with
  | done run => exact .refl
  | @passOver _ _ run _ _ _ ih =>
      have hstep : Step run.exchange run.passOver.exchange := .aside rfl rfl rfl
      exact ih.head hstep
  | @goOn c _ run _ _ _ _ ih => exact (e.path_evaluate run.exchange c).trans ih
  | @stop c _ run => exact e.path_evaluate run.exchange c

/-! ## Sessions -/

namespace Session

/-- A transaction of the session has come to another state, and with it the shelf. -/
def leave (s : Session) (i : Nat) (y : Exchange) : Session :=
  ⟨{ s.handler with shelf := y.shelf }, s.transactions.set i y.tx⟩

/-- What happens in a session at once. -/
inductive Move (s : Session) : Session → Prop where
  /-- A transaction is started. -/
  | start (id : String) (time : Int) : Move s (s.step (.start id time)).1
  /-- More is known of a request. -/
  | learn (number : Nat) (f : Request → Request) : Move s (s.step (.learn number f)).1
  /-- Some transaction takes a step of rule evaluation. -/
  | work {i t y} (hi : s.transactions[i]? = some t) (now : Instant)
      (h : Step ⟨t, s.handler.shelf, now⟩ y) : Move s (s.leave i y)
  /-- The handler keeps its books. -/
  | account (log : MatchLog) (statistics : Statistics) :
      Move s { s with handler := { s.handler with log := log, statistics := statistics } }

/-- Any number of moves. -/
abbrev Reaches (s s' : Session) : Prop := Relation.ReflTransGen Move s s'

variable {s s' : Session} {i : Nat} {t : Transaction}

theorem reaches_leave (hi : s.transactions[i]? = some t) {now : Instant} {y : Exchange}
    (h : Path ⟨t, s.handler.shelf, now⟩ y) : s.Reaches (s.leave i y) := by
  obtain ⟨hlt, hget⟩ := List.getElem?_eq_some_iff.1 hi
  induction h with
  | refl =>
      have hsame : s.leave i ⟨t, s.handler.shelf, now⟩ = s := by
        unfold leave
        dsimp only
        rw [← hget, List.set_getElem_self]
      rw [hsame]
  | @tail y z _ hstep ih =>
      -- the transaction that is at work is the one that the last step has left
      have hmove : (s.leave i y).Move ((s.leave i y).leave i z) :=
        .work (List.getElem?_set_self hlt) y.now hstep
      have hagain : (s.leave i y).leave i z = s.leave i z := by
        unfold leave
        rw [List.set_set]
      rw [hagain] at hmove
      exact ih.tail hmove

/-- **A call** is made of moves. -/
theorem reaches_step (s : Session) (call : Call) : s.Reaches (s.step call).1 := by
  cases call with
  | start id time => exact .single (.start id time)
  | learn number f => exact .single (.learn number f)
  | phase number phase timing =>
      cases hi : s.transactions[number]? with
      | none =>
          rw [step, hi]
      | some t =>
          rw [step_phase hi]
          cases hruns : s.handler.runs t phase with
          | false =>
              rw [Handler.processPhase_of_not_runs timing hruns]
              exact reaches_leave hi (y := ⟨t, s.handler.shelf, timing.now⟩) .refl
          | true =>
              rw [Handler.processPhase_of_runs timing hruns]
              have hpath := (s.handler.runs_ran t phase timing).path
              -- what is left of the count of chains to skip is forgotten at the end
              have hreset := hpath.tail (.aside (y := (s.handler.ran t phase timing).exchange.update
                fun t => t.decide fun d => { d with skip := 0 }) rfl rfl rfl)
              exact (reaches_leave hi hreset).tail (.account _ _)

theorem reaches_run (s : Session) (calls : List Call) : s.Reaches (s.run calls).1 := by
  induction calls generalizing s with
  | nil => exact .refl
  | cons call rest ih => exact (s.reaches_step call).trans (ih _)

/-- Every transaction and every shared collection holds one entry under each key. -/
structure Single (s : Session) : Prop where
  transactions : ∀ t ∈ s.transactions, t.own.Single
  shelf : ∀ c ∈ s.handler.shelf.collections, c.Single

theorem Single.exchange (h : s.Single) (ht : t ∈ s.transactions) (now : Instant) :
    Exchange.Single ⟨t, s.handler.shelf, now⟩ := ⟨h.transactions t ht, h.shelf⟩

theorem Single.move (h : s.Single) (hmove : s.Move s') : s'.Single := by
  cases hmove with
  | start id time =>
      refine ⟨?_, h.shelf⟩
      intro t ht
      rcases List.mem_append.1 ht with ht | ht
      · exact h.transactions t ht
      · rw [List.mem_singleton.1 ht]
        exact .of_buckets_eq_nil rfl
  | learn number f =>
      refine ⟨?_, h.shelf⟩
      intro t ht
      rcases mem_step_learn ht with ht | ⟨t₀, ht₀, rfl⟩
      · exact h.transactions t ht
      · exact h.transactions t₀ ht₀
  | @work i t y hi now hstep =>
      have hleft : y.Single := (h.exchange (List.mem_of_getElem? hi) now).step hstep
      refine ⟨?_, hleft.shelf⟩
      intro t' ht'
      rcases List.mem_or_eq_of_mem_set ht' with ht' | rfl
      · exact h.transactions t' ht'
      · exact hleft.own
  | account log statistics => exact ⟨h.transactions, h.shelf⟩

/-- **However many moves**, no key gets a second entry. -/
theorem Single.reaches (h : s.Single) (hreach : s.Reaches s') : s'.Single := by
  induction hreach with
  | refl => exact h
  | tail _ hmove ih => exact ih.move hmove

end Session

/-- A handler starts with empty shared collections, whatever its settings. -/
theorem Handler.buckets_ofSettings (files : FileTree) (environment : List (String × String))
    (s : Settings) :
    ∀ c ∈ (Handler.ofSettings files environment s).1.shelf.collections, c.buckets = [] := by
  have registered (names : List String) (acc : Registry × Shelf)
      (hacc : ∀ c ∈ acc.2.collections, c.buckets = []) :
      ∀ c ∈ (acc.1.registerAll acc.2 names).2.collections, c.buckets = [] := by
    -- each name adds one empty collection
    refine List.foldlRecOn (motive := fun acc : Registry × Shelf =>
      ∀ c ∈ acc.2.collections, c.buckets = []) names _ hacc ?_
    intro acc hacc name _ c hc
    rcases List.mem_append.1 hc with hc | hc
    · exact hacc c hc
    · rw [List.mem_singleton.1 hc]
      rfl
  exact registered s.collections.names (.empty, .empty) fun _ hc => nomatch hc

end Rampart
