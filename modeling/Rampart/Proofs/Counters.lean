import Mathlib.Data.List.Infix
import Rampart.Action.Reference
import Rampart.Proofs.Exhibit
import Rampart.Proofs.Footprint
import Rampart.Proofs.Isolation
import Rampart.Proofs.Numerals
import Rampart.Proofs.PlainKeys
import Rampart.Proofs.ReadBack

/-!
# Counters

A key counts when amounts are added to the integer under it and taken away from it. An action that
counts reads the key first, which clears away what has expired, and writes the new integer over the
first entry that is left. So the next read finds the text of that integer, and reads the integer back
from it unless it is the least one.
-/

namespace Rampart

/-! ## What a collection holds afterwards -/

namespace Collection

/-- The collection after a read of the first value under a key and a write over it. -/
def rewrite (c : Collection) (now : Instant) (key text : String) : Collection :=
  (c.readFirst now key).2.setFirst key text

variable {c : Collection} {now : Instant} {key : String}

/-- The new text stands over the first entry, or in place of all that was cleared away. -/
theorem entriesAt_rewrite (c : Collection) (now : Instant) (key text k : String) :
    (c.rewrite now key text).entriesAt k =
      if Text.sameText key k then
        Write.effect now (.setFirst text)
          (if (c.entriesAt key).any (·.isExpired now) then [] else c.entriesAt key)
      else c.entriesAt k := by
  have hpurged : (c.readFirst now key).2 = c.purge now (Text.sameText · key) := rfl
  have hwrite := (c.readFirst now key).2.entriesAt_write now key (.setFirst text) k
  refine hwrite.trans ?_
  rw [hpurged, entriesAt_purge]
  split
  · rename_i hk
    rw [← entriesAt_congr hk, ← empties_sameText]
    unfold empties
    rw [find?_congr hk]
  · rename_i hk
    -- no entry of another key is cleared away
    refine if_neg ?_
    unfold empties
    cases hf : c.find? k with
    | none => exact Bool.false_ne_true
    | some b =>
        dsimp only [Option.any_some]
        rw [sameText_of_find? hf, Bool.eq_false_iff.2 hk]
        exact Bool.false_ne_true

/-- **The new text is read back**, in every spelling of its key, for as long as no deadline comes. -/
theorem readFirst_rewrite (text : String) {later : Instant} {key' : String}
    (hkey : Text.sameText key key' = true)
    (hlater : ∀ e ∈ c.entriesAt key, e.isExpired later = true → e.isExpired now = true) :
    ((c.rewrite now key text).readFirst later key').1 = some text := by
  rw [readFirst_fst, entriesAt_rewrite, if_pos hkey]
  split
  · rfl
  · rename_i hlive
    cases hes : c.entriesAt key with
    | nil => rfl
    | cons e es =>
        rw [Write.effect, findSome?_setValue, if_neg]
        intro he
        rw [hes] at hlive hlater
        refine hlive ?_
        rw [List.any_cons, hlater e (List.mem_cons_self ..) he, Bool.true_or]

end Collection

/-! ## Bound collections -/

/-- Every name has its place on the shelf. -/
def Registry.OnShelf (r : Registry) (s : Shelf) : Prop := ∀ e ∈ r.entries, e.2 < s.collections.length

theorem Registry.onShelf_register {r : Registry} {s : Shelf} (h : r.OnShelf s) (name : String) :
    (r.register s name).1.OnShelf (r.register s name).2 := by
  have hlength : (r.register s name).2.collections.length = s.collections.length + 1 :=
    List.length_append
  have hnew : s.collections.length < (r.register s name).2.collections.length := by omega
  have hold (e : String × Place) (he : e ∈ r.entries) :
      e.2 < (r.register s name).2.collections.length := Nat.lt_trans (h e he) (by omega)
  intro e he
  change e ∈ (r.bind name s.collections.length).entries at he
  unfold bind at he
  split at he
  · obtain ⟨e₀, he₀, rfl⟩ := List.mem_map.1 he
    split
    · exact hnew
    · exact hold e₀ he₀
  · rcases List.mem_append.1 he with he | he
    · exact hold e he
    · rw [List.mem_singleton.1 he]
      exact hnew

/-- The collections that a handler starts with are all there. -/
theorem Registry.onShelf_ofNames (names : List String) :
    (Registry.ofNames names).1.OnShelf (Registry.ofNames names).2 := by
  have key (acc : Registry × Shelf) (h : acc.1.OnShelf acc.2) :
      (names.foldl (fun acc name => acc.1.register acc.2 name) acc).1.OnShelf
        (names.foldl (fun acc name => acc.1.register acc.2 name) acc).2 := by
    induction names generalizing acc with
    | nil => exact h
    | cons name names ih => exact ih _ (onShelf_register h name)
  exact key (.empty, .empty) fun e he => nomatch he

namespace Exchange

variable {x : Exchange} {c : CollectionName} {v : View}

/-- The transaction reaches the collection through a view, and the collection is there. -/
structure Bound (x : Exchange) (c : CollectionName) (v : View) : Prop where
  view : x.view? c.text = some v
  there : ∀ place, v.home = .shared place → place < x.shelf.collections.length

/-- What a transaction reaches is there if its names have their places on the shelf. -/
theorem bound_of_onShelf (hshelf : x.tx.registry.OnShelf x.shelf) (hview : x.view? c.text = some v) :
    x.Bound c v := by
  refine ⟨hview, fun place hhome => ?_⟩
  unfold view? at hview
  split at hview
  · cases hview
    cases hhome
  · split at hview
    · rename_i key place' _ hplace
      cases hview
      cases hhome
      obtain ⟨e, he, rfl⟩ := Option.map_eq_some_iff.1 hplace
      exact hshelf e (List.mem_of_find?_eq_some he)
    · cases hview

/-- What is put into the place of a bound collection is there. -/
theorem Bound.content_put (h : x.Bound c v) (d : Collection) :
    (x.put v.home d).content v.home = d := by
  cases hhome : v.home with
  | own => rfl
  | shared place =>
      unfold content put Shelf.at? Shelf.set
      dsimp only
      rw [List.getElem?_set_self (h.there place hhome), Option.getD_some]

/-- The collection stays bound. -/
theorem Bound.put (h : x.Bound c v) (d : Collection) : (x.put v.home d).Bound c v where
  view := ((onlyCollections_put x v.home d).toUndecided.view? c.text).trans h.view
  there := by
    intro place hhome
    rw [hhome]
    exact Nat.lt_of_lt_of_eq (h.there place hhome) List.length_set.symm

theorem Bound.at (h : x.Bound c v) (now : Instant) : ({ x with now := now } : Exchange).Bound c v :=
  ⟨h.view, h.there⟩

end Exchange

/-! ## Ticks -/

/-- A rule counts at some moment: an amount, written as a text, is added to the integer under a key or
taken away from it. -/
structure Tick where
  rule : RuleInfo
  record : MatchRecord
  now : Instant
  key : String
  adds : Bool
  delta : String

namespace Tick

/-- What is added to the integer. -/
def amount (t : Tick) : Int := if t.adds then Text.leadingInt t.delta else -Text.leadingInt t.delta

/-- The action that counts. -/
def action (t : Tick) (c : CollectionName) : Action :=
  .setVar c (.literal t.key) (if t.adds then .add (.literal t.delta) else .sub (.literal t.delta))

/-- The exchange after the action. -/
def run (c : CollectionName) (x : Exchange) (t : Tick) : Exchange :=
  ((t.action c).run t.rule { x with now := t.now } t.record).1

/-- What some ticks add up to. -/
def total (ts : List Tick) : Int := ts.foldl (fun n t => n + t.amount) 0

/-- The integer that a read of the key gives, or 0. -/
def before (t : Tick) (x : Exchange) (v : View) : Int :=
  ((v.compartment.readFirst (x.content v.home) t.now t.key).1.map Text.leadingInt).getD 0

variable {x : Exchange} {c : CollectionName} {v : View}

/-- **A tick** writes the new integer over the key, and that is all it does. -/
theorem run_eq (h : x.Bound c v) (t : Tick) :
    t.run c x = ({ x with now := t.now } : Exchange).put v.home
      ((x.content v.home).rewrite t.now (v.compartment.key t.key)
        (Text.decimal (Text.clamp (t.before x v + t.amount)))) := by
  let y : Exchange := { x with now := t.now }
  have hy : y.Bound c v := h.at t.now
  have hcount (f : Int → Int → Int)
      (hf : f (t.before x v) (Text.leadingInt t.delta) = t.before x v + t.amount) :
      Action.applyChange.count t.rule v t.key y (.literal t.delta) f =
        y.put v.home ((x.content v.home).rewrite t.now (v.compartment.key t.key)
          (Text.decimal (Text.clamp (t.before x v + t.amount)))) := by
    unfold Action.applyChange.count
    dsimp only
    rw [MacroText.expand_literal]
    unfold Exchange.writing Exchange.reading
    dsimp only
    rw [hy.content_put, Exchange.put_put, ← hf]
    rfl
  unfold run action
  rw [Action.run, MacroText.expand_literal]
  dsimp only
  rw [hy.view]
  cases hadds : t.adds with
  | true =>
      refine hcount (fun a b => a + b) ?_
      rw [amount, hadds, if_pos rfl]
  | false =>
      refine hcount (fun a b => a - b) ?_
      rw [amount, hadds, if_neg Bool.false_ne_true]
      exact Int.sub_eq_add_neg

theorem bound_run (h : x.Bound c v) (t : Tick) : (t.run c x).Bound c v := by
  rw [run_eq h]
  exact (h.at t.now).put _

theorem content_run (h : x.Bound c v) (t : Tick) :
    (t.run c x).content v.home = (x.content v.home).rewrite t.now (v.compartment.key t.key)
      (Text.decimal (Text.clamp (t.before x v + t.amount))) := by
  rw [run_eq h]
  exact (h.at t.now).content_put _

/-! ## One tick -/

/-- The next read of the key finds the new integer, for as long as no deadline comes. -/
theorem readFirst_run (h : x.Bound c v) (t : Tick) {key : String} {later : Instant}
    (hkey : Text.sameText t.key key = true)
    (hlater : ∀ e ∈ (x.content v.home).entriesAt (v.compartment.key key),
      e.isExpired later = true → e.isExpired t.now = true) :
    (v.compartment.readFirst ((t.run c x).content v.home) later key).1 =
      some (Text.decimal (Text.clamp (t.before x v + t.amount))) := by
  have hsame := (sameText_key v.compartment t.key key).trans hkey
  rw [← Collection.entriesAt_congr hsame] at hlater
  rw [content_run h]
  exact Collection.readFirst_rewrite _ hsame hlater

/-- No other key is touched, in this collection or in another one. -/
theorem entriesAt_run_of_ne (h : x.Bound c v) (t : Tick) {home : Home} {stored : String}
    (hother : home = v.home → Text.sameText (v.compartment.key t.key) stored = false) :
    ((t.run c x).content home).entriesAt stored = (x.content home).entriesAt stored := by
  by_cases hhome : home = v.home
  · rw [hhome, content_run h, Collection.entriesAt_rewrite, hother hhome,
      if_neg Bool.false_ne_true]
  · rw [run_eq h, Exchange.content_put_of_ne _ hhome]
    rfl

/-! ## Ticks one after the other -/

/-- What is stored under a key that was absent before the ticks. -/
def tally : List Tick → List Entry
  | [] => []
  | t :: ts => [.holding (Text.decimal (total (t :: ts)))]

theorem total_append (ts : List Tick) (t : Tick) : total (ts ++ [t]) = total ts + t.amount := by
  unfold total
  rw [List.foldl_append, List.foldl_cons, List.foldl_nil]

/-- What is stored after some ticks says how many there were. -/
theorem before_eq_total {ts : List Tick} (t : Tick) {key : String}
    (hkey : Text.sameText key t.key = true) (hmin : Text.minInt < total ts)
    (hmax : total ts ≤ Text.maxInt)
    (hentries : (x.content v.home).entriesAt (v.compartment.key key) = tally ts) :
    t.before x v = total ts := by
  have hsame := (sameText_key v.compartment key t.key).trans hkey
  rw [Collection.entriesAt_congr hsame] at hentries
  have hread : (v.compartment.readFirst (x.content v.home) t.now t.key).1 =
      (tally ts).findSome? (·.liveValue? t.now) := by
    rw [← hentries]
    exact Collection.readFirst_fst _ _ _
  unfold before
  rw [hread]
  cases ts with
  | nil => rfl
  | cons t' ts => exact Text.leadingInt_decimal_of_between hmin hmax

/-- Under a key that was absent ticks leave their sum, if none of the sums on the way leaves the range
of the integers that read back. -/
theorem entriesAt_foldl_run (h : x.Bound c v) {key : String}
    (habsent : (x.content v.home).entriesAt (v.compartment.key key) = []) (ts : List Tick)
    (hkeys : ∀ t ∈ ts, Text.sameText key t.key = true)
    (hsums : ∀ start, start <+: ts → Text.minInt < total start ∧ total start ≤ Text.maxInt) :
    (ts.foldl (run c) x).Bound c v ∧
      ((ts.foldl (run c) x).content v.home).entriesAt (v.compartment.key key) = tally ts := by
  induction ts using List.reverseRecOn with
  | nil => exact ⟨h, habsent⟩
  | append_singleton ts t ih =>
      obtain ⟨hbound, hentries⟩ := ih (fun t' ht' => hkeys t' (List.mem_append_left _ ht'))
        fun start hstart => hsums start (hstart.trans (List.prefix_append ts [t]))
      have hkey := hkeys t (List.mem_append_right _ (List.mem_singleton_self t))
      have hsame := (sameText_key v.compartment t.key key).trans ((Text.sameText_comm _ _).trans hkey)
      obtain ⟨hmin, hmax⟩ := hsums ts (List.prefix_append ts [t])
      obtain ⟨hmin', hmax'⟩ := hsums _ (List.prefix_refl (ts ++ [t]))
      rw [List.foldl_append, List.foldl_cons, List.foldl_nil]
      refine ⟨bound_run hbound t, ?_⟩
      rw [content_run hbound, before_eq_total t hkey hmin hmax hentries, ← total_append,
        Text.clamp_of_between (Int.le_of_lt hmin') hmax', Collection.entriesAt_rewrite,
        if_pos hsame, Collection.entriesAt_congr hsame, hentries]
      -- nothing that a tick has written expires, so the entry is still there
      cases ts with
      | nil => rfl
      | cons t' ts => rfl

/-! ## Ticks as they are written -/

/-- The key and the amount stand for themselves when they are written in an action. -/
structure Literal (t : Tick) : Prop where
  trimmed : Text.trimChars t.key.toList = t.key.toList
  unassigned : '=' ∉ t.key.toList
  unopened : Text.cut? ['%', '\x7b'] t.key.toList = none
  plain : Text.cut? ['%', '\x7b'] t.delta.toList = none

/-- The value of the action: what counts, and behind an equals sign and a sign the amount. -/
def written (t : Tick) (name : String) : String :=
  name ++ "." ++ t.key ++ (if t.adds then "=+" else "=-") ++ t.delta

/-- **A tick is what its text is read as**, behind the name of a collection in any case. -/
theorem setVarOf_written {t : Tick} (ht : t.Literal) {name : String} (hname : Text.upper name = c.text) :
    Action.setVarOf (t.written name) = .ok (t.action c) := by
  have hplain := CollectionName.plain_of_upper hname
  have hletters : '=' ∉ c.text.toList := by cases c <;> decide +kernel
  have hunassigned : '=' ∉ name.toList ++ '.' :: t.key.toList := by
    rw [List.mem_append, List.mem_cons, not_or, not_or]
    refine ⟨fun hmem => hletters ?_, by decide, ht.unassigned⟩
    rw [← hname, Text.upper, String.toList_ofList]
    exact List.mem_map_of_mem (f := Char.toUpper) hmem
  let sign := if t.adds then '+' else '-'
  have hcs : (t.written name).toList =
      (name.toList ++ '.' :: t.key.toList) ++ '=' :: sign :: t.delta.toList := by
    unfold written
    cases hadds : t.adds <;> simp [sign, hadds]
  have hassigned : Text.splitOnce? '=' (t.written name) =
      some (String.ofList (name.toList ++ '.' :: t.key.toList),
        String.ofList (sign :: t.delta.toList)) := by
    unfold Text.splitOnce?
    rw [hcs, Text.cutAt?_append_cons hunassigned, Option.map_some]
  have htarget : Action.targetOf "setvar" (String.ofList (name.toList ++ '.' :: t.key.toList)) =
      .ok (c, .literal t.key) := by
    have hpoint : Text.splitOnce? '.' (String.ofList (name.toList ++ '.' :: t.key.toList)) =
        some (name, t.key) := by
      unfold Text.splitOnce?
      rw [String.toList_ofList, Text.cutAt?_append_cons (CollectionName.mark_notMem hname (by decide)),
        Option.map_some, String.ofList_toList, String.ofList_toList]
    have hcollection : CollectionName.ofText? c.text = some c := by cases c <;> rfl
    unfold Action.targetOf Text.trim
    rw [hpoint]
    dsimp only
    rw [Text.trimChars_eq_self fun d hd => (hplain d hd).1, ht.trimmed, String.ofList_toList,
      String.ofList_toList, hname, hcollection, MacroText.ofText_of_unopened ht.unopened]
    rfl
  have hchange : Action.changeOf (String.ofList (sign :: t.delta.toList)) =
      .ok (if t.adds then .add (.literal t.delta) else .sub (.literal t.delta)) := by
    have hdelta : MacroText.ofText (String.ofList t.delta.toList) = .ok (.literal t.delta) := by
      rw [String.ofList_toList, MacroText.ofText_of_unopened ht.plain]
    unfold Action.changeOf
    rw [String.toList_ofList]
    cases hadds : t.adds with
    | true =>
        simp only [sign, hadds, if_true]
        rw [hdelta]
        rfl
    | false =>
        simp only [sign, hadds, Bool.false_eq_true, if_false]
        rw [hdelta]
        rfl
  unfold Action.setVarOf
  split
  · rename_i hmarked
    -- no name starts with an exclamation mark
    obtain ⟨d, ds, hds⟩ := List.exists_cons_of_ne_nil (CollectionName.ne_nil_of_upper hname)
    rw [hcs, hds] at hmarked
    obtain rfl := (List.cons.inj hmarked).1
    exact absurd (by decide) (hplain '!' (hds ▸ List.mem_cons_self ..)).2
  · rw [hassigned]
    dsimp only
    rw [hchange]
    dsimp only [Except.map, bind, Except.bind]
    rw [htarget]
    rfl

/-! ## Counting -/

/--
**Counters count.**

Let a transaction have bound a collection, in whatever state. An action that adds an amount to a key
or takes it away reads the integer that the first text under the key starts with, or 0 where there is
no text, and leaves the key such that the next read finds the decimal text of the new integer, clamped
to 64 bits, in every spelling of the key and until a deadline comes. No other key is touched. Hence
any number of such actions, whichever rules take them and whenever, leaves their exact sum under a key
that was absent, if every sum on the way is above the least integer and at most the greatest one.
-/
theorem counters_count (h : x.Bound c v) :
    (∀ (t : Tick) (name : String), t.Literal → Text.upper name = c.text →
      Action.setVarOf (t.written name) = .ok (t.action c)) ∧
    (∀ t : Tick,
      let y := t.run c x
      y.Bound c v ∧
      (∀ (key : String) (later : Instant), Text.sameText t.key key = true →
        (∀ e ∈ (x.content v.home).entriesAt (v.compartment.key key),
          e.isExpired later = true → e.isExpired t.now = true) →
        (v.compartment.readFirst (y.content v.home) later key).1 =
          some (Text.decimal (Text.clamp (t.before x v + t.amount)))) ∧
      ∀ (home : Home) (stored : String),
        (home = v.home → Text.sameText (v.compartment.key t.key) stored = false) →
          (y.content home).entriesAt stored = (x.content home).entriesAt stored) ∧
    ∀ (key : String) (ts : List Tick), v.compartment.contains (x.content v.home) key = false →
      (∀ t ∈ ts, Text.sameText key t.key = true) →
      (∀ start, start <+: ts → Text.minInt < total start ∧ total start ≤ Text.maxInt) →
      ts ≠ [] → ∀ later : Instant,
        (v.compartment.readFirst ((ts.foldl (run c) x).content v.home) later key).1 =
          some (Text.decimal (total ts)) ∧
        Text.leadingInt (Text.decimal (total ts)) = total ts := by
  refine ⟨fun t name ht hname => setVarOf_written ht hname, fun t => ⟨bound_run h t, ?_, ?_⟩, ?_⟩
  · exact fun key later hkey hlater => readFirst_run h t hkey hlater
  · exact fun home stored hother => entriesAt_run_of_ne h t hother
  · intro key ts habsent hkeys hsums hne later
    have hnil : (x.content v.home).entriesAt (v.compartment.key key) = [] := by
      unfold Collection.entriesAt
      rw [Collection.find?_eq_none_of_not_contains habsent]
      rfl
    obtain ⟨-, hentries⟩ := entriesAt_foldl_run h hnil ts hkeys hsums
    obtain ⟨hmin, hmax⟩ := hsums ts (List.prefix_refl ts)
    refine ⟨?_, Text.leadingInt_decimal_of_between hmin hmax⟩
    unfold Compartment.readFirst
    rw [Collection.readFirst_fst, hentries]
    cases ts with
    | nil => exact absurd rfl hne
    | cons t ts => rfl

/-- A transaction at the start of a handler, once it has bound the shared counters of an address. -/
def caller : Exchange where
  tx := ((Transaction.new "caller" 0 (Registry.ofNames ["IP"]).1).bind "IP" "10.0.0.1").2
  shelf := (Registry.ofNames ["IP"]).2
  now := 0

/-- Five hits are added at once, seven are taken away a minute later. -/
def hits : List Tick := [⟨{}, {}, 0, "hits", true, "5"⟩, ⟨{}, {}, 60, "HITS", false, "7"⟩]

/-- The counter of an address goes up by five and then down by seven. -/
theorem counters_count_hits :
    let v : View := ⟨.shared 0, .within ["10.0.0.1"]⟩
    caller.Bound .ip v ∧ Text.upper "ip" = CollectionName.ip.text ∧
      (∀ t ∈ hits, t.Literal ∧ Action.setVarOf (t.written "ip") = .ok (t.action .ip)) ∧
      (∀ t ∈ hits, Text.sameText t.key "Hits" = true ∧
        (v.compartment.readFirst ((t.run .ip caller).content v.home) t.now "Hits").1 =
          some (Text.decimal (Text.clamp (t.before caller v + t.amount)))) ∧
      (∀ t ∈ hits, Text.sameText (v.compartment.key t.key) "misses" = false ∧
        ((t.run .ip caller).content v.home).entriesAt "misses" =
          (caller.content v.home).entriesAt "misses") ∧
      v.compartment.contains (caller.content v.home) "hits" = false ∧
      (∀ t ∈ hits, Text.sameText "hits" t.key = true) ∧
      (∀ start, start <+: hits → Text.minInt < total start ∧ total start ≤ Text.maxInt) ∧
      hits ≠ [] ∧
      (v.compartment.readFirst ((hits.foldl (run .ip) caller).content v.home) 120 "hits").1 =
        some "-2" := by
  intro v
  have hview : caller.view? CollectionName.ip.text = some v := by
    unfold Exchange.view?
    rw [if_neg (by decide +kernel)]
    have hbinding : caller.tx.binding? CollectionName.ip.text = some "10.0.0.1" := by decide +kernel
    have hplace : caller.tx.registry.place? CollectionName.ip.text = some 0 := by decide +kernel
    rw [hbinding, hplace]
  have hbound : caller.Bound .ip v :=
    Exchange.bound_of_onShelf (Registry.onShelf_ofNames ["IP"]) hview
  have hname : Text.upper "ip" = CollectionName.ip.text := by decide +kernel
  have hliteral : ∀ t ∈ hits, t.Literal :=
    List.forall_mem_cons.2
      ⟨⟨by decide +kernel, by decide +kernel, by decide +kernel, by decide +kernel⟩,
        List.forall_mem_singleton.2
          ⟨by decide +kernel, by decide +kernel, by decide +kernel, by decide +kernel⟩⟩
  have hspelled : ∀ t ∈ hits, Text.sameText t.key "Hits" = true := by decide +kernel
  have hmisses : ∀ t ∈ hits, Text.sameText (v.compartment.key t.key) "misses" = false := by
    decide +kernel
  have habsent : v.compartment.contains (caller.content v.home) "hits" = false := by decide +kernel
  have hkeys : ∀ t ∈ hits, Text.sameText "hits" t.key = true := by decide +kernel
  have hsums : ∀ start, start <+: hits → Text.minInt < total start ∧ total start ≤ Text.maxInt := by
    have hinits : ∀ start ∈ hits.inits, Text.minInt < total start ∧ total start ≤ Text.maxInt := by
      decide +kernel
    exact fun start hstart => hinits start ((List.mem_inits start hits).2 hstart)
  have hne : hits ≠ [] := List.cons_ne_nil _ _
  obtain ⟨hwritten, hstep, hrun⟩ := counters_count hbound
  have hsum : Text.decimal (total hits) = "-2" := by decide +kernel
  refine ⟨hbound, hname, fun t ht => ⟨hliteral t ht, hwritten t "ip" (hliteral t ht) hname⟩, ?_, ?_,
    habsent, hkeys, hsums, hne, ?_⟩
  · exact fun t ht => ⟨hspelled t ht, (hstep t).2.1 "Hits" t.now (hspelled t ht) fun _ _ h => h⟩
  · exact fun t ht => ⟨hmisses t ht, (hstep t).2.2 v.home "misses" fun _ => hmisses t ht⟩
  · rw [← hsum]
    exact (hrun "hits" hits habsent hkeys hsums hne 120).1

end Tick

end Rampart
