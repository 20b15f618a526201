import Rampart.Proofs.Answers
import Rampart.Proofs.Isolation
import Rampart.Proofs.PlainKeys
import Rampart.Proofs.ReadBack
import Rampart.Proofs.Resolution
import Rampart.Proofs.SingleEntries
import Rampart.Proofs.Standalone

/-!
# The readers of a key agree

Where a key has several entries its readers disagree: a variable and a text with references show the
last value first, the others the first one. A key with one entry leaves nothing to choose from, and a
read that removes it has shown nothing. As rules keep one entry under each key, all readers give the
same value or nothing wherever only rules write.
-/

namespace Rampart

open Exchange (Path)

/-! ## One entry -/

namespace Collection

variable {c : Collection}

theorem texts_readKey (c : Collection) (now : Instant) (key : String) :
    (c.readKey now key).1.map Value.text = (c.entriesAt key).filterMap (·.liveValue? now) := by
  rw [readKey_fst]
  unfold Collection.entriesAt
  cases c.find? key with
  | none => rfl
  | some b =>
      change ((b.entries.live now).map (Value.keyed c.name b.key) ++ []).map Value.text = _
      rw [List.append_nil, List.map_map]
      exact List.map_id _

theorem textsAt_eq (c : Collection) (now : Instant) (key : String) :
    c.textsAt now key = ((c.entriesAt key).filterMap (·.liveValue? now)).reverse := by
  unfold textsAt Collection.entriesAt
  rw [filter_sameText]
  cases c.find? key with
  | none => rfl
  | some b => exact congrArg List.reverse (List.append_nil _)

/-- **One entry leaves nothing to choose from**: the texts in their order and the texts in the reverse
order are the first text, if there is one. -/
theorem Single.texts_eq (h : c.Single) (now : Instant) (key : String) :
    (c.readKey now key).1.map Value.text = (c.readFirst now key).1.toList ∧
      c.textsAt now key = (c.readFirst now key).1.toList := by
  obtain ⟨e, he⟩ := h.entriesAt key
  rw [readFirst_fst, texts_readKey, textsAt_eq, he]
  cases e with
  | none => exact ⟨rfl, rfl⟩
  | some e =>
      rw [Option.toList_some, List.findSome?_singleton, List.filterMap_cons]
      cases e.liveValue? now with
      | none => exact ⟨rfl, rfl⟩
      | some text => exact ⟨rfl, rfl⟩

/-- A purge takes nothing from a reader: with an expired entry no live one goes. -/
theorem Single.readFirst_purge (h : c.Single) (now : Instant) (selects : String → Bool)
    (key : String) : ((c.purge now selects).readFirst now key).1 = (c.readFirst now key).1 := by
  rw [readFirst_fst, readFirst_fst, entriesAt_purge]
  split
  · rename_i hempties
    obtain ⟨b, hb, hany⟩ := (Option.any_eq_true _ _).1 hempties
    obtain ⟨e, he⟩ := h b (find?_eq_some_iff.1 hb).1
    have hentries : c.entriesAt key = [e] := by
      unfold Collection.entriesAt
      rw [hb]
      exact he
    have hexpired : e.isExpired now = true := by
      have := (Bool.and_eq_true_iff.1 hany).2
      unfold Entries.anyExpired at this
      rwa [he, List.any_cons, List.any_nil, Bool.or_false] at this
    rw [hentries, List.findSome?_singleton, Entry.liveValue?_of_isExpired hexpired]
    rfl
  · rfl

/-- With two entries the first text and the last one are both shown first by some reader. -/
example :
    let c := ((empty "IP").store "k" "1").store "k" "2"
    (c.readFirst 0 "k").1 = some "1" ∧ c.textsAt 0 "k" = ["2", "1"] := by
  decide +kernel

end Collection

/-! ## The readers -/

/-- Where at most one text is kept under a key, the variable of the key shows it. -/
theorem Variable.texts_evaluate_key {c : CollectionName} {x : Exchange} {k : String}
    (hk : k.isEmpty = false) {o : Option String} (htexts : c.textsAt x k = o.toList) (r : RuleInfo) :
    ((collection c (.key k) .none).evaluate r x).1.map Value.text = o.toList := by
  have hperm := (evaluate_collection_key r x c hk .none).map Value.text
  have hid : Value.text ∘ Value.keyed (c.label x) k = id := rfl
  rw [Exclusions.omits_none, if_neg Bool.false_ne_true, List.map_map, htexts, hid, List.map_id]
    at hperm
  cases o with
  | none => exact List.perm_nil.1 hperm
  | some text => exact List.perm_singleton.1 hperm

/-- A text that is one reference stands for the first value of its variable, or for nothing. -/
theorem MacroText.expand_reference (raw : String) (w : Variable) (r : RuleInfo) (x : Exchange) :
    ((MacroText.mk raw [.reference w]).expand r x).1 =
      ((w.evaluate r x).1.map Value.text).head?.getD "" := by
  unfold expand
  dsimp only
  rw [expandSegments, expandSegments]
  dsimp only
  rw [List.append_nil]
  cases (w.evaluate r x).1 with
  | nil => rfl
  | cons value rest => exact String.ofList_toList

namespace Exchange

/-- **The readers of a key agree** on a text, or on none: the first value, the values under the key,
the values of the variable `name:k`, and what stands for `name.k` in a text with references. -/
structure Agrees (x : Exchange) (v : View) (name k : String) (o : Option String) : Prop where
  first : (v.compartment.readFirst (x.content v.home) x.now k).1 = o
  all : (v.compartment.readKey (x.content v.home) x.now k).1.map Value.text = o.toList
  evaluated : ∃ w, Variable.ofText (name ++ ":" ++ k) = .ok w ∧
    ∀ r, (w.evaluate r x).1.map Value.text = o.toList
  expanded : ∃ m, MacroText.ofText ("%\x7b" ++ name ++ "." ++ k ++ "\x7d") = .ok m ∧
    ∀ r, (m.expand r x).1 = o.getD ""

/-- A purge of some collection purges the one that is kept in a place, or leaves it as it was. -/
theorem content_purge (x : Exchange) (home home' : Home) (selects : String → Bool) :
    let y := x.put home ((x.content home).purge x.now selects)
    y.content home' = (x.content home').purge x.now selects ∨ y.content home' = x.content home' := by
  by_cases hhome : home' = home
  · subst hhome
    cases home' with
    | own => exact .inl rfl
    | shared place => exact content_put_shared x place _
  · exact .inr (content_put_of_ne x hhome _)

/-- What one reader removes no other one misses. -/
theorem Single.readFirst_of_purges {x y : Exchange} (h : x.Single) (hpurges : Purges x y) (v : View)
    (k : String) :
    (v.compartment.readFirst (y.content v.home) y.now k).1 =
      (v.compartment.readFirst (x.content v.home) x.now k).1 := by
  induction hpurges with
  | refl => rfl
  | @purge y hpurges home selects ih =>
      have hy := h.path hpurges.path
      have hnow : (y.put home ((y.content home).purge y.now selects)).now = y.now :=
        (onlyCollections_put y home _).now
      rw [← ih, hnow]
      rcases y.content_purge home v.home selects with hcontent | hcontent
      · rw [hcontent]
        exact (hy.content v.home).readFirst_purge y.now selects _
      · rw [hcontent]

/-- Where collections hold one entry under each key, the readers give the first value. -/
theorem Single.agrees {x : Exchange} (h : x.Single) {c : CollectionName} {v : View}
    (hv : x.view? c.text = some v) {name k : String} (hname : Text.upper name = c.text)
    (hk : PlainKey k) :
    x.Agrees v name k (v.compartment.readFirst (x.content v.home) x.now k).1 := by
  obtain ⟨hall, htexts⟩ := (h.content v.home).texts_eq x.now (v.compartment.key k)
  change _ = (v.compartment.readFirst (x.content v.home) x.now k).1.toList at hall htexts
  generalize hfirst : (v.compartment.readFirst (x.content v.home) x.now k).1 = o at hall htexts ⊢
  have htextsAt : c.textsAt x k = o.toList := by
    unfold CollectionName.textsAt
    rw [hv]
    exact htexts
  have hevaluated := Variable.texts_evaluate_key hk.nonempty htextsAt
  refine ⟨hfirst, ?_, ⟨_, ?_, hevaluated⟩, ⟨_, MacroText.ofText_plainKey hname hk, ?_⟩⟩
  · -- without the prefix the values show the same texts
    unfold Compartment.readKey
    dsimp only
    rw [List.map_map]
    exact hall
  · have hcs : (name ++ ":" ++ k).toList = name.toList ++ ':' :: k.toList := by simp
    unfold Variable.ofText
    rw [hcs]
    exact Variable.ofChars_plainKey hname hk
  · intro r
    rw [MacroText.expand_reference, hevaluated, Option.head?_toList]

/-- The readers agree also when they are asked one after the other. -/
theorem Single.agrees_of_purges {x y : Exchange} (h : x.Single) (hpurges : Purges x y)
    {c : CollectionName} {v : View} (hv : x.view? c.text = some v) {name k : String}
    (hname : Text.upper name = c.text) (hk : PlainKey k) :
    y.Agrees v name k (v.compartment.readFirst (x.content v.home) x.now k).1 := by
  have hview : y.view? c.text = some v :=
    (hpurges.onlyCollections.toUndecided.view? c.text).trans hv
  rw [← h.readFirst_of_purges hpurges v k]
  exact (h.path hpurges.path).agrees hview hname hk

end Exchange

/-! ## Wherever only rules write -/

namespace Session

/--
**Rules keep one entry under each key, and its readers agree.**

Actions, rules and chains are made of single steps, and the calls to a handler of such steps of its
transactions. If the shared collections were empty before the first call, then after any number of
steps, however those of different transactions alternate, each key of the collection of a
transaction and of a shared collection holds exactly one entry. So whenever a collection that a
transaction can reach is asked for a plain key, all readers give the same single text, or nothing,
whatever was read before them in the same moment.
-/
theorem rules_keep_one_entry {h : Handler} (hempty : ∀ c ∈ h.shelf.collections, c.buckets = []) :
    (∀ (r : Rule), ∀ a ∈ r.actions, ∀ x m, Path x (a.run r.info x m).1) ∧
    (∀ (r : Rule) (e : Exceptions) (p : Progress), Path p.exchange (r.evaluate e p).2.exchange) ∧
    (∀ (e : Engine) (x : Exchange) (c : Chain), Path x (e.evaluate x c).exchange) ∧
    (∀ (s : Session) (calls : List Call), s.Reaches (s.run calls).1) ∧
    ∀ s, (new h).Reaches s → s.Single ∧
      ∀ t ∈ s.transactions, ∀ (now : Instant) (c : CollectionName) (v : View),
        Exchange.view? ⟨t, s.handler.shelf, now⟩ c.text = some v →
          ∀ name k, Text.upper name = c.text → PlainKey k →
            ∃ o, ∀ y, Purges ⟨t, s.handler.shelf, now⟩ y → y.Agrees v name k o := by
  refine ⟨fun r a ha x m => path_run ha x m, fun r e p => (touches_evaluate r e p).path,
    Engine.path_evaluate, reaches_run, ?_⟩
  intro s hreach
  have hnew : (new h).Single := ⟨List.forall_mem_nil _, fun c hc => .of_buckets_eq_nil (hempty c hc)⟩
  have hsingle := hnew.reaches hreach
  refine ⟨hsingle, ?_⟩
  intro t ht now c v hv name k hname hk
  exact ⟨_, fun y hy => (hsingle.exchange ht now).agrees_of_purges hy hv hname hk⟩

/-- The key of a counter. -/
def tally : MacroText := ⟨"tally", [.literal "tally".toList]⟩

/-- A handler that gives a shared counter a deadline before it counts, as soon as it is bound. -/
def tallying : Handler where
  name := "tallying"
  rules :=
    RuleSet.empty.addAll
      [⟨{ Engine.plainRule 1 false with
          actions := [.expireVar .ip tally ⟨"60", [.literal "60".toList]⟩] }, []⟩,
        ⟨{ Engine.plainRule 2 false with
          actions :=
            [.setVar .ip tally (.add ⟨"1", [.literal "1".toList]⟩),
              .initCollection .ip ⟨"::1", [.literal "::1".toList]⟩] }, []⟩]
  mode := .on
  registry := ⟨[("IP", 0)]⟩
  shelf := ⟨[.empty "IP"]⟩
  log := .empty {}
  environment := .empty
  statistics := .none

/-- A phase that binds the counter, and two that count. -/
def tallyingCalls : List Call :=
  [.start "a" 0, .phase 0 2 ⟨0, 0⟩, .phase 0 2 ⟨1, 0⟩, .phase 0 2 ⟨2, 0⟩]

theorem plainKey_tally : PlainKey "tally" where
  nonempty := by decide +kernel
  trimmed := by decide +kernel
  unslashed := by
    unfold Selector.Slashed
    decide +kernel
  unclosed := by decide +kernel

/-- All readers of the counter say that it was counted twice. -/
theorem rules_keep_one_entry_tallying :
    (∀ c ∈ tallying.shelf.collections, c.buckets = []) ∧
    ∃ t ∈ ((new tallying).run tallyingCalls).1.transactions, ∃ v,
      Exchange.view? ⟨t, ((new tallying).run tallyingCalls).1.handler.shelf, 3⟩ "IP" = some v ∧
        Text.upper "ip" = "IP" ∧ PlainKey "tally" ∧
        ∀ y, Purges ⟨t, ((new tallying).run tallyingCalls).1.handler.shelf, 3⟩ y →
          y.Agrees v "ip" "tally" (some "2") := by
  have hempty : ∀ c ∈ tallying.shelf.collections, c.buckets = [] := by
    intro c hc
    rw [List.mem_singleton.1 hc]
    rfl
  have hname : Text.upper "ip" = "IP" := by decide +kernel
  obtain ⟨-, -, -, hcalls, hreached⟩ := rules_keep_one_entry hempty
  obtain ⟨-, hagree⟩ := hreached _ (hcalls (new tallying) tallyingCalls)
  have hbound : ((new tallying).run tallyingCalls).1.transactions.map
      (fun t => (t.binding? "IP", t.registry.place? "IP")) = [(some "::1", some 0)] := by
    decide +kernel
  obtain ⟨t, ht, hplaces⟩ := List.map_eq_singleton_iff.1 hbound
  obtain ⟨hbinding, hplace⟩ := Prod.mk.inj hplaces
  have hmem : t ∈ ((new tallying).run tallyingCalls).1.transactions := by
    rw [ht]
    exact List.mem_singleton_self t
  have hview : Exchange.view? ⟨t, ((new tallying).run tallyingCalls).1.handler.shelf, 3⟩ "IP" =
      some ⟨.shared 0, .within ["::1"]⟩ := by
    unfold Exchange.view?
    dsimp only
    rw [if_neg (by decide +kernel), hbinding, hplace]
  obtain ⟨o, ho⟩ := hagree t hmem 3 .ip _ hview "ip" "tally" hname plainKey_tally
  have hfirst : ((Compartment.within ["::1"]).readFirst
      ((((new tallying).run tallyingCalls).1.handler.shelf.at? 0).getD (.empty "")) 3 "tally").1 =
        some "2" := by
    decide +kernel
  obtain rfl : o = some "2" := (ho _ (.refl _)).first.symm.trans hfirst
  exact ⟨hempty, t, hmem, _, hview, hname, plainKey_tally, ho⟩

end Session

end Rampart
