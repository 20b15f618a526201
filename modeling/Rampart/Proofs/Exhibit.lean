import Rampart.Proofs.Resolution

/-!
# An exchange that keeps one value under a key

To tell apart what two variables show, one exchange for each key is enough: every set, every
collection and the environment hold one value there, under that key, and every single text is known.
-/

namespace Rampart

/-- The compartment of shared collections in which the value is kept. -/
def exhibitPart : Compartment := ⟨"::"⟩

/-- A request with one argument, header and cookie, all under the key. -/
def exhibitRequest (key : String) : Request :=
  let filled (s : AnchoredSet) : AnchoredSet := s.pushWhole key "1" 0
  let plain := Request.new "exhibit" 0
  { plain with
    uri := plain.uri.set "/" 0
    method := plain.method.set "GET" 0
    query := plain.query.set "?" 0
    body := plain.body.set "-" 0
    remote := plain.remote.set "::1" 0
    args := filled plain.args
    argsGet := filled plain.argsGet
    headers := filled plain.headers
    cookies := filled plain.cookies }

/-- A match of a value under the key. -/
def exhibitMatches (key : String) : Matches where
  last := Matches.none.last.set "1" 0
  lastName := Matches.none.lastName.set "1" 0
  values := Matches.none.values.pushWhole key "1" 0
  names := Matches.none.names.pushWhole key "1" 0

/-- One value under the key, wherever there can be one. -/
def exhibit (key : String) : Exchange where
  tx :=
    { Transaction.new "exhibit" 0 ⟨CollectionName.all.map fun c => (c.text, 0)⟩ with
      request := exhibitRequest key
      matched := exhibitMatches key
      own := (Collection.empty Transaction.ownName).store key "1"
      bindings := CollectionName.all.map fun c => (c.text, "")
      environment := ⟨[(key, "1")]⟩ }
  shelf := ⟨[(Collection.empty "SHARED").store (exhibitPart.key key) "1"]⟩
  now := 0

/-! ## Collections -/

theorem buckets_store_empty (name key text : String) :
    ((Collection.empty name).store key text).buckets = [⟨key, ⟨.holding text, []⟩⟩] := rfl

theorem liveValues_store_empty (name key text : String) (now : Instant) :
    ((Collection.empty name).store key text).liveValues now = [.keyed name key text] := rfl

theorem textsAt_store_empty (name key text k : String) (now : Instant) :
    ((Collection.empty name).store key text).textsAt now k =
      if Text.sameText key k then [text] else [] := by
  unfold Collection.textsAt
  rw [buckets_store_empty, List.filter_cons]
  cases Text.sameText key k with
  | true => rfl
  | false => rfl

theorem view_exhibit_tx (key : String) :
    (exhibit key).view? CollectionName.tx.text = some ⟨.own, .whole⟩ := by
  unfold Exchange.view?
  rw [if_pos (by decide +kernel)]

theorem view_exhibit_shared (key : String) {c : CollectionName} (hc : c ≠ .tx) :
    (exhibit key).view? c.text = some ⟨.shared 0, exhibitPart⟩ := by
  have hother : Text.sameText c.text Transaction.ownName = false := by
    cases c <;> first | exact absurd rfl hc | decide +kernel
  have hbinding : (exhibit key).tx.binding? c.text = some "" := by
    change ((CollectionName.all.map fun c => (c.text, "")).find? fun b =>
      Text.sameText b.1 c.text).map (·.2) = some ""
    cases c <;> decide +kernel
  have hplace : (exhibit key).tx.registry.place? c.text = some 0 := by
    change ((CollectionName.all.map fun c => (c.text, 0)).find? fun b =>
      Text.sameText b.1 c.text).map (·.2) = some 0
    cases c <;> decide +kernel
  unfold Exchange.view?
  rw [if_neg (Bool.eq_false_iff.1 hother), hbinding, hplace]
  rfl

theorem startsWithFolded_append (as bs : List Char) :
    Unicode.startsWithFolded as (as ++ bs) = true := by
  induction as with
  | nil => rfl
  | cons a as ih =>
      rw [List.cons_append, Unicode.startsWithFolded, ih, Bool.and_true]
      exact Unicode.sameFolding_iff.2 rfl

theorem liveValues_exhibitPart (name key : String) (now : Instant) :
    exhibitPart.liveValues ((Collection.empty name).store (exhibitPart.key key) "1") now =
      [.keyed name key "1"] := by
  have hcovers : exhibitPart.covers (exhibitPart.key key) = true := by
    unfold Compartment.covers Compartment.key
    rw [String.toList_append]
    exact startsWithFolded_append _ _
  have hsome : exhibitPart.start.isEmpty = false := by decide +kernel
  have hkept : [Value.keyed name (exhibitPart.key key) "1"].filter
      (fun v => exhibitPart.covers v.key) = [.keyed name (exhibitPart.key key) "1"] :=
    List.filter_eq_self.2 fun v hv => by rw [List.mem_singleton.1 hv]; exact hcovers
  unfold Compartment.liveValues
  rw [hsome, if_neg Bool.false_ne_true, liveValues_store_empty, hkept]
  exact congrArg (fun v => [v]) (exhibitPart.strip_keyed name key "1")

theorem sameText_key (p : Compartment) (a b : String) :
    Text.sameText (p.key a) (p.key b) = Text.sameText a b := by
  rw [Bool.eq_iff_iff, Text.sameText_iff, Text.sameText_iff]
  unfold Compartment.key
  rw [Text.fold_append, Text.fold_append]
  exact List.append_right_inj _

theorem textsAt_exhibit (c : CollectionName) (key k : String) :
    c.textsAt (exhibit key) k = if Text.sameText key k then ["1"] else [] := by
  unfold CollectionName.textsAt
  by_cases hc : c = .tx
  · rw [hc, view_exhibit_tx]
    have hwhole : Compartment.whole.key k = k := String.empty_append
    dsimp only
    rw [hwhole]
    exact textsAt_store_empty _ key "1" k _
  · rw [view_exhibit_shared key hc, ← sameText_key exhibitPart]
    exact textsAt_store_empty _ (exhibitPart.key key) "1" (exhibitPart.key k) _

/-! ## Kinds -/

namespace Variable

/-- Values of the kind are found under keys of a transaction. -/
def Kind.IsKeyed : Kind → Prop
  | .single _ => False
  | .time _ => False
  | .rule => False
  | _ => True

/-- **The exhibit holds one value of each kind**, and that under its key. -/
theorem values_exhibit (r : RuleInfo) (key : String) {k : Kind} (hk : k.IsKeyed) :
    ∃ a, k.values r (exhibit key) = [a] ∧ a.key = key := by
  cases k with
  | set s => cases s <;> exact ⟨_, rfl, rfl⟩
  | names s => cases s <;> exact ⟨_, rfl, rfl⟩
  | collection c =>
      -- the collection of the transaction is its own, the others share one place under a prefix
      rw [Kind.values]
      by_cases hc : c = .tx
      · rw [hc, view_exhibit_tx]
        exact ⟨_, rfl, rfl⟩
      · rw [view_exhibit_shared key hc]
        exact ⟨_, liveValues_exhibitPart "SHARED" key _, rfl⟩
  | single s => exact hk.elim
  | env => exact ⟨_, rfl, rfl⟩
  | time f => exact hk.elim
  | rule => exact hk.elim

/-- Whatever a variable shows, it finds in the exhibit of the key. -/
theorem exists_mem_exhibit {v : Variable} {r : RuleInfo} {key : String} (hm : v.Unmarked)
    (hk : ¬ v.AsksForKey) (hkeyed : v.kind.IsKeyed) (h : v.shows r key = true) :
    ∃ a ∈ (v.evaluate r (exhibit key)).1, a.key = key := by
  obtain ⟨a, ha, hkey⟩ := values_exhibit r key hkeyed
  refine ⟨a, (mem_evaluate_iff hm hk).2 ⟨?_, hkey ▸ h⟩, hkey⟩
  rw [ha]
  exact List.mem_singleton_self a

end Variable

end Rampart
