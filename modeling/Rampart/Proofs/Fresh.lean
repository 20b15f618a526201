import Rampart.Proofs.Purge

/-!
# Reads of what has not expired

A read writes only where it meets an expired entry. As long as no collection of an exchange holds
one, resolving variables, expanding texts and putting tests to values leave the exchange exactly as
it is.
-/

namespace Rampart

/-- No entry of the collection has expired. -/
def Collection.Fresh (c : Collection) (now : Instant) : Prop :=
  ∀ b ∈ c.buckets, b.entries.anyExpired now = false

theorem Collection.purge_of_fresh {c : Collection} {now : Instant} (h : c.Fresh now)
    (selects : String → Bool) : c.purge now selects = c := by
  refine keep_eq_self fun b hb => ?_
  rw [h b hb, Bool.and_false, Bool.not_false]

/-! ## Exchanges -/

namespace Exchange

/-- No collection of the exchange holds an expired entry. -/
structure Fresh (x : Exchange) : Prop where
  own : x.tx.own.Fresh x.now
  shared : ∀ c ∈ x.shelf.collections, c.Fresh x.now

theorem Fresh.content {x : Exchange} (h : x.Fresh) (home : Home) :
    (x.content home).Fresh x.now := by
  cases home with
  | own => exact h.own
  | shared place =>
      unfold Exchange.content Shelf.at?
      dsimp only
      cases hc : x.shelf.collections[place]? with
      -- a place off the shelf stands for the empty collection
      | none => intro b hb; cases hb
      | some c => exact h.shared c (List.mem_of_getElem? hc)

/-- Putting back what was there changes nothing. -/
theorem put_content (x : Exchange) (home : Home) : x.put home (x.content home) = x := by
  cases home with
  | own => rfl
  | shared place =>
      cases x with
      | mk tx shelf now =>
          simp only [put, content, Shelf.set, Shelf.at?, Exchange.mk.injEq, true_and, and_true]
          refine congrArg Shelf.mk ?_
          cases hc : shelf.collections[place]? with
          -- nothing is written off the shelf
          | none => exact List.set_eq_of_length_le (List.getElem?_eq_none_iff.1 hc)
          | some c =>
              obtain ⟨hlt, rfl⟩ := List.getElem?_eq_some_iff.1 hc
              exact List.set_getElem_self hlt

end Exchange

/-- **Reads change nothing** where nothing has expired. -/
theorem Purges.eq_of_fresh {x y : Exchange} (h : Purges x y) (hx : x.Fresh) : y = x := by
  induction h with
  | refl => rfl
  | purge _ home selects ih =>
      rw [ih, Collection.purge_of_fresh (hx.content home), x.put_content]

/-! ## Within reach -/

/-- No collection that the transaction can reach holds an expired entry. -/
def Exchange.FreshInReach (x : Exchange) : Prop :=
  ∀ name v, x.view? name = some v → (x.content v.home).Fresh x.now

theorem Exchange.Fresh.inReach {x : Exchange} (h : x.Fresh) : x.FreshInReach :=
  fun _ v _ => h.content v.home

/-- A variable is resolved in reach of the transaction, and changes nothing if nothing has expired
there. -/
theorem Variable.evaluate_of_freshInReach {x : Exchange} (h : x.FreshInReach) (r : RuleInfo)
    (v : Variable) : (v.evaluate r x).2 = x := by
  -- on the marks, as for the reads themselves
  induction v with
  | collection name sel omitted =>
      rw [evaluate]
      split
      · rfl
      · rename_i view hview
        obtain ⟨selects, hleft⟩ :=
          sel.leaves_ofCollection x.now omitted view.compartment (x.content view.home)
        have hsame := Collection.purge_of_fresh (h _ view hview) selects
        unfold Exchange.reading
        dsimp only
        rw [hleft, hsame, x.put_content]
  | count base ih => exact ih
  | exclusion base => rfl
  | set source sel omitted => rfl
  | names source sel omitted => rfl
  | single source => rfl
  | env key omitted => rfl
  | time field => rfl
  | rule key => rfl

end Rampart
