import Rampart.Proofs.Overlap
import Rampart.Transaction

/-!
# What transactions keep from one another

Transactions share collections and reach each of them through the compartment that it is bound to.
One transaction writes to a collection, at any moments and under any keys, and another one reads
from it. Nothing that the first one writes is noticed by the second exactly if their compartments do
not overlap.

Hence compartments without a colon are isolated unless they are the same up to case, where case is
that of all letters. Others need not be: what is written under the key `y::k` of the compartment `x`
is read under the key `k` of `x::y`.
-/

namespace Rampart

open Collection (Write Query)

/-! ## Bound collections -/

/-- The transaction reaches the collection in a place of the shelf under a name, through a
compartment. -/
structure Transaction.BoundTo (t : Transaction) (name : String) (place : Place)
    (compartment : String) : Prop where
  shared : Text.sameText name ownName = false
  place : t.registry.place? name = some place
  binding : t.binding? name = some compartment

/-- A transaction reaches a collection once it has bound it. -/
theorem Transaction.boundTo_bind {t : Transaction} {name : String} {place : Place}
    (hshared : Text.sameText name ownName = false) (hplace : t.registry.place? name = some place)
    (compartment : String) : (t.bind name compartment).2.BoundTo name place compartment := by
  have hthere : t.registry.contains name = true := by
    unfold Registry.contains
    rw [hplace]
    rfl
  unfold bind
  rw [hthere, if_pos rfl]
  refine ⟨hshared, hplace, ?_⟩
  unfold binding?
  rw [List.find?_cons, Text.sameText_refl]
  rfl

namespace Exchange

variable {x : Exchange} {name compartment : String} {place : Place}

/-- The exchange after a write to a key of a collection, if the transaction can reach it. -/
def writeTo (x : Exchange) (name key : String) (w : Write) : Exchange :=
  match x.view? name with
  | some v => x.writing v fun p c => p.write c x.now key w
  | none => x

/-- The exchange after writes to keys of a collection, each at a moment of its own. -/
def writeAll (x : Exchange) (name : String) (ws : List (Instant × String × Write)) : Exchange :=
  ws.foldl (fun x w => { x with now := w.1 }.writeTo name w.2.1 w.2.2) x

/-- The answer to a query of a collection, if the transaction can reach it. -/
def answer (x : Exchange) (name : String) (q : Query) : Option (List Value) :=
  (x.view? name).map fun v => (x.reading v fun p c => p.ask c x.now q).1

/-- There is an entry under the key of a collection, if the transaction can reach it. -/
def holds (x : Exchange) (name key : String) : Option Bool :=
  (x.view? name).map fun v => v.compartment.contains (x.content v.home) key

theorem view?_of_boundTo (h : x.tx.BoundTo name place compartment) :
    x.view? name = some ⟨.shared place, .within [compartment]⟩ := by
  unfold view?
  rw [h.shared, h.binding, h.place]
  rfl

theorem writeTo_of_boundTo (h : x.tx.BoundTo name place compartment) (key : String) (w : Write) :
    x.writeTo name key w = x.put (.shared place)
      ((Compartment.within [compartment]).write (x.content (.shared place)) x.now key w) := by
  unfold writeTo
  rw [view?_of_boundTo h]
  rfl

theorem answer_of_boundTo (h : x.tx.BoundTo name place compartment) (q : Query) :
    x.answer name q =
      some ((Compartment.within [compartment]).ask (x.content (.shared place)) x.now q).1 := by
  unfold answer
  rw [view?_of_boundTo h]
  rfl

theorem holds_of_boundTo (h : x.tx.BoundTo name place compartment) (key : String) :
    x.holds name key =
      some ((Compartment.within [compartment]).contains (x.content (.shared place)) key) := by
  unfold holds
  rw [view?_of_boundTo h]
  rfl

/-- Nothing is kept in a place beyond the end of the shelf. -/
theorem content_put_shared (x : Exchange) (place : Place) (c : Collection) :
    (x.put (.shared place) c).content (.shared place) = c ∨
      (x.put (.shared place) c).content (.shared place) = x.content (.shared place) := by
  unfold content put Shelf.at? Shelf.set
  dsimp only
  rcases Nat.lt_or_ge place x.shelf.collections.length with hlt | hge
  · rw [List.getElem?_set_self hlt]
    exact .inl rfl
  · rw [List.set_eq_of_length_le hge]
    exact .inr rfl

/-- What is put into a place changes no other one. -/
theorem content_put_of_ne (x : Exchange) {home home' : Home} (hne : home' ≠ home) (d : Collection) :
    (x.put home d).content home' = x.content home' := by
  cases home with
  | own =>
      cases home' with
      | own => exact absurd rfl hne
      | shared place' => rfl
  | shared place =>
      cases home' with
      | own => rfl
      | shared place' =>
          have hplace : place ≠ place' := fun heq => hne (heq ▸ rfl)
          unfold content put Shelf.at? Shelf.set
          dsimp only
          rw [List.getElem?_set_ne hplace]

/-- What is put into a place twice is there as it was put last. -/
theorem put_put (x : Exchange) (home : Home) (d d' : Collection) :
    (x.put home d).put home d' = x.put home d' := by
  cases home with
  | own => rfl
  | shared place =>
      unfold put Shelf.set
      dsimp only
      rw [List.set_set]

/-! ## What the writes leave alone -/

variable {q : Compartment}

theorem alike_writeTo (h : x.tx.BoundTo name place compartment)
    (hq : ¬ (Compartment.within [compartment]).Overlaps q) (key : String) (w : Write) :
    q.Alike ((x.writeTo name key w).content (.shared place)) (x.content (.shared place)) := by
  have hwrite := Compartment.alike_write hq (x.content (.shared place)) x.now key w
  rw [writeTo_of_boundTo h]
  rcases content_put_shared x place _ with hput | hput
  · rw [hput]
    exact hwrite
  · rw [hput]
    exact ⟨rfl, rfl⟩

theorem tx_writeTo (h : x.tx.BoundTo name place compartment) (key : String) (w : Write) :
    (x.writeTo name key w).tx = x.tx := by
  rw [writeTo_of_boundTo h]
  rfl

/-- No sequence of writes is seen through a compartment that theirs does not overlap. -/
theorem alike_writeAll (h : x.tx.BoundTo name place compartment)
    (hq : ¬ (Compartment.within [compartment]).Overlaps q)
    (ws : List (Instant × String × Write)) :
    q.Alike ((x.writeAll name ws).content (.shared place)) (x.content (.shared place)) := by
  induction ws generalizing x with
  | nil => exact ⟨rfl, rfl⟩
  | cons w ws ih =>
      let y : Exchange := { x with now := w.1 }
      have hy : y.tx.BoundTo name place compartment := h
      have hnext : (y.writeTo name w.2.1 w.2.2).tx.BoundTo name place compartment := by
        rw [tx_writeTo hy]
        exact hy
      exact (ih hnext).trans (alike_writeTo hy hq w.2.1 w.2.2)

end Exchange

/-! ## Isolation -/

/-- What one transaction writes to a shared collection through the compartment `a`, at any moments
and under any keys, makes no difference to what another reads through the compartment `b`. -/
def Isolated (a b : String) : Prop :=
  ∀ (writer reader : Transaction) (n m : String) (place : Place),
    writer.BoundTo n place a → reader.BoundTo m place b →
      ∀ (shelf : Shelf) (start now : Instant) (ws : List (Instant × String × Write)),
        let before : Exchange := ⟨reader, shelf, now⟩
        let after : Exchange := ⟨reader, (Exchange.writeAll ⟨writer, shelf, start⟩ n ws).shelf, now⟩
        (∀ q, after.answer m q = before.answer m q) ∧ ∀ k, after.holds m k = before.holds m k

variable {a b : String}

theorem isolated_of_not_overlaps (h : ¬ (Compartment.within [a]).Overlaps (.within [b])) :
    Isolated a b := by
  intro writer reader n m place hwriter hreader shelf start now ws before after
  have halike : (Compartment.within [b]).Alike (after.content (.shared place))
      (before.content (.shared place)) :=
    Exchange.alike_writeAll (x := ⟨writer, shelf, start⟩) hwriter h ws
  have hbefore : before.tx.BoundTo m place b := hreader
  have hafter : after.tx.BoundTo m place b := hreader
  constructor
  · intro q
    rw [Exchange.answer_of_boundTo hafter, Exchange.answer_of_boundTo hbefore]
    exact congrArg some (halike.ask q)
  · intro k
    rw [Exchange.holds_of_boundTo hafter, Exchange.holds_of_boundTo hbefore, halike.contains k]

theorem Compartment.ask_all_empty (q : Compartment) (name : String) (now : Instant) :
    (q.ask (.empty name) now (.many "" .none)).1 = [] := by
  change (q.readMany (.empty name) now "" .none).1 = []
  unfold readMany
  cases q.start.isEmpty <;> rfl

/-- A value under a covered key is among those of a read of every key. -/
theorem Compartment.ask_all_ne_nil {p q : Compartment} {k : String}
    (h : q.covers (p.key k) = true) (name text : String) (now : Instant) :
    (q.ask (p.write (.empty name) now k (.setFirst text)) now (.many "" .none)).1 ≠ [] := by
  let c := p.write (.empty name) now k (.setFirst text)
  have hlive : c.liveValues now = [.keyed name (p.key k) text] := rfl
  obtain ⟨v, hv⟩ : ∃ v, v ∈ q.liveValues c now := by
    unfold liveValues
    rw [hlive]
    split
    · exact ⟨_, List.mem_singleton_self _⟩
    · exact ⟨_, List.mem_map_of_mem (List.mem_filter.2 ⟨List.mem_singleton_self _, h⟩)⟩
  have hshown := (q.readMany_all_perm c now .none).mem_iff.2 (List.mem_filter.2 ⟨hv, rfl⟩)
  exact List.ne_nil_of_mem hshown

/-- A transaction that has bound the only shared collection to a compartment. -/
def guest (compartment : String) : Transaction :=
  ((Transaction.new "guest" 0 ⟨[("IP", 0)]⟩).bind "IP" compartment).2

theorem boundTo_guest (compartment : String) : (guest compartment).BoundTo "IP" 0 compartment :=
  Transaction.boundTo_bind (by decide +kernel) (by decide +kernel) compartment

theorem not_isolated_of_overlaps (h : (Compartment.within [a]).Overlaps (.within [b])) :
    ¬ Isolated a b := by
  intro hisolated
  obtain ⟨k, hk⟩ := Compartment.exists_covers_key_iff.2 h
  have hanswer := (hisolated (guest a) (guest b) "IP" "IP" 0 (boundTo_guest a) (boundTo_guest b)
    ⟨[.empty "IP"]⟩ 0 0 [(0, k, .setFirst "1")]).1 (.many "" .none)
  let start : Exchange := ⟨guest a, ⟨[.empty "IP"]⟩, 0⟩
  have hafter : (start.writeTo "IP" k (.setFirst "1")).content (.shared 0) =
      (Compartment.within [a]).write (.empty "IP") 0 k (.setFirst "1") := by
    rw [Exchange.writeTo_of_boundTo (boundTo_guest a)]
    rfl
  rw [Exchange.answer_of_boundTo (boundTo_guest b), Exchange.answer_of_boundTo (boundTo_guest b)]
    at hanswer
  have hempty := (Option.some.inj hanswer).trans (Compartment.ask_all_empty _ "IP" 0)
  refine Compartment.ask_all_ne_nil hk "IP" "1" 0 ?_
  rw [← hafter]
  exact hempty

/-- **Compartments are isolated** exactly if they do not overlap; without a colon in either, exactly
if they differ in more than the case of letters. -/
theorem compartments_isolated_iff (a b : String) :
    (Isolated a b ↔ ¬ (Compartment.within [a]).Overlaps (.within [b])) ∧
      (':' ∉ a.toList → ':' ∉ b.toList →
        (Isolated a b ↔ Unicode.folded a.toList ≠ Unicode.folded b.toList)) := by
  have hiff : Isolated a b ↔ ¬ (Compartment.within [a]).Overlaps (.within [b]) :=
    ⟨fun hisolated h => not_isolated_of_overlaps h hisolated, isolated_of_not_overlaps⟩
  refine ⟨hiff, fun ha hb => ?_⟩
  rw [hiff, Compartment.overlaps_within_iff ha hb]

/-- Two addresses are isolated. -/
theorem compartments_isolated_iff_addresses :
    ':' ∉ "10.0.0.1".toList ∧ ':' ∉ "10.0.0.2".toList ∧ Isolated "10.0.0.1" "10.0.0.2" := by
  have h1 : ':' ∉ "10.0.0.1".toList := by decide +kernel
  have h2 : ':' ∉ "10.0.0.2".toList := by decide +kernel
  exact ⟨h1, h2, ((compartments_isolated_iff _ _).2 h1 h2).2 (by decide +kernel)⟩

/-- A compartment within another, and one spelled with the Kelvin sign, differ in more than the case
of A to Z and are not isolated. -/
theorem overlapping_compartments_leak :
    Text.sameText "x" "x::y" = false ∧ ¬ Isolated "x" "x::y" ∧
      Text.sameText "k" "\u212a" = false ∧ ¬ Isolated "k" "\u212a" := by
  refine ⟨by decide +kernel, not_isolated_of_overlaps ?_, by decide +kernel,
    not_isolated_of_overlaps ?_⟩
  · decide +kernel
  · decide +kernel

end Rampart
