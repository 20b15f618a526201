import Rampart.Proofs.CaseFolding
import Rampart.Proofs.Contents
import Rampart.Proofs.Reference

/-!
# Keys behind a prefix

A compartment keeps its keys behind its prefix. The letters A to Z of a prefix may be spelled in
either case, and a stored key keeps the spelling it came with; so `stored` is the key `k` of a
compartment if it is some spelling of the prefix with `k` behind it. Such a spelling has as many bytes
as the prefix, which is why the prefix can be taken off by counting bytes.
-/

namespace Rampart

namespace Compartment

variable {p : Compartment} {k k' stored stored' : String}

/-- The stored key is a spelling of the prefix with `k` behind it. -/
def StoredAs (p : Compartment) (k stored : String) : Prop :=
  ∃ start, Text.sameText start p.start = true ∧ stored = start ++ k

theorem strip?_eq_some_iff : p.strip? stored = some k ↔ p.StoredAs k stored := by
  unfold strip?
  constructor
  · intro h
    split at h
    · rename_i start rest hsplit
      obtain ⟨hsame, hk⟩ := Option.ite_none_right_eq_some.1 h
      obtain rfl := Option.some.inj hk
      refine ⟨String.ofList start, hsame, ?_⟩
      rw [← String.ofList_append, Text.append_of_splitBytes? hsplit, String.ofList_toList]
    · cases h
  · rintro ⟨start, hsame, rfl⟩
    have hsplit : Text.splitBytes? (Text.size p.start) (start ++ k).toList =
        some (start.toList, k.toList) := by
      rw [← Text.size_of_sameText hsame, String.toList_append]
      exact Text.splitBytes?_append start.toList k.toList
    rw [hsplit]
    dsimp only
    rw [String.ofList_toList, String.ofList_toList, if_pos hsame]

theorem strip?_eq_none_iff : p.strip? stored = none ↔ ∀ k, ¬ p.StoredAs k stored := by
  rw [Option.eq_none_iff_forall_ne_some]
  exact forall_congr' fun k => not_congr strip?_eq_some_iff

instance : Decidable (p.StoredAs k stored) :=
  decidable_of_iff (p.strip? stored = some k) strip?_eq_some_iff

theorem storedAs_key (p : Compartment) (k : String) : p.StoredAs k (p.key k) :=
  ⟨p.start, Text.sameText_refl p.start, rfl⟩

theorem StoredAs.fold_eq (h : p.StoredAs k stored) :
    Text.fold stored = Text.fold p.start ++ Text.fold k := by
  obtain ⟨start, hsame, rfl⟩ := h
  rw [Text.fold_append, Text.sameText_iff.1 hsame]

/-- Keys of a compartment are the same up to case exactly if they are stored under the same key up
to case. -/
theorem StoredAs.sameText (h : p.StoredAs k stored) (h' : p.StoredAs k' stored') :
    Text.sameText stored stored' = Text.sameText k k' := by
  rw [Bool.eq_iff_iff, Text.sameText_iff, Text.sameText_iff, h.fold_eq, h'.fold_eq]
  exact List.append_right_inj _

/-- What is stored under a key of the compartment, in whatever spelling, is one of its keys. -/
theorem exists_storedAs_of_sameText (h : Text.sameText stored (p.key k) = true) :
    ∃ k', p.StoredAs k' stored := by
  let n := p.start.toList.length
  have hfold : Text.fold stored = Text.fold p.start ++ Text.fold k := by
    rw [Text.sameText_iff.1 h]
    exact (p.storedAs_key k).fold_eq
  have hstart : (Text.fold p.start).length = n := List.length_map _
  refine ⟨String.ofList (stored.toList.drop n), String.ofList (stored.toList.take n), ?_, ?_⟩
  · rw [Text.sameText_iff]
    have htake : Text.fold (String.ofList (stored.toList.take n)) = (Text.fold stored).take n := by
      unfold Text.fold
      rw [String.toList_ofList, List.map_take]
    rw [htake, hfold, ← hstart, List.take_left]
  · rw [← String.ofList_append, List.take_append_drop, String.ofList_toList]

/-- A stored key that is none of the compartment is not found by looking for one of its keys. -/
theorem sameText_key_of_strip?_none (h : p.strip? stored = none) (k : String) :
    Text.sameText stored (p.key k) = false := by
  refine Bool.eq_false_iff.2 fun hsame => ?_
  obtain ⟨k', hk'⟩ := exists_storedAs_of_sameText hsame
  exact strip?_eq_none_iff.1 h k' hk'

end Compartment

end Rampart
