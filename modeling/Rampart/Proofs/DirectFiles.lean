import Rampart.Proofs.Parts
import Rampart.Settings.Loader

/-!
# The files of a directory

The path of a directory with a name behind it leads to what stands under that name in the directory, so
the files that a directory lists are those that such paths reach. A tree is a finite map: what stands at
a path does not depend on the order in which the entries of the map are enumerated.
-/

namespace Rampart

namespace FilePath

/-- What something in a directory can be called. -/
structure Plain (name : String) : Prop where
  nonempty : name ≠ ""
  ne_point : name ≠ "."
  ne_points : name ≠ ".."
  unslashed : '/' ∉ name.toList
  proper : '\x00' ∉ name.toList

instance (name : String) : Decidable (Plain name) :=
  decidable_of_iff
    (name ≠ "" ∧ name ≠ "." ∧ name ≠ ".." ∧ '/' ∉ name.toList ∧ '\x00' ∉ name.toList)
    ⟨fun ⟨h₁, h₂, h₃, h₄, h₅⟩ => ⟨h₁, h₂, h₃, h₄, h₅⟩,
      fun h => ⟨h.nonempty, h.ne_point, h.ne_points, h.unslashed, h.proper⟩⟩

variable {directory name : String}

/-- One slash divides the name from what leads to the directory. -/
theorem exists_join (hne : directory ≠ "") (h : Plain name) :
    ∃ above, (join directory name).toList = above ++ '/' :: name.toList ∧
      (directory.toList = above ∨ directory.toList = above ++ ['/']) := by
  have hrelative : name.toList.head? ≠ some '/' := fun hhead =>
    h.unslashed (List.mem_of_mem_head? hhead)
  unfold join
  rw [if_neg (not_or.2 ⟨hrelative, by rwa [String.isEmpty_iff]⟩)]
  -- a path that ends in a slash already is not given another one
  split
  · rename_i hlast
    obtain ⟨above, habove⟩ := List.getLast?_eq_some_iff.1 hlast
    refine ⟨above, ?_, .inr habove⟩
    rw [String.toList_append, habove, List.append_assoc, List.singleton_append]
  · refine ⟨directory.toList, ?_, .inl rfl⟩
    rw [String.toList_append, String.toList_append, List.append_assoc]
    rfl

theorem join_ne_empty (hne : directory ≠ "") (h : Plain name) : join directory name ≠ "" := by
  obtain ⟨above, hjoin, -⟩ := exists_join hne h
  refine fun hempty => List.append_ne_nil_of_right_ne_nil above (List.cons_ne_nil '/' name.toList) ?_
  rw [← hjoin, hempty]
  rfl

theorem head?_join (hne : directory ≠ "") (h : Plain name) :
    (join directory name).toList.head? = directory.toList.head? := by
  obtain ⟨above, hjoin, rfl | habove⟩ := exists_join hne h
  · obtain ⟨c, above, hcons⟩ := List.exists_cons_of_ne_nil (mt String.toList_eq_nil_iff.1 hne)
    rw [hjoin, hcons, List.cons_append, List.head?_cons, List.head?_cons]
  · rw [hjoin, habove]
    cases above <;> rfl

theorem proper_join (hne : directory ≠ "") (h : Plain name) (hproper : '\x00' ∉ directory.toList) :
    '\x00' ∉ (join directory name).toList := by
  obtain ⟨above, hjoin, habove⟩ := exists_join hne h
  have hproper_above : '\x00' ∉ above := by
    rcases habove with rfl | habove
    · exact hproper
    · exact fun hmem => hproper (habove ▸ List.mem_append_left _ hmem)
  rw [hjoin, List.mem_append, List.mem_cons, not_or, not_or]
  exact ⟨hproper_above, by decide, h.proper⟩

end FilePath

namespace FileTree

open FilePath (Plain)

variable {t u : FileTree} {directory name : String}

/-! ## Names and paths -/

theorem names_append (as bs : List Char) :
    names (String.ofList (as ++ '/' :: bs)) = names (String.ofList as) ++ names (String.ofList bs) := by
  unfold names
  rw [String.toList_ofList, String.toList_ofList, String.toList_ofList, Text.splitAt_append,
    List.map_append, List.filter_append]

theorem names_of_plain (h : Plain name) : names name = [name] := by
  unfold names
  rw [Text.splitAt_of_notMem h.unslashed, List.map_singleton, String.ofList_toList]
  exact List.filter_cons_of_pos (by simp [h.nonempty, h.ne_point])

/-- A name behind the path of a directory is one more step. -/
theorem names_join (hne : directory ≠ "") (h : Plain name) :
    names (FilePath.join directory name) = names directory ++ [name] := by
  obtain ⟨above, hjoin, habove⟩ := FilePath.exists_join hne h
  have hdirectory : names directory = names (String.ofList above) := by
    rcases habove with rfl | habove
    · rw [String.ofList_toList]
    · have hslash := names_append above []
      rw [← habove, String.ofList_toList] at hslash
      exact hslash.trans (List.append_nil _)
  have hsplit := names_append above name.toList
  rwa [← hjoin, String.ofList_toList, String.ofList_toList, ← hdirectory, names_of_plain h] at hsplit

/-! ## Following a path -/

theorem walk_append (t : FileTree) (place as bs : List String) :
    t.walk place (as ++ bs) = t.walk place as >>= fun reached => t.walk reached bs := by
  induction as generalizing place with
  | nil => rfl
  | cons name as ih =>
      rw [List.cons_append, walk, walk]
      split
      · split
        · split
          · rfl
          · exact ih _
        · exact ih _
      · rfl
      · rfl

/-- What a path that leads to a directory looks like, and where it leads, if it does not start from the
root of the system. -/
structure Leads (t : FileTree) (directory : String) (place : List String) : Prop where
  nonempty : directory ≠ ""
  relative : directory.toList.head? ≠ some '/'
  proper : '\x00' ∉ directory.toList
  walks : t.walk [] (names directory) = .ok place
  stands : t.node? place = some .directory

theorem proper_of_find {path : String} {node : FileNode} (h : t.find path = .ok node) :
    path ≠ "" ∧ '\x00' ∉ path.toList := by
  unfold find at h
  dsimp only at h
  split at h
  · cases h
  · rename_i hproper
    split at h
    · cases h
    · rename_i hne
      exact ⟨by simpa using hne, by simpa using hproper⟩

theorem relative_of_find_file {path : String} {bytes : List UInt8}
    (h : t.find path = .ok (.file bytes)) : path.toList.head? ≠ some '/' := by
  intro hroot
  unfold find at h
  dsimp only at h
  rw [if_pos hroot] at h
  repeat' split at h
  all_goals cases h

theorem find_eq_directory {path : String} (h : t.isDirectory path = true) :
    t.find path = .ok .directory := by
  unfold isDirectory at h
  split at h
  · assumption
  · cases h

theorem find_of_relative {path : String} (hne : path ≠ "") (hproper : '\x00' ∉ path.toList)
    (hrelative : path.toList.head? ≠ some '/') :
    t.find path =
      match t.walk [] (names path) with
      | .error e => .error e
      | .ok place =>
        match t.node? place with
        | some (.file bytes) =>
          let last := (Text.splitAt '/' path.toList).getLast?
          if last = some [] ∨ last = some ['.'] then .error .notDirectory else .ok (.file bytes)
        | some .directory => .ok .directory
        | none => .error .missing := by
  unfold find
  dsimp only
  exact (if_neg (by simpa using hproper)).trans
    ((if_neg (by simpa using hne)).trans (if_neg hrelative))

theorem exists_leads (h : t.find directory = .ok .directory)
    (hrelative : directory.toList.head? ≠ some '/') : ∃ place, t.Leads directory place := by
  obtain ⟨hne, hproper⟩ := proper_of_find h
  rw [find_of_relative hne hproper hrelative] at h
  split at h
  · cases h
  · rename_i place hwalk
    split at h
    · dsimp only at h
      split at h <;> cases h
    · rename_i hstands
      exact ⟨place, hne, hrelative, hproper, hwalk, hstands⟩
    · cases h

/-- **The path of a directory with a name behind it** leads to what stands under that name there. -/
theorem Leads.find_join {place : List String} (hleads : t.Leads directory place) (h : Plain name) :
    t.find (FilePath.join directory name) =
      match t.node? (place ++ [name]) with
      | some node => .ok node
      | none => .error .missing := by
  have hrelative : (FilePath.join directory name).toList.head? ≠ some '/' := by
    rw [FilePath.head?_join hleads.nonempty h]
    exact hleads.relative
  have hwalk : t.walk [] (names (FilePath.join directory name)) = .ok (place ++ [name]) := by
    rw [names_join hleads.nonempty h, walk_append, hleads.walks]
    change t.walk place [name] = _
    rw [walk, hleads.stands]
    dsimp only
    rw [if_neg h.ne_points, walk]
  have hlast : (Text.splitAt '/' (FilePath.join directory name).toList).getLast? =
      some name.toList := by
    obtain ⟨above, hjoin, -⟩ := FilePath.exists_join hleads.nonempty h
    rw [hjoin, Text.splitAt_append, Text.splitAt_of_notMem h.unslashed, List.getLast?_concat]
  have hends : ¬ (some name.toList = some [] ∨ some name.toList = some ['.']) := by
    rw [Option.some_inj, Option.some_inj, String.toList_eq_nil_iff]
    refine not_or.2 ⟨h.nonempty, fun hpoint => h.ne_point (String.toList_inj.1 hpoint)⟩
  rw [find_of_relative (FilePath.join_ne_empty hleads.nonempty h)
    (FilePath.proper_join hleads.nonempty h hleads.proper) hrelative, hwalk]
  dsimp only
  cases t.node? (place ++ [name]) with
  | none => rfl
  | some node =>
      cases node with
      | directory => rfl
      | file bytes => exact if_neg (hlast ▸ hends)

/-! ## What a directory lists -/

/-- The entries are a finite map, from names that something in a directory can have. -/
structure IsMap (t : FileTree) : Prop where
  distinct : (t.entries.map Prod.fst).Nodup
  plain : ∀ e ∈ t.entries, ∀ n ∈ e.1, Plain n

theorem lookup_eq_some_iff (h : (t.entries.map Prod.fst).Nodup) {place : List String}
    {node : FileNode} : t.entries.lookup place = some node ↔ (place, node) ∈ t.entries := by
  rw [List.lookup_eq_some_iff]
  constructor
  · rintro ⟨before, after, heq, -⟩
    exact heq ▸ List.mem_append_right _ (List.mem_cons_self ..)
  · intro hmem
    obtain ⟨before, after, heq⟩ := List.append_of_mem hmem
    refine ⟨before, after, heq, fun e he => bne_iff_ne.2 fun hkey => ?_⟩
    rw [heq, List.map_append, List.map_cons, List.nodup_append] at h
    exact h.2.2 e.1 (List.mem_map_of_mem he) place (List.mem_cons_self ..) hkey.symm

theorem node?_eq_file_iff (h : (t.entries.map Prod.fst).Nodup) {place : List String}
    {bytes : List UInt8} :
    t.node? place = some (.file bytes) ↔ (place, FileNode.file bytes) ∈ t.entries := by
  rw [← lookup_eq_some_iff h]
  unfold node?
  split
  · rename_i heq
    rw [heq]
  · rename_i hnone
    rw [hnone]
    split <;> simp

theorem directName?_eq_some_iff {place : List String} {e : List String × FileNode} :
    directName? place e = some name ↔ ∃ bytes, e = (place ++ [name], .file bytes) := by
  obtain ⟨key, node⟩ := e
  unfold directName?
  dsimp only
  constructor
  · intro h
    split at h
    · rename_i bytes last hlast
      obtain ⟨above, rfl⟩ := List.getLast?_eq_some_iff.1 hlast
      rw [List.dropLast_concat] at h
      split at h
      · rename_i hplace
        cases h
        exact ⟨bytes, by rw [hplace]⟩
      · cases h
    · cases h
  · rintro ⟨bytes, heq⟩
    cases heq
    rw [List.getLast?_concat]
    dsimp only
    rw [List.dropLast_concat, if_pos rfl]

theorem Leads.filesIn_eq {place : List String} (hleads : t.Leads directory place) :
    t.filesIn directory = t.entries.filterMap (directName? place) := by
  unfold filesIn
  rw [if_neg hleads.relative, hleads.walks]

theorem Leads.mem_filesIn_iff {place : List String} (hleads : t.Leads directory place) :
    name ∈ t.filesIn directory ↔ ∃ bytes, (place ++ [name], FileNode.file bytes) ∈ t.entries := by
  rw [hleads.filesIn_eq, List.mem_filterMap]
  constructor
  · rintro ⟨e, hmem, hname⟩
    obtain ⟨bytes, rfl⟩ := directName?_eq_some_iff.1 hname
    exact ⟨bytes, hmem⟩
  · rintro ⟨bytes, hmem⟩
    exact ⟨_, hmem, directName?_eq_some_iff.2 ⟨bytes, rfl⟩⟩

/-- No name is listed twice. -/
theorem nodup_filesIn (h : (t.entries.map Prod.fst).Nodup) (directory : String) :
    (t.filesIn directory).Nodup := by
  unfold filesIn
  split
  · exact List.nodup_nil
  · split
    · exact List.nodup_nil
    · refine List.pairwise_filterMap.2 ((List.pairwise_map.1 h).imp ?_)
      intro e e' hkeys name hname name' hname' heq
      obtain ⟨bytes, rfl⟩ := directName?_eq_some_iff.1 hname
      obtain ⟨bytes', rfl⟩ := directName?_eq_some_iff.1 hname'
      exact hkeys (by rw [heq])

/-- **A directory lists the files that its path with a name behind it reaches.** -/
theorem mem_filesIn_iff (hmap : t.IsMap) (h : t.isDirectory directory = true) :
    name ∈ t.filesIn directory ↔
      Plain name ∧ ∃ bytes, t.find (FilePath.join directory name) = .ok (.file bytes) := by
  have hdirectory := find_eq_directory h
  by_cases hroot : directory.toList.head? = some '/'
  -- the root of the system is a directory, but no file of the tree lies beneath it
  · unfold filesIn
    rw [if_pos hroot]
    refine ⟨fun hmem => absurd hmem List.not_mem_nil, fun ⟨hname, bytes, hfile⟩ => ?_⟩
    exact absurd ((FilePath.head?_join (proper_of_find hdirectory).1 hname).trans hroot)
      (relative_of_find_file hfile)
  · obtain ⟨place, hleads⟩ := exists_leads hdirectory hroot
    rw [hleads.mem_filesIn_iff]
    constructor
    · rintro ⟨bytes, hmem⟩
      have hname := hmap.plain _ hmem name (List.mem_append_right _ (List.mem_singleton_self name))
      refine ⟨hname, bytes, ?_⟩
      rw [hleads.find_join hname, (node?_eq_file_iff hmap.distinct).2 hmem]
    · rintro ⟨hname, bytes, hfile⟩
      refine ⟨bytes, (node?_eq_file_iff hmap.distinct).1 ?_⟩
      rw [hleads.find_join hname] at hfile
      split at hfile
      · rename_i node hnode
        cases hfile
        exact hnode
      · cases hfile

/-! ## The order of the entries -/

theorem IsMap.perm (h : t.IsMap) (hperm : t.entries.Perm u.entries) : u.IsMap where
  distinct := (hperm.map _).nodup h.distinct
  plain := fun e he => h.plain e (hperm.mem_iff.2 he)

theorem node?_congr (h : (t.entries.map Prod.fst).Nodup) (hperm : t.entries.Perm u.entries) :
    t.node? = u.node? := by
  have hdistinct : (u.entries.map Prod.fst).Nodup := (hperm.map _).nodup h
  funext place
  have hlookup : t.entries.lookup place = u.entries.lookup place := by
    refine Option.ext fun node => ?_
    rw [lookup_eq_some_iff h, lookup_eq_some_iff hdistinct, hperm.mem_iff]
  have hany : (t.entries.any fun e => place.isPrefixOf e.1) =
      u.entries.any fun e => place.isPrefixOf e.1 := by
    rw [Bool.eq_iff_iff, List.any_eq_true, List.any_eq_true]
    exact exists_congr fun e => and_congr_left' hperm.mem_iff
  unfold node?
  rw [hlookup, hany]

theorem walk_congr (h : t.node? = u.node?) (place names : List String) :
    t.walk place names = u.walk place names := by
  induction names generalizing place with
  | nil => rfl
  | cons name names ih =>
      rw [walk, walk, h]
      split
      · split
        · split
          · rfl
          · exact ih _
        · exact ih _
      · rfl
      · rfl

/-- **What stands at a path does not depend on the order of the entries.** -/
theorem find_congr (h : (t.entries.map Prod.fst).Nodup) (hperm : t.entries.Perm u.entries) :
    t.find = u.find := by
  have hnode := node?_congr h hperm
  funext path
  unfold find
  rw [walk_congr hnode, hnode]

section SameFind

variable (h : t.find = u.find)

include h

theorem contains_congr : t.contains = u.contains := by
  funext path
  unfold contains
  rw [h]

theorem isDirectory_congr : t.isDirectory = u.isDirectory := by
  funext path
  unfold isDirectory
  rw [h]

theorem readText_congr : t.readText = u.readText := by
  funext path
  unfold readText
  rw [h]

end SameFind

end FileTree

end Rampart
