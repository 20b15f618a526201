import Rampart.Proofs.ByteOrder
import Rampart.Proofs.DirectFiles
import Mathlib.Data.List.Forall2
import Mathlib.Data.List.Sort

/-!
# The files of rules that settings name

Each entry of the list of files stands for one path, or for the paths of the files of rules in a
directory in the order of the bytes of their names. That order does not come from the tree, which lists
its files as it likes: a strictly ordered list is determined by its members. The contents of the files
are appended path by path, until one of them cannot be read.
-/

namespace Rampart

/-- The rules in a text. -/
def RuleFile.ofText? (content : String) : Option RuleFile :=
  (Toml.ofText? content).bind fun es => RuleFile.ofFields? (.named es)

/-- A name has the extension of files of rules, with a name before it. -/
theorem FilePath.isSettingsFile_iff {name : String} :
    isSettingsFile name = true ↔ ∃ stem, stem ≠ "" ∧ name = stem ++ ".toml" := by
  unfold isSettingsFile
  rw [Bool.and_eq_true, List.isPrefixOf_iff_prefix, decide_eq_true_eq]
  constructor
  · rintro ⟨⟨back, hback⟩, hlength⟩
    refine ⟨String.ofList back.reverse, fun hempty => ?_, String.toList_inj.1 ?_⟩
    · have hnil : back = [] := by simpa using hempty
      rw [← hback, hnil, List.append_nil] at hlength
      exact absurd hlength (by decide)
    · rw [String.toList_append, String.toList_ofList, ← List.reverse_reverse name.toList, ← hback,
        List.reverse_append]
      rfl
  · rintro ⟨stem, hstem, rfl⟩
    rw [String.toList_append, List.reverse_append, List.length_append]
    refine ⟨List.prefix_append _ _, ?_⟩
    have hlength : 0 < stem.toList.length :=
      List.length_pos_of_ne_nil (mt String.toList_eq_nil_iff.1 hstem)
    rw [List.length_reverse, List.length_reverse]
    exact Nat.lt_add_of_pos_right hlength

namespace Settings

open List (Forall₂)

/-- The settings in a text, without the rules of the files that they name. -/
def ofText? (content : String) : Option Settings :=
  (Toml.ofText? content).bind Settings.ofEntries?

variable {files : FileTree}

/-! ## What the entries stand for -/

/-- The names of all the files of rules in a directory, in the order of their bytes. -/
structure Listing (files : FileTree) (directory : String) (names : List String) : Prop where
  ordered : names.Pairwise fun a b => Text.encode a.toList < Text.encode b.toList
  mem_iff : ∀ name, name ∈ names ↔
    FilePath.Plain name ∧ (∃ stem, stem ≠ "" ∧ name = stem ++ ".toml") ∧
      ∃ bytes, files.find (FilePath.join directory name) = .ok (.file bytes)

/-- The paths that entries stand for, from the directory of the settings: those of the files of a
directory, or the one that the entry names. -/
inductive Included (files : FileTree) (base : String) : List String → List String → Prop where
  | nil : Included files base [] []
  | file {entry : String} {entries paths : List String}
      (hfile : files.isDirectory (FilePath.join base entry) = false)
      (hmore : Included files base entries paths) :
      Included files base (entry :: entries) (FilePath.join base entry :: paths)
  | directory {entry : String} {names entries paths : List String}
      (hdirectory : files.isDirectory (FilePath.join base entry) = true)
      (hnames : Listing files (FilePath.join base entry) names)
      (hmore : Included files base entries paths) :
      Included files base (entry :: entries)
        (names.map (FilePath.join (FilePath.join base entry)) ++ paths)

theorem Listing.nodup {directory : String} {names : List String} (h : Listing files directory names) :
    names.Nodup := by
  refine h.ordered.imp ?_
  rintro name _ hlt rfl
  exact List.lt_irrefl _ hlt

/-- **There is one order of the files of a directory.** -/
theorem Listing.unique {directory : String} {names names' : List String}
    (h : Listing files directory names) (h' : Listing files directory names') : names = names' := by
  have hperm : names.Perm names' :=
    (List.perm_ext_iff_of_nodup h.nodup h'.nodup).2 fun name =>
      (h.mem_iff name).trans (h'.mem_iff name).symm
  exact hperm.eq_of_pairwise (fun _ _ _ _ hlt hgt => absurd hgt (List.lt_asymm hlt))
    h.ordered h'.ordered

theorem Included.unique {base : String} {entries paths paths' : List String}
    (h : Included files base entries paths) (h' : Included files base entries paths') :
    paths = paths' := by
  induction h generalizing paths' with
  | nil =>
      cases h'
      rfl
  | file hfile _ ih =>
      cases h' with
      | file _ hmore' => rw [ih hmore']
      | directory hdirectory' => exact absurd (hfile.symm.trans hdirectory') Bool.false_ne_true
  | directory hdirectory hnames _ ih =>
      cases h' with
      | file hfile' => exact absurd (hfile'.symm.trans hdirectory) Bool.false_ne_true
      | directory _ hnames' hmore' => rw [hnames.unique hnames', ih hmore']

/-- What entries stand for depends on what stands at each path, and on nothing else. -/
theorem Included.congr {files' : FileTree} (hfind : files.find = files'.find) {base : String}
    {entries paths : List String} (h : Included files base entries paths) :
    Included files' base entries paths := by
  have hdirectory := FileTree.isDirectory_congr hfind
  induction h with
  | nil => exact .nil
  | file hfile _ ih => exact .file (hdirectory ▸ hfile) ih
  | directory hdir hnames _ ih =>
      exact .directory (hdirectory ▸ hdir) ⟨hnames.ordered, hfind ▸ hnames.mem_iff⟩ ih

/-- Names that are sorted as texts are in the order of their bytes. -/
theorem ordered_mergeSort {names : List String} (h : names.Nodup) :
    (names.mergeSort fun a b => a ≤ b).Pairwise fun a b =>
      Text.encode a.toList < Text.encode b.toList := by
  have hsorted := List.pairwise_mergeSort' (· ≤ ·) names
  have hdistinct := (List.mergeSort_perm names fun a b => a ≤ b).nodup_iff.2 h
  refine (hsorted.and hdistinct).imp fun {a b} hab => ?_
  exact Text.encode_lt_encode_iff.2 (String.lt_iff_toList_lt.1 (lt_of_le_of_ne hab.1 hab.2))

theorem listing_filesIn (hmap : files.IsMap) {directory : String}
    (h : files.isDirectory directory = true) :
    Listing files directory
      (((files.filesIn directory).filter FilePath.isSettingsFile).mergeSort fun a b => a ≤ b) where
  ordered := ordered_mergeSort ((FileTree.nodup_filesIn hmap.distinct directory).filter _)
  mem_iff name := by
    rw [List.mem_mergeSort, List.mem_filter, FileTree.mem_filesIn_iff hmap h,
      FilePath.isSettingsFile_iff, and_right_comm, and_assoc]

theorem included_includedFiles (hmap : files.IsMap) (base : String) (entries : List String) :
    Included files base entries
      (entries.flatMap fun entry => includedFiles files (FilePath.join base entry)) := by
  induction entries with
  | nil => exact .nil
  | cons entry entries ih =>
      rw [List.flatMap_cons]
      cases hdirectory : files.isDirectory (FilePath.join base entry) with
      | false =>
          have hone : includedFiles files (FilePath.join base entry) = [FilePath.join base entry] := by
            unfold includedFiles
            rw [hdirectory, if_neg Bool.false_ne_true]
          rw [hone]
          exact .file hdirectory ih
      | true =>
          have hall := Included.directory hdirectory (listing_filesIn hmap hdirectory) ih
          unfold includedFiles
          rwa [if_pos hdirectory]

/-! ## The contents of a file -/

/-- The file at a path is one of rules, with these contents. -/
def Holds (files : FileTree) (path : String) (f : RuleFile) : Prop :=
  ∃ content, files.readText path = .ok content ∧ RuleFile.ofText? content = some f

/-- The file at a path is missing, or is no text, or its text is not one of rules. -/
inductive Refused (files : FileTree) (path : String) : SettingsError → Prop where
  | missing (h : files.contains path = false) : Refused files path (.missing path)
  | unreadable {e : ResourceError} (hthere : files.contains path = true)
      (h : files.readText path = .error e) : Refused files path (.read path)
  | malformed {content : String} (h : files.readText path = .ok content)
      (hcontent : RuleFile.ofText? content = none) : Refused files path (.parse path)

/-- Contents can be read from each path until one is refused. -/
inductive FirstRefused (files : FileTree) : List String → SettingsError → Prop where
  | here {path : String} {paths : List String} {e : SettingsError} (h : Refused files path e) :
      FirstRefused files (path :: paths) e
  | later {path : String} {paths : List String} {f : RuleFile} {e : SettingsError}
      (h : Holds files path f) (hlater : FirstRefused files paths e) :
      FirstRefused files (path :: paths) e

theorem readFile_of_readText {path content : String} (h : files.readText path = .ok content) :
    readFile files path = .ok content := by
  have hthere : files.contains path = true := by
    unfold FileTree.contains
    unfold FileTree.readText at h
    split at h
    · cases h
    · rename_i hfind
      rw [hfind]
    · rename_i hfind
      rw [hfind]
  unfold readFile
  rw [if_pos hthere, h]

theorem readRules_of_readText {path content : String} (h : files.readText path = .ok content) :
    readRules files path =
      match RuleFile.ofText? content with
      | some rules => .ok rules
      | none => .error (.parse path) := by
  unfold readRules
  rw [readFile_of_readText h]
  rfl

theorem Holds.readRules {path : String} {f : RuleFile} (h : Holds files path f) :
    readRules files path = .ok f := by
  obtain ⟨content, hread, hcontent⟩ := h
  rw [readRules_of_readText hread, hcontent]

theorem Refused.readRules {path : String} {e : SettingsError} (h : Refused files path e) :
    readRules files path = .error e := by
  cases h with
  | missing h =>
      unfold Settings.readRules readFile
      rw [h, if_neg Bool.false_ne_true]
      rfl
  | unreadable hthere h =>
      unfold Settings.readRules readFile
      rw [if_pos hthere, h]
      rfl
  | malformed h hcontent => rw [readRules_of_readText h, hcontent]

/-- Contents are read from a path, or it is refused. -/
theorem holds_or_refused (files : FileTree) (path : String) :
    (∃ f, Holds files path f) ∨ ∃ e, Refused files path e := by
  cases hread : files.readText path with
  | error e =>
      cases hthere : files.contains path with
      | false => exact .inr ⟨_, .missing hthere⟩
      | true => exact .inr ⟨_, .unreadable hthere hread⟩
  | ok content =>
      cases hcontent : RuleFile.ofText? content with
      | none => exact .inr ⟨_, .malformed hread hcontent⟩
      | some f => exact .inl ⟨f, content, hread, hcontent⟩

/-- If some path is refused, there is a first one that is. -/
theorem exists_firstRefused {paths : List String} {path : String} {e : SettingsError}
    (hmem : path ∈ paths) (h : Refused files path e) : ∃ first, FirstRefused files paths first := by
  induction paths with
  | nil => exact absurd hmem List.not_mem_nil
  | cons p paths ih =>
      rcases holds_or_refused files p with ⟨f, hf⟩ | ⟨first, hfirst⟩
      · rcases List.mem_cons.1 hmem with rfl | hmem
        · exact absurd (hf.readRules.symm.trans h.readRules) (fun heq => nomatch heq)
        · obtain ⟨first, hfirst⟩ := ih hmem
          exact ⟨first, .later hf hfirst⟩
      · exact ⟨first, .here hfirst⟩

/-! ## Appending the contents -/

/-- The settings with the contents of some files of rules behind their own. -/
theorem foldl_merge (r : RuleSetSettings) (contents : List RuleFile) :
    contents.foldl RuleSetSettings.merge r =
      { r with
        rules := r.rules ++ contents.flatMap (·.rules)
        exceptions := r.exceptions ++ contents.flatMap (·.exceptions)
        removedIds := r.removedIds ++ contents.flatMap (·.removedIds) } := by
  induction contents generalizing r with
  | nil => simp only [List.foldl_nil, List.flatMap_nil, List.append_nil]
  | cons f contents ih =>
      rw [List.foldl_cons, ih]
      simp only [RuleSetSettings.merge, List.flatMap_cons, List.append_assoc]

/-- Contents that can all be read are put one behind the other. -/
theorem foldlM_of_holds {paths : List String} {contents : List RuleFile}
    (h : Forall₂ (Holds files) paths contents) (r : RuleSetSettings) :
    paths.foldlM (fun rules path => (readRules files path).map rules.merge) r =
      .ok (contents.foldl RuleSetSettings.merge r) := by
  induction h generalizing r with
  | nil => rfl
  | cons hf _ ih =>
      rw [List.foldlM_cons, hf.readRules, List.foldl_cons]
      exact ih _

theorem foldlM_of_firstRefused {paths : List String} {e : SettingsError}
    (h : FirstRefused files paths e) (r : RuleSetSettings) :
    paths.foldlM (fun rules path => (readRules files path).map rules.merge) r = .error e := by
  induction h generalizing r with
  | here h =>
      rw [List.foldlM_cons, h.readRules]
      rfl
  | later hf _ ih =>
      rw [List.foldlM_cons, hf.readRules]
      exact ih _

/-! ## Loading -/

section Loading

variable {path content : String} {s : Settings}

/-- Without checks nothing is refused that could be read. -/
theorem checkedIfRead_nil (files : FileTree) (r : Except SettingsError Settings) :
    checkedIfRead [] files r = (r, []) := by
  cases r <;> rfl

theorem load_eq_mergeIncludes (hread : files.readText path = .ok content)
    (hcontent : ofText? content = some s) :
    load [] files path = (mergeIncludes files (FilePath.parent path) s, []) := by
  unfold ofText? at hcontent
  unfold load
  rw [checkedIfRead_nil, readFile_of_readText hread]
  change (ofDocument _ _ _ _, []) = _
  unfold ofDocument
  rw [hcontent]

theorem mergeIncludes_eq {base : String} {paths : List String} (hmap : files.IsMap)
    (h : Included files base s.rules.includes paths) :
    mergeIncludes files base s =
      (paths.foldlM (fun rules path => (readRules files path).map rules.merge)
        { s.rules with includes := [] }).map fun rules => { s with rules := rules } := by
  unfold mergeIncludes
  rw [(included_includedFiles hmap base s.rules.includes).unique h]
  rfl

theorem load_of_holds (hmap : files.IsMap) (hread : files.readText path = .ok content)
    (hcontent : ofText? content = some s) {paths : List String}
    (hpaths : Included files (FilePath.parent path) s.rules.includes paths)
    {contents : List RuleFile} (h : Forall₂ (Holds files) paths contents) :
    load [] files path =
      (.ok { s with
        rules := contents.foldl RuleSetSettings.merge { s.rules with includes := [] } }, []) := by
  rw [load_eq_mergeIncludes hread hcontent, mergeIncludes_eq hmap hpaths, foldlM_of_holds h]
  rfl

theorem load_of_firstRefused (hmap : files.IsMap) (hread : files.readText path = .ok content)
    (hcontent : ofText? content = some s) {paths : List String}
    (hpaths : Included files (FilePath.parent path) s.rules.includes paths) {e : SettingsError}
    (h : FirstRefused files paths e) : load [] files path = (.error e, []) := by
  rw [load_eq_mergeIncludes hread hcontent, mergeIncludes_eq hmap hpaths, foldlM_of_firstRefused h]
  rfl

/-- **The order in which the entries of the tree are enumerated does not matter.** -/
theorem load_perm (hmap : files.IsMap) {files' : FileTree} (hperm : files.entries.Perm files'.entries)
    (path : String) : load [] files' path = load [] files path := by
  have hfind := FileTree.find_congr hmap.distinct hperm
  have hfile : readFile files' = readFile files := by
    unfold readFile
    rw [FileTree.contains_congr hfind, FileTree.readText_congr hfind]
  have hrules : readRules files' = readRules files := by
    unfold readRules
    rw [hfile]
  -- the same paths are listed, since what stands at each path determines what the entries stand for
  have hincludes : mergeIncludes files' = mergeIncludes files := by
    funext base s
    have hpaths := (included_includedFiles hmap base s.rules.includes).congr hfind
    rw [mergeIncludes_eq (hmap.perm hperm) hpaths, hrules]
    rfl
  unfold load ofDocument
  rw [hfile, hincludes, checkedIfRead_nil, checkedIfRead_nil]

/--
**Files of rules are merged in a fixed order.**

Settings are loaded with the rules, the exceptions and the removed identifiers of their own file and,
behind them, those of the files that their entries stand for, path by path. If one of these files is
missing or malformed, loading fails with the error of the first that is. The files of a directory are
all those of rules in it, in the order of the bytes of their names; the order in which the tree
enumerates its entries makes no difference.
-/
theorem includes_merged_in_order (hmap : files.IsMap) (hread : files.readText path = .ok content)
    (hcontent : ofText? content = some s) :
    (∃ paths, Included files (FilePath.parent path) s.rules.includes paths ∧
      (∀ contents, Forall₂ (Holds files) paths contents →
        load [] files path =
          (.ok { s with
            rules := { s.rules with
              rules := s.rules.rules ++ contents.flatMap (·.rules)
              exceptions := s.rules.exceptions ++ contents.flatMap (·.exceptions)
              removedIds := s.rules.removedIds ++ contents.flatMap (·.removedIds)
              includes := [] } }, [])) ∧
      ∀ p ∈ paths, ∀ e, Refused files p e →
        ∃ first, FirstRefused files paths first ∧ load [] files path = (.error first, [])) ∧
    ∀ files' : FileTree, files.entries.Perm files'.entries →
      load [] files' path = load [] files path := by
  have hpaths := included_includedFiles hmap (FilePath.parent path) s.rules.includes
  refine ⟨⟨_, hpaths, fun contents h => ?_, fun p hp e h => ?_⟩, fun files' hperm =>
    load_perm hmap hperm path⟩
  · rw [load_of_holds hmap hread hcontent hpaths h, foldl_merge]
  · obtain ⟨first, hfirst⟩ := exists_firstRefused hp h
    exact ⟨first, hfirst, load_of_firstRefused hmap hread hcontent hpaths hfirst⟩

end Loading

/-- Settings that name a directory and a file. -/
def sharedText : String := "[waf]\ninclude = [\"rules.d\", \"base.toml\"]\nremove_rule_ids = [9]"

/-- The file of these settings, and what they name. The two files of rules in the directory are
enumerated against the order of their names, around one that is not of rules. -/
def sharedRules : FileTree where
  entries :=
    [(["waf.toml"], .file (Text.encode sharedText.toList)),
    (["rules.d", "20-extra.toml"], .file (Text.encode "remove_rule_ids = [3]".toList)),
    (["rules.d", "README.md"], .file (Text.encode "not rules".toList)),
    (["rules.d", "10-first.toml"], .file (Text.encode "remove_rule_ids = [2]".toList)),
    (["base.toml"], .file (Text.encode "remove_rule_ids = [1]".toList))]

/-- The removed identifiers of all four files, those of the directory in the order of its names. -/
theorem includes_merged_in_order_shared :
    sharedRules.IsMap ∧ sharedRules.readText "waf.toml" = .ok sharedText ∧
      ofText? sharedText =
        some { rules := { removedIds := [9], includes := ["rules.d", "base.toml"] } } ∧
      load [] sharedRules "waf.toml" = (.ok { rules := { removedIds := [9, 2, 3, 1] } }, []) := by
  have hmap : sharedRules.IsMap := ⟨by decide, by decide⟩
  have hread : sharedRules.readText "waf.toml" = .ok sharedText := rfl
  have hcontent : ofText? sharedText =
      some { rules := { removedIds := [9], includes := ["rules.d", "base.toml"] } } := by
    decide +kernel
  refine ⟨hmap, hread, hcontent, ?_⟩
  have hdirectory : sharedRules.isDirectory (FilePath.join "" "rules.d") = true := by decide +kernel
  have hfile : sharedRules.isDirectory (FilePath.join "" "base.toml") = false := by decide +kernel
  have hfiles : (sharedRules.filesIn (FilePath.join "" "rules.d")).filter FilePath.isSettingsFile =
      ["20-extra.toml", "10-first.toml"] := by decide +kernel
  have hnames : Listing sharedRules (FilePath.join "" "rules.d") ["10-first.toml", "20-extra.toml"] := by
    refine ⟨by decide +kernel, fun name => ?_⟩
    rw [← (listing_filesIn hmap hdirectory).mem_iff name, List.mem_mergeSort, hfiles]
    simp only [List.mem_cons, List.not_mem_nil, or_false]
    exact or_comm
  have hthree : Forall₂ (Holds sharedRules)
      ["rules.d/10-first.toml", "rules.d/20-extra.toml", "base.toml"]
      [{ removedIds := [2] }, { removedIds := [3] }, { removedIds := [1] }] :=
    .cons ⟨"remove_rule_ids = [2]", rfl, by decide +kernel⟩
      (.cons ⟨"remove_rule_ids = [3]", rfl, by decide +kernel⟩
        (.cons ⟨"remove_rule_ids = [1]", rfl, by decide +kernel⟩ .nil))
  obtain ⟨⟨paths, hpaths, hload, -⟩, -⟩ := includes_merged_in_order hmap hread hcontent
  have hbase : FilePath.parent "waf.toml" = "" := by decide +kernel
  rw [hbase] at hpaths
  obtain rfl := hpaths.unique (.directory hdirectory hnames (.file hfile .nil))
  exact hload _ hthree

end Settings

end Rampart
