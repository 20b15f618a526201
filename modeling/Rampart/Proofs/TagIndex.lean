import Rampart.Proofs.RuleIndex

/-!
# The index of tags

The tags of a chain are those of its declaration and, behind them, those that its actions give. Each
of them is noted in the index, so a tag that is given twice stands there twice, and a set lists a
chain under a tag as often as the tag was given to it.

A set denotes a list of chains, and both sides are functions of it: the index holds what the list says
of tags, and an id that stands in the index leads back to its own chain.
-/

namespace Rampart

/-! ## The tags of a chain -/

/-- The tag that an action gives a rule, however it is spelled. -/
def Directive.tag? (text : String) : Option String :=
  match ofText text with
  | .ok (.attribute (.tag t)) => some t
  | _ => none

/-- The tags a link is read with: those of the declaration, then those that its actions give. -/
def LinkSettings.readTags (s : LinkSettings) : List String :=
  s.tags ++ s.actions.filterMap Directive.tag?

namespace Rule

variable {files : FileTree} {isHead : Bool}

theorem tags_withAttribute {r q : Rule} {a : Attribute} (h : r.withAttribute a = .ok q) :
    q.info.tags = match a with | .tag t => r.info.tags ++ [t] | _ => r.info.tags := by
  cases a with
  | message text =>
      obtain ⟨m, -, rfl⟩ := exists_of_withAttribute_message h
      rfl
  | _ =>
      obtain rfl := Except.ok.inj h
      rfl

/-- One action gives the rule a further tag, or leaves its tags. -/
theorem tags_withDirective {r q : Rule} {text : String} {d : Directive}
    (hd : Directive.ofText text = .ok d) (h : r.withDirective isHead d = .ok q) :
    q.info.tags = r.info.tags ++ (Directive.tag? text).toList := by
  unfold Directive.tag?
  rw [hd]
  rcases withDirective_cases h with ⟨a, rfl, ha⟩ | ⟨a, rfl, -, rfl⟩
  · rw [tags_withAttribute ha]
    cases a with
    | tag t => rfl
    | _ => exact (List.append_nil _).symm
  · exact (List.append_nil _).symm

theorem tags_directives {actions : List String} {r q : Rule}
    (h : actions.foldlM (fun r text => Directive.ofText text >>= withDirective isHead r) r = .ok q) :
    q.info.tags = r.info.tags ++ actions.filterMap Directive.tag? := by
  induction actions generalizing r with
  | nil =>
      obtain rfl := Except.ok.inj h
      exact (List.append_nil _).symm
  | cons text actions ih =>
      obtain ⟨d, m, hd, hm, hrest⟩ := exists_of_directives_cons h
      rw [ih hrest, tags_withDirective hd hm, List.append_assoc]
      cases hgiven : Directive.tag? text with
      | none => rw [List.filterMap_cons_none hgiven, Option.toList_none, List.nil_append]
      | some t => rw [List.filterMap_cons_some hgiven, Option.toList_some, List.singleton_append]

theorem tags_of_ofSettings {s : LinkSettings} {inherited : Option Nat} {hasSuccessor : Bool} {r : Rule}
    (h : ofSettings files s inherited isHead hasSuccessor = .ok r) : r.info.tags = s.readTags := by
  obtain ⟨plain, hplain, hactions⟩ := exists_of_ofSettings h
  rw [tags_directives hactions, info_ofFields hplain]
  rfl

end Rule

namespace Chain

/-- The chain carries the tag. -/
def hasTag (c : Chain) (tag : String) : Bool := c.head.info.hasTag tag

/-- How often the tag was given to the chain. -/
def tagCount (c : Chain) (tag : String) : Nat := c.head.info.tags.count tag

theorem hasTag_iff {c : Chain} {tag : String} : c.hasTag tag = true ↔ 0 < c.tagCount tag := by
  unfold hasTag RuleInfo.hasTag tagCount
  rw [List.contains_iff_mem, List.count_pos_iff]

/-- The tags of a chain are those that the head of its declaration is read with. -/
theorem tags_of_ofSettings {files : FileTree} {s : RuleSettings} {c : Chain}
    (h : ofSettings files s = .ok c) : c.head.info.tags = s.head.readTags :=
  Rule.tags_of_ofSettings (head_of_ofSettings h)

end Chain

namespace RuleSet

variable {s : RuleSet} {c : Chain} {cs : List Chain}

/-! ## What the index lists -/

/-- The chains of a list that carry a tag, each as often as the tag was given to it. -/
def listing (cs : List Chain) (tag : String) : List Chain :=
  cs.flatMap fun c => List.replicate (c.tagCount tag) c

theorem mem_listing_iff {tag : String} : c ∈ listing cs tag ↔ c ∈ cs ∧ c.hasTag tag = true := by
  unfold listing
  rw [List.mem_flatMap, Chain.hasTag_iff]
  constructor
  · rintro ⟨d, hd, hc⟩
    obtain ⟨hcount, rfl⟩ := List.mem_replicate.1 hc
    exact ⟨hd, Nat.pos_of_ne_zero hcount⟩
  · rintro ⟨hc, hcount⟩
    exact ⟨c, hc, List.mem_replicate.2 ⟨Nat.ne_of_gt hcount, rfl⟩⟩

/-- Where no chain was given the tag twice, the listing is that of the chains that carry it. -/
theorem listing_of_le_one {tag : String} (h : ∀ c ∈ cs, c.tagCount tag ≤ 1) :
    listing cs tag = cs.filter fun c => c.hasTag tag := by
  induction cs with
  | nil => rfl
  | cons c cs ih =>
      obtain ⟨hc, hcs⟩ := List.forall_mem_cons.1 h
      have hrest : listing (c :: cs) tag = List.replicate (c.tagCount tag) c ++ listing cs tag := rfl
      rw [hrest, ih hcs, List.filter_cons]
      split
      · rename_i htag
        have hone : c.tagCount tag = 1 := Nat.le_antisymm hc (Chain.hasTag_iff.1 htag)
        rw [hone, List.replicate_one, List.singleton_append]
      · rename_i htag
        have hzero : c.tagCount tag = 0 :=
          Nat.eq_zero_of_not_pos fun hpos => htag (Chain.hasTag_iff.2 hpos)
        rw [hzero, List.replicate_zero, List.nil_append]

/-- A listing without repetitions names no chain twice. -/
theorem tagCount_le_one_of_nodup {tag : String} (h : (listing cs tag).Nodup) :
    ∀ c ∈ cs, c.tagCount tag ≤ 1 :=
  fun c hc => List.nodup_replicate.1 ((List.nodup_flatMap.1 h).1 c hc)

namespace Denotes

variable (h : s.Denotes cs)
include h

/-- The chains of a set differ from each other, since their ids do. -/
theorem nodup_chains : cs.Nodup := h.nodup.of_map Chain.id

/-- What a chain brought into the index leads back to it, once for every time a tag was given. -/
theorem filterMap_get?_tags (hc : c ∈ cs) (tag : String) :
    ((c.head.info.tags.map fun t => (t, c.id)).filter fun t => t.1 == tag).filterMap
      (fun t => s.get? t.2) = List.replicate (c.tagCount tag) c := by
  have hget : s.get? c.id = some c := h.get?_eq_some_iff.2 ⟨hc, rfl⟩
  have hsame : ((fun t : String × Int => t.1 == tag) ∘ fun t => (t, c.id)) = (· == tag) := rfl
  rw [List.filter_map, hsame, List.filter_beq, List.map_replicate]
  exact List.filterMap_replicate_of_some hget

/-- **A set lists under a tag** the chains that carry it, in the order in which they were added, each
as often as the tag was given to it. -/
theorem byTag_eq (tag : String) : s.byTag tag = listing cs tag := by
  unfold byTag listing
  rw [h.tagged, List.filter_flatMap, List.filterMap_flatMap]
  exact List.flatMap_congr fun c hc => h.filterMap_get?_tags hc tag

/-- Every chain that carries the tag is listed once exactly if the tag was given to none twice. -/
theorem byTag_eq_filter_iff (tag : String) :
    (s.byTag tag = cs.filter fun c => c.hasTag tag) ↔ ∀ c ∈ cs, c.tagCount tag ≤ 1 := by
  rw [h.byTag_eq]
  constructor
  · intro heq
    refine tagCount_le_one_of_nodup ?_
    rw [heq]
    exact h.nodup_chains.filter _
  · exact listing_of_le_one

end Denotes

/--
**What a set lists under a tag**, whatever chains are added to an empty set.

The chains for which the call went well and that carry the tag are listed, in the order of the calls,
and no others; but each of them as often as the tag was given to it, in the tags of its declaration
and in its actions. So each is listed once exactly if the tag was given to none of them twice.
-/
theorem tag_index_exact_iff (hcs : ∀ c ∈ cs, c.Compiled) (tag : String) :
    (empty.addAll cs).byTag tag = listing (accepted empty cs) tag ∧
    (∀ c, c ∈ (empty.addAll cs).byTag tag ↔ c ∈ (empty.addAll cs).all ∧ c.hasTag tag = true) ∧
    ((empty.addAll cs).byTag tag = (accepted empty cs).filter (fun c => c.hasTag tag) ↔
      ∀ c ∈ accepted empty cs, c.tagCount tag ≤ 1) ∧
    ∀ c files r, Chain.ofSettings files r = .ok c → c.tagCount tag = r.head.readTags.count tag := by
  have hdenotes := denotes_empty.addAll fun c hc => (hcs c hc).phase_mem
  rw [List.nil_append] at hdenotes
  refine ⟨hdenotes.byTag_eq tag, ?_, hdenotes.byTag_eq_filter_iff tag, ?_⟩
  · intro c
    rw [hdenotes.byTag_eq, mem_listing_iff, hdenotes.all_perm.mem_iff]
  · intro c files r hread
    rw [Chain.tagCount, Chain.tags_of_ofSettings hread]

/-- Rules under the tag `sqli`: by declaration, by an action, and without an id of its own. -/
def taggedRules : List RuleSettings :=
  [⟨{ id := 1, phase := some 4, tags := ["sqli", "core"] }, []⟩,
    ⟨{ id := 2, actions := ["TAG : 'sqli'", "tag:core"] }, []⟩,
    ⟨{ id := 1, tags := ["sqli"] }, []⟩,
    ⟨{ id := 3, phase := some 1, actions := ["tag:xss"] }, []⟩]

/-- Each rule that was taken is listed once under each of its tags, across the phases. -/
theorem tag_index_exact_iff_sqli :
    ∃ cs, taggedRules.mapM (Chain.ofSettings .empty) = .ok cs ∧ (∀ c ∈ cs, c.Compiled) ∧
      (empty.addAll cs).byTag "sqli" = (accepted empty cs).filter (fun c => c.hasTag "sqli") ∧
      ((empty.addAll cs).byTag "sqli").map Chain.id = [1, 2] := by
  have hread : (taggedRules.mapM (Chain.ofSettings .empty)).toOption.map (fun cs =>
      ((accepted empty cs).all (fun c => decide (c.tagCount "sqli" ≤ 1)),
        ((empty.addAll cs).byTag "sqli").map Chain.id)) = some (true, [1, 2]) := by decide +kernel
  obtain ⟨cs, hcs, hlisted⟩ := exists_ok_of_map hread
  obtain ⟨honce, hids⟩ := Prod.mk.inj hlisted
  have hcompiled : ∀ c ∈ cs, c.Compiled := by
    intro c hc
    obtain ⟨r, -, hr⟩ := exists_of_mem_mapM hcs hc
    exact ⟨.empty, r, hr⟩
  have hexact := (tag_index_exact_iff hcompiled "sqli").2.2.1.2 fun c hc =>
    of_decide_eq_true (List.all_eq_true.1 honce c hc)
  exact ⟨cs, hcs, hcompiled, hexact, hids⟩

/-- A rule that is given the tag `sqli` in its declaration and by an action. -/
def twiceTagged : RuleSettings := ⟨{ id := 1, tags := ["sqli"], actions := ["tag:sqli"] }, []⟩

/-- The one rule of the set is listed twice. -/
theorem twice_tagged_listed_twice :
    ∃ c, Chain.ofSettings .empty twiceTagged = .ok c ∧
      ((empty.addAll [c]).byTag "sqli").map Chain.id = [1, 1] ∧
      (empty.addAll [c]).byTag "sqli" ≠ (accepted empty [c]).filter fun c => c.hasTag "sqli" := by
  have hread : (Chain.ofSettings .empty twiceTagged).toOption.map (fun c =>
      (((empty.addAll [c]).byTag "sqli").map Chain.id,
        ((accepted empty [c]).filter fun c => c.hasTag "sqli").map Chain.id)) =
          some ([1, 1], [1]) := by decide +kernel
  obtain ⟨c, hc, hlisted⟩ := exists_ok_of_map hread
  obtain ⟨htwice, honce⟩ := Prod.mk.inj hlisted
  refine ⟨c, hc, htwice, fun hsame => ?_⟩
  rw [hsame, honce] at htwice
  cases htwice

end RuleSet

end Rampart
