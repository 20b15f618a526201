import Rampart.Proofs.Fresh
import Rampart.Proofs.Parts
import Rampart.Proofs.PlainKeys

/-!
# Texts with references, put together

The parts of a text are found from left to right: the first opening is looked for, then the end of the
reference behind it, and the search goes on behind that end. So what comes later matters to the parts found
so far in two ways only: it can close a reference that was left open, and it can make an opening of a
percent sign at the very end.

Where neither happens, the parts of two texts put together are the parts of the one followed by those of
the other, but for two literal parts that meet and become one. Expanded, that makes no difference.
-/

namespace Rampart

/-! ## Where texts meet -/

/-- What stands in neither of two texts, nor across their seam, is not found before the second of them. -/
theorem Text.cut?_append_of_parted {a b : Char} {cs ds : List Char} (hcs : ¬ [a, b] <:+: cs)
    (hseam : ¬ (cs.getLast? = some a ∧ ds.head? = some b)) :
    cut? [a, b] (cs ++ ds) = (cut? [a, b] ds).map fun p => (cs ++ p.1, p.2) := by
  induction cs with
  | nil => exact (congrFun Option.map_id (cut? [a, b] ds)).symm
  | cons c cs ih =>
      rw [List.infix_cons_iff, not_or] at hcs
      have hrest : ¬ (cs.getLast? = some a ∧ ds.head? = some b) := by
        intro h
        refine hseam ⟨?_, h.2⟩
        rw [List.getLast?_cons, h.1]
        rfl
      have hstart : ¬ [a, b] <+: c :: (cs ++ ds) := by
        rw [List.cons_prefix_cons]
        rintro ⟨rfl, hb⟩
        cases cs with
        | nil =>
            refine hseam ⟨rfl, ?_⟩
            obtain ⟨rest, hrest⟩ := hb
            rw [List.nil_append] at hrest
            rw [← hrest]
            rfl
        | cons d cs =>
            rw [List.cons_append, List.cons_prefix_cons] at hb
            obtain ⟨rfl, -⟩ := hb
            exact hcs.1 ⟨cs, rfl⟩
      rw [List.cons_append, cut?, if_neg (mt List.isPrefixOf_iff_prefix.1 hstart), ih hcs.2 hrest,
        Option.map_map]
      rfl

/-- A cut at a character stays where it is when more text follows. -/
theorem Text.cutAt?_append_of_some {stop : Char → Bool} {cs before after : List Char}
    (h : cutAt? stop cs = some (before, after)) (rest : List Char) :
    cutAt? stop (cs ++ rest) = some (before, after ++ rest) := by
  have hbefore := stop_eq_false_of_cutAt? h
  obtain ⟨c, hc, rfl⟩ := append_of_cutAt? h
  rw [List.append_assoc, List.cons_append, cutAt?_append_left hbefore, cutAt?, if_pos hc,
    Option.map_some, List.append_nil]

namespace MacroText

/-- Every opening of a reference in the text has an end behind it. -/
def Closed (cs : List Char) : Prop := ∀ after, '%' :: '\x7b' :: after <:+ cs → '\x7d' ∈ after

/-- The two texts make no opening where they meet. -/
def Parted (cs ds : List Char) : Prop := ¬ (cs.getLast? = some '%' ∧ ds.head? = some '\x7b')

theorem Closed.of_suffix {cs rest : List Char} (h : Closed cs) (hrest : rest <:+ cs) : Closed rest :=
  fun after hafter => h after (hafter.trans hrest)

theorem Parted.of_suffix {cs rest ds : List Char} (h : Parted cs ds) (hrest : rest <:+ cs) :
    Parted rest ds := by
  obtain ⟨front, rfl⟩ := hrest
  intro hseam
  refine h ⟨?_, hseam.2⟩
  rw [List.getLast?_append, hseam.1]
  rfl

/-! ## The parts of both -/

/-- Parts behind a literal text, which joins a literal part that stands first. -/
def behind (cs : List Char) : List Segment → List Segment
  | .literal ds :: rest => .literal (cs ++ ds) :: rest
  | parts => literalPart cs ++ parts

/-- The parts of two texts put together. -/
def join : List Segment → List Segment → List Segment
  | [], more => more
  | [.literal cs], more => behind cs more
  | part :: parts, more => part :: join parts more

theorem join_literalPart (cs : List Char) (more : List Segment) :
    join (literalPart cs) more = behind cs more := by
  cases cs with
  | nil => cases more with
    | nil => rfl
    | cons part rest => cases part <;> rfl
  | cons c cs => rfl

theorem join_reference (cs : List Char) (v : Variable) (parts more : List Segment) :
    join (literalPart cs ++ .reference v :: parts) more =
      literalPart cs ++ .reference v :: join parts more := by
  cases cs with
  | nil => rfl
  | cons c cs => rfl

theorem behind_literalPart (cs ds : List Char) :
    behind cs (literalPart ds) = literalPart (cs ++ ds) := by
  cases ds with
  | nil =>
      rw [List.append_nil]
      exact List.append_nil _
  | cons d ds =>
      unfold literalPart
      rw [if_neg (by simp), if_neg (by simp)]
      rfl

theorem behind_reference (cs ds : List Char) (v : Variable) (parts : List Segment) :
    behind cs (literalPart ds ++ .reference v :: parts) =
      literalPart (cs ++ ds) ++ .reference v :: parts := by
  cases ds with
  | nil => rw [List.append_nil]; rfl
  | cons d ds =>
      unfold literalPart
      rw [if_neg (by simp), if_neg (by simp)]
      rfl

/-! ## Finding the parts -/

section Found

variable {cs ds before inner reference rest : List Char}

/-- In front of other text, a text without openings goes to the first part. -/
theorem segmentsOf_append_of_unopened (hcs : ¬ ['%', '\x7b'] <:+: cs) (hparted : Parted cs ds) :
    segmentsOf (cs ++ ds) = (segmentsOf ds).map (behind cs) := by
  have hcut := Text.cut?_append_of_parted hcs hparted
  cases hopening : Text.cut? ['%', '\x7b'] ds with
  | none =>
      rw [hopening] at hcut
      rw [segmentsOf_of_unopened hcut, segmentsOf_of_unopened hopening]
      exact congrArg Except.ok (behind_literalPart cs ds).symm
  | some found =>
      obtain ⟨before, inner⟩ := found
      rw [hopening] at hcut
      cases hclosing : Text.cutAt? (· == '\x7d') inner with
      | none =>
          rw [segmentsOf_of_unclosed hcut hclosing, segmentsOf_of_unclosed hopening hclosing]
          exact congrArg Except.ok (behind_literalPart cs ds).symm
      | some closed =>
          obtain ⟨reference, rest⟩ := closed
          rw [segmentsOf_of_closed hcut hclosing, segmentsOf_of_closed hopening hclosing]
          cases Variable.ofChars (colonForPoint reference) with
          | error e => rfl
          | ok v =>
              cases segmentsOf rest with
              | error e => rfl
              | ok more => exact congrArg Except.ok (behind_reference cs before v more).symm

/-- **The parts of two texts put together** are those of the one and those of the other, if the first
leaves no reference open and no opening is made where they meet. -/
theorem segmentsOf_append (hclosed : Closed cs) (hparted : Parted cs ds) :
    segmentsOf (cs ++ ds) =
      segmentsOf cs >>= fun parts => (segmentsOf ds).map (join parts) := by
  -- on the length of the first text, which is shorter behind each reference
  induction hn : cs.length using Nat.strongRecOn generalizing cs with
  | ind n ih =>
    cases hopening : Text.cut? ['%', '\x7b'] cs with
    | none =>
        rw [segmentsOf_append_of_unopened (Text.cut?_eq_none_iff.1 hopening) hparted,
          segmentsOf_of_unopened hopening]
        exact congrArg (Except.map · (segmentsOf ds)) (funext (join_literalPart cs)).symm
    | some found =>
        obtain ⟨before, inner⟩ := found
        have hcs : before ++ ['%', '\x7b'] ++ inner = cs := Text.append_of_cut? hopening
        cases hclosing : Text.cutAt? (· == '\x7d') inner with
        | none =>
            -- the opening has an end behind it
            have hend := hclosed inner ⟨before, by rw [← hcs, List.append_assoc]; rfl⟩
            have hnone := Text.stop_eq_false_of_cutAt?_eq_none hclosing _ hend
            simp at hnone
        | some closed =>
            obtain ⟨reference, rest⟩ := closed
            obtain ⟨c, -, hinner⟩ := Text.append_of_cutAt? hclosing
            have hsuffix : rest <:+ cs :=
              ⟨before ++ ['%', '\x7b'] ++ reference ++ [c], by rw [← hcs, ← hinner]; simp⟩
            have hshorter : rest.length < n := by
              have h₁ := congrArg List.length hcs
              have h₂ := Text.length_of_cutAt? hclosing
              simp only [List.length_append, List.length_cons, List.length_nil] at h₁
              omega
            have hrest := ih rest.length hshorter (hclosed.of_suffix hsuffix)
              (hparted.of_suffix hsuffix) rfl
            rw [segmentsOf_of_closed (Text.cut?_append_of_some hopening ds)
              (Text.cutAt?_append_of_some hclosing ds), segmentsOf_of_closed hopening hclosing, hrest]
            cases Variable.ofChars (colonForPoint reference) with
            | error e => rfl
            | ok v =>
                cases segmentsOf rest with
                | error e => rfl
                | ok parts =>
                    cases segmentsOf ds with
                    | error e => rfl
                    | ok more => exact congrArg Except.ok (join_reference before v parts more).symm

end Found

/-! ## Expanding the parts -/

theorem expandSegments_behind (r : RuleInfo) (cs : List Char) (parts : List Segment) (x : Exchange) :
    expandSegments r (behind cs parts) x =
      (cs ++ (expandSegments r parts x).1, (expandSegments r parts x).2) := by
  have hliteral (parts : List Segment) :
      expandSegments r (literalPart cs ++ parts) x =
        (cs ++ (expandSegments r parts x).1, (expandSegments r parts x).2) := by
    cases cs with
    | nil => rfl
    | cons c cs => rfl
  cases parts with
  | nil => exact hliteral []
  | cons part rest =>
      cases part with
      | literal ds =>
          simp only [behind, expandSegments]
          rw [List.append_assoc]
      | reference v => exact hliteral _

/-- The parts of two texts put together are expanded one after the other. -/
theorem expandSegments_join (r : RuleInfo) (parts more : List Segment) (x : Exchange) :
    expandSegments r (join parts more) x =
      ((expandSegments r parts x).1 ++ (expandSegments r more (expandSegments r parts x).2).1,
        (expandSegments r more (expandSegments r parts x).2).2) := by
  induction parts, more using join.induct generalizing x with
  | case1 more => rfl
  | case2 more cs =>
      rw [join, expandSegments_behind]
      simp only [expandSegments, List.append_nil]
  | case3 part parts more hlast ih =>
      rw [join]
      · cases part with
        | literal cs => simp only [expandSegments, ih, List.append_assoc]
        | reference v => simp only [expandSegments, ih, List.append_assoc]
      · exact hlast

/-- Expanding changes nothing if nothing has expired in reach of the transaction. -/
theorem expandSegments_of_freshInReach {x : Exchange} (h : x.FreshInReach) (r : RuleInfo)
    (parts : List Segment) : (expandSegments r parts x).2 = x := by
  induction parts with
  | nil => rfl
  | cons part rest ih =>
      cases part with
      | literal cs => exact ih
      | reference v =>
          simp only [expandSegments]
          rw [v.evaluate_of_freshInReach h r]
          exact ih

/-! ## Texts -/

/-- The text that is written as two texts put together. -/
def append (a b : MacroText) : MacroText := ⟨a.raw ++ b.raw, join a.segments b.segments⟩

/-- Two texts put together are expanded one after the other. -/
theorem expand_append (a b : MacroText) (r : RuleInfo) (x : Exchange) :
    (a.append b).expand r x =
      ((a.expand r x).1 ++ (b.expand r (a.expand r x).2).1, (b.expand r (a.expand r x).2).2) := by
  unfold expand append
  dsimp only
  rw [expandSegments_join, String.ofList_append]

theorem expand_of_freshInReach {x : Exchange} (h : x.FreshInReach) (m : MacroText) (r : RuleInfo) :
    (m.expand r x).2 = x :=
  expandSegments_of_freshInReach h r m.segments

/-- **Reading two texts put together** is reading both. -/
theorem ofText_append {s t : String} (hclosed : Closed s.toList)
    (hparted : Parted s.toList t.toList) :
    ofText (s ++ t) = ofText s >>= fun a => (ofText t).map a.append := by
  unfold ofText
  rw [String.toList_append, segmentsOf_append hclosed hparted]
  cases segmentsOf s.toList with
  | error e => rfl
  | ok parts => cases segmentsOf t.toList <;> rfl

/--
**Expanding is done piece by piece.**

If the first of two texts leaves no reference open and no opening is made where they meet, the two put
together can be read exactly if both can, and they are expanded as the one and then the other. As long as
nothing has expired in reach of the transaction, each is expanded as it would be by itself, and nothing
changes. A text in which no reference is opened expands to itself.
-/
theorem expands_piecewise :
    (∀ s t : String, Closed s.toList → Parted s.toList t.toList →
      ((∃ m, ofText (s ++ t) = .ok m) ↔ (∃ a, ofText s = .ok a) ∧ ∃ b, ofText t = .ok b) ∧
        ∀ m a b, ofText (s ++ t) = .ok m → ofText s = .ok a → ofText t = .ok b →
          ∀ r x,
            (m.expand r x = ((a.expand r x).1 ++ (b.expand r (a.expand r x).2).1,
              (b.expand r (a.expand r x).2).2)) ∧
            (x.FreshInReach → m.expand r x = ((a.expand r x).1 ++ (b.expand r x).1, x))) ∧
      ∀ s : String, ¬ ['%', '\x7b'] <:+: s.toList →
        ∃ m, ofText s = .ok m ∧ ∀ r x, m.expand r x = (s, x) := by
  refine ⟨?_, ?_⟩
  · intro s t hclosed hparted
    have hread := ofText_append hclosed hparted
    refine ⟨?_, ?_⟩
    · constructor
      · rintro ⟨m, hm⟩
        rw [hread] at hm
        obtain ⟨a, ha, hm⟩ := bind_eq_ok.1 hm
        obtain ⟨b, hb, -⟩ := map_eq_ok.1 hm
        exact ⟨⟨a, ha⟩, b, hb⟩
      · rintro ⟨⟨a, ha⟩, b, hb⟩
        exact ⟨a.append b, by rw [hread, ha, hb]; rfl⟩
    · intro m a b hm ha hb r x
      rw [hread, ha, hb] at hm
      obtain rfl : a.append b = m := Except.ok.inj hm
      refine ⟨expand_append a b r x, fun hfresh => ?_⟩
      have hb' := expand_of_freshInReach hfresh b r
      rw [expand_append, expand_of_freshInReach hfresh a r, hb']
  · intro s hs
    exact ⟨literal s, ofText_of_unopened (Text.cut?_eq_none_iff.2 hs), expand_literal s⟩

/-- A transaction whose own collection holds a seven. -/
def sevenKept : Exchange where
  tx := { Transaction.new "t" 0 .empty with own := (Collection.empty "TX").setFirst "n" "7" }
  shelf := .empty
  now := 0

theorem sevenKept_fresh : sevenKept.Fresh where
  own := by
    unfold Collection.Fresh
    decide
  shared := fun c hc => by cases hc

/-- What a text is expanded to in that transaction, if it can be read. -/
def expanded? (s : String) : Option String :=
  (ofText s).toOption.map fun m => (m.expand {} sevenKept).1

/-- A percent sign at the end of the first text, and a reference that the second leaves open. -/
theorem expands_piecewise_open :
    let s := "n is %\x7bTX.n\x7d, up 5%"
    let t := "%\x7btx:n\x7d times %\x7bTX.n"
    Closed s.toList ∧ Parted s.toList t.toList ∧ sevenKept.FreshInReach ∧
      (∃ m a b, ofText (s ++ t) = .ok m ∧ ofText s = .ok a ∧ ofText t = .ok b ∧
        (a.expand {} sevenKept).1 = "n is 7, up 5%" ∧
        (b.expand {} sevenKept).1 = "7 times %\x7bTX.n" ∧
        m.expand {} sevenKept =
          ((a.expand {} sevenKept).1 ++ (b.expand {} sevenKept).1, sevenKept)) ∧
      ¬ ['%', '\x7b'] <:+: "5%".toList ∧
      ∃ m, ofText "5%" = .ok m ∧ ∀ r x, m.expand r x = ("5%", x) := by
  intro s t
  have hclosed : Closed s.toList := by
    intro after hafter
    simp [s, List.suffix_cons_iff] at hafter
    rw [hafter]
    decide
  have hparted : Parted s.toList t.toList := by
    unfold Parted
    decide
  have hfresh : sevenKept.FreshInReach := sevenKept_fresh.inReach
  have hs : expanded? s = some "n is 7, up 5%" := by decide +kernel
  have ht : expanded? t = some "7 times %\x7bTX.n" := by decide +kernel
  obtain ⟨a, ha, hasText⟩ := exists_ok_of_map hs
  obtain ⟨b, hb, hbText⟩ := exists_ok_of_map ht
  obtain ⟨hread, hexpand⟩ := expands_piecewise.1 s t hclosed hparted
  obtain ⟨m, hm⟩ := hread.2 ⟨⟨a, ha⟩, b, hb⟩
  have hplain : ¬ ['%', '\x7b'] <:+: "5%".toList := by decide
  exact ⟨hclosed, hparted, hfresh,
    ⟨m, a, b, hm, ha, hb, hasText, hbText, (hexpand m a b hm ha hb {} sevenKept).2 hfresh⟩,
    hplain, expands_piecewise.2 "5%" hplain⟩

end MacroText

end Rampart
