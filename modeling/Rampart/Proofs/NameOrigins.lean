import Rampart.Proofs.Origins
import Rampart.Proofs.Resolution

/-!
# Origins of names

A view of names shows the keys of a set as values. Where a name was sent is not remembered: its origin
is counted back from that of the value, over one byte and as many as the name has once it is read.
That is where the name stands if one byte divides the two and reading keeps the number of bytes.

Between a header and its value there are two bytes. A name without an equals sign has no byte between
it and the empty value behind it. And the name of an argument can be written in an encoding.
-/

namespace Rampart

open Text

/-! ## Stretches near a text -/

namespace Origin

variable {before raw after : List Char}

/-- The stretch of that many bytes before the place where a text ends marks the text exactly if it has
that many bytes. -/
theorem marks_back_iff {n : Nat} :
    (⟨byteLength before + byteLength raw - n, n⟩ : Origin).Marks (before ++ raw ++ after) raw ↔
      n = byteLength raw := by
  constructor
  · intro h
    obtain ⟨_, _, -, ho⟩ := marks_iff.1 h
    exact congrArg Origin.length ho
  · rintro rfl
    rw [Nat.add_sub_cancel]
    exact marks_between before raw after

/-- One byte further back the text is marked only where nothing stands before it, provided that it does
not begin with the character it follows. -/
theorem marks_further_back_iff {n : Nat} {c : Char} (hraw : raw.head? = some c)
    (hbefore : before.getLast? ≠ some c) :
    (⟨byteLength before + byteLength raw - (n + 1), n⟩ : Origin).Marks (before ++ raw ++ after) raw ↔
      before = [] ∧ n = byteLength raw := by
  constructor
  · intro h
    obtain ⟨start, rest, hwhole, ho⟩ := marks_iff.1 h
    obtain ⟨hoffset, rfl⟩ := Origin.mk.inj ho
    refine ⟨?_, rfl⟩
    by_contra hne
    have hpos : byteLength before ≠ 0 := mt byteLength_eq_zero.1 hne
    rw [List.append_assoc, List.append_assoc] at hwhole
    obtain ⟨xs, rfl, hrest⟩ := exists_append_of_byteLength_le hwhole (by omega)
    rw [byteLength_append] at hoffset hpos
    -- one character lies between, and the part begins with it
    obtain ⟨d, rfl⟩ := exists_eq_singleton (show byteLength xs = 1 by omega)
    have hhead := congrArg List.head? hrest
    rw [List.head?_append, hraw] at hhead
    refine hbefore ?_
    rw [List.getLast?_append_of_ne_nil _ (List.cons_ne_nil _ _)]
    exact hhead.symm
  · rintro ⟨rfl, rfl⟩
    have := marks_between [] raw after
    rwa [byteLength_nil, Nat.zero_add, Nat.sub_eq_zero_of_le (Nat.le_succ _)]

/-- A text that is followed by a character and begins at its second character too consists of that
character alone. -/
theorem forall_eq_of_shifted {c d : Char} {xs ys zs : List Char}
    (h : c :: xs ++ ys = xs ++ d :: zs) : ∀ x ∈ c :: xs, x = d := by
  induction xs generalizing c with
  | nil =>
      rw [List.nil_append] at h
      obtain ⟨rfl, -⟩ := List.cons.inj h
      exact fun x hx => List.mem_singleton.1 hx
  | cons x xs ih =>
      obtain ⟨rfl, htail⟩ := List.cons.inj h
      have hlater := ih htail
      exact List.forall_mem_cons.2 ⟨hlater c (List.mem_cons_self ..), hlater⟩

/-- One byte ahead of its place a text that a character of one byte follows is marked exactly if it
consists of that character alone. -/
theorem marks_ahead_iff {c : Char} (hsize : c.utf8Size = 1) :
    (⟨byteLength before + 1, byteLength raw⟩ : Origin).Marks (before ++ raw ++ c :: after) raw ↔
      ∀ x ∈ raw, x = c := by
  constructor
  · intro h
    obtain ⟨start, rest, hwhole, ho⟩ := marks_iff.1 h
    obtain ⟨hoffset, -⟩ := Origin.mk.inj ho
    cases raw with
    | nil => exact fun _ hx => nomatch hx
    | cons first raw =>
      rw [List.append_assoc, List.append_assoc] at hwhole
      obtain ⟨xs, rfl, hrest⟩ := exists_append_of_byteLength_le hwhole.symm (by omega)
      rw [byteLength_append] at hoffset
      obtain ⟨d, rfl⟩ := exists_eq_singleton (show byteLength xs = 1 by omega)
      obtain ⟨rfl, htail⟩ := List.cons.inj hrest
      exact forall_eq_of_shifted htail.symm
  · intro h
    have hmark := marks_between (before ++ [c]) raw after
    have hwhole : before ++ [c] ++ raw ++ after = before ++ raw ++ c :: after := by
      have hmove : [c] ++ raw = raw ++ [c] := by
        have hraw := List.eq_replicate_of_mem h
        calc [c] ++ raw = List.replicate (raw.length + 1) c := congrArg (c :: ·) hraw
          _ = List.replicate raw.length c ++ [c] := List.replicate_succ'
          _ = raw ++ [c] := by rw [← hraw]
      rw [List.append_assoc before, hmove]
      simp only [List.append_assoc, List.singleton_append]
    rw [hwhole, byteLength_append, byteLength_cons, hsize] at hmark
    exact hmark

end Origin

/-! ## Names as they were sent -/

/-- A pair as it stands in an encoded text: what comes before it, its name as it was written, the rest
of it, and what follows. -/
structure SentPair where
  before : List Char
  name : List Char
  rest : List Char
  after : List Char

namespace SentPair

/-- The pair stands in a text of pairs: between two separators or at an end, with its name up to the
first equals sign. Blank stretches are no pairs. -/
structure In (p : SentPair) (separator : Char) (whole : List Char) : Prop where
  whole : p.before ++ (p.name ++ p.rest) ++ p.after = whole
  starts : p.before = [] ∨ p.before.getLast? = some separator
  stops : p.after = [] ∨ p.after.head? = some separator
  one : separator ∉ p.name ++ p.rest
  named : '=' ∉ p.name
  valued : p.rest = [] ∨ p.rest.head? = some '='
  shown : trimChars (p.name ++ p.rest) ≠ []

/-- The bytes before the value of the pair. -/
def valueOffset (p : SentPair) : Nat :=
  byteLength p.before + byteLength p.name + if p.rest.isEmpty then 0 else 1

end SentPair

namespace Pair

/-- The pair was read from one that was sent. -/
structure Reads (p : Pair) (sent : SentPair) : Prop where
  key : p.key = String.ofList (Percent.decode sent.name)
  offset : p.origin.offset = sent.valueOffset

/-- The pairs of a text were read from pairs that stand in it. -/
theorem exists_sent_of_mem_ofText {separator : Char} (hsize : separator.utf8Size = 1) {p : Pair}
    {s : String} (h : p ∈ ofText separator s) :
    ∃ sent : SentPair, sent.In separator s.toList ∧ p.Reads sent := by
  have hp : p ∈ ofParts (byteLength []) (splitAt separator s.toList) := h
  obtain ⟨l, part, r, hparts, hshown, rfl⟩ := exists_part_of_mem_ofParts hsize hp
  have hwhole := intercalate_append_cons separator l part r
  rw [← hparts, intercalate_splitAt] at hwhole
  have hone : separator ∉ part :=
    notMem_of_mem_splitAt (hparts ▸ List.mem_append_right l (List.mem_cons_self ..))
  have hstarts : l.flatMap (· ++ [separator]) = [] ∨
      (l.flatMap (· ++ [separator])).getLast? = some separator := by
    rcases List.eq_nil_or_concat l with rfl | ⟨l, last, rfl⟩
    · exact .inl rfl
    · refine .inr ?_
      rw [List.concat_eq_append, List.flatMap_append, List.flatMap_singleton, ← List.append_assoc,
        List.getLast?_concat]
  have hstops : r.flatMap (separator :: ·) = [] ∨
      (r.flatMap (separator :: ·)).head? = some separator := by
    cases r with
    | nil => exact .inl rfl
    | cons next r => exact .inr rfl
  -- the name ends at the first equals sign, or is the whole part
  cases hcut : cutAt? (· == '=') part with
  | some cut =>
      obtain ⟨name, text⟩ := cut
      obtain ⟨c, hc, rfl⟩ := append_of_cutAt? hcut
      obtain rfl := eq_of_beq hc
      refine ⟨⟨_, name, '=' :: text, _⟩, ⟨hwhole.symm, hstarts, hstops, hone, ?_, .inr rfl, hshown⟩, ?_⟩
      · exact fun hmem => Bool.false_ne_true (stop_eq_false_of_cutAt? hcut _ hmem).symm
      · rw [ofPart, hcut]
        exact ⟨rfl, rfl⟩
  | none =>
      refine ⟨⟨_, part, [], _⟩, ⟨?_, hstarts, hstops, ?_, ?_, .inl rfl, ?_⟩, ?_⟩
      · rw [List.append_nil]
        exact hwhole.symm
      · rwa [List.append_nil]
      · exact fun hmem => Bool.false_ne_true (stop_eq_false_of_cutAt?_eq_none hcut _ hmem).symm
      · rwa [List.append_nil]
      · rw [ofPart, hcut]
        exact ⟨rfl, rfl⟩

end Pair

/-- Where the origin of a name lies that is counted back from the value, over one byte and as many as
the name has when it is read. -/
theorem Origin.marks_name_iff {before raw rest after : List Char} {n : Nat}
    (hbare : rest = [] → ∃ c, raw.head? = some c ∧ before.getLast? ≠ some c) :
    (⟨byteLength before + byteLength raw + (if rest.isEmpty then 0 else 1) - (n + 1), n⟩ :
        Origin).Marks (before ++ raw ++ after) raw ↔
      (rest = [] → before = []) ∧ n = byteLength raw := by
  cases rest with
  | nil =>
      obtain ⟨c, hraw, hbefore⟩ := hbare rfl
      rw [List.isEmpty_nil, if_pos rfl, Nat.add_zero, marks_further_back_iff hraw hbefore]
      exact ⟨fun h => ⟨fun _ => h.1, h.2⟩, fun h => ⟨h.1 rfl, h.2⟩⟩
  | cons c rest =>
      rw [List.isEmpty_cons, if_neg Bool.false_ne_true, Nat.add_sub_add_right, marks_back_iff]
      exact ⟨fun h => ⟨fun hnil => (nomatch hnil), h⟩, fun h => h.2⟩

namespace SentPair.In

variable {p : SentPair} {separator : Char} {whole : List Char}

/-- A pair that is shown has a character that is not blank. -/
theorem exists_not_blank (h : p.In separator whole) :
    ∃ c, (trimLeft (p.name ++ p.rest)).head? = some c ∧ isBlank c = false := by
  have hne : trimLeft (p.name ++ p.rest) ≠ [] := by
    intro hnil
    refine h.shown ?_
    rw [trimChars, hnil]
    rfl
  refine ⟨_, List.head?_eq_some_head hne, ?_⟩
  exact List.head_dropWhile_not isBlank hne

/-- A name without a value does not begin with the character that it follows. -/
theorem head_name (h : p.In separator whole) (hbare : p.rest = []) :
    ∃ c, p.name.head? = some c ∧ p.before.getLast? ≠ some c := by
  obtain ⟨c, hc, -⟩ := h.exists_not_blank
  rw [hbare, List.append_nil] at hc
  have hone := h.one
  rw [hbare, List.append_nil] at hone
  cases hname : p.name with
  | nil =>
      rw [hname] at hc
      cases hc
  | cons first name =>
      refine ⟨first, rfl, fun hlast => hone ?_⟩
      rcases h.starts with hnil | hsep
      · rw [hnil] at hlast
        cases hlast
      · obtain rfl := Option.some.inj (hsep.symm.trans hlast)
        exact hname ▸ List.mem_cons_self ..

/-- The name of a pair is marked by the origin counted back from the value exactly if an equals sign
ends it, or nothing stands before it, and it has as many bytes as when it is read. -/
theorem marks_name_iff (h : p.In separator whole) {n : Nat} :
    (⟨p.valueOffset - (n + 1), n⟩ : Origin).Marks whole p.name ↔
      (p.rest = [] → p.before = []) ∧ n = byteLength p.name := by
  have hwhole : whole = p.before ++ p.name ++ (p.rest ++ p.after) := by
    rw [← h.whole]
    simp only [List.append_assoc]
  rw [hwhole]
  exact Origin.marks_name_iff h.head_name

/-- A name without a value does not begin with the character that it follows, when the blanks at its
start are left out and something ends before the text of pairs that is no start of a name. -/
theorem head_trimmed_name (h : p.In separator whole) (hbare : p.rest = []) {lead : List Char} {d : Char}
    (hlead : lead.getLast? = some d) (hblank : isBlank d = true) :
    ∃ c, (trimLeft p.name).head? = some c ∧
      (lead ++ p.before ++ p.name.takeWhile isBlank).getLast? ≠ some c := by
  obtain ⟨c, hc, hnot⟩ := h.exists_not_blank
  rw [hbare, List.append_nil] at hc
  refine ⟨c, hc, fun hlast => ?_⟩
  have hmem : c ∈ p.name :=
    (List.dropWhile_sublist isBlank).subset (List.mem_of_head? hc)
  -- the character before is a blank of the name, the separator, or the end of the lead
  rcases List.eq_nil_or_concat (p.name.takeWhile isBlank) with hnone | ⟨blanks, last, hblanks⟩
  · rw [hnone, List.append_nil] at hlast
    rcases h.starts with hnil | hsep
    · rw [hnil, List.append_nil, hlead] at hlast
      obtain rfl := Option.some.inj hlast
      rw [hblank] at hnot
      cases hnot
    · rw [List.getLast?_append, hsep] at hlast
      obtain rfl := Option.some.inj hlast
      exact h.one (List.mem_append_left _ hmem)
  · rw [hblanks, List.concat_eq_append, ← List.append_assoc, List.getLast?_concat] at hlast
    obtain rfl := Option.some.inj hlast
    have hin : last ∈ p.name.takeWhile isBlank := by
      rw [hblanks, List.concat_eq_append]
      exact List.mem_append_right _ (List.mem_singleton_self last)
    rw [List.mem_takeWhile_imp hin] at hnot
    cases hnot

end SentPair.In

/-! ## Details -/

namespace Value

/-- The value belongs to a pair of a text that begins at an offset: it has the key that the name is
read as, and its origin begins where the value of the pair does. -/
structure Follows (v : Value) (offset : Nat) (read : List Char → List Char) (sent : SentPair) :
    Prop where
  key : v.key = String.ofList (read sent.name)
  origins : ∃ n, v.origins = [⟨offset + sent.valueOffset, n⟩]

/-- The value is an argument of a form. -/
def ArgumentOf (v : Value) (form : String) : Prop :=
  ∃ sent : SentPair, sent.In '&' form.toList ∧ v.Follows 0 Percent.decode sent

/-- The value was sent as a header of some details. -/
def HeaderOf (v : Value) (details : List Detail) : Prop :=
  ∃ earlier text later, details = earlier ++ .header v.key text :: later ∧
    v.origins = [⟨byteLength (earlier.flatMap Detail.line) + Text.size v.key + 2, Text.size text⟩]

/-- The value was sent with a header of some details, as a cookie. -/
def CookieOf (v : Value) (details : List Detail) : Prop :=
  ∃ earlier name text later, ∃ sent : SentPair,
    details = earlier ++ .header name text :: later ∧ Text.sameText name "cookie" = true ∧
      sent.In ';' text.toList ∧
      v.Follows (byteLength (earlier.flatMap Detail.line) + Text.size name + 2)
        (fun cs => trimLeft (Percent.decode cs)) sent

variable {v : Value} {details : List Detail}

theorem HeaderOf.append (h : v.HeaderOf details) (more : List Detail) :
    v.HeaderOf (details ++ more) := by
  obtain ⟨earlier, text, later, rfl, horigins⟩ := h
  exact ⟨earlier, text, later ++ more, List.append_assoc .., horigins⟩

theorem CookieOf.append (h : v.CookieOf details) (more : List Detail) :
    v.CookieOf (details ++ more) := by
  obtain ⟨earlier, name, text, later, sent, rfl, hsent⟩ := h
  exact ⟨earlier, name, text, later ++ more, sent, List.append_assoc .., hsent⟩

theorem argumentOf_of_mem_ofText {name form : String}
    (h : v ∈ (Pair.ofText '&' form).map (Pair.value name 0)) : v.ArgumentOf form := by
  obtain ⟨p, hp, rfl⟩ := List.mem_map.1 h
  obtain ⟨sent, hsent, hreads⟩ := Pair.exists_sent_of_mem_ofText rfl hp
  exact ⟨sent, hsent, hreads.key, p.origin.length, by rw [Pair.value, hreads.offset]⟩

end Value

namespace Request

/-- The keys of the values of a request are names that were sent with the details. -/
structure Named (r : Request) (details : List Detail) : Prop where
  argsGet : ∀ v ∈ r.argsGet.values, ∃ form, .query form ∈ details ∧ v.ArgumentOf form
  args : ∀ v ∈ r.args.values, ∃ form, (.query form ∈ details ∨ .body form ∈ details) ∧
    v.ArgumentOf form
  headers : ∀ v ∈ r.headers.values, v.HeaderOf details
  cookies : ∀ v ∈ r.cookies.values, v.CookieOf details

namespace Named

variable {r : Request} {details : List Detail}

theorem append (h : r.Named details) (more : List Detail) : r.Named (details ++ more) where
  argsGet v hv := by
    obtain ⟨form, hform, hv⟩ := h.argsGet v hv
    exact ⟨form, List.mem_append_left _ hform, hv⟩
  args v hv := by
    obtain ⟨form, hform, hv⟩ := h.args v hv
    exact ⟨form, hform.imp (List.mem_append_left _) (List.mem_append_left _), hv⟩
  headers v hv := (h.headers v hv).append more
  cookies v hv := (h.cookies v hv).append more

theorem withQuery (h : r.Named details) {form : String} (hform : .query form ∈ details) :
    (r.withQuery form).Named details :=
  { h with
    argsGet := by
      intro v hv
      rw [Request.withQuery, AnchoredSet.values_pushPairs] at hv
      rcases List.mem_append.1 hv with hold | hnew
      · exact h.argsGet v hold
      · exact ⟨form, hform, Value.argumentOf_of_mem_ofText hnew⟩
    args := by
      intro v hv
      rw [Request.withQuery, AnchoredSet.values_pushPairs] at hv
      rcases List.mem_append.1 hv with hold | hnew
      · exact h.args v hold
      · exact ⟨form, .inl hform, Value.argumentOf_of_mem_ofText hnew⟩ }

/-- The body is read for arguments after it was sent. -/
theorem readBody (h : r.Named details)
    (hbody : ∀ form, r.body.text? = some form → .body form ∈ details) : r.readBody.Named details := by
  rw [Request.readBody]
  split
  · exact h
  · split
    · exact h
    · rename_i form hform
      split
      · exact
          { h with
            args := by
              intro v hv
              rw [AnchoredSet.values_pushPairs] at hv
              rcases List.mem_append.1 hv with hold | hnew
              · exact h.args v hold
              · exact ⟨form, .inr (hbody form hform), Value.argumentOf_of_mem_ofText hnew⟩ }
      · exact h

theorem withBody (h : r.Named details) {form : String} (hform : .body form ∈ details) :
    (r.withBody form).Named details := by
  refine readBody { h with } fun form' hform' => ?_
  obtain rfl := Option.some.inj hform'
  exact hform

/-- The header that comes last has its name and its cookies at the end of the details. -/
theorem withHeader (h : r.Named details) (name text : String)
    (hbytes : r.headerBytes = byteLength (details.flatMap Detail.line))
    (hbody : ∀ form, r.body.text? = some form → .body form ∈ details) :
    (r.withHeader name text).Named (details ++ [.header name text]) := by
  have hmore := h.append [.header name text]
  refine readBody { hmore with headers := ?_, cookies := ?_ }
    fun form hform => List.mem_append_left _ (hbody form hform)
  · intro v hv
    rcases List.mem_append.1 hv with hold | hnew
    · exact hmore.headers v hold
    · obtain rfl := List.mem_singleton.1 hnew
      exact ⟨details, text, [], rfl, by rw [hbytes]⟩
  · intro v hv
    dsimp only at hv
    split at hv
    · rename_i hcookie
      rw [AnchoredSet.values_pushPairs, List.map_map] at hv
      rcases List.mem_append.1 hv with hold | hnew
      · exact hmore.cookies v hold
      · obtain ⟨p, hp, rfl⟩ := List.mem_map.1 hnew
        obtain ⟨sent, hsent, hreads⟩ := Pair.exists_sent_of_mem_ofText rfl hp
        refine ⟨details, name, text, [], sent, rfl, hcookie, hsent, ?_, p.origin.length, ?_⟩
        · change Text.trimStart p.key = _
          rw [hreads.key, Text.trimStart, String.toList_ofList]
        · rw [← hreads.offset, ← hbytes]
          rfl
    · exact hmore.cookies v hv

end Named

/-- **What a request calls its values was sent as a name with them.** -/
theorem named_ofDetails (id : String) (time : Int) (details : List Detail) :
    (ofDetails id time details).Named details := by
  induction details using List.reverseRecOn with
  | nil =>
      exact ⟨fun _ h => (nomatch h), fun _ h => (nomatch h), fun _ h => (nomatch h),
        fun _ h => (nomatch h)⟩
  | append_singleton details d ih =>
      have hstep : ofDetails id time (details ++ [d]) = (ofDetails id time details).withDetail d :=
        List.foldl_concat ..
      have htraced := (traced_new id time).withDetails details
      have hbytes : (ofDetails id time details).headerBytes =
          byteLength (details.flatMap Detail.line) := htraced.headerBytes
      have hbody : ∀ form, (ofDetails id time details).body.text? = some form →
          .body form ∈ details := by
        intro form hform
        obtain ⟨d, hd, hform⟩ := List.mem_filterMap.1 (htraced.body form hform)
        cases d with
        | body text => exact Option.some.inj hform ▸ hd
        | method | uri | query | header | client => cases hform
      rw [hstep]
      -- details that no value is taken from leave the sets as they are
      cases d with
      | method text => exact { ih.append [.method text] with }
      | uri text => exact { ih.append [.uri text] with }
      | query form =>
          exact (ih.append [.query form]).withQuery
            (List.mem_append_right _ (List.mem_singleton_self _))
      | header name text => exact ih.withHeader name text hbytes hbody
      | body form =>
          exact (ih.append [.body form]).withBody
            (List.mem_append_right _ (List.mem_singleton_self _))
      | client address => exact { ih.append [.client address] with }

end Request

/-! ## Origins of names -/

namespace Value

/-- The only origin of the value marks a name in a text exactly if `right` holds. -/
def MarksName (w : Value) (whole name : List Char) (right : Prop) : Prop :=
  ∃ o, w.origins = [o] ∧ (o.Marks whole name ↔ right)

/-- The value shows the name of an argument that was sent in a form, and marks it there exactly if an
equals sign ends the name, or nothing stands before it, and reading keeps the number of bytes. -/
def ShowsArgument (w : Value) (form : String) : Prop :=
  ∃ sent : SentPair, sent.In '&' form.toList ∧
    w.text = String.ofList (Percent.decode sent.name) ∧
    w.MarksName form.toList sent.name
      ((sent.rest = [] → sent.before = []) ∧
        byteLength (Percent.decode sent.name) = byteLength sent.name)

/-- The value shows the name of a header of some details, and marks it in the block of their lines
exactly if it consists of colons alone. -/
def ShowsHeader (w : Value) (details : List Detail) : Prop :=
  (∃ text, .header w.text text ∈ details) ∧
    w.MarksName (details.flatMap Detail.line) w.text.toList (∀ c ∈ w.text.toList, c = ':')

/-- The value shows the name of a cookie that was sent with a header of some details, without the
blanks before it, and marks it in the block of their lines exactly if an equals sign ends the name and
reading keeps the number of bytes. -/
def ShowsCookie (w : Value) (details : List Detail) : Prop :=
  ∃ name text, ∃ sent : SentPair, .header name text ∈ details ∧
    Text.sameText name "cookie" = true ∧ sent.In ';' text.toList ∧
    w.text = String.ofList (trimLeft (Percent.decode sent.name)) ∧
    w.MarksName (details.flatMap Detail.line) (trimLeft sent.name)
      (sent.rest ≠ [] ∧
        byteLength (trimLeft (Percent.decode sent.name)) = byteLength (trimLeft sent.name))

variable {v : Value}

theorem origins_keyAsValue (view : String) {offset n : Nat} (h : v.origins = [⟨offset, n⟩]) :
    (v.keyAsValue view).origins = [⟨offset - (Text.size v.key + 1), Text.size v.key⟩] := by
  rw [keyAsValue, h]
  rfl

theorem ArgumentOf.shows {form : String} (h : v.ArgumentOf form) (view : String) :
    (v.keyAsValue view).ShowsArgument form := by
  obtain ⟨sent, hsent, hkey, n, horigins⟩ := h
  refine ⟨sent, hsent, hkey, _, origins_keyAsValue view horigins, ?_⟩
  rw [Nat.zero_add, hsent.marks_name_iff, hkey, Text.size, String.toList_ofList]

theorem HeaderOf.shows {details : List Detail} (h : v.HeaderOf details) (view : String) :
    (v.keyAsValue view).ShowsHeader details := by
  obtain ⟨earlier, text, later, rfl, horigins⟩ := h
  refine ⟨⟨text, List.mem_append_right _ (List.mem_cons_self ..)⟩, _,
    origins_keyAsValue view horigins, ?_⟩
  have hoffset : byteLength (earlier.flatMap Detail.line) + Text.size v.key + 2 -
      (Text.size v.key + 1) = byteLength (earlier.flatMap Detail.line) + 1 := by omega
  have hwhole : (earlier ++ Detail.header v.key text :: later).flatMap Detail.line =
      earlier.flatMap Detail.line ++ v.key.toList ++
        ':' :: (' ' :: text.toList ++ '\n' :: later.flatMap Detail.line) := by
    rw [List.flatMap_append, List.flatMap_cons, Detail.line]
    simp
  rw [hoffset, hwhole]
  exact Origin.marks_ahead_iff rfl

theorem CookieOf.shows {details : List Detail} (h : v.CookieOf details) (view : String) :
    (v.keyAsValue view).ShowsCookie details := by
  obtain ⟨earlier, name, text, later, sent, rfl, hcookie, hsent, hkey, n, horigins⟩ := h
  refine ⟨name, text, sent, List.mem_append_right _ (List.mem_cons_self ..), hcookie, hsent, hkey, _,
    origins_keyAsValue view horigins, ?_⟩
  -- what stands before the name: the block up to the text of the header, the pairs before, and blanks
  generalize hlead : earlier.flatMap Detail.line ++ name.toList ++ [':', ' '] = lead
  generalize hbefore : lead ++ sent.before ++ sent.name.takeWhile isBlank = before
  have hname : sent.name.takeWhile isBlank ++ trimLeft sent.name = sent.name :=
    List.takeWhile_append_dropWhile
  have hoffset : byteLength (earlier.flatMap Detail.line) + Text.size name + 2 + sent.valueOffset =
      byteLength before + byteLength (trimLeft sent.name) + if sent.rest.isEmpty then 0 else 1 := by
    have hlength := congrArg byteLength hname
    rw [byteLength_append] at hlength
    rw [SentPair.valueOffset, ← hbefore, ← hlead, ← hlength]
    simp only [byteLength_append, Text.size]
    have : byteLength [':', ' '] = 2 := rfl
    omega
  have hwhole : (earlier ++ Detail.header name text :: later).flatMap Detail.line =
      before ++ trimLeft sent.name ++
        (sent.rest ++ sent.after ++ '\n' :: later.flatMap Detail.line) := by
    rw [List.flatMap_append, List.flatMap_cons, Detail.line, ← hsent.whole, ← hbefore, ← hlead]
    nth_rewrite 1 [← hname]
    simp
  have hbare : sent.rest = [] → ∃ c, (trimLeft sent.name).head? = some c ∧
      before.getLast? ≠ some c := by
    intro hrest
    rw [← hbefore]
    refine hsent.head_trimmed_name hrest (d := ' ') ?_ (by decide)
    rw [← hlead]
    simp
  have hne : before ≠ [] := by
    rw [← hbefore, ← hlead]
    simp
  rw [hoffset, hwhole, hkey, Text.size, String.toList_ofList, Origin.marks_name_iff hbare]
  exact and_congr_left' ⟨fun h hnil => hne (h hnil), fun h hnil => absurd hnil h⟩

end Value

namespace Selector

theorem mem_of_mem_ofSet {s : AnchoredSet} {e : Exclusions} {sel : Selector} {v : Value}
    (h : v ∈ sel.ofSet s e) : v ∈ s.values :=
  (List.mem_filter.1 ((sel.ofSet_perm s e).mem_iff.1 h)).1

end Selector

namespace Variable

/-- **Origins of names are counted back from the values**, which finds the name of an argument or a
cookie that keeps its number of bytes and that an equals sign ends, and next to no name of a header.
-/
theorem name_origins_mark_iff {x : Exchange} {id : String} {time : Int} {details : List Detail}
    (hrequest : x.tx.request = .ofDetails id time details) (r : RuleInfo) (sel : Selector)
    (e : Exclusions) :
    (∀ w ∈ ((names .argsGet sel e).evaluate r x).1, ∃ form, .query form ∈ details ∧
        w.ShowsArgument form) ∧
      (∀ w ∈ ((names .args sel e).evaluate r x).1, ∃ form,
        (.query form ∈ details ∨ .body form ∈ details) ∧ w.ShowsArgument form) ∧
      (∀ w ∈ ((names .requestHeaders sel e).evaluate r x).1, w.ShowsHeader details) ∧
      ∀ w ∈ ((names .requestCookies sel e).evaluate r x).1, w.ShowsCookie details := by
  have hnamed := Request.named_ofDetails id time details
  rw [← hrequest] at hnamed
  refine ⟨fun w hw => ?_, fun w hw => ?_, fun w hw => ?_, fun w hw => ?_⟩ <;>
    obtain ⟨v, hv, rfl⟩ := List.mem_map.1 hw <;> replace hv := Selector.mem_of_mem_ofSet hv
  · obtain ⟨form, hform, hv⟩ := hnamed.argsGet v hv
    exact ⟨form, hform, hv.shows _⟩
  · obtain ⟨form, hform, hv⟩ := hnamed.args v hv
    exact ⟨form, hform, hv.shows _⟩
  · exact (hnamed.headers v hv).shows _
  · exact (hnamed.cookies v hv).shows _

/-- A request with an encoded name, a name without a value, and headers. -/
def namedDetails : List Detail :=
  [.query "%61=1&flag", .header "Host" "a", .header "Cookie" "s=1; t"]

/-- An exchange about that request. -/
def namedExchange : Exchange where
  tx := (Transaction.new "t" 0 .empty).learn fun _ => .ofDetails "t" 0 namedDetails
  shelf := .empty
  now := 0

/-- Both headers are shown, and neither name is marked. -/
theorem name_origins_mark_iff_headers :
    namedExchange.tx.request = .ofDetails "t" 0 namedDetails ∧
      ((names .requestHeaders .all .none).evaluate {} namedExchange).1.map (·.text) =
        ["Cookie", "Host"] ∧
      ∀ w ∈ ((names .requestHeaders .all .none).evaluate {} namedExchange).1, ∃ o,
        w.origins = [o] ∧ ¬ o.Marks (namedDetails.flatMap Detail.line) w.text.toList := by
  have hrequest : namedExchange.tx.request = .ofDetails "t" 0 namedDetails := rfl
  have hnames : ((names .requestHeaders .all .none).evaluate {} namedExchange).1.map (·.text) =
      ["Cookie", "Host"] := by decide +kernel
  refine ⟨hrequest, hnames, fun w hw => ?_⟩
  obtain ⟨-, o, ho, hmarks⟩ := (name_origins_mark_iff hrequest {} .all .none).2.2.1 w hw
  refine ⟨o, ho, fun hmark => ?_⟩
  have hcolons := hmarks.1 hmark
  have hmem := hnames ▸ List.mem_map_of_mem (f := Value.text) hw
  rcases List.mem_cons.1 hmem with htext | hmem
  · rw [htext] at hcolons
    exact absurd (hcolons 'o' (by decide +kernel)) (by decide)
  · rw [List.mem_singleton.1 hmem] at hcolons
    exact absurd (hcolons 'o' (by decide +kernel)) (by decide)

/-- The origins of an encoded name, a name without a value, and the name of a header mark other bytes
than those of the names. -/
theorem name_origins_miss_names :
    ((names .argsGet .all .none).evaluate {} namedExchange).1 =
        [⟨"ARGS_GET_NAMES", "flag", "flag", [⟨5, 4⟩]⟩, ⟨"ARGS_GET_NAMES", "a", "a", [⟨2, 1⟩]⟩] ∧
      (⟨5, 4⟩ : Origin).Marks "%61=1&flag".toList "&fla".toList ∧
      ¬ (⟨5, 4⟩ : Origin).Marks "%61=1&flag".toList "flag".toList ∧
      (⟨2, 1⟩ : Origin).Marks "%61=1&flag".toList "1".toList ∧
      ¬ (⟨2, 1⟩ : Origin).Marks "%61=1&flag".toList "%61".toList ∧
      ((names .requestHeaders (.key "Host") .none).evaluate {} namedExchange).1 =
        [⟨"REQUEST_HEADERS_NAMES", "Host", "Host", [⟨1, 4⟩]⟩] ∧
      ¬ (⟨1, 4⟩ : Origin).Marks (namedDetails.flatMap Detail.line) "Host".toList := by
  refine ⟨by decide +kernel, ?_, ?_, ?_, ?_, by decide +kernel, ?_⟩
  · exact Origin.marks_between "%61=1".toList "&fla".toList "g".toList
  · exact fun h => absurd h.bytes (by decide +kernel)
  · exact Origin.marks_between "%6".toList "1".toList "=1&flag".toList
  · exact fun h => absurd h.bytes (by decide +kernel)
  · exact fun h => absurd h.bytes (by decide +kernel)

end Variable

end Rampart
