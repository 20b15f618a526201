import Rampart.Request
import Rampart.Proofs.Slices
import Mathlib.Data.List.Perm.Basic

/-!
# Origins

A request is put together from details that come in any order. The values taken from them remember
where they stand: arguments in the query string or in the body, headers and cookies in the block of
the header lines so far. A stretch of bytes in a text stays where it is when more text follows, and
moves by what is put in front; so it is enough to place each value in the part it is cut from.

The invariant of the steps, `Traced`, says from which texts the values of each set were taken.
-/

namespace Rampart

/-! ## Stretches of bytes -/

namespace Text

theorem encode_cons (c : Char) (cs : List Char) :
    encode (c :: cs) = String.utf8EncodeChar c ++ encode cs := List.flatMap_cons

theorem encode_append (as bs : List Char) : encode (as ++ bs) = encode as ++ encode bs :=
  List.flatMap_append

theorem length_encode (cs : List Char) : (encode cs).length = byteLength cs := by
  induction cs with
  | nil => rfl
  | cons c cs ih =>
      rw [encode, List.flatMap_cons, List.length_append, String.length_utf8EncodeChar,
        byteLength_cons]
      exact congrArg (c.utf8Size + ·) ih

theorem encode_injective {as bs : List Char} (h : encode as = encode bs) : as = bs := by
  have hbytes : as.utf8Encode = bs.utf8Encode := by
    unfold List.utf8Encode
    exact congrArg List.toByteArray h
  have hdecode := congrArg ByteArray.utf8Decode? hbytes
  rw [List.utf8Decode?_utf8Encode, List.utf8Decode?_utf8Encode] at hdecode
  simpa using hdecode

theorem exists_eq_singleton {cs : List Char} (h : byteLength cs = 1) : ∃ c, cs = [c] := by
  cases cs with
  | nil => cases h
  | cons c cs =>
      rw [byteLength_cons] at h
      have hpos := c.utf8Size_pos
      obtain rfl := byteLength_eq_zero.1 (show byteLength cs = 0 by omega)
      exact ⟨c, rfl⟩

/-- Of two starts of a text the one with fewer bytes is a start of the other. -/
theorem exists_append_of_byteLength_le {as bs cs ds : List Char} (h : as ++ bs = cs ++ ds)
    (hle : byteLength as ≤ byteLength cs) : ∃ xs, cs = as ++ xs ∧ bs = xs ++ ds := by
  rcases List.append_eq_append_iff.1 h with ⟨xs, hcs, hbs⟩ | ⟨xs, has, hds⟩
  · exact ⟨xs, hcs, hbs⟩
  · rw [has, byteLength_append] at hle
    obtain rfl := byteLength_eq_zero.1 (show byteLength xs = 0 by omega)
    exact ⟨[], by rw [has, List.append_nil, List.append_nil], hds.symm⟩

theorem IsBoundary.shift {n : Nat} {cs : List Char} (h : IsBoundary n cs) (before after : List Char) :
    IsBoundary (byteLength before + n) (before ++ cs ++ after) := by
  obtain ⟨start, hstart, rfl⟩ := h
  refine ⟨before ++ start, ?_, byteLength_append before start⟩
  exact ((List.prefix_append_right_inj before).2 hstart).trans (List.prefix_append _ after)

end Text

open Text

/-- A stretch of bytes in a text: it lies within the text, cuts no character at either end, and its
bytes are those of a part. -/
structure Origin.Marks (o : Origin) (whole part : List Char) : Prop where
  within : o.offset + o.length ≤ byteLength whole
  start : IsBoundary o.offset whole
  stop : IsBoundary (o.offset + o.length) whole
  bytes : ((encode whole).drop o.offset).take o.length = encode part

namespace Origin

/-- The stretch that a text has to itself. -/
theorem marks_self (cs : List Char) : (⟨0, byteLength cs⟩ : Origin).Marks cs cs where
  within := Nat.le_of_eq (Nat.zero_add _)
  start := ⟨[], List.nil_prefix, rfl⟩
  stop := ⟨cs, List.prefix_rfl, (Nat.zero_add _).symm⟩
  bytes := List.take_of_length_le (Nat.le_of_eq (length_encode cs))

/-- A stretch moves by what is put before the text, and stays where it is when more text follows. -/
theorem Marks.shift {o : Origin} {whole part : List Char} (h : o.Marks whole part)
    (before after : List Char) :
    (⟨byteLength before + o.offset, o.length⟩ : Origin).Marks (before ++ whole ++ after) part where
  within := by
    have := h.within
    rw [byteLength_append, byteLength_append]
    dsimp only
    omega
  start := h.start.shift before after
  stop := by
    rw [Nat.add_assoc]
    exact h.stop.shift before after
  bytes := by
    have hwithin := h.within
    rw [← length_encode] at hwithin
    dsimp only
    rw [encode_append, encode_append, ← length_encode, List.append_assoc,
      List.drop_length_add_append, List.drop_append_of_le_length (by omega),
      List.take_append_of_le_length (by rw [List.length_drop]; omega), h.bytes]

/-- The stretch of a part between two others. -/
theorem marks_between (before part after : List Char) :
    (⟨byteLength before, byteLength part⟩ : Origin).Marks (before ++ part ++ after) part :=
  (marks_self part).shift before after

/-- **A stretch marks a part exactly if the part stands there.** -/
theorem marks_iff {o : Origin} {whole part : List Char} :
    o.Marks whole part ↔
      ∃ before after, before ++ part ++ after = whole ∧ o = ⟨byteLength before, byteLength part⟩ := by
  constructor
  · rintro ⟨-, ⟨before, ⟨rest, hrest⟩, hstart⟩, ⟨stop, ⟨after, hafter⟩, hstop⟩, hbytes⟩
    obtain ⟨found, rfl, -⟩ :=
      exists_append_of_byteLength_le (hrest.trans hafter.symm) (by rw [hstart, hstop]; omega)
    rw [byteLength_append, hstart] at hstop
    have hlength : o.length = byteLength found := by omega
    -- the bytes of the stretch are those of what was found there
    rw [← hafter, encode_append, encode_append, ← hstart, hlength, ← length_encode, ← length_encode,
      List.append_assoc, List.drop_left, List.take_left] at hbytes
    obtain rfl := encode_injective hbytes
    refine ⟨before, after, hafter, ?_⟩
    rw [hstart, ← hlength]
  · rintro ⟨before, after, rfl, rfl⟩
    exact marks_between before part after

end Origin

/-! ## Pairs -/

namespace Pair

/-- The text of a pair is what the bytes at its place stand for. -/
def ReadIn (p : Pair) (whole : List Char) : Prop :=
  ∃ part, p.origin.Marks whole part ∧ p.text = String.ofList (Percent.decode part)

theorem readIn_ofPart (before part after : List Char) :
    (ofPart (byteLength before) part).ReadIn (before ++ part ++ after) := by
  rw [ofPart]
  split
  · rename_i key text hcut
    obtain ⟨c, hc, rfl⟩ := append_of_cutAt? hcut
    obtain rfl := eq_of_beq hc
    have hmark := Origin.marks_between (before ++ key ++ ['=']) text after
    have hlength : byteLength (before ++ key ++ ['=']) = byteLength before + byteLength key + 1 := by
      rw [byteLength_append, byteLength_append]
      rfl
    rw [hlength] at hmark
    refine ⟨text, ?_, rfl⟩
    simpa using hmark
  · have hmark := Origin.marks_between (before ++ part) [] after
    rw [byteLength_append, List.append_nil] at hmark
    exact ⟨[], hmark, rfl⟩

/-- A pair in the sequence of parts is that of some part. -/
theorem exists_part_of_mem_ofParts {separator : Char} (hsize : separator.utf8Size = 1) {p : Pair}
    {parts : List (List Char)} {before : List Char} (h : p ∈ ofParts (byteLength before) parts) :
    ∃ l part r, parts = l ++ part :: r ∧ trimChars part ≠ [] ∧
      p = ofPart (byteLength (before ++ l.flatMap (· ++ [separator]))) part := by
  induction parts generalizing before with
  | nil => cases h
  | cons part parts ih =>
      have hlater (h : p ∈ ofParts (byteLength before + byteLength part + 1) parts) :
          ∃ l part' r, part :: parts = l ++ part' :: r ∧ trimChars part' ≠ [] ∧
            p = ofPart (byteLength (before ++ l.flatMap (· ++ [separator]))) part' := by
        have hlength : byteLength (before ++ (part ++ [separator])) =
            byteLength before + byteLength part + 1 := by
          rw [byteLength_append, byteLength_append, byteLength_cons, hsize, byteLength_nil,
            Nat.add_assoc]
        obtain ⟨l, part', r, rfl, hshown, hp⟩ := ih (hlength ▸ h)
        refine ⟨part :: l, part', r, rfl, hshown, ?_⟩
        rw [hp, List.flatMap_cons, List.append_assoc]
      rw [ofParts] at h
      split at h
      · exact hlater h
      · rename_i hshown
        rcases List.mem_cons.1 h with rfl | h
        · refine ⟨[], part, parts, rfl, fun hblank => hshown (hblank ▸ rfl), ?_⟩
          rw [List.flatMap_nil, List.append_nil]
        · exact hlater h

/-- **The pairs of a text are read where they stand in it.** -/
theorem readIn_of_mem_ofText {separator : Char} (hsize : separator.utf8Size = 1) {p : Pair}
    {s : String} (h : p ∈ ofText separator s) : p.ReadIn s.toList := by
  have hp : p ∈ ofParts (byteLength []) (splitAt separator s.toList) := h
  obtain ⟨l, part, r, hparts, -, rfl⟩ := exists_part_of_mem_ofParts hsize hp
  have hread := readIn_ofPart (l.flatMap (· ++ [separator])) part (r.flatMap (separator :: ·))
  rwa [← intercalate_append_cons, ← hparts, intercalate_splitAt] at hread

/-- The value of a pair in a set, moved by an offset. -/
def value (name : String) (offset : Nat) (p : Pair) : Value :=
  ⟨name, p.key, p.text, [⟨offset + p.origin.offset, p.origin.length⟩]⟩

end Pair

namespace AnchoredSet

theorem name_pushPairs (s : AnchoredSet) (offset : Nat) (pairs : List Pair) :
    (s.pushPairs offset pairs).name = s.name := by
  induction pairs generalizing s with
  | nil => rfl
  | cons p pairs ih => exact ih _

theorem values_pushPairs (s : AnchoredSet) (offset : Nat) (pairs : List Pair) :
    (s.pushPairs offset pairs).values = s.values ++ pairs.map (Pair.value s.name offset) := by
  induction pairs generalizing s with
  | nil => exact (List.append_nil _).symm
  | cons p pairs ih =>
      refine (ih _).trans ?_
      rw [values_push, List.append_assoc]
      rfl

/-- The keys and the texts of a set, in the order in which they came. -/
def pairs (s : AnchoredSet) : List (String × String) := s.values.map fun v => (v.key, v.text)

theorem pairs_pushWhole (s : AnchoredSet) (key text : String) (offset : Nat) :
    (s.pushWhole key text offset).pairs = s.pairs ++ [(key, text)] := List.map_append

theorem pairs_pushPairs (s : AnchoredSet) (offset : Nat) (added : List Pair) :
    (s.pushPairs offset added).pairs = s.pairs ++ added.map fun p => (p.key, p.text) := by
  unfold pairs
  rw [values_pushPairs, List.map_append, List.map_map]
  rfl

end AnchoredSet

/-! ## Values -/

namespace Value

/-- The value was taken from one place of a text: its only origin marks a part of it, and its text is
what that part is read as. -/
def TakenFrom (v : Value) (read : List Char → List Char) (whole : List Char) : Prop :=
  ∃ o part, v.origins = [o] ∧ o.Marks whole part ∧ v.text = String.ofList (read part)

variable {read : List Char → List Char} {whole : List Char}

theorem TakenFrom.append {v : Value} (h : v.TakenFrom read whole) (after : List Char) :
    v.TakenFrom read (whole ++ after) := by
  obtain ⟨o, part, horigins, hmarks, htext⟩ := h
  have := hmarks.shift [] after
  rw [byteLength_nil, Nat.zero_add] at this
  exact ⟨o, part, horigins, this, htext⟩

/-- The same value under the name of another set. -/
def filedUnder (name : String) (v : Value) : Value := { v with collection := name }

end Value

theorem Pair.ReadIn.takenFrom {p : Pair} {whole : List Char} (h : p.ReadIn whole) (name : String)
    (before after : List Char) :
    (p.value name (byteLength before)).TakenFrom Percent.decode (before ++ whole ++ after) := by
  obtain ⟨part, hmarks, htext⟩ := h
  exact ⟨_, part, rfl, hmarks.shift before after, htext⟩

/-- The arguments of a form are taken from it. -/
theorem Pair.takenFrom_of_mem_ofText {v : Value} {name : String} {s : String}
    (h : v ∈ (Pair.ofText '&' s).map (Pair.value name 0)) : v.TakenFrom Percent.decode s.toList := by
  obtain ⟨p, hp, rfl⟩ := List.mem_map.1 h
  have := (Pair.readIn_of_mem_ofText rfl hp).takenFrom name [] []
  rwa [List.nil_append, List.append_nil] at this

/-! ## Details -/

/-- Something that becomes known of a request. -/
inductive Detail where
  | method (text : String)
  | uri (text : String)
  | query (text : String)
  | header (name value : String)
  | body (text : String)
  | client (address : Address)

namespace Detail

/-- The query string that becomes known. -/
def query? : Detail → Option String
  | .query text => some text
  | _ => none

/-- The body that becomes known. -/
def body? : Detail → Option String
  | .body text => some text
  | _ => none

/-- The line of a header. -/
def line : Detail → List Char
  | .header name value => name.toList ++ ": ".toList ++ value.toList ++ ['\n']
  | _ => []

end Detail

namespace Request

/-- The request with one more detail. -/
def withDetail (r : Request) : Detail → Request
  | .method text => r.withMethod text
  | .uri text => r.withUri text
  | .query text => r.withQuery text
  | .header name value => r.withHeader name value
  | .body text => r.withBody text
  | .client address => r.withClient address

/-- The request with details that become known one after the other. -/
def withDetails (r : Request) (details : List Detail) : Request := details.foldl withDetail r

/-- Where the values of a request were taken from, among the query strings and the bodies it was given
and the block of its header lines. -/
structure Traced (r : Request) (queries bodies : List String) (block : List Char) : Prop where
  argsGet : ∀ v ∈ r.argsGet.values, ∃ q ∈ queries, v.TakenFrom Percent.decode q.toList
  /-- The arguments are those of the query strings and others that are taken from the bodies. -/
  args : ∃ fromBody, r.args.values.Perm
      (r.argsGet.values.map (Value.filedUnder r.args.name) ++ fromBody) ∧
    ∀ v ∈ fromBody, ∃ b ∈ bodies, v.TakenFrom Percent.decode b.toList
  headers : ∀ v ∈ r.headers.values, v.TakenFrom (fun part => part) block
  cookies : ∀ v ∈ r.cookies.values, v.TakenFrom Percent.decode block
  body : ∀ b, r.body.text? = some b → b ∈ bodies
  headerBytes : r.headerBytes = byteLength block

theorem traced_new (id : String) (time : Int) : (new id time).Traced [] [] [] where
  argsGet _ h := nomatch h
  args := ⟨[], .nil, fun _ h => nomatch h⟩
  headers _ h := nomatch h
  cookies _ h := nomatch h
  body _ h := nomatch h
  headerBytes := rfl

namespace Traced

variable {r : Request} {queries bodies : List String} {block : List Char}

theorem withQuery (h : r.Traced queries bodies block) (q : String) :
    (r.withQuery q).Traced (queries ++ [q]) bodies block where
  argsGet := by
    intro v hv
    rw [Request.withQuery, AnchoredSet.values_pushPairs] at hv
    rcases List.mem_append.1 hv with hold | hnew
    · obtain ⟨q', hq', hv⟩ := h.argsGet v hold
      exact ⟨q', List.mem_append_left _ hq', hv⟩
    · exact ⟨q, List.mem_append_right _ (List.mem_singleton_self q), Pair.takenFrom_of_mem_ofText hnew⟩
  args := by
    obtain ⟨fromBody, hperm, hbody⟩ := h.args
    refine ⟨fromBody, ?_, hbody⟩
    rw [Request.withQuery, AnchoredSet.values_pushPairs, AnchoredSet.values_pushPairs,
      AnchoredSet.name_pushPairs, List.map_append, List.map_map]
    -- both sets take the same pairs, which come before those of the bodies
    refine (hperm.append_right _).trans ?_
    rw [List.append_assoc, List.append_assoc]
    exact List.perm_append_comm.append_left _
  headers := h.headers
  cookies := h.cookies
  body := h.body
  headerBytes := h.headerBytes

/-- Reading the body for arguments takes them from a body that was given. -/
theorem readBody (h : r.Traced queries bodies block) : r.readBody.Traced queries bodies block := by
  rw [Request.readBody]
  split
  · exact h
  · split
    · exact h
    · rename_i b hb
      split
      · exact
          { h with
            args := by
              obtain ⟨fromBody, hperm, hbody⟩ := h.args
              refine ⟨fromBody ++ (Pair.ofText '&' b).map (Pair.value r.args.name 0), ?_, ?_⟩
              · rw [AnchoredSet.values_pushPairs, AnchoredSet.name_pushPairs, ← List.append_assoc]
                exact hperm.append_right _
              · intro v hv
                rcases List.mem_append.1 hv with hold | hnew
                · exact hbody v hold
                · exact ⟨b, h.body b hb, Pair.takenFrom_of_mem_ofText hnew⟩ }
      · exact h

theorem withBody (h : r.Traced queries bodies block) (b : String) :
    (r.withBody b).Traced queries (bodies ++ [b]) block := by
  refine readBody { h with args := ?_, body := ?_ }
  · obtain ⟨fromBody, hperm, hbody⟩ := h.args
    refine ⟨fromBody, hperm, fun v hv => ?_⟩
    obtain ⟨b', hb', hv⟩ := hbody v hv
    exact ⟨b', List.mem_append_left _ hb', hv⟩
  · intro b' hb'
    obtain rfl := Option.some.inj hb'
    exact List.mem_append_right _ (List.mem_singleton_self b)

/-- A header and its cookies stand in the line that is added to the block. -/
theorem withHeader (h : r.Traced queries bodies block) (name value : String) :
    (r.withHeader name value).Traced queries bodies (block ++ (Detail.header name value).line) := by
  -- the line up to the value
  have hstart : r.headerBytes + Text.size name + 2 =
      byteLength (block ++ (name.toList ++ ": ".toList)) := by
    rw [h.headerBytes, byteLength_append, byteLength_append, ← Nat.add_assoc]
    rfl
  have hline : block ++ (Detail.header name value).line =
      block ++ (name.toList ++ ": ".toList) ++ value.toList ++ ['\n'] := by
    simp only [Detail.line, List.append_assoc]
  refine readBody { h with headers := ?_, cookies := ?_, headerBytes := ?_ }
  · intro v hv
    rcases List.mem_append.1 hv with hold | hnew
    · exact (h.headers v hold).append _
    · obtain rfl := List.mem_singleton.1 hnew
      rw [hstart, hline]
      exact ⟨_, value.toList, rfl, Origin.marks_between _ _ _, String.ofList_toList.symm⟩
  · intro v hv
    dsimp only at hv
    split at hv
    · rw [AnchoredSet.values_pushPairs, List.map_map] at hv
      rcases List.mem_append.1 hv with hold | hnew
      · exact (h.cookies v hold).append _
      · obtain ⟨p, hp, rfl⟩ := List.mem_map.1 hnew
        rw [hstart, hline]
        -- trimming the key leaves the place of the value alone
        exact (Pair.readIn_of_mem_ofText rfl hp).takenFrom r.cookies.name _ _
    · exact (h.cookies v hv).append _
  · dsimp only
    rw [hstart, hline, byteLength_append _ ['\n'], byteLength_append _ value.toList]
    rfl

end Traced

/-- **A request remembers where its values come from.** -/
theorem Traced.withDetails {r : Request} {queries bodies : List String} {block : List Char}
    (h : r.Traced queries bodies block) (details : List Detail) :
    (r.withDetails details).Traced (queries ++ details.filterMap Detail.query?)
      (bodies ++ details.filterMap Detail.body?) (block ++ details.flatMap Detail.line) := by
  induction details generalizing r queries bodies block with
  | nil =>
      rw [List.filterMap_nil, List.filterMap_nil, List.flatMap_nil, List.append_nil, List.append_nil,
        List.append_nil]
      exact h
  | cons d details ih =>
      -- details that no value is taken from leave everything that is traced as it is
      cases d with
      | method text => exact ih (r := r.withMethod text) { h with }
      | uri text => exact ih (r := r.withUri text) { h with }
      | query text =>
          have := ih (h.withQuery text)
          rw [List.append_assoc] at this
          exact this
      | header name value =>
          have := ih (h.withHeader name value)
          rw [List.append_assoc] at this
          exact this
      | body text =>
          have := ih (h.withBody text)
          rw [List.append_assoc] at this
          exact this
      | client address => exact ih (r := r.withClient address) { h with }

/-- The request that comes of some details. -/
def ofDetails (id : String) (time : Int) (details : List Detail) : Request :=
  (new id time).withDetails details

/-- **Origins mark what a value was taken from.** When the query string and the body become known once
each, in any order and among any headers, the arguments of the query string are marked in it, the
other arguments in the body, and headers and cookies in the block of the header lines. -/
theorem origins_mark_sources (id : String) (time : Int) {details : List Detail} {q b : String}
    (hq : details.filterMap Detail.query? = [q]) (hb : details.filterMap Detail.body? = [b]) :
    (∀ v ∈ (ofDetails id time details).argsGet.values, v.TakenFrom Percent.decode q.toList) ∧
      (∃ fromBody, (ofDetails id time details).args.values.Perm
          ((ofDetails id time details).argsGet.values.map
            (Value.filedUnder (ofDetails id time details).args.name) ++ fromBody) ∧
        ∀ v ∈ fromBody, v.TakenFrom Percent.decode b.toList) ∧
      (∀ v ∈ (ofDetails id time details).headers.values,
        v.TakenFrom (fun part => part) (details.flatMap Detail.line)) ∧
      ∀ v ∈ (ofDetails id time details).cookies.values,
        v.TakenFrom Percent.decode (details.flatMap Detail.line) := by
  have htraced := (traced_new id time).withDetails details
  rw [hq, hb, List.nil_append, List.nil_append, List.nil_append] at htraced
  obtain ⟨fromBody, hperm, hbody⟩ := htraced.args
  refine ⟨fun v hv => ?_, ⟨fromBody, hperm, fun v hv => ?_⟩, htraced.headers, htraced.cookies⟩
  · obtain ⟨q', hq', hv⟩ := htraced.argsGet v hv
    exact List.mem_singleton.1 hq' ▸ hv
  · obtain ⟨b', hb', hv⟩ := hbody v hv
    exact List.mem_singleton.1 hb' ▸ hv

/-- A form whose body is there before its type, with characters of several bytes, a blank part and a
name without a value. -/
def formPost : List Detail :=
  [.body "name=b%20ob&&flag", .query "é=ü+%41&id=7", .header "Host" "a.example",
    .header "Content-Type" "application/x-www-form-urlencoded", .header "Cookie" "a=1; s=%C3%A9"]

/-- The form has two arguments in the query string, two in the body, and two cookies. -/
theorem origins_mark_sources_form_post :
    formPost.filterMap Detail.query? = ["é=ü+%41&id=7"] ∧
      formPost.filterMap Detail.body? = ["name=b%20ob&&flag"] ∧
      (ofDetails "r" 0 formPost).args.values.map (fun v => (v.text, v.origins)) =
        [("ü A", [⟨3, 6⟩]), ("7", [⟨13, 1⟩]), ("b ob", [⟨5, 6⟩]), ("", [⟨17, 0⟩])] ∧
      (ofDetails "r" 0 formPost).cookies.values.map (fun v => (v.text, v.origins)) =
        [("1", [⟨74, 1⟩]), ("é", [⟨79, 6⟩])] ∧
      ∀ v ∈ (ofDetails "r" 0 formPost).cookies.values,
        v.TakenFrom Percent.decode (formPost.flatMap Detail.line) :=
  ⟨rfl, rfl, by decide +kernel, by decide +kernel, (origins_mark_sources "r" 0 rfl rfl).2.2.2⟩

end Request

end Rampart
