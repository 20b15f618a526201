import Rampart.Operator.Reference
import Rampart.Proofs.Reference

/-!
# Networks of addresses

A network compares the first bits of addresses by a mask, a word in which these bits are set. The mask is
moved to the left by the number of bits that are not compared; if none is, it is not moved at all, so it is
never moved by the width of a word or more. What two words have in common under a mask is told bit by bit,
from the highest one down, and fewer bits to compare let in more addresses.
-/

namespace Rampart

/-! ## Words by their bits -/

namespace Address

/-- The families of addresses. -/
inductive Family where
  | v4
  | v6
  deriving DecidableEq, Repr

/-- The number of bits of an address. -/
def Family.width : Family → Nat
  | v4 => 32
  | v6 => 128

/-- The family of an address. -/
def family : Address → Family
  | v4 _ => .v4
  | v6 _ => .v6

/-- The bits of a word, the highest first. -/
def wordBits {width : Nat} (a : BitVec width) : List Bool := (List.range width).map a.getMsbD

/-- The bits of an address, the highest first. -/
def bits : Address → List Bool
  | v4 a => wordBits a
  | v6 a => wordBits a

theorem take_wordBits_eq_iff {width n : Nat} (h : n ≤ width) {a b : BitVec width} :
    (wordBits a).take n = (wordBits b).take n ↔ ∀ i < n, a.getMsbD i = b.getMsbD i := by
  unfold wordBits
  rw [← List.map_take, ← List.map_take, List.take_range, Nat.min_eq_left h, List.map_inj_left]
  simp only [List.mem_range]

end Address

open Address

namespace Network

/-- The address that a network is of. -/
def base : Network → Address
  | v4 a _ _ => .v4 a
  | v6 a _ _ => .v6 a

theorem length_le (n : Network) : n.length ≤ n.base.family.width := by
  cases n <;> assumption

/-- A network is known by its address and the number of bits that are compared. -/
theorem eq_of_base {n m : Network} (hbase : n.base = m.base) (hlength : n.length = m.length) : n = m := by
  cases n <;> cases m <;> cases hbase <;> cases hlength <;> rfl

/-! ## Masks -/

section Mask

variable {width n : Nat}

/-- The bits of a mask are its first ones. -/
theorem getMsbD_mask (h : n ≤ width) (i : Nat) : (mask width n).getMsbD i = decide (i < n) := by
  unfold mask
  split
  · rename_i hzero
    rw [hzero, decide_eq_false (Nat.not_lt_zero i)]
    exact BitVec.getMsbD_zero
  · rw [BitVec.getMsbD_shiftLeft, BitVec.getMsbD_allOnes]
    exact decide_eq_decide.2 (by omega)

/-- **Words are the same under a mask if their first bits are.** -/
theorem and_mask_eq_iff (h : n ≤ width) {a b : BitVec width} :
    a &&& mask width n = b &&& mask width n ↔ (wordBits a).take n = (wordBits b).take n := by
  rw [take_wordBits_eq_iff h]
  constructor
  · intro heq i hi
    have hbit := congrArg (BitVec.getMsbD · i) heq
    simpa only [BitVec.getMsbD_and, getMsbD_mask h, decide_eq_true hi, Bool.and_true] using hbit
  · intro hbits
    refine BitVec.eq_of_getMsbD_eq fun i _ => ?_
    rw [BitVec.getMsbD_and, BitVec.getMsbD_and, getMsbD_mask h]
    by_cases hi : i < n
    · rw [hbits i hi]
    · rw [decide_eq_false hi, Bool.and_false, Bool.and_false]

/-- A word moved to the left, by fewer bits than it has. -/
def shiftLeft? (a : BitVec width) (amount : Nat) : Option (BitVec width) :=
  if amount < width then some (a <<< amount) else none

/-- The mask, if there are as many bits to set, and the word is moved by fewer bits than it has. -/
def checkedMask? (width n : Nat) : Option (BitVec width) :=
  if n = 0 then some 0
  else if n ≤ width then shiftLeft? (BitVec.allOnes width) (width - n)
  else none

theorem checkedMask?_eq (h : n ≤ width) : checkedMask? width n = some (mask width n) := by
  unfold checkedMask? mask
  by_cases hzero : n = 0
  · rw [if_pos hzero, if_pos hzero]
  · rw [if_neg hzero, if_neg hzero, if_pos h, shiftLeft?, if_pos (by omega)]

end Mask

/-! ## Members -/

/-- The address belongs to the network, as far as the mask can be made. -/
def checkedContains? : Network → Address → Option Bool
  | v4 base n _, .v4 a => (checkedMask? 32 n).map fun m => a &&& m == base &&& m
  | v6 base n _, .v6 a => (checkedMask? 128 n).map fun m => a &&& m == base &&& m
  | _, _ => some false

/-- **The mask can always be made.** -/
theorem checkedContains?_eq (n : Network) (a : Address) :
    n.checkedContains? a = some (n.contains a) := by
  cases n with
  | v4 base length fits =>
      cases a with
      | v4 a => rw [checkedContains?, checkedMask?_eq fits, Option.map_some, contains]
      | v6 a => rfl
  | v6 base length fits =>
      cases a with
      | v4 a => rfl
      | v6 a => rw [checkedContains?, checkedMask?_eq fits, Option.map_some, contains]

/-- **An address belongs to a network of its family whose first bits it has.** -/
theorem contains_iff {n : Network} {a : Address} :
    n.contains a = true ↔ a.family = n.base.family ∧ a.bits.take n.length = n.base.bits.take n.length := by
  cases n with
  | v4 base length fits =>
      cases a with
      | v4 a =>
          rw [contains, beq_iff_eq, and_mask_eq_iff fits]
          exact (and_iff_right rfl).symm
      | v6 a => exact ⟨fun h => (nomatch h), fun h => nomatch h.1⟩
  | v6 base length fits =>
      cases a with
      | v4 a => exact ⟨fun h => (nomatch h), fun h => nomatch h.1⟩
      | v6 a =>
          rw [contains, beq_iff_eq, and_mask_eq_iff fits]
          exact (and_iff_right rfl).symm

/-- Of two networks of one address, the one that compares fewer bits has the members of the other. -/
theorem contains_of_length_le {n m : Network} (hbase : n.base = m.base) (hlength : n.length ≤ m.length)
    {a : Address} (h : m.contains a = true) : n.contains a = true := by
  obtain ⟨hfamily, hbits⟩ := contains_iff.1 h
  have hless := congrArg (List.take n.length) hbits
  rw [List.take_take, List.take_take, Nat.min_eq_left hlength] at hless
  rw [contains_iff, hbase]
  exact ⟨hfamily, hless⟩

/-! ## Texts -/

/-- The text is an address with all its bits, or an address, a slash and a number of bits that it has. -/
inductive Writes (s : String) (n : Network) : Prop where
  | whole (hcut : Text.splitOnce? '/' s = none) (hbase : Address.ofText? (Text.trim s) = some n.base)
      (hlength : n.length = n.base.family.width)
  | start {address bits : String} (hcut : Text.splitOnce? '/' s = some (address, bits))
      (hbase : Address.ofText? (Text.trim address) = some n.base)
      (hlength : Text.natural? 10 255 (Text.trimChars bits.toList) = some n.length)

theorem ofAddress?_eq_some_iff {a : Address} {length : Nat} {n : Network} :
    ofAddress? a length = some n ↔ n.base = a ∧ n.length = length := by
  unfold ofAddress?
  constructor
  · intro h
    cases a <;>
    · dsimp only at h
      split at h
      · cases h
        exact ⟨rfl, rfl⟩
      · cases h
  · rintro ⟨rfl, rfl⟩
    cases n with
    | v4 _ _ fits => exact dif_pos fits
    | v6 _ _ fits => exact dif_pos fits

theorem single_eq_iff {a : Address} {n : Network} :
    single a = n ↔ n.base = a ∧ n.length = n.base.family.width := by
  constructor
  · rintro rfl
    cases a <;> exact ⟨rfl, rfl⟩
  · rintro ⟨rfl, hlength⟩
    refine eq_of_base ?_ ?_ <;> cases n
    · rfl
    · rfl
    · exact hlength.symm
    · exact hlength.symm

/-- **What a network is read from.** -/
theorem ofText?_eq_some_iff {s : String} {n : Network} : ofText? s = some n ↔ Writes s n := by
  unfold ofText?
  cases hcut : Text.splitOnce? '/' s with
  | none =>
      dsimp only
      rw [Option.map_eq_some_iff]
      constructor
      · rintro ⟨a, ha, hsingle⟩
        obtain ⟨rfl, hlength⟩ := single_eq_iff.1 hsingle
        exact .whole hcut ha hlength
      · rintro (⟨-, hbase, hlength⟩ | ⟨hcut', -, -⟩)
        · exact ⟨n.base, hbase, single_eq_iff.2 ⟨rfl, hlength⟩⟩
        · exact nomatch hcut.symm.trans hcut'
  | some parts =>
      constructor
      · intro h
        obtain ⟨a, ha, h⟩ := Option.bind_eq_some_iff.1 h
        obtain ⟨length, hread, h⟩ := Option.bind_eq_some_iff.1 h
        obtain ⟨rfl, rfl⟩ := ofAddress?_eq_some_iff.1 h
        exact .start hcut ha hread
      · rintro (⟨hcut', -, -⟩ | ⟨hcut', hbase, hlength⟩)
        · exact nomatch hcut.symm.trans hcut'
        · cases hcut.symm.trans hcut'
          have hn : ofAddress? n.base n.length = some n := ofAddress?_eq_some_iff.2 ⟨rfl, rfl⟩
          exact Option.bind_eq_some_iff.2 ⟨n.base, hbase, Option.bind_eq_some_iff.2 ⟨n.length, hlength, hn⟩⟩

end Network

namespace Operator

/-! ## Lists of networks -/

/-- The entries of a list between commas, but for the blank ones. -/
def listed (param : String) : List String :=
  ((Text.splitAt ',' param.toList).filter fun p => !(Text.trimChars p).isEmpty).map String.ofList

/-- The test for addresses looks for a network of the list that has the address in the text. -/
theorem testAddress_iff {networks : List Network} {input : String} :
    (testAddress networks input).matched = true ↔
      ∃ a, Address.ofText? (Text.trim input) = some a ∧ ∃ n ∈ networks, n.contains a = true := by
  unfold testAddress
  cases hread : Address.ofText? (Text.trim input) with
  | none => exact ⟨fun h => (nomatch h), fun ⟨_, h, _⟩ => nomatch h⟩
  | some a =>
      dsimp only
      split
      · rename_i hany
        exact ⟨fun _ => ⟨a, rfl, List.any_eq_true.1 hany⟩, fun _ => rfl⟩
      · rename_i hany
        refine ⟨fun h => (nomatch h), ?_⟩
        rintro ⟨_, ⟨⟩, hcontains⟩
        exact absurd (List.any_eq_true.2 hcontains) hany

/-- The networks of a list are read from its entries, one from each. -/
theorem mem_networks_iff {α : Type} (text : α → String) {read : α → Except Error Network} {as : List α}
    {networks : List Network} (hread : ∀ a n, read a = .ok n ↔ Network.ofText? (text a) = some n)
    (h : as.mapM read = .ok networks) {n : Network} :
    n ∈ networks ↔ ∃ s ∈ as.map text, Network.ofText? s = some n := by
  constructor
  · intro hn
    obtain ⟨a, ha, hok⟩ := exists_of_mem_mapM h hn
    exact ⟨text a, List.mem_map_of_mem ha, (hread a n).1 hok⟩
  · rintro ⟨s, hs, hok⟩
    obtain ⟨a, ha, rfl⟩ := List.mem_map.1 hs
    exact mem_of_mapM h ha ((hread a n).2 hok)

/-- The networks between commas are those of the list. -/
theorem networksOf_eq_ok {param : String} {o : Operator} (h : networksOf param = .ok o) :
    ∃ networks, o = .address .inline param networks ∧
      ∀ n, n ∈ networks ↔ ∃ s ∈ listed param, Network.ofText? s = some n := by
  unfold networksOf at h
  obtain ⟨networks, hnetworks, h⟩ := bind_eq_ok.1 h
  split at h
  · cases h
  · cases h
    refine ⟨networks, rfl, fun n => mem_networks_iff String.ofList (fun p m => ?_) hnetworks⟩
    cases Network.ofText? (String.ofList p) <;> simp

/-- The networks of a file are those of its entries. -/
theorem networksIn_eq_ok {files : FileTree} {path : String} {lines : List String} {o : Operator}
    (hlines : entriesOf files path = .ok lines) (h : networksIn files path = .ok o) :
    ∃ networks, o = .address .file path networks ∧
      ∀ n, n ∈ networks ↔ ∃ s ∈ lines, Network.ofText? s = some n := by
  unfold networksIn at h
  obtain ⟨_, hentries, h⟩ := bind_eq_ok.1 h
  cases hlines.symm.trans hentries
  obtain ⟨networks, hnetworks, h⟩ := bind_eq_ok.1 h
  cases h
  refine ⟨networks, rfl, fun n => ?_⟩
  rw [mem_networks_iff id (fun line m => ?_) hnetworks, List.map_id]
  change _ ↔ Network.ofText? line = some m
  cases Network.ofText? line <;> simp

/-- A list matches a text that is an address in one of the networks of its entries. -/
theorem matched_address_iff {source : ListSource} {param : String} {networks : List Network}
    {entries : List String} (h : ∀ n, n ∈ networks ↔ ∃ s ∈ entries, Network.ofText? s = some n)
    (r : RuleInfo) (capture : Bool) (input : String) (x : Exchange) :
    ((address source param networks).evaluate r capture input x).1.matched = true ↔
      ∃ a, Address.ofText? (Text.trim input) = some a ∧
        ∃ s ∈ entries, ∃ n, Network.ofText? s = some n ∧ n.contains a = true := by
  rw [evaluate, testAddress_iff]
  refine exists_congr fun a => and_congr_right fun _ => ?_
  constructor
  · rintro ⟨n, hn, hcontains⟩
    obtain ⟨s, hs, hread⟩ := (h n).1 hn
    exact ⟨s, hs, n, hread, hcontains⟩
  · rintro ⟨s, hs, n, hread, hcontains⟩
    exact ⟨n, (h n).2 ⟨s, hs, hread⟩, hcontains⟩

/--
**Networks share their first bits.**

A text is read as a network exactly if it is an address, or an address with a number of bits that it has.
Then the mask is never moved by as many bits as the word has, and the addresses in the network are those of
its family that start with the same bits. Of the networks of one address, those with fewer bits to compare
have the members of the others. A text matches a list, written between commas or in a file, exactly if it is
an address in the network of one of the entries.
-/
theorem networks_share_first_bits :
    (∀ s n, Network.ofText? s = some n ↔ Network.Writes s n) ∧
    (∀ s n, Network.ofText? s = some n → ∀ a, n.checkedContains? a = some (n.contains a) ∧
      (n.contains a = true ↔
        a.family = n.base.family ∧ a.bits.take n.length = n.base.bits.take n.length)) ∧
    (∀ s t n m, Network.ofText? s = some n → Network.ofText? t = some m → n.base = m.base →
      n.length ≤ m.length → ∀ a, m.contains a = true → n.contains a = true) ∧
    (∀ param o, networksOf param = .ok o → ∀ r capture input x,
      ((o.evaluate r capture input x).1.matched = true ↔
        ∃ a, Address.ofText? (Text.trim input) = some a ∧
          ∃ s ∈ listed param, ∃ n, Network.ofText? s = some n ∧ n.contains a = true)) ∧
    ∀ files path lines o, entriesOf files path = .ok lines → networksIn files path = .ok o →
      ∀ r capture input x, ((o.evaluate r capture input x).1.matched = true ↔
        ∃ a, Address.ofText? (Text.trim input) = some a ∧
          ∃ s ∈ lines, ∃ n, Network.ofText? s = some n ∧ n.contains a = true) := by
  refine ⟨fun s n => Network.ofText?_eq_some_iff, ?checked, ?members, ?list, ?file⟩
  case checked =>
    intro s n _ a
    exact ⟨n.checkedContains?_eq a, Network.contains_iff⟩
  case members =>
    intro s t n m _ _ hbase hlength a hm
    exact Network.contains_of_length_le hbase hlength hm
  case list =>
    intro param o h
    obtain ⟨networks, rfl, hentries⟩ := networksOf_eq_ok h
    exact matched_address_iff hentries
  case file =>
    intro files path lines o hlines h
    obtain ⟨networks, rfl, hentries⟩ := networksIn_eq_ok hlines h
    exact matched_address_iff hentries

/-- The network of 16 bits of 10.1.2.3 has 10.1.0.9 but not 10.2.0.9, which is in the network of 8 bits; and so
say a list that is written down and one in a file. -/
theorem networks_share_first_bits_ten :
    let wide : Network := .v4 0x0a010203 8 (by decide)
    let narrow : Network := .v4 0x0a010203 16 (by decide)
    let one : Network := .v6 1 128 (by decide)
    let files : FileTree := ⟨[(["own"], .file [49, 48, 46, 49, 46, 50, 46, 51, 47, 49, 54, 10])]⟩
    Network.ofText? "10.1.2.3/8" = some wide ∧ Network.Writes " 10.1.2.3 /16" narrow ∧
      narrow.contains (.v4 0x0a020009) = false ∧ wide.checkedContains? (.v4 0x0a020009) = some true ∧
      (∀ a, narrow.contains a = true → wide.contains a = true) ∧
      networksOf "10.1.2.3/8, ::1" = .ok (.address .inline "10.1.2.3/8, ::1" [wide, one]) ∧
      networksIn files "own" = .ok (.address .file "own" [narrow]) ∧
      ∀ r capture x,
        ((address .inline "10.1.2.3/8, ::1" [wide, one]).evaluate r capture " 10.2.0.9" x).1.matched = true ∧
        ((address .file "own" [narrow]).evaluate r capture " 10.1.0.9" x).1.matched = true := by
  intro wide narrow one files
  have hwide : Network.ofText? "10.1.2.3/8" = some wide := rfl
  have hnarrow : Network.ofText? " 10.1.2.3 /16" = some narrow := rfl
  have hlist : networksOf "10.1.2.3/8, ::1" = .ok (.address .inline "10.1.2.3/8, ::1" [wide, one]) := rfl
  have hfile : networksIn files "own" = .ok (.address .file "own" [narrow]) := rfl
  obtain ⟨hread, hbits, hless, hmatches, hmatchesFile⟩ := networks_share_first_bits
  refine ⟨hwide, (hread _ _).1 hnarrow, rfl, (hbits _ _ hwide _).1, hless _ _ _ _ hwide hnarrow rfl (by decide),
    hlist, hfile, fun r capture x => ⟨?_, ?_⟩⟩
  · exact (hmatches _ _ hlist r capture _ x).2 ⟨.v4 0x0a020009, rfl, "10.1.2.3/8", .head _, wide, hwide, rfl⟩
  · exact (hmatchesFile files "own" ["10.1.2.3/16"] _ rfl hfile r capture _ x).2
      ⟨.v4 0x0a010009, rfl, "10.1.2.3/16", .head _, narrow, rfl, rfl⟩

end Operator

end Rampart
