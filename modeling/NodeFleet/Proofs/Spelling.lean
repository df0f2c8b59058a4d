import Mathlib.Data.List.Induction
import NodeFleet.Proofs.Address

/-!
# Spellings of numbers and addresses

A number may be spelled with zeros in front, and an address with letters of either case. An address
is spelled with hexadecimal digits, points and colons only.
-/

namespace NodeFleet

namespace Text

/-! ### Numbers -/

/-- The decimal spellings of a number, with or without zeros in front. -/
inductive Spells : List Char → Nat → Prop
  | digit {d : Nat} (h : d < 10) : Spells [Nat.digitChar d] d
  | more {cs : List Char} {n d : Nat} (hcs : Spells cs n) (h : d < 10) :
      Spells (cs ++ [Nat.digitChar d]) (10 * n + d)

variable {limit value n : Nat} {beyond : IntegerFault} {cs : List Char}

theorem Spells.exists_cons (h : Spells cs n) : ∃ d < 10, ∃ rest, cs = Nat.digitChar d :: rest := by
  induction h with
  | @digit d hd => exact ⟨d, hd, [], rfl⟩
  | more hcs hd ih =>
    obtain ⟨e, he, rest, rfl⟩ := ih
    exact ⟨e, he, rest ++ _, rfl⟩

theorem Spells.ne_nil (h : Spells cs n) : cs ≠ [] := by
  obtain ⟨d, -, rest, rfl⟩ := h.exists_cons
  exact List.cons_ne_nil _ _

theorem digit?_eq_some {c : Char} {d : Nat} : digit? c = some d ↔ d < 10 ∧ c = Nat.digitChar d := by
  constructor
  · intro h
    unfold digit? at h
    split at h
    · next hc =>
      cases h
      simp only [Bool.and_eq_true, decide_eq_true_eq] at hc
      have hlow : '0'.toNat ≤ c.toNat := hc.1
      have hhigh : c.toNat ≤ '9'.toNat := hc.2
      have hzero : '0'.toNat = 48 := rfl
      have hnine : '9'.toNat = 57 := rfl
      obtain ⟨d, hd⟩ : ∃ d, d = c.toNat - '0'.toNat := ⟨_, rfl⟩
      have hlt : d < 10 := by omega
      refine ⟨hd ▸ hlt, ?_⟩
      rw [← hd]
      have hc : c = Char.ofNat (48 + d) := by
        rw [← Char.ofNat_toNat c]
        congr 1
        omega
      have all : ∀ d < 10, Char.ofNat (48 + d) = Nat.digitChar d := by decide
      rw [hc, all d hlt]
    · cases h
  · rintro ⟨hd, rfl⟩
    exact digit?_digitChar hd

/-- The last digit is read after all others. -/
theorem readDigits_append_singleton {c : Char} :
    readDigits limit beyond value (cs ++ [c]) =
      (readDigits limit beyond value cs).bind fun v => readDigits limit beyond v [c] := by
  induction cs generalizing value with
  | nil => rfl
  | cons d cs ih =>
    rw [List.cons_append]
    unfold readDigits
    split
    · rfl
    · split
      · exact ih
      · rfl

theorem readDigits_singleton {c : Char} :
    readDigits limit beyond value [c] = .ok n ↔
      ∃ d < 10, c = Nat.digitChar d ∧ n = 10 * value + d ∧ n ≤ limit := by
  unfold readDigits
  cases hc : digit? c with
  | none =>
    refine iff_of_false (by simp) ?_
    rintro ⟨d, hd, rfl, -⟩
    cases hc.symm.trans (digit?_digitChar hd)
  | some d =>
    obtain ⟨hd, rfl⟩ := digit?_eq_some.1 hc
    dsimp only
    constructor
    · intro h
      split at h
      · next hle =>
        cases h
        exact ⟨d, hd, rfl, rfl, hle⟩
      · cases h
    · rintro ⟨e, he, hchar, rfl, hle⟩
      cases (digit?_digitChar hd).symm.trans (hchar ▸ digit?_digitChar he)
      rw [if_pos hle]
      rfl

/-- The digits that are read as a number are its spellings. -/
theorem readDigits_eq_ok (hcs : cs ≠ []) :
    readDigits limit beyond 0 cs = .ok n ↔ Spells cs n ∧ n ≤ limit := by
  constructor
  · intro h
    induction cs using List.reverseRecOn generalizing n with
    | nil => exact absurd rfl hcs
    | append_singleton cs c ih =>
      rw [readDigits_append_singleton] at h
      cases hv : readDigits limit beyond 0 cs with
      | error e =>
        rw [hv] at h
        cases h
      | ok v =>
        rw [hv] at h
        obtain ⟨d, hd, rfl, rfl, hle⟩ := readDigits_singleton.1 h
        refine ⟨?_, hle⟩
        by_cases hnil : cs = []
        · subst hnil
          cases hv
          rw [List.nil_append, Nat.mul_zero, Nat.zero_add]
          exact .digit hd
        · exact .more (ih hnil hv).1 hd
  · rintro ⟨hspells, hle⟩
    induction hspells with
    | digit hd => exact readDigits_singleton.2 ⟨_, hd, rfl, by omega, hle⟩
    | @more cs v d hcs' hd ih =>
      have hne : cs ≠ [] := hcs'.ne_nil
      rw [readDigits_append_singleton, ih hne (by omega)]
      exact readDigits_singleton.2 ⟨d, hd, rfl, rfl, hle⟩

/-- A plus sign may stand in front of a number. -/
theorem readNat_eq_ok :
    readNat limit cs = .ok n ↔ ∃ digits, (cs = digits ∨ cs = '+' :: digits) ∧
      Spells digits n ∧ n ≤ limit := by
  have hsign {d : Nat} (hd : d < 10) : Nat.digitChar d ≠ '+' := by
    have all : ∀ d < 10, Nat.digitChar d ≠ '+' := by decide
    exact all d hd
  constructor
  · intro h
    unfold readNat at h
    split at h
    · cases h
    · cases h
    · next digits hdigits =>
      exact ⟨digits, .inr rfl, (readDigits_eq_ok hdigits).1 h⟩
    · next hnil hplus hsigned =>
      exact ⟨cs, .inl rfl, (readDigits_eq_ok hnil).1 h⟩
  · rintro ⟨digits, hcs, hspells, hle⟩
    obtain ⟨d, hd, rest, rfl⟩ := hspells.exists_cons
    have hread : readDigits limit .tooLarge 0 (Nat.digitChar d :: rest) = .ok n :=
      (readDigits_eq_ok (List.cons_ne_nil _ _)).2 ⟨hspells, hle⟩
    rcases hcs with rfl | rfl
    · unfold readNat
      split
      · next h => cases h
      · next h => exact absurd (List.cons.inj h).1 (hsign hd)
      · next h => exact absurd (List.cons.inj h).1 (hsign hd)
      · exact hread
    · exact hread

/-! ### Pieces -/

theorem splitFirst?_eq_some {sep : Char} {cs before after : List Char}
    (h : splitFirst? sep cs = some (before, after)) : cs = before ++ sep :: after := by
  induction cs generalizing before with
  | nil => cases h
  | cons c cs ih =>
    unfold splitFirst? at h
    split at h
    · next hc =>
      cases h
      rw [hc]
      rfl
    · obtain ⟨⟨front, back⟩, hsplit, he⟩ := Option.map_eq_some_iff.1 h
      cases he
      rw [ih hsplit]
      rfl

end Text

/-! ### The characters of addresses -/

open Text

/-- A character that an address may be spelled with. -/
def IsAddressChar (c : Char) : Prop := c = ':' ∨ c = '.' ∨ (hexValue? c).isSome = true

theorem isSome_hexValue?_of_digit? {c : Char} (h : (digit? c).isSome = true) :
    (hexValue? c).isSome = true := by
  obtain ⟨d, hd⟩ := Option.isSome_iff_exists.1 h
  obtain ⟨hlt, rfl⟩ := digit?_eq_some.1 hd
  rw [hexValue?_digitChar (by omega)]
  rfl

/-- What is read as an IPv4 address has digits and points only. -/
theorem Ipv4.isAddressChar_of_read? {cs : List Char} {ip : Ipv4} (h : read? cs = some ip) :
    ∀ c ∈ cs, IsAddressChar c := by
  have hoctet {piece : List Char} {o : UInt8} (h : readOctet? piece = some o) :
      ∀ c ∈ piece, IsAddressChar c := by
    intro c hc
    refine .inr (.inr (isSome_hexValue?_of_digit? ?_))
    by_contra hnone
    rw [Option.not_isSome_iff_eq_none] at hnone
    obtain ⟨e, he⟩ : ∃ e, readDigits 255 .tooLarge 0 piece = .error e := readDigits_of_mem hc hnone
    unfold readOctet? at h
    split at h
    · cases h
    · cases h
    · rw [he] at h
      cases h
  intro c hc
  by_cases hpoint : c = '.'
  · exact .inr (.inl hpoint)
  · obtain ⟨piece, hpiece, hmem⟩ := exists_mem_splitAll hc hpoint
    unfold read? at h
    split at h
    · next a b c d hsplit =>
      simp only [Option.bind_eq_bind, Option.bind_eq_some_iff] at h
      obtain ⟨_, ha, _, hb, _, hc, _, hd, -⟩ := h
      rw [hsplit] at hpiece
      simp only [List.mem_cons, List.not_mem_nil, or_false] at hpiece
      rcases hpiece with rfl | rfl | rfl | rfl
      · exact hoctet ha _ hmem
      · exact hoctet hb _ hmem
      · exact hoctet hc _ hmem
      · exact hoctet hd _ hmem
    · cases h

namespace Ipv6

theorem isSome_of_readHex? {cs : List Char} {value n : Nat} (h : readHex? value cs = some n) :
    ∀ c ∈ cs, (hexValue? c).isSome = true := by
  induction cs generalizing value with
  | nil => exact List.forall_mem_nil _
  | cons c cs ih =>
    obtain ⟨d, hd, hrest⟩ := Option.bind_eq_some_iff.1 h
    exact List.forall_mem_cons.2 ⟨by rw [hd]; rfl, ih hrest⟩

theorem isAddressChar_of_readGroups? {pieces : List (List Char)} {groups : List UInt16}
    (h : readGroups? pieces = some groups) : ∀ piece ∈ pieces, ∀ c ∈ piece, IsAddressChar c := by
  have hgroup {piece : List Char} {g : UInt16} (h : readGroup? piece = some g) :
      ∀ c ∈ piece, IsAddressChar c := by
    intro c hc
    unfold readGroup? at h
    split at h
    · cases h
    · obtain ⟨n, hn, -⟩ := Option.map_eq_some_iff.1 h
      exact .inr (.inr (isSome_of_readHex? hn c hc))
  induction pieces generalizing groups with
  | nil => exact List.forall_mem_nil _
  | cons piece more ih =>
    cases more with
    | nil =>
      rw [List.forall_mem_singleton]
      unfold readGroups? at h
      split at h
      · next g hg => exact hgroup hg
      · obtain ⟨ip, hip, -⟩ := Option.map_eq_some_iff.1 h
        exact Ipv4.isAddressChar_of_read? hip
    | cons next more =>
      simp only [readGroups?, Option.bind_eq_bind, Option.bind_eq_some_iff] at h
      obtain ⟨g, hg, gs, hgs, -⟩ := h
      exact List.forall_mem_cons.2 ⟨hgroup hg, ih hgs⟩

theorem splitGap?_eq_some {cs before after : List Char} (h : splitGap? cs = some (before, after)) :
    cs = before ++ ':' :: ':' :: after := by
  induction cs using splitGap?.induct generalizing before after with
  | case1 rest =>
    rw [splitGap?] at h
    cases h
    rfl
  | case2 c rest hgap ih =>
    rw [splitGap? ] at h
    · obtain ⟨⟨front, back⟩, hrest, he⟩ := Option.map_eq_some_iff.1 h
      cases he
      rw [ih hrest]
      rfl
    · exact hgap
  | case3 => cases h

/-- The pieces between colons hold all other characters. -/
theorem isAddressChar_of_readSplit {cs : List Char} {groups : List UInt16}
    (h : readGroups? (splitAll ':' cs) = some groups) : ∀ c ∈ cs, IsAddressChar c := by
  intro c hc
  by_cases hcolon : c = ':'
  · exact .inl hcolon
  · obtain ⟨piece, hpiece, hmem⟩ := exists_mem_splitAll hc hcolon
    exact isAddressChar_of_readGroups? h piece hpiece c hmem

/-- What is read as an IPv6 address has hexadecimal digits, colons and points only. -/
theorem isAddressChar_of_read? {cs : List Char} {ip : Ipv6} (h : read? cs = some ip) :
    ∀ c ∈ cs, IsAddressChar c := by
  have hpart {part : List Char} {groups : List UInt16} (h : readPart? part = some groups) :
      ∀ c ∈ part, IsAddressChar c := by
    unfold readPart? at h
    split at h
    · next hnil =>
      rw [List.isEmpty_iff.1 hnil]
      exact List.forall_mem_nil _
    · exact isAddressChar_of_readSplit h
  unfold read? at h
  split at h
  · obtain ⟨groups, hgroups, -⟩ := Option.bind_eq_some_iff.1 h
    exact isAddressChar_of_readSplit hgroups
  · next before after hgap =>
    simp only [Option.bind_eq_bind, Option.bind_eq_some_iff] at h
    obtain ⟨front, hfront, back, hback, -⟩ := h
    rw [splitGap?_eq_some hgap]
    intro c hc
    simp only [List.mem_append, List.mem_cons] at hc
    rcases hc with hc | rfl | rfl | hc
    · exact hpart hfront c hc
    · exact .inl rfl
    · exact .inl rfl
    · exact hpart hback c hc

end Ipv6

namespace IpAddress

theorem read?_eq_some {cs : List Char} {ip : IpAddress} (h : read? cs = some ip) :
    (∃ v4, Ipv4.read? cs = some v4 ∧ ip = .v4 v4) ∨
      ∃ v6, Ipv6.read? cs = some v6 ∧ ip = .v6 v6 := by
  rcases Option.or_eq_some_iff.1 h with h | ⟨-, h⟩
  · obtain ⟨v4, hv4, rfl⟩ := Option.map_eq_some_iff.1 h
    exact .inl ⟨v4, hv4, rfl⟩
  · obtain ⟨v6, hv6, rfl⟩ := Option.map_eq_some_iff.1 h
    exact .inr ⟨v6, hv6, rfl⟩

/-- There is no slash in an address. -/
theorem slash_not_mem_of_read? {cs : List Char} {ip : IpAddress} (h : read? cs = some ip) :
    '/' ∉ cs := by
  intro hmem
  have hslash : IsAddressChar '/' := by
    rcases read?_eq_some h with ⟨v4, hv4, -⟩ | ⟨v6, hv6, -⟩
    · exact Ipv4.isAddressChar_of_read? hv4 _ hmem
    · exact Ipv6.isAddressChar_of_read? hv6 _ hmem
  rcases hslash with hc | hc | hc
  · cases hc
  · cases hc
  · cases hc

end IpAddress

/-! ### Letter case -/

namespace Text

/-- The capital letters are numbered from `A`. -/
theorem exists_of_capital {c : Char} (h : 'A' ≤ c ∧ c ≤ 'Z') :
    ∃ n < 26, c = Char.ofNat (65 + n) := by
  have hlow : 'A'.toNat ≤ c.toNat := h.1
  have hhigh : c.toNat ≤ 'Z'.toNat := h.2
  have hA : 'A'.toNat = 65 := rfl
  have hZ : 'Z'.toNat = 90 := rfl
  obtain ⟨n, hn⟩ : ∃ n, c.toNat = 65 + n := ⟨c.toNat - 65, by omega⟩
  exact ⟨n, by omega, by rw [← hn, Char.ofNat_toNat]⟩

/-- A character is left, or is one of the capital letters. -/
theorem toLower_cases (c : Char) :
    c.toLower = c ∨ ∃ n < 26, c = Char.ofNat (65 + n) ∧ c.toLower = Char.ofNat (97 + n) := by
  by_cases hupper : 'A' ≤ c ∧ c ≤ 'Z'
  · right
    obtain ⟨n, hn, hc⟩ := exists_of_capital hupper
    have all : ∀ n < 26, (Char.ofNat (65 + n)).toLower = Char.ofNat (97 + n) := by decide
    exact ⟨n, hn, hc, by rw [hc, all n hn]⟩
  · left
    unfold Char.toLower
    exact dif_neg hupper

theorem hexValue?_toLower (c : Char) : hexValue? c.toLower = hexValue? c := by
  rcases toLower_cases c with h | ⟨n, hn, hc, hlower⟩
  · rw [h]
  · have all : ∀ n < 26, hexValue? (Char.ofNat (97 + n)) = hexValue? (Char.ofNat (65 + n)) := by
      decide
    rw [hlower, all n hn, ← hc]

theorem digit?_toLower (c : Char) : digit? c.toLower = digit? c := by
  rcases toLower_cases c with h | ⟨n, hn, hc, hlower⟩
  · rw [h]
  · have all : ∀ n < 26, digit? (Char.ofNat (97 + n)) = digit? (Char.ofNat (65 + n)) := by decide
    rw [hlower, all n hn, ← hc]

/-- A character that is no letter comes from itself only. -/
theorem toLower_eq_iff {c d : Char} (hd : d.isAlpha = false) : c.toLower = d ↔ c = d := by
  rcases toLower_cases c with h | ⟨n, hn, hc, hlower⟩
  · rw [h]
  · have all : ∀ n < 26, (Char.ofNat (65 + n)).isAlpha = true ∧
        (Char.ofNat (97 + n)).isAlpha = true := by decide
    obtain ⟨hupper, hsmall⟩ := all n hn
    constructor
    · rintro rfl
      rw [hlower, hsmall] at hd
      cases hd
    · rintro rfl
      rw [hc, hupper] at hd
      cases hd

/-- Cutting does not depend on the other characters. -/
theorem splitAll_map_toLower {sep : Char} (hsep : sep.isAlpha = false) (cs : List Char) :
    splitAll sep (cs.map Char.toLower) = (splitAll sep cs).map (List.map Char.toLower) := by
  induction cs with
  | nil => rfl
  | cons c cs ih =>
    rw [List.map_cons]
    unfold splitAll
    by_cases hc : c = sep
    · rw [if_pos hc, if_pos ((toLower_eq_iff hsep).2 hc), ih]
      rfl
    · rw [if_neg hc, if_neg (mt (toLower_eq_iff hsep).1 hc), ih]
      cases splitAll sep cs with
      | nil => rfl
      | cons piece more => rfl

theorem readDigits_map_toLower {limit : Nat} {beyond : IntegerFault} (value : Nat)
    (cs : List Char) :
    readDigits limit beyond value (cs.map Char.toLower) = readDigits limit beyond value cs := by
  induction cs generalizing value with
  | nil => rfl
  | cons c cs ih =>
    rw [List.map_cons]
    unfold readDigits
    rw [digit?_toLower]
    cases digit? c with
    | none => rfl
    | some d =>
      dsimp only
      rw [ih]

end Text

theorem Ipv4.readOctet?_of_ne {cs : List Char} (hne : cs ≠ [])
    (hzero : ∀ c more, cs = '0' :: c :: more → False) :
    readOctet? cs = (readDigits 255 .tooLarge 0 cs).toOption.map .ofNat := by
  unfold readOctet?
  split
  · exact absurd rfl hne
  · exact (hzero _ _ rfl).elim
  · cases readDigits 255 .tooLarge 0 cs with
    | error e => rfl
    | ok n => rfl

theorem Ipv4.readOctet?_map_toLower (cs : List Char) :
    readOctet? (cs.map Char.toLower) = readOctet? cs := by
  by_cases hne : cs = []
  · rw [hne]
    rfl
  · by_cases hzero : ∃ c more, cs = '0' :: c :: more
    · obtain ⟨c, more, rfl⟩ := hzero
      rfl
    · have hlower : ∀ c more, cs.map Char.toLower = '0' :: c :: more → False := by
        intro c more h
        obtain ⟨d, tail, rfl, hd, htail⟩ := List.map_eq_cons_iff.1 h
        obtain ⟨e, rest, rfl, -, -⟩ := List.map_eq_cons_iff.1 htail
        exact hzero ⟨e, rest, by rw [(toLower_eq_iff rfl).1 hd]⟩
      rw [readOctet?_of_ne (mt List.map_eq_nil_iff.1 hne) hlower, readDigits_map_toLower,
        readOctet?_of_ne hne fun c more h => hzero ⟨c, more, h⟩]

theorem Ipv4.read?_map_toLower (cs : List Char) : read? (cs.map Char.toLower) = read? cs := by
  unfold read?
  rw [splitAll_map_toLower rfl]
  rcases splitAll '.' cs with _ | ⟨a, _ | ⟨b, _ | ⟨c, _ | ⟨d, _ | ⟨e, more⟩⟩⟩⟩⟩
  · rfl
  · rfl
  · rfl
  · rfl
  · simp only [List.map_cons, List.map_nil, readOctet?_map_toLower]
  · rfl

namespace Ipv6

theorem readHex?_map_toLower (value : Nat) (cs : List Char) :
    readHex? value (cs.map Char.toLower) = readHex? value cs := by
  induction cs generalizing value with
  | nil => rfl
  | cons c cs ih =>
    simp only [List.map_cons, readHex?, hexValue?_toLower, ih]

theorem readGroup?_map_toLower (cs : List Char) :
    readGroup? (cs.map Char.toLower) = readGroup? cs := by
  simp only [readGroup?, List.isEmpty_map, List.length_map, readHex?_map_toLower]

theorem readGroups?_map_toLower (pieces : List (List Char)) :
    readGroups? (pieces.map (List.map Char.toLower)) = readGroups? pieces := by
  induction pieces with
  | nil => rfl
  | cons piece more ih =>
    cases more with
    | nil =>
      simp only [List.map_cons, List.map_nil, readGroups?, readGroup?_map_toLower,
        Ipv4.read?_map_toLower]
    | cons next more =>
      rw [List.map_cons] at ih
      simp only [List.map_cons, readGroups?, readGroup?_map_toLower, ih]

theorem readSplit_map_toLower (cs : List Char) :
    readGroups? (splitAll ':' (cs.map Char.toLower)) = readGroups? (splitAll ':' cs) := by
  rw [splitAll_map_toLower rfl, readGroups?_map_toLower]

theorem readPart?_map_toLower (cs : List Char) :
    readPart? (cs.map Char.toLower) = readPart? cs := by
  simp only [readPart?, List.isEmpty_map, readSplit_map_toLower]

theorem splitGap?_map_toLower (cs : List Char) :
    splitGap? (cs.map Char.toLower) = (splitGap? cs).map fun (before, after) =>
      (before.map Char.toLower, after.map Char.toLower) := by
  induction cs using splitGap?.induct with
  | case1 rest => rfl
  | case2 c rest hgap ih =>
    have hlower : ∀ more, c.toLower = ':' → rest.map Char.toLower = ':' :: more → False := by
      intro more hc hrest
      obtain ⟨d, tail, rfl, hd, -⟩ := List.map_eq_cons_iff.1 hrest
      exact hgap tail ((toLower_eq_iff rfl).1 hc) (by rw [(toLower_eq_iff rfl).1 hd])
    rw [List.map_cons, splitGap?, ih, splitGap?]
    · cases splitGap? rest with
      | none => rfl
      | some parts => rfl
    · exact hgap
    · exact hlower
  | case3 => rfl

theorem read?_map_toLower (cs : List Char) : read? (cs.map Char.toLower) = read? cs := by
  unfold read?
  rw [splitGap?_map_toLower, readSplit_map_toLower]
  cases splitGap? cs with
  | none => rfl
  | some parts =>
    have hpoint : '.' ∈ parts.1.map Char.toLower ↔ '.' ∈ parts.1 := by
      simp [toLower_eq_iff]
    simp only [Option.map_some, readPart?_map_toLower, hpoint]

end Ipv6

/-- Capital and small letters spell the same address. -/
theorem IpAddress.read?_map_toLower (cs : List Char) : read? (cs.map Char.toLower) = read? cs := by
  unfold read?
  rw [Ipv4.read?_map_toLower, Ipv6.read?_map_toLower]

end NodeFleet
