import Mathlib.Tactic.ByContra
import NodeFleet.Address.Network
import NodeFleet.Proofs.Digits

/-!
# Written addresses

Reading an address from its written form gives the address back: IPv4 addresses from their four
octets, IPv6 addresses from their groups with the longest run of zeros left out or with a dotted
end, and networks from an address and the length of a prefix. So an entry in its written form is
left as it is when it is brought into that form again.
-/

namespace NodeFleet

open Text

/-! ### IPv4 -/

namespace Ipv4

/-- The digits of an octet. -/
def octetChars (o : UInt8) : List Char := Nat.toDigits 10 o.toNat

theorem readOctet?_octetChars (o : UInt8) : readOctet? (octetChars o) = some o := by
  have all : ∀ n ∈ List.range 256, readOctet? (Nat.toDigits 10 n) = some (.ofNat n) := by
    decide +kernel
  have h := all o.toNat (List.mem_range.2 o.toNat_lt)
  rwa [UInt8.ofNat_toNat] at h

/-- The characters of an address are digits and points. -/
theorem mem_chars {ip : Ipv4} {c : Char} (h : c ∈ ip.chars) :
    c = '.' ∨ ∃ d < 16, c = Nat.digitChar d := by
  rcases mem_joinAll h with h | ⟨piece, hpiece, hc⟩
  · exact .inl (List.mem_singleton.1 h)
  · obtain ⟨o, -, rfl⟩ := List.mem_map.1 hpiece
    obtain ⟨d, hd, rfl⟩ := mem_toDigits (by decide) hc
    exact .inr ⟨d, by omega, rfl⟩

/-- A written address is read back. -/
theorem read?_chars (ip : Ipv4) : read? ip.chars = some ip := by
  have hpieces : splitAll '.' ip.chars = [ip.a, ip.b, ip.c, ip.d].map octetChars := by
    refine splitAll_joinAll (by simp) fun piece hpiece hmem => ?_
    obtain ⟨o, -, rfl⟩ := List.mem_map.1 hpiece
    obtain ⟨d, hd, hc⟩ := mem_toDigits (by decide) hmem
    exact (digitChar_ne (by omega)).1 hc.symm
  unfold read?
  rw [hpieces]
  simp [readOctet?_octetChars]

theorem readOctet?_of_mem {cs : List Char} (h : ':' ∈ cs) : readOctet? cs = none := by
  unfold readOctet?
  split
  · rfl
  · rfl
  · obtain ⟨e, he⟩ : ∃ e, readDigits 255 .tooLarge 0 cs = .error e := readDigits_of_mem h rfl
    rw [he]

/-- A text with a colon is no such address. -/
theorem read?_of_mem {cs : List Char} (h : ':' ∈ cs) : read? cs = none := by
  obtain ⟨piece, hpiece, hc⟩ := exists_mem_splitAll h (by decide : ':' ≠ '.')
  unfold read?
  split
  · next a b c d hsplit =>
    rw [hsplit] at hpiece
    have hnone := readOctet?_of_mem hc
    simp only [List.mem_cons, List.not_mem_nil, or_false] at hpiece
    rcases hpiece with rfl | rfl | rfl | rfl <;> simp [hnone]
  · rfl

end Ipv4

/-! ### IPv6 -/

namespace Ipv6

theorem readHex?_toDigits (n : Nat) (cs : List Char) :
    readHex? 0 (Nat.toDigits 16 n ++ cs) = readHex? n cs := by
  induction n using Nat.strongRecOn generalizing cs with
  | ind n ih =>
    by_cases hn : n < 16
    · rw [Nat.toDigits_of_lt_base hn]
      simp [readHex?, hexValue?_digitChar hn]
    · rw [Nat.toDigits_of_base_le (by decide) (by omega), List.append_assoc, List.singleton_append,
        ih (n / 16) (by omega)]
      have hsum : 16 * (n / 16) + n % 16 = n := Nat.div_add_mod n 16
      simp only [readHex?, hexValue?_digitChar (Nat.mod_lt n (by decide : 16 > 0)),
        Option.bind_some, hsum]

/-- The digits of a group. -/
def hexGroup (g : UInt16) : List Char := Nat.toDigits 16 g.toNat

theorem hexGroup_ne_nil (g : UInt16) : hexGroup g ≠ [] := Nat.toDigits_ne_nil

theorem mem_hexGroup {g : UInt16} {c : Char} (h : c ∈ hexGroup g) :
    ∃ d < 16, c = Nat.digitChar d :=
  mem_toDigits (by decide) h

theorem colon_not_mem_hexGroup (g : UInt16) : ':' ∉ hexGroup g := by
  intro h
  obtain ⟨d, hd, hc⟩ := mem_hexGroup h
  exact (digitChar_ne hd).2.1 hc.symm

theorem readGroup?_hexGroup (g : UInt16) : readGroup? (hexGroup g) = some g := by
  have hlength : (hexGroup g).length ≤ 4 :=
    (Nat.length_toDigits_le_iff (by decide) (by decide)).2 g.toNat_lt
  have hread : readHex? 0 (hexGroup g) = some g.toNat := by
    have h := readHex?_toDigits g.toNat []
    rwa [List.append_nil] at h
  unfold readGroup?
  rw [if_neg (by simp [hexGroup_ne_nil, hlength]), hread, Option.map_some, UInt16.ofNat_toNat]

theorem readGroups?_map (gs : List UInt16) : readGroups? (gs.map hexGroup) = some gs := by
  induction gs with
  | nil => rfl
  | cons g gs ih =>
    cases gs with
    | nil => simp [readGroups?, readGroup?_hexGroup]
    | cons g' gs =>
      rw [List.map_cons] at ih
      rw [List.map_cons, List.map_cons]
      simp [readGroups?, readGroup?_hexGroup, ih]

/-- Written groups are cut at the colons between them. -/
theorem splitAll_groupChars {gs : List UInt16} (h : gs ≠ []) :
    splitAll ':' (groupChars gs) = gs.map hexGroup := by
  refine splitAll_joinAll (by simpa using h) fun piece hpiece => ?_
  obtain ⟨g, -, rfl⟩ := List.mem_map.1 hpiece
  exact colon_not_mem_hexGroup g

theorem readPart?_groupChars (gs : List UInt16) : readPart? (groupChars gs) = some gs := by
  cases gs with
  | nil => rfl
  | cons g gs =>
    have hne : groupChars (g :: gs) ≠ [] := by
      intro hnil
      have hpieces := splitAll_groupChars (List.cons_ne_nil g gs)
      rw [hnil, List.map_cons] at hpieces
      exact hexGroup_ne_nil g (List.cons.inj hpieces).1.symm
    unfold readPart?
    rw [if_neg (by simpa using hne), splitAll_groupChars (List.cons_ne_nil _ _), readGroups?_map]

/-! The two colons that stand for a run of zeros -/

theorem splitGap?_of_ne {c : Char} (h : c ≠ ':') (cs : List Char) :
    splitGap? (c :: cs) = (splitGap? cs).map fun (before, after) => (c :: before, after) := by
  rw [splitGap?]
  rintro rest rfl
  exact absurd rfl h

theorem splitGap?_colon {c : Char} (h : c ≠ ':') (cs : List Char) :
    splitGap? (':' :: c :: cs) =
      (splitGap? (c :: cs)).map fun (before, after) => (':' :: before, after) := by
  rw [splitGap?]
  rintro rest - he
  exact h (List.cons.inj he).1

theorem splitGap?_append {piece : List Char} (h : ':' ∉ piece) (cs : List Char) :
    splitGap? (piece ++ cs) =
      (splitGap? cs).map fun (before, after) => (piece ++ before, after) := by
  induction piece with
  | nil => simp
  | cons c piece ih =>
    simp only [List.mem_cons, not_or] at h
    rw [List.cons_append, splitGap?_of_ne (Ne.symm h.1), ih h.2, Option.map_map]
    rfl

/-- Single colons between pieces are no gap. -/
theorem splitGap?_joinAll {pieces : List (List Char)}
    (h : ∀ piece ∈ pieces, piece ≠ [] ∧ ':' ∉ piece) (cs : List Char) :
    splitGap? (joinAll [':'] pieces ++ cs) =
      (splitGap? cs).map fun (before, after) => (joinAll [':'] pieces ++ before, after) := by
  induction pieces with
  | nil => simp [joinAll]
  | cons piece more ih =>
    have hpiece := (h piece List.mem_cons_self).2
    have hmore := ih fun p hp => h p (List.mem_cons_of_mem _ hp)
    cases more with
    | nil => exact splitGap?_append hpiece cs
    | cons next more =>
      obtain ⟨hne, hcolon⟩ := h next (List.mem_cons_of_mem _ List.mem_cons_self)
      -- the piece after the colon does not start with another one
      obtain ⟨c, front, rfl⟩ := List.exists_cons_of_ne_nil hne
      simp only [List.mem_cons, not_or] at hcolon
      obtain ⟨tail, htail⟩ := exists_joinAll_cons [':'] (c :: front) more
      rw [joinAll, List.append_assoc, List.append_assoc, splitGap?_append hpiece]
      rw [htail] at hmore ⊢
      rw [List.singleton_append, List.cons_append, List.cons_append,
        splitGap?_colon (Ne.symm hcolon.1)]
      rw [List.cons_append, List.cons_append] at hmore
      rw [hmore, Option.map_map, Option.map_map]
      congr 1
      funext parts
      simp

theorem zerosAhead_spec (gs : List UInt16) :
    zerosAhead gs ≤ gs.length ∧
      gs = List.replicate (zerosAhead gs) 0 ++ gs.drop (zerosAhead gs) := by
  induction gs with
  | nil => exact ⟨Nat.le_refl _, rfl⟩
  | cons g gs ih =>
    unfold zerosAhead at ih ⊢
    rw [List.takeWhile_cons]
    split
    · next hzero =>
      obtain rfl : g = 0 := by simpa using hzero
      rw [List.length_cons, List.length_cons, List.replicate_succ, List.drop_succ_cons,
        List.cons_append, ← ih.2]
      exact ⟨Nat.succ_le_succ ih.1, rfl⟩
    · exact ⟨Nat.zero_le _, rfl⟩

/-- The run that is left out consists of zeros. -/
theorem longestZeros_spec (gs : List UInt16) :
    let (start, length) := longestZeros gs
    start + length ≤ gs.length ∧
      gs = gs.take start ++ List.replicate length 0 ++ gs.drop (start + length) := by
  induction gs with
  | nil => exact ⟨Nat.le_refl _, rfl⟩
  | cons g gs ih =>
    rcases hrun : longestZeros gs with ⟨start, length⟩
    rw [hrun] at ih
    obtain ⟨hle, hgs⟩ := ih
    simp only [longestZeros, hrun]
    by_cases hhere : length ≤ zerosAhead (g :: gs)
    · obtain ⟨hahead, hzeros⟩ := zerosAhead_spec (g :: gs)
      rw [if_pos hhere]
      simp only [Nat.zero_add, List.take_zero, List.nil_append]
      exact ⟨hahead, hzeros⟩
    · rw [if_neg hhere]
      have hdrop : start + 1 + length = start + length + 1 := by omega
      simp only [List.length_cons, hdrop, List.take_succ_cons, List.drop_succ_cons,
        List.cons_append]
      exact ⟨Nat.succ_le_succ hle, congrArg (g :: ·) hgs⟩

/-- Groups in front and behind a gap, and zeros in between. -/
theorem read?_gap {front back : List Char} {before after : List UInt16} {ip : Ipv6} {k : Nat}
    (hfront : readPart? front = some before) (hback : readPart? back = some after)
    (hgap : splitGap? (front ++ ':' :: ':' :: back) = some (front, back)) (hpoint : '.' ∉ front)
    (hk : 0 < k) (hip : ip.groups = before ++ List.replicate k 0 ++ after) :
    read? (front ++ ':' :: ':' :: back) = some ip := by
  have hlength : before.length + k + after.length = 8 := by
    rw [← ip.length_groups, hip]
    simp [Nat.add_assoc]
  have hzeros : 8 - before.length - after.length = k := by omega
  unfold read?
  rw [hgap]
  simp only [hfront, hback, Option.bind_eq_bind, Option.bind_some, hpoint, false_or, hzeros, ← hip]
  rw [if_neg (by omega), ofGroups?, dif_pos ip.length_groups]

theorem splitGap?_groupChars (gs : List UInt16) (cs : List Char) :
    splitGap? (groupChars gs ++ cs) =
      (splitGap? cs).map fun (before, after) => (groupChars gs ++ before, after) := by
  refine splitGap?_joinAll (fun piece hpiece => ?_) cs
  obtain ⟨g, -, rfl⟩ := List.mem_map.1 hpiece
  exact ⟨hexGroup_ne_nil g, colon_not_mem_hexGroup g⟩

theorem mem_groupChars {gs : List UInt16} {c : Char} (h : c ∈ groupChars gs) :
    c = ':' ∨ ∃ d < 16, c = Nat.digitChar d := by
  rcases mem_joinAll h with h | ⟨piece, hpiece, hc⟩
  · exact .inl (List.mem_singleton.1 h)
  · obtain ⟨g, -, rfl⟩ := List.mem_map.1 hpiece
    exact .inr (mem_hexGroup hc)

theorem point_not_mem_groupChars (gs : List UInt16) : '.' ∉ groupChars gs := by
  intro h
  rcases mem_groupChars h with hc | ⟨d, hd, hc⟩
  · cases hc
  · exact (digitChar_ne hd).1 hc.symm

theorem groups_ne_nil (ip : Ipv6) : ip.groups ≠ [] := by
  intro hnil
  have hlength := ip.length_groups
  rw [hnil] at hlength
  cases hlength

theorem read?_hexChars (ip : Ipv6) : read? ip.hexChars = some ip := by
  have hspec := longestZeros_spec ip.groups
  unfold hexChars
  rcases hrun : longestZeros ip.groups with ⟨start, length⟩
  rw [hrun] at hspec
  obtain ⟨-, hgroups⟩ := hspec
  dsimp only
  split
  · next hlong =>
    rw [List.append_assoc]
    refine read?_gap (readPart?_groupChars _) (readPart?_groupChars _) ?_
      (point_not_mem_groupChars _) (by omega) hgroups
    rw [splitGap?_groupChars]
    simp [splitGap?]
  · have hgap : splitGap? (groupChars ip.groups) = none := by
      have := splitGap?_groupChars ip.groups []
      rwa [List.append_nil] at this
    unfold read?
    rw [hgap]
    dsimp only
    rw [splitAll_groupChars ip.groups_ne_nil, readGroups?_map, Option.bind_some, ofGroups?,
      dif_pos ip.length_groups]

/-- The two groups that an IPv4 address was taken from. -/
theorem groupsOfIpv4_ofNat (g h : UInt16) :
    groupsOfIpv4 (Ipv4.ofNat (65536 * g.toNat + h.toNat)) = [g, h] := by
  have hg := g.toNat_lt
  have hh := h.toNat_lt
  have hhigh : 256 * ((65536 * g.toNat + h.toNat) / 16777216 % 2 ^ 8) +
      (65536 * g.toNat + h.toNat) / 65536 % 2 ^ 8 = g.toNat := by omega
  have hlow : 256 * ((65536 * g.toNat + h.toNat) / 256 % 2 ^ 8) +
      (65536 * g.toNat + h.toNat) % 2 ^ 8 = h.toNat := by omega
  simp only [groupsOfIpv4, Ipv4.ofNat, UInt8.toNat_ofNat', hhigh, hlow, UInt16.ofNat_toNat]

/-- A dotted end is not taken for a group. -/
theorem readGroup?_v4 (v4 : Ipv4) : readGroup? v4.chars = none := by
  have hhex {cs : List Char} (h : '.' ∈ cs) (value : Nat) : readHex? value cs = none := by
    induction cs generalizing value with
    | nil => cases h
    | cons c cs ih =>
      unfold readHex?
      rcases List.mem_cons.1 h with rfl | h
      · rfl
      · cases hexValue? c with
        | none => rfl
        | some d => exact ih h _
  have hpoint : '.' ∈ v4.chars := by
    simp [Ipv4.chars, joinAll]
  unfold readGroup?
  split
  · rfl
  · rw [hhex hpoint, Option.map_none]

theorem readPart?_mapped (v4 : Ipv4) :
    readPart? ("ffff:".toList ++ v4.chars) = some (0xFFFF :: groupsOfIpv4 v4) := by
  have hcolon : ':' ∉ v4.chars := by
    intro hmem
    rcases Ipv4.mem_chars hmem with hc | ⟨d, hd, hc⟩
    · cases hc
    · exact (digitChar_ne hd).2.1 hc.symm
  have hsplit : splitAll ':' ("ffff:".toList ++ v4.chars) = ["ffff".toList, v4.chars] := by
    have h := splitAll_append v4.chars (by decide : ':' ∉ "ffff".toList)
    rwa [splitAll_of_not_mem hcolon] at h
  unfold readPart?
  rw [if_neg (by simp), hsplit]
  simp only [readGroups?, readGroup?_v4, Ipv4.read?_chars, Option.map_some]
  rfl

theorem read?_mapped {ip : Ipv6} {v4 : Ipv4} (h : ip.mapped? = some v4) :
    read? ("::ffff:".toList ++ v4.chars) = some ip := by
  unfold mapped? at h
  split at h
  · next g h' hgroups =>
    cases h
    have hfront : readPart? [] = some [] := rfl
    have hback := readPart?_mapped (Ipv4.ofNat (65536 * g.toNat + h'.toNat))
    refine read?_gap (k := 5) hfront hback rfl (by simp) (by decide) ?_
    rw [hgroups, groupsOfIpv4_ofNat]
    rfl
  · cases h

/-- A written address is read back. -/
theorem read?_chars (ip : Ipv6) : read? ip.chars = some ip := by
  unfold chars
  split
  · next v4 hv4 => exact read?_mapped hv4
  · exact read?_hexChars ip

theorem mem_hexChars {ip : Ipv6} {c : Char} (h : c ∈ ip.hexChars) :
    c = ':' ∨ ∃ d < 16, c = Nat.digitChar d := by
  unfold hexChars at h
  split at h
  split at h
  · simp only [List.mem_append, List.mem_cons, List.not_mem_nil, or_false, or_self] at h
    rcases h with (h | h) | h
    · exact mem_groupChars h
    · exact .inl h
    · exact mem_groupChars h
  · exact mem_groupChars h

/-- The characters of an address are digits, colons and points, and there is a colon. -/
theorem mem_chars {ip : Ipv6} {c : Char} (h : c ∈ ip.chars) :
    c = ':' ∨ c = '.' ∨ ∃ d < 16, c = Nat.digitChar d := by
  unfold chars at h
  split at h
  · rcases List.mem_append.1 h with h | h
    · have hbeginning : "::ffff:".toList = [':', ':', 'f', 'f', 'f', 'f', ':'] := by simp
      have hc : c = ':' ∨ c = Nat.digitChar 15 := by
        rw [hbeginning] at h
        simp only [List.mem_cons, List.not_mem_nil, or_false] at h
        change c = ':' ∨ c = 'f'
        grind
      exact hc.imp_right fun hc => .inr ⟨15, by decide, hc⟩
    · exact .inr (Ipv4.mem_chars h)
  · exact (mem_hexChars h).imp_right .inr

theorem colon_mem_chars (ip : Ipv6) : ':' ∈ ip.chars := by
  unfold chars
  split
  · simp
  · unfold hexChars
    split
    split
    · simp
    · -- without a colon, there would be one group
      by_contra hnone
      have hlength := congrArg List.length (splitAll_of_not_mem hnone)
      rw [splitAll_groupChars ip.groups_ne_nil, List.length_map, ip.length_groups] at hlength
      cases hlength

end Ipv6

/-! ### Addresses of both versions -/

namespace IpAddress

theorem read?_chars (ip : IpAddress) : read? ip.chars = some ip := by
  cases ip with
  | v4 ip => simp only [chars, read?, Ipv4.read?_chars, Option.map_some, Option.some_or]
  | v6 ip =>
    simp only [chars, read?, Ipv4.read?_of_mem ip.colon_mem_chars, Ipv6.read?_chars,
      Option.map_none, Option.map_some, Option.none_or]

theorem mem_chars {ip : IpAddress} {c : Char} (h : c ∈ ip.chars) :
    c = ':' ∨ c = '.' ∨ ∃ d < 16, c = Nat.digitChar d := by
  cases ip with
  | v4 ip => exact .inr (Ipv4.mem_chars h)
  | v6 ip => exact Ipv6.mem_chars h

theorem slash_not_mem_chars (ip : IpAddress) : '/' ∉ ip.chars := by
  intro h
  rcases mem_chars h with hc | hc | ⟨d, hd, hc⟩
  · cases hc
  · cases hc
  · exact (digitChar_ne hd).2.2.1 hc.symm

end IpAddress

/-! ### Networks -/

namespace Network

/-- A length that the address has room for. -/
def IsValid (n : Network) : Prop := ∀ length, n.length? = some length → length ≤ n.address.bits

theorem isValid_of_read? {cs : List Char} {n : Network} (h : read? cs = some n) : n.IsValid := by
  unfold read? at h
  split at h
  · obtain ⟨ip, -, rfl⟩ := Option.map_eq_some_iff.1 h
    exact fun _ hlength => nomatch hlength
  · simp only [Option.bind_eq_bind, Option.bind_eq_some_iff, Option.some.injEq] at h
    obtain ⟨ip, -, k, hk, rfl⟩ := h
    rintro length ⟨⟩
    unfold readLength? at hk
    split at hk
    · split at hk
      · next hle =>
        cases hk
        exact hle
      · cases hk
    · cases hk

theorem readLength?_toDigits {limit length : Nat} (hlimit : limit ≤ 255) (h : length ≤ limit) :
    readLength? limit (Nat.toDigits 10 length) = some length := by
  unfold readLength?
  rw [readNat_toDigits (Nat.le_trans h hlimit)]
  exact if_pos h

theorem toList_text (n : Network) : n.text.toList =
    match n.length? with
    | none => n.address.chars
    | some length => n.address.chars ++ '/' :: Nat.toDigits 10 length := by
  rcases n with ⟨address, length?⟩
  cases length? with
  | none => simp [text, IpAddress.text]
  | some length => simp [text, IpAddress.text, showNat]

/-- A written network is read back. -/
theorem read?_text {n : Network} (h : n.IsValid) : read? n.text.toList = some n := by
  rcases n with ⟨address, length?⟩
  rw [toList_text]
  cases length? with
  | none =>
    dsimp only
    unfold read?
    rw [splitFirst?_of_not_mem address.slash_not_mem_chars, IpAddress.read?_chars]
    rfl
  | some length =>
    have hbits : address.bits ≤ 255 := by
      cases address with
      | v4 => exact (by decide : 32 ≤ 255)
      | v6 => exact (by decide : 128 ≤ 255)
    dsimp only
    unfold read?
    rw [splitFirst?_append address.slash_not_mem_chars]
    simp only [IpAddress.read?_chars, Option.bind_eq_bind, Option.bind_some,
      readLength?_toDigits hbits (h length rfl)]

theorem isBlank_of_mem_text {n : Network} {c : Char} (h : c ∈ n.text.toList) :
    isBlank c = false := by
  have haddress (h : c ∈ n.address.chars) : isBlank c = false := by
    rcases IpAddress.mem_chars h with rfl | rfl | ⟨d, hd, rfl⟩
    · rfl
    · rfl
    · exact (digitChar_ne hd).2.2.2
  rw [toList_text] at h
  split at h
  · exact haddress h
  · rcases List.mem_append.1 h with h | h
    · exact haddress h
    · rcases List.mem_cons.1 h with rfl | h
      · rfl
      · obtain ⟨d, hd, rfl⟩ := mem_toDigits (by decide) h
        exact (digitChar_ne (by omega)).2.2.2

/-- An entry in its written form stays as it is. -/
theorem canonical_of_canonical {entry written : String} (h : canonical entry = .ok written) :
    canonical written = .ok written := by
  unfold canonical at h
  split at h
  · next n hn =>
    cases h
    unfold canonical
    rw [trimChars_of_not_blank fun c hc => isBlank_of_mem_text hc, read?_text (isValid_of_read? hn)]
  · cases h

end Network

end NodeFleet
