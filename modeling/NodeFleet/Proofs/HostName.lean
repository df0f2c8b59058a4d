import NodeFleet.Proofs.Address
import NodeFleet.Proofs.DomainName
import NodeFleet.Proofs.Utf8
import NodeFleet.Url.Host

/-!
# Hosts in their canonical form

The characters of a host that has been read are read as the host. This holds of addresses
throughout, and of domains unless the Punycode of a label is longer than what is read.
-/

namespace NodeFleet.Url

open Text Unicode

/-! ### Labels of ASCII characters -/

theorem marks_of_ascii {n : Nat} (h : n < 0x80) : marks.contains n = false := by
  have hall : ∀ n < 0x80, (boundsUpTo n (runningTotals 0 markLengths) % 2 == 1) = false := by
    decide +kernel
  rw [marks, RunTable.contains_ofLengths, hall n h]

theorem joinersFit_of_ascii {before cs : List Char} (h : ∀ c ∈ cs, c.toNat < 0x80) :
    joinersFit before cs = true := by
  induction cs generalizing before with
  | nil => rfl
  | cons c cs ih =>
    obtain ⟨hc, hrest⟩ := List.forall_mem_cons.1 h
    rw [joinersFit, if_neg (by omega), ih hrest]
    rfl

theorem isLabel_of_ascii {cs : List Char} (h : ∀ c ∈ cs, c.toNat < 0x80) : isLabel cs = true := by
  have hall : cs.all (·.toNat < 0x80) = true :=
    List.all_eq_true.2 fun c hc => decide_eq_true (h c hc)
  unfold isLabel
  rw [joinersFit_of_ascii h, hall]
  cases cs with
  | nil => rfl
  | cons c cs => simp [marks_of_ascii (h c List.mem_cons_self)]

/-- Decimal digits are not written from right to left. -/
theorem isRightToLeft_digit {c : Char} (h : 0x30 ≤ c.toNat ∧ c.toNat ≤ 0x39) :
    isRightToLeft c = false := by
  have hall : ∀ n < 10, valueFrom (0x30 + n) 0 directionRuns = 5 := by decide +kernel
  have hvalue : directions.get c.toNat = 5 := by
    rw [directions, RunMap.get_ofRuns, ← Nat.add_sub_cancel' h.1, hall _ (by omega)]
  rw [isRightToLeft, direction, hvalue]
  rfl

/-- A text of decimal digits is a label. -/
theorem openLabel_of_digits {cs : List Char} (h : ∀ c ∈ cs, 0x30 ≤ c.toNat ∧ c.toNat ≤ 0x39) :
    OpenLabel cs := by
  have hascii : ∀ c ∈ cs, c.toNat < 0x80 := fun c hc => by
    have := (h c hc).2
    omega
  refine ⟨fun c hc => allowed_of_isPlain (.inr (.inr (.inl (h c hc)))), fun hc => ?_, ?_,
    isLabel_of_ascii hascii, fun _ => ?_⟩
  · exact absurd (h _ hc).1 (by decide)
  · exact normalize_of_ascii hascii
  · exact afterStart?_of_not_mem (by decide : 'x' ∈ "xn--".toList)
      fun hx => absurd (h _ hx).2 (by decide)

/-! ### Addresses -/

namespace Host

/-- What an octet is in decimal: digits, which are read as the octet. -/
theorem octetChars_spec (o : UInt8) :
    Ipv4.octetChars o ≠ [] ∧ (∀ c ∈ Ipv4.octetChars o, 0x30 ≤ c.toNat ∧ c.toNat ≤ 0x39) ∧
      ((Ipv4.octetChars o).all fun c => (digit? c).isSome) = true ∧
      readPart? (Ipv4.octetChars o) = some o.toNat := by
  have hdigit : ∀ d ∈ List.range 10,
      0x30 ≤ (Nat.digitChar d).toNat ∧ (Nat.digitChar d).toNat ≤ 0x39 := by decide
  have hread : ∀ n ∈ List.range 256, ((Nat.toDigits 10 n).all fun c => (digit? c).isSome) = true ∧
      readPart? (Nat.toDigits 10 n) = some n := by decide +kernel
  refine ⟨Nat.toDigits_ne_nil, fun c hc => ?_, hread o.toNat (List.mem_range.2 o.toNat_lt)⟩
  obtain ⟨d, hd, rfl⟩ := mem_toDigits (by decide) hc
  exact hdigit d (List.mem_range.2 hd)

theorem splitAll_ipv4 (ip : Ipv4) :
    splitAll '.' ip.chars = [ip.a, ip.b, ip.c, ip.d].map Ipv4.octetChars := by
  refine splitAll_joinAll (by simp) fun piece hpiece hmem => ?_
  obtain ⟨o, -, rfl⟩ := List.mem_map.1 hpiece
  exact absurd ((octetChars_spec o).2.1 _ hmem).1 (by decide)

theorem labels_ipv4 (ip : Ipv4) :
    labels ip.chars = [ip.a, ip.b, ip.c, ip.d].map Ipv4.octetChars := by
  obtain ⟨c, cs, hlast⟩ := List.exists_cons_of_ne_nil (octetChars_spec ip.d).1
  rw [labels, splitAll_ipv4]
  simp [hlast]

theorem endsInNumber_ipv4 (ip : Ipv4) : endsInNumber ip.chars = true := by
  obtain ⟨hne, -, hdigits, -⟩ := octetChars_spec ip.d
  have hempty : (Ipv4.octetChars ip.d).isEmpty = false := by simpa using hne
  rw [endsInNumber, labels_ipv4]
  simp [hempty, hdigits]

/-- An IPv4 address is read back, also where a domain is expected. -/
theorem readIpv4?_chars (ip : Ipv4) : readIpv4? ip.chars = some ip := by
  have ha := ip.a.toNat_lt
  have hb := ip.b.toNat_lt
  have hc := ip.c.toNat_lt
  have hd := ip.d.toNat_lt
  have hnumbers : (labels ip.chars).mapM readPart? =
      some [ip.a.toNat, ip.b.toNat, ip.c.toNat, ip.d.toNat] := by
    rw [labels_ipv4]
    simp [(octetChars_spec _).2.2.2]
  have hfront : joinOctets 0 [ip.a.toNat, ip.b.toNat, ip.c.toNat] =
      some (256 * (256 * ip.a.toNat + ip.b.toNat) + ip.c.toNat) := by
    rw [joinOctets, if_pos (by omega), joinOctets, if_pos (by omega), joinOctets, if_pos (by omega),
      joinOctets, Nat.mul_zero, Nat.zero_add]
  have hofNat : Ipv4.ofNat ((256 * (256 * ip.a.toNat + ip.b.toNat) + ip.c.toNat) * 256
      + ip.d.toNat) = ip := by
    have hoctet {n : Nat} {o : UInt8} (h : n % 256 = o.toNat) : UInt8.ofNat n = o := by
      rw [← UInt8.toNat_inj, UInt8.toNat_ofNat', h]
    rw [Ipv4.ofNat, hoctet (o := ip.a) (by omega), hoctet (o := ip.b) (by omega),
      hoctet (o := ip.c) (by omega), hoctet (o := ip.d) (by omega)]
  rw [readIpv4?, hnumbers]
  simp [hd, hfront, hofNat]

theorem domainToAscii?_ipv4 (ip : Ipv4) : domainToAscii? ip.chars = some ip.chars := by
  have hdigits : ∀ label ∈ [ip.a, ip.b, ip.c, ip.d].map Ipv4.octetChars,
      ∀ c ∈ label, 0x30 ≤ c.toNat ∧ c.toNat ≤ 0x39 := by
    intro label hlabel
    obtain ⟨o, -, rfl⟩ := List.mem_map.1 hlabel
    exact (octetChars_spec o).2.1
  have hascii : ∀ label ∈ [ip.a, ip.b, ip.c, ip.d].map Ipv4.octetChars, IsAscii label := by
    intro label hlabel
    refine List.all_eq_true.2 fun c hc => decide_eq_true ?_
    have := (hdigits label hlabel c hc).2
    omega
  have hclosed : ([ip.a, ip.b, ip.c, ip.d].map Ipv4.octetChars).map closeLabel =
      [ip.a, ip.b, ip.c, ip.d].map Ipv4.octetChars :=
    (List.map_congr_left fun label hlabel => closeLabel_of_isAscii (hascii label hlabel)).trans
      (List.map_id' _)
  have hdirections : (([ip.a, ip.b, ip.c, ip.d].map Ipv4.octetChars).any (·.any isRightToLeft) &&
      !([ip.a, ip.b, ip.c, ip.d].map Ipv4.octetChars).all directionsAgree) = false := by
    rw [Bool.and_eq_false_iff]
    refine .inl (List.any_eq_false.2 fun label hlabel => ?_)
    rw [Bool.not_eq_true, List.any_eq_false]
    exact fun c hc => by simpa using isRightToLeft_digit (hdigits label hlabel c hc)
  have hread := (domainToAscii?_joinAll (by simp)
    (fun label hlabel => openLabel_of_digits (hdigits label hlabel)) hdirections).1
    fun label hlabel hlong => hlong.1 (hascii label hlabel)
  rwa [hclosed] at hread

/-! ### Hosts -/

/-- A host without percent signs and brackets is read as a domain. -/
theorem read?_of_not_mem {cs : List Char} (hhead : cs.head? ≠ some '[') (hpercent : '%' ∉ cs) :
    read? cs = (domainToAscii? cs).bind fun name =>
      if name.isEmpty then none
      else if endsInNumber name then (readIpv4? name).map .ipv4
      else some (.domain name) := by
  rw [read?, if_neg hhead, decode?_percentDecode hpercent, Option.bind_eq_bind, Option.bind_some,
    String.toList_ofList]
  rfl

theorem read?_ipv4 (ip : Ipv4) : read? ip.chars = some (.ipv4 ip) := by
  have hdigits (c : Char) (hc : c ∈ ip.chars) : c = '.' ∨ 0x30 ≤ c.toNat ∧ c.toNat ≤ 0x39 := by
    rcases mem_joinAll hc with hc | ⟨piece, hpiece, hc⟩
    · exact .inl (List.mem_singleton.1 hc)
    · obtain ⟨o, -, rfl⟩ := List.mem_map.1 hpiece
      exact .inr ((octetChars_spec o).2.1 c hc)
  have hpercent : '%' ∉ ip.chars := fun hc => absurd (hdigits _ hc) (by decide)
  have hhead : ip.chars.head? ≠ some '[' := fun hhead =>
    absurd (hdigits _ (List.mem_of_mem_head? hhead)) (by decide)
  have hempty : ip.chars.isEmpty = false := by
    simp [Ipv4.chars, joinAll]
  rw [read?_of_not_mem hhead hpercent, domainToAscii?_ipv4, Option.bind_some, hempty,
    if_neg Bool.false_ne_true, endsInNumber_ipv4, if_pos rfl, readIpv4?_chars]
  rfl

theorem read?_ipv6 (ip : Ipv6) : read? (Host.ipv6 ip).chars = some (.ipv6 ip) := by
  rw [read?, chars, List.head?_cons, if_pos rfl, readBracketed?, List.getLast?_concat, if_pos rfl,
    List.dropLast_concat, Ipv6.read?_hexChars]
  rfl

/-- A host with a label in Punycode that is longer than what is read. -/
def HasLongLabel : Host → Prop
  | .domain name =>
    ∃ code, "xn--".toList ++ code ∈ splitAll '.' name ∧ maxPunycode < code.length
  | _ => False

/-- What a host is that has been read: an address, or a domain in ASCII form that is not empty and
does not end in a number. -/
theorem cases_of_read? {cs : List Char} {host : Host} (h : read? cs = some host) :
    (∃ ip, host = .ipv6 ip) ∨ (∃ ip, host = .ipv4 ip) ∨
      ∃ decoded name, host = .domain name ∧ domainToAscii? decoded = some name ∧
        name.isEmpty = false ∧ endsInNumber name = false := by
  unfold read? at h
  split at h
  · obtain ⟨ip, -, rfl⟩ := Option.map_eq_some_iff.1 h
    exact .inl ⟨ip, rfl⟩
  · obtain ⟨decoded, -, h⟩ := Option.bind_eq_some_iff.1 h
    obtain ⟨name, hname, h⟩ := Option.bind_eq_some_iff.1 h
    split at h
    · cases h
    · next hempty =>
      split at h
      · obtain ⟨ip, -, rfl⟩ := Option.map_eq_some_iff.1 h
        exact .inr (.inl ⟨ip, rfl⟩)
      · next hnumber =>
        exact .inr (.inr ⟨decoded.toList, name, (Option.some.inj h).symm, hname,
          by simpa using hempty, by simpa using hnumber⟩)

/-- A label is too long as the text of a domain has it. -/
theorem hasLongLabel_iff {labels : List (List Char)} (hne : labels ≠ [])
    (hlabels : ∀ label ∈ labels, OpenLabel label) :
    (domain (joinAll ['.'] (labels.map closeLabel))).HasLongLabel ↔
      ∃ label ∈ labels, IsLongLabel label := by
  rw [HasLongLabel, splitAll_closed hne hlabels]
  constructor
  · rintro ⟨code, hmem, hlong⟩
    obtain ⟨label, hlabel, heq⟩ := List.mem_map.1 hmem
    refine ⟨label, hlabel, ?_⟩
    by_cases hascii : IsAscii label
    · rw [closeLabel_of_isAscii hascii] at heq
      have hplain := (hlabels label hlabel).plain hascii
      rw [heq, afterStart?_append] at hplain
      cases hplain
    · rw [closeLabel_of_not_isAscii hascii] at heq
      rw [← List.append_cancel_left heq] at hlong
      exact ⟨hascii, hlong⟩
  · rintro ⟨label, hlabel, hascii, hlong⟩
    refine ⟨Punycode.encode label, List.mem_map.2 ⟨label, hlabel, ?_⟩, hlong⟩
    exact closeLabel_of_not_isAscii hascii

/-- The characters of a domain are ASCII characters that may stand in labels, and points. -/
theorem allowed_of_mem_domain {decoded name : List Char} (h : domainToAscii? decoded = some name) :
    ∀ c ∈ name, Allowed c ∧ c.toNat < 0x80 := by
  obtain ⟨-, labels, -, -, -, hlabels, -, rfl⟩ := exists_labels h
  exact allowed_of_mem_joinAll hlabels

/-- The canonical form of a host is read as the host, unless a label is too long. -/
theorem read?_chars {cs : List Char} {host : Host} (h : read? cs = some host) :
    (¬ host.HasLongLabel → read? host.chars = some host) ∧
      (host.HasLongLabel → read? host.chars = none) := by
  rcases cases_of_read? h with ⟨ip, rfl⟩ | ⟨ip, rfl⟩ | ⟨decoded, name, rfl, hname, hempty, hnumber⟩
  · exact ⟨fun _ => read?_ipv6 ip, False.elim⟩
  · exact ⟨fun _ => read?_ipv4 ip, False.elim⟩
  · have hallowed := allowed_of_mem_domain hname
    have hforbidden (c : Char) (hc : isForbidden c = true) : c ∉ name := fun hmem =>
      Bool.noConfusion (hc.symm.trans (hallowed c hmem).1.2)
    have hread := @read?_of_not_mem name
      (fun hhead => hforbidden '[' (by decide) (List.mem_of_mem_head? hhead))
      (hforbidden '%' (by decide))
    obtain ⟨-, labels, -, -, hne, hlabels, hdirections, rfl⟩ := exists_labels hname
    obtain ⟨hshort, hlong⟩ := domainToAscii?_joinAll hne hlabels hdirections
    rw [hasLongLabel_iff hne hlabels, chars, hread]
    constructor
    · intro hnone
      rw [hshort fun label hlabel h' => hnone ⟨label, hlabel, h'⟩, Option.bind_some, hempty,
        hnumber]
      rfl
    · intro hsome
      rw [hlong hsome, Option.bind_none]

end Host

end NodeFleet.Url
