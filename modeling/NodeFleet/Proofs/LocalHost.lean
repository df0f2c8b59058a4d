import NodeFleet.Proofs.UrlText

/-!
# Hosts that are the machine itself

Names and addresses of the machine itself are told from others by the check of hosts. However the
name is spelled in a URL, the host that is read is a spelling of it.
-/

namespace NodeFleet.Url

open Text Unicode

/-- The addresses `127.0.0.0/8` and `0.0.0.0`. -/
def IsLocalIpv4 (ip : Ipv4) : Prop := ip.a = 127 ∨ ip = ⟨0, 0, 0, 0⟩

/-- The name `localhost` in any case, below which there may be others, with any number of points at
its end. -/
def IsLocalName (name : List Char) : Prop :=
  ∃ front label points, name = front ++ label ++ List.replicate points '.' ∧
    label.map lowerAscii = "localhost".toList ∧ (front = [] ∨ front.getLast? = some '.')

/-- A host that is the machine itself: `localhost` and names below it, the addresses `127.0.0.0/8`,
`0.0.0.0`, `::1` and `::`, and IPv6 addresses that stand for such IPv4 addresses. -/
def Host.IsLocal : Host → Prop
  | .domain name => IsLocalName name
  | .ipv4 ip => IsLocalIpv4 ip
  | .ipv6 ip =>
    ip.groups = [0, 0, 0, 0, 0, 0, 0, 1] ∨ ip.groups = [0, 0, 0, 0, 0, 0, 0, 0] ∨
      ∃ v4, ip.groups = [0, 0, 0, 0, 0, 0xFFFF] ++ Ipv6.groupsOfIpv4 v4 ∧ IsLocalIpv4 v4

theorem exists_trimEndOf (c : Char) (cs : List Char) :
    ∃ count, cs = trimEndOf c cs ++ List.replicate count c := by
  refine ⟨(cs.reverse.takeWhile (· = c)).length, ?_⟩
  have hall : cs.reverse.takeWhile (fun d => decide (d = c)) =
      List.replicate (cs.reverse.takeWhile (fun d => decide (d = c))).length c :=
    List.eq_replicate_iff.2
      ⟨rfl, fun d hd => by simpa using List.all_eq_true.1 List.all_takeWhile d hd⟩
  rw [← List.reverse_inj, List.reverse_append, List.reverse_replicate, ← hall, trimEndOf,
    List.reverse_reverse]
  exact (List.takeWhile_append_dropWhile).symm

/-- The last piece of a text, and what is before it. -/
theorem exists_getLast?_splitAll (sep : Char) (cs : List Char) :
    ∃ front last, (splitAll sep cs).getLast? = some last ∧ cs = front ++ last ∧ sep ∉ last ∧
      (front = [] ∨ front.getLast? = some sep) := by
  induction cs using piece_induction sep with
  | last piece hpiece =>
    exact ⟨[], piece, by rw [splitAll_of_not_mem hpiece]; rfl, rfl, hpiece, .inl rfl⟩
  | append piece rest hpiece ih =>
    obtain ⟨front, last, hlast, hrest, hsep, hfront⟩ := ih
    refine ⟨piece ++ sep :: front, last, ?_, by rw [hrest]; simp, hsep, .inr ?_⟩
    · rw [splitAll_append _ hpiece, List.getLast?_cons_of_ne_nil (splitAll_ne_nil _ _), hlast]
    · rw [List.getLast?_append]
      rcases hfront with rfl | hfront
      · rfl
      · obtain ⟨c, cs, hcons⟩ : ∃ c cs, front = c :: cs :=
          List.exists_cons_of_ne_nil (by rintro rfl; cases hfront)
        rw [hcons, List.getLast?_cons_of_ne_nil (List.cons_ne_nil c cs), ← hcons, hfront]
        rfl

/-- The last piece is unique. -/
theorem getLast?_splitAll_append {sep : Char} {front last : List Char} (hsep : sep ∉ last)
    (hfront : front = [] ∨ front.getLast? = some sep) :
    (splitAll sep (front ++ last)).getLast? = some last := by
  induction front using piece_induction sep with
  | last piece hpiece =>
    rcases hfront with rfl | hfront
    · rw [List.nil_append, splitAll_of_not_mem hsep]
      rfl
    · exact absurd (List.mem_of_getLast? hfront) hpiece
  | append piece rest hpiece ih =>
    have hrest : rest = [] ∨ rest.getLast? = some sep := by
      cases rest with
      | nil => exact .inl rfl
      | cons c rest =>
        refine .inr ?_
        rcases hfront with hfront | hfront
        · simp at hfront
        · rwa [List.getLast?_append, List.getLast?_cons_cons,
            List.getLast?_eq_some_getLast (List.cons_ne_nil c rest), Option.some_or] at hfront
    rw [List.append_assoc, List.cons_append, splitAll_append _ hpiece,
      List.getLast?_cons_of_ne_nil (splitAll_ne_nil _ _), ih hrest]

theorem trimEndOf_append_replicate {c : Char} {cs : List Char} (hne : cs ≠ [])
    (hlast : cs.getLast? ≠ some c) (count : Nat) :
    trimEndOf c (cs ++ List.replicate count c) = cs := by
  have hnil : trimEndOf c (List.replicate count c) = [] := by
    rw [trimEndOf, List.reverse_replicate, List.dropWhile_replicate]
    simp
  rw [trimEndOf_append hne hlast, hnil, List.append_nil]

/-- The check of names finds `localhost` in each of its spellings. -/
theorem isLocalDomain_iff (name : List Char) : isLocalDomain name = true ↔ IsLocalName name := by
  constructor
  · intro h
    obtain ⟨front, last, hlast, htrim, -, hfront⟩ :=
      exists_getLast?_splitAll '.' (trimEndOf '.' name)
    obtain ⟨points, hname⟩ := exists_trimEndOf '.' name
    rw [isLocalDomain, hlast, Option.any_some, decide_eq_true_eq] at h
    exact ⟨front, last, points, by rw [← htrim]; exact hname, h, hfront⟩
  · rintro ⟨front, label, points, rfl, hlabel, hfront⟩
    have hpoint : '.' ∉ label := fun hmem => by
      have hmap : lowerAscii '.' ∈ label.map lowerAscii := List.mem_map_of_mem hmem
      rw [hlabel] at hmap
      exact absurd hmap (by decide)
    have hne : label ≠ [] := by
      rintro rfl
      exact absurd hlabel (by decide)
    have htrim : trimEndOf '.' (front ++ label ++ List.replicate points '.') = front ++ label := by
      refine trimEndOf_append_replicate (by simp [hne]) (fun hlast => ?_) points
      rw [List.getLast?_append, List.getLast?_eq_some_getLast hne, Option.some_or] at hlast
      exact hpoint (Option.some.inj hlast ▸ List.getLast_mem hne)
    rw [isLocalDomain, htrim, getLast?_splitAll_append hpoint hfront, Option.any_some, hlabel]
    exact decide_eq_true rfl

/-- The first letter of `localhost`, where it is the only label. -/
theorem IsLocalName.lowerAscii_eq {c : Char} {cs : List Char} (hpoint : '.' ∉ c :: cs)
    (h : IsLocalName (c :: cs)) : lowerAscii c = 'l' := by
  obtain ⟨front, label, points, hname, hlabel, hfront⟩ := h
  rcases hfront with rfl | hfront
  · obtain ⟨d, ds, rfl⟩ : ∃ d ds, label = d :: ds := by
      refine List.exists_cons_of_ne_nil ?_
      rintro rfl
      exact absurd hlabel (by decide)
    rw [List.nil_append, List.cons_append] at hname
    obtain rfl := (List.cons.inj hname).1
    exact (List.cons.inj hlabel).1
  · refine absurd ?_ hpoint
    rw [hname, List.append_assoc]
    exact List.mem_append_left _ (List.mem_of_getLast? hfront)

theorem isLocalIpv4_iff (ip : Ipv4) :
    (ip.isLoopback || ip.isUnspecified) = true ↔ IsLocalIpv4 ip := by
  rw [Bool.or_eq_true, Ipv4.isLoopback, Ipv4.isUnspecified, beq_iff_eq, beq_iff_eq, IsLocalIpv4]

/-- An IPv6 address stands for an IPv4 address if it ends in the groups of that address, after the
groups of the mapping. -/
theorem mapped?_eq_some_iff (ip : Ipv6) (v4 : Ipv4) :
    ip.mapped? = some v4 ↔ ip.groups = [0, 0, 0, 0, 0, 0xFFFF] ++ Ipv6.groupsOfIpv4 v4 := by
  unfold Ipv6.mapped?
  constructor
  · intro h
    split at h
    · next g g' hgroups =>
      obtain rfl := Option.some.inj h
      rw [hgroups, Ipv6.groupsOfIpv4_ofNat]
      rfl
    · cases h
  · intro h
    rw [h]
    have ha := v4.a.toNat_lt
    have hb := v4.b.toNat_lt
    have hc := v4.c.toNat_lt
    have hd := v4.d.toNat_lt
    have hoctet {n : Nat} {o : UInt8} (h : n % 256 = o.toNat) : UInt8.ofNat n = o := by
      rw [← UInt8.toNat_inj, UInt8.toNat_ofNat', h]
    simp only [Ipv6.groupsOfIpv4, List.cons_append, List.nil_append, UInt16.toNat_ofNat']
    rw [Ipv4.ofNat, hoctet (o := v4.a) (by omega), hoctet (o := v4.b) (by omega),
      hoctet (o := v4.c) (by omega), hoctet (o := v4.d) (by omega)]

theorem checkHost_of_address? {host : Host} {ip : IpAddress} (h : host.address? = some ip) :
    checkHost host = .ok () ↔ ¬ (ip.isLoopback || ip.isUnspecified) = true := by
  have hcheck : checkHost host = if (ip.isLoopback || ip.isUnspecified) = true then
      .error (.validation
        "panel_url не может указывать на loopback-адрес: узел не сможет до него достучаться")
      else .ok () := by
    cases host with
    | domain name => cases h
    | ipv4 v4 => rw [checkHost, h, Option.any_some]; exact fun _ hdomain => nomatch hdomain
    | ipv6 v6 => rw [checkHost, h, Option.any_some]; exact fun _ hdomain => nomatch hdomain
  rw [hcheck]
  split
  · next hlocal => exact iff_of_false (fun hok => nomatch hok) (fun hnot => hnot hlocal)
  · next hlocal => exact iff_of_true rfl hlocal

/-- The check of hosts admits those that are not the machine itself. -/
theorem checkHost_eq_ok_iff (host : Host) : checkHost host = .ok () ↔ ¬ host.IsLocal := by
  cases host with
  | domain name =>
    rw [checkHost, Host.IsLocal, ← isLocalDomain_iff]
    split
    · next h => exact iff_of_false (fun hok => nomatch hok) (fun hnot => hnot h)
    · next h => exact iff_of_true rfl h
  | ipv4 ip =>
    have haddress : (Host.ipv4 ip).address? = some (.v4 ip) := rfl
    rw [checkHost_of_address? haddress, Host.IsLocal, ← isLocalIpv4_iff]
    rfl
  | ipv6 ip =>
    cases hmapped : ip.mapped? with
    | some v4 =>
      have haddress : (Host.ipv6 ip).address? = some (.v4 v4) := by
        rw [Host.address?, hmapped]
      have hgroups := (mapped?_eq_some_iff ip v4).1 hmapped
      have honly (v4' : Ipv4) : ip.groups = [0, 0, 0, 0, 0, 0xFFFF] ++ Ipv6.groupsOfIpv4 v4' ↔
          v4' = v4 := by
        rw [← mapped?_eq_some_iff, hmapped, Option.some_inj, eq_comm]
      have hother (gs : List UInt16) (hgs : gs[5]? ≠ some 0xFFFF) : ip.groups ≠ gs := by
        rintro rfl
        rw [hgroups] at hgs
        exact hgs rfl
      rw [checkHost_of_address? haddress, Host.IsLocal]
      simp only [honly, exists_eq_left, hother [0, 0, 0, 0, 0, 0, 0, 1] (by decide),
        hother [0, 0, 0, 0, 0, 0, 0, 0] (by decide), false_or]
      exact not_congr (isLocalIpv4_iff v4)
    | none =>
      have haddress : (Host.ipv6 ip).address? = some (.v6 ip) := by
        rw [Host.address?, hmapped]
      have hnone (v4 : Ipv4) : ip.groups ≠ [0, 0, 0, 0, 0, 0xFFFF] ++ Ipv6.groupsOfIpv4 v4 := by
        intro hgroups
        rw [← mapped?_eq_some_iff, hmapped] at hgroups
        cases hgroups
      rw [checkHost_of_address? haddress, Host.IsLocal]
      simp only [IpAddress.isLoopback, IpAddress.isUnspecified, Ipv6.isLoopback,
        Ipv6.isUnspecified, Bool.or_eq_true, beq_iff_eq, hnone, false_and, exists_false, or_false]

/-! ### Spellings of the name -/

/-- Labels that end in `localhost` in any case, with any number of empty ones after it. -/
def AreLocal (labels : List (List Char)) : Prop :=
  ∃ before label points, labels = before ++ label :: List.replicate points [] ∧
    label.map lowerAscii = "localhost".toList

theorem lowerAscii_eq (c : Char) :
    lowerAscii c = if 65 ≤ c.toNat ∧ c.toNat ≤ 90 then Char.ofNat (c.toNat + 32) else c := by
  have hlow : 'A' ≤ c ↔ 65 ≤ c.toNat := by
    rw [Char.le_def, UInt32.le_iff_toNat_le]
    rfl
  have hhigh : c ≤ 'Z' ↔ c.toNat ≤ 90 := by
    rw [Char.le_def, UInt32.le_iff_toNat_le]
    rfl
  simp only [lowerAscii, Bool.and_eq_true, decide_eq_true_eq, hlow, hhigh]

/-- A capital letter stands for the small one. -/
theorem mapChar?_of_letter {c : Char}
    (h : 0x61 ≤ (lowerAscii c).toNat ∧ (lowerAscii c).toNat ≤ 0x7A) :
    mapChar? c = some [lowerAscii c] := by
  rw [lowerAscii_eq] at h ⊢
  split at h
  · next hcapital =>
    rw [if_pos hcapital, mapChar?, hostStatus_ascii (by omega), if_pos hcapital]
  · next hsmall =>
    rw [if_neg hsmall]
    exact mapChar?_of_valid (allowed_of_isPlain (.inr (.inr (.inr h)))).1

section Label

variable {label : List Char} (h : label.map lowerAscii = "localhost".toList)

include h

/-- A letter of `localhost`, up to its case. -/
theorem letter_of_mem {c : Char} (hc : c ∈ label) :
    0x61 ≤ (lowerAscii c).toNat ∧ (lowerAscii c).toNat ≤ 0x7A := by
  have hletters : ∀ d ∈ "localhost".toList, 0x61 ≤ d.toNat ∧ d.toNat ≤ 0x7A :=
    List.all_iff_forall_prop.1 (by decide)
  exact hletters _ (h ▸ List.mem_map_of_mem hc)

theorem ascii_of_mem {c : Char} (hc : c ∈ label) : c.toNat < 0x80 := by
  have hletter := letter_of_mem h hc
  rw [lowerAscii_eq] at hletter
  split at hletter <;> omega

theorem point_not_mem : '.' ∉ label := fun hc => absurd (letter_of_mem h hc).1 (by decide)

/-- Where the name stands, mapping the characters makes the letters small. -/
theorem mapM_mapChar?_localhost (points : Nat) :
    ((label ++ List.replicate points '.').mapM mapChar?).map List.flatten =
      some ("localhost".toList ++ List.replicate points '.') := by
  have hmap : (label ++ List.replicate points '.').mapM mapChar? =
      some ((label ++ List.replicate points '.').map fun c => [lowerAscii c]) := by
    refine mapM_eq_some_map fun c hc => ?_
    rcases List.mem_append.1 hc with hletter | hpoint
    · exact mapChar?_of_letter (letter_of_mem h hletter)
    · rw [List.eq_of_mem_replicate hpoint]
      exact mapChar?_of_valid (allowed_of_isPlain (.inr (.inl rfl))).1
  rw [hmap, Option.map_some, ← List.flatMap_def, ← List.map_eq_flatMap, List.map_append, h,
    List.map_replicate]
  rfl

theorem openLabel?_localhost : openLabel? label = some label := by
  have hx : 'x' ∉ label := fun hc => by
    have hmem : lowerAscii 'x' ∈ label.map lowerAscii := List.mem_map_of_mem hc
    rw [h] at hmem
    exact absurd hmem (by decide)
  rw [openLabel?, afterStart?_of_not_mem (by decide : 'x' ∈ "xn--".toList) hx]
  exact if_pos (isLabel_of_ascii fun c hc => ascii_of_mem h hc)

theorem readPart?_localhost : Host.readPart? label = none := by
  obtain ⟨c, rest, rfl⟩ : ∃ c rest, label = c :: rest := by
    refine List.exists_cons_of_ne_nil ?_
    rintro rfl
    exact absurd h (by decide)
  have hlower : lowerAscii c = 'l' := (List.cons.inj h).1
  have hc : c = 'l' ∨ c = 'L' := by
    rw [lowerAscii_eq] at hlower
    split at hlower
    · refine .inr (Char.toNat_inj.1 ?_)
      have hnat := congrArg Char.toNat hlower
      rw [toNat_ofNat_of_isValid (.inl (by omega))] at hnat
      change c.toNat + 32 = 108 at hnat
      change c.toNat = 76
      omega
    · exact .inl hlower
  rcases hc with rfl | rfl <;> rfl

end Label

/-! ### Labels of the name -/

theorem splitAll_points {label : List Char} (h : '.' ∉ label) (points : Nat) :
    splitAll '.' (label ++ List.replicate points '.') = label :: List.replicate points [] := by
  induction points generalizing label with
  | zero =>
    rw [List.replicate_zero, List.append_nil, splitAll_of_not_mem h]
    rfl
  | succ points ih =>
    have hrest := @ih [] List.not_mem_nil
    rw [List.nil_append] at hrest
    rw [List.replicate_succ, splitAll_append _ h, hrest]
    rfl

theorem exists_points {cs : List Char} {count : Nat}
    (h : splitAll '.' cs = List.replicate count []) : ∃ points, cs = List.replicate points '.' := by
  induction cs using piece_induction '.' generalizing count with
  | last piece hpiece =>
    rw [splitAll_of_not_mem hpiece] at h
    have hmem : piece ∈ List.replicate count [] := h ▸ List.mem_cons_self
    exact ⟨0, List.eq_of_mem_replicate hmem⟩
  | append piece rest hpiece ih =>
    rw [splitAll_append _ hpiece] at h
    cases count with
    | zero => cases h
    | succ count =>
      rw [List.replicate_succ] at h
      obtain ⟨rfl, hrest⟩ := List.cons.inj h
      obtain ⟨points, rfl⟩ := ih hrest
      exact ⟨points + 1, rfl⟩

/-- A spelling of the name is told by its labels. -/
theorem isLocalName_iff (name : List Char) : IsLocalName name ↔ AreLocal (splitAll '.' name) := by
  constructor
  · rintro ⟨front, label, points, rfl, hlabel, hfront⟩
    have hpoint := point_not_mem hlabel
    rcases hfront with rfl | hfront
    · exact ⟨[], label, points, splitAll_points hpoint points, hlabel⟩
    · obtain ⟨above, rfl⟩ := List.getLast?_eq_some_iff.1 hfront
      refine ⟨splitAll '.' above, label, points, ?_, hlabel⟩
      rw [List.append_assoc, List.append_assoc, List.singleton_append, splitAll_append_cons,
        splitAll_points hpoint]
  · rintro ⟨before, label, points, hsplit, hlabel⟩
    induction name using piece_induction '.' generalizing before with
    | last piece hpiece =>
      rw [splitAll_of_not_mem hpiece] at hsplit
      cases before with
      | nil =>
        obtain ⟨rfl, -⟩ := List.cons.inj hsplit
        exact ⟨[], piece, 0, (List.append_nil _).symm, hlabel, .inl rfl⟩
      | cons first before => simp at hsplit
    | append piece rest hpiece ih =>
      rw [splitAll_append _ hpiece] at hsplit
      cases before with
      | nil =>
        obtain ⟨rfl, hrest⟩ := List.cons.inj hsplit
        obtain ⟨count, rfl⟩ := exists_points hrest
        exact ⟨[], piece, count + 1, rfl, hlabel, .inl rfl⟩
      | cons first before =>
        obtain ⟨rfl, hrest⟩ := List.cons.inj hsplit
        obtain ⟨front, found, count, rfl, hfound, hfront⟩ := ih before hrest
        refine ⟨piece ++ '.' :: front, found, count, by simp, hfound, .inr ?_⟩
        rcases hfront with rfl | hfront
        · rw [List.getLast?_append]
          rfl
        · obtain ⟨above, rfl⟩ := List.getLast?_eq_some_iff.1 hfront
          exact List.getLast?_eq_some_iff.2 ⟨piece ++ '.' :: above, by simp⟩

/-- Checking the labels leaves the last ones as they are. -/
theorem AreLocal.opened {pieces labels : List (List Char)} (h : AreLocal pieces)
    (hopen : pieces.mapM openLabel? = some labels) : AreLocal labels := by
  obtain ⟨before, label, points, rfl, hlabel⟩ := h
  have hempty : (List.replicate points []).mapM openLabel? = some (List.replicate points []) := by
    rw [mapM_eq_some_iff, List.forall₂_same]
    intro piece hpiece
    rw [List.eq_of_mem_replicate hpiece]
    rfl
  obtain ⟨opened, rest, -, hrest, rfl⟩ := exists_of_mapM_append hopen
  rw [List.mapM_cons, openLabel?_localhost hlabel, hempty] at hrest
  obtain rfl := Option.some.inj hrest
  exact ⟨opened, label, points, rfl, hlabel⟩

theorem AreLocal.closed {labels : List (List Char)} (h : AreLocal labels) :
    AreLocal (labels.map closeLabel) := by
  obtain ⟨before, label, points, rfl, hlabel⟩ := h
  have hascii : IsAscii label :=
    List.all_eq_true.2 fun c hc => decide_eq_true (ascii_of_mem hlabel hc)
  refine ⟨before.map closeLabel, label, points, ?_, hlabel⟩
  rw [List.map_append, List.map_cons, List.map_replicate, closeLabel_of_isAscii hascii]
  rfl

/-- Mapping the characters of a spelling of the name makes another one. -/
theorem IsLocalName.mapped {cs name : List Char} (h : IsLocalName cs)
    (hmap : mapDomain? cs = some name) : IsLocalName name := by
  obtain ⟨front, label, points, rfl, hlabel, hfront⟩ := h
  obtain ⟨pieces, hpieces, rfl, -⟩ := mapDomain?_eq_some.1 hmap
  have hascii : ∀ c ∈ "localhost".toList ++ List.replicate points '.', c.toNat < 0x80 := by
    refine List.forall_mem_append.2 ⟨List.all_iff_forall_prop.1 (by decide), fun c hc => ?_⟩
    rw [List.eq_of_mem_replicate hc]
    decide
  rw [List.append_assoc] at hpieces
  obtain ⟨above, rest, habove, hrest, rfl⟩ := exists_of_mapM_append hpieces
  have hlast := mapM_mapChar?_localhost hlabel points
  rw [hrest, Option.map_some, Option.some_inj] at hlast
  rw [List.flatten_append, hlast]
  rcases hfront with rfl | hfront
  · obtain rfl : [] = above := Option.some.inj habove
    rw [List.flatten_nil, List.nil_append, normalize_of_ascii hascii]
    exact ⟨[], "localhost".toList, points, rfl, by decide, .inl rfl⟩
  · obtain ⟨front, rfl⟩ := List.getLast?_eq_some_iff.1 hfront
    obtain ⟨first, last, -, hpoint, rfl⟩ := exists_of_mapM_append habove
    rw [List.mapM_cons, mapChar?_of_valid (allowed_of_isPlain (.inr (.inl rfl))).1] at hpoint
    obtain rfl : [['.']] = last := Option.some.inj hpoint
    obtain ⟨normal, hnormal⟩ := exists_normalize_append_point hascii first.flatten
    rw [List.flatten_append, List.flatten_singleton, List.append_assoc, List.singleton_append,
      hnormal]
    exact ⟨normal ++ ['.'], "localhost".toList, points, by simp, by decide, .inr (by simp)⟩

/-- The ASCII form of a spelling of the name is another one. -/
theorem IsLocalName.domainToAscii? {cs name : List Char} (h : IsLocalName cs)
    (hname : Url.domainToAscii? cs = some name) : IsLocalName name := by
  obtain ⟨mapped, labels, hmapped, hlabels, hne, hopen, -, rfl⟩ := exists_labels hname
  rw [isLocalName_iff, splitAll_closed hne hopen]
  exact (((isLocalName_iff mapped).1 (h.mapped hmapped)).opened hlabels).closed

namespace Host

theorem mem_labels {name label : List Char} (h : label ∈ splitAll '.' name) (hne : label ≠ []) :
    label ∈ labels name := by
  rw [← List.mem_reverse] at h
  unfold labels
  split
  · next rest hrest =>
    rw [hrest] at h
    exact List.mem_reverse.2 ((List.mem_cons.1 h).resolve_left hne)
  · exact List.mem_reverse.2 h

/-- No spelling of the name is an IPv4 address. -/
theorem readIpv4?_of_isLocalName {name : List Char} (h : IsLocalName name) :
    readIpv4? name = none := by
  obtain ⟨before, label, points, hsplit, hlabel⟩ := (isLocalName_iff name).1 h
  have hne : label ≠ [] := by
    rintro rfl
    exact absurd hlabel (by decide)
  have hmem : label ∈ labels name := by
    refine mem_labels ?_ hne
    rw [hsplit]
    exact List.mem_append_right _ List.mem_cons_self
  rw [readIpv4?, mapM_eq_none_of_mem hmem (readPart?_localhost hlabel)]
  rfl

/-- Outside brackets, a host that is a spelling of the name after percent decoding is the machine
itself. -/
theorem isLocal_of_isLocalName {cs : List Char} {decoded : String} {host : Host}
    (h : read? cs = some host) (hhead : cs.head? ≠ some '[')
    (hdecoded : decode? (percentDecode (bytesOf (String.ofList cs))) = some decoded)
    (hlocal : IsLocalName decoded.toList) : host.IsLocal := by
  rw [read?, if_neg hhead, hdecoded, Option.bind_eq_bind, Option.bind_some] at h
  obtain ⟨name, hname, h⟩ := Option.bind_eq_some_iff.1 h
  have hlocal' := hlocal.domainToAscii? hname
  split at h
  · cases h
  split at h
  · rw [readIpv4?_of_isLocalName hlocal'] at h
    cases h
  · obtain rfl := Option.some.inj h
    exact hlocal'

end Host

end NodeFleet.Url
