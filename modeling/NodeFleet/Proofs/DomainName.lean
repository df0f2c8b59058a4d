import Mathlib.Data.Bool.AllAny
import NodeFleet.Proofs.Normalization
import NodeFleet.Proofs.Punycode
import NodeFleet.Url.Domain

/-!
# Domains in their ASCII form

The labels of a domain that has been read consist of allowed characters in normal form, and the
ASCII form of such a label is read as the label itself. So the ASCII form of a domain is read as it
stands, unless the Punycode of a label is longer than what is read.
-/

namespace NodeFleet.Url

open Text Unicode

/-! ### Allowed characters -/

theorem isForbidden_iff (c : Char) :
    isForbidden c = true ↔ c.toNat ≤ 0x20 ∨ c.toNat = 0x7F ∨
      c.toNat ∈ [0x25, 0x23, 0x2F, 0x3A, 0x3C, 0x3E, 0x3F, 0x40, 0x5B, 0x5C, 0x5D, 0x5E, 0x60, 0x7B,
        0x7C, 0x7D] := by
  have hmarks : "%#/:<>?@[\\]^`\x7b|\x7d".toList.map Char.toNat =
      [0x25, 0x23, 0x2F, 0x3A, 0x3C, 0x3E, 0x3F, 0x40, 0x5B, 0x5C, 0x5D, 0x5E, 0x60, 0x7B, 0x7C,
        0x7D] := by decide
  rw [isForbidden, ← hmarks, Bool.or_eq_true, Bool.or_eq_true, decide_eq_true_eq,
    decide_eq_true_eq, List.contains_iff_mem, or_assoc, List.mem_map]
  refine or_congr_right (or_congr_right ⟨fun h => ⟨c, h, rfl⟩, ?_⟩)
  rintro ⟨d, hd, heq⟩
  rwa [← Char.toNat_inj.1 heq]

theorem isForbidden_of_ge {c : Char} (h : 0x80 ≤ c.toNat) : isForbidden c = false := by
  rw [← Bool.not_eq_true, isForbidden_iff]
  simp only [List.mem_cons, List.not_mem_nil, or_false]
  omega

/-- A character that may stand in the labels of a domain. -/
def Allowed (c : Char) : Prop := hostStatus c = .valid ∧ isForbidden c = false

/-- The characters of numbers, of Punycode and between labels. -/
def IsPlain (n : Nat) : Prop :=
  n = 0x2D ∨ n = 0x2E ∨ 0x30 ≤ n ∧ n ≤ 0x39 ∨ 0x61 ≤ n ∧ n ≤ 0x7A

theorem allowed_of_isPlain {c : Char} (h : IsPlain c.toNat) : Allowed c := by
  have hlt : c.toNat < 0x80 := by
    rcases h with h | h | h | h <;> omega
  constructor
  · rw [hostStatus_ascii hlt, if_neg]
    rcases h with h | h | h | h <;> omega
  · rw [← Bool.not_eq_true, isForbidden_iff]
    simp only [List.mem_cons, List.not_mem_nil, or_false]
    rcases h with h | h | h | h <;> omega

theorem mapChar?_of_valid {c : Char} (h : hostStatus c = .valid) : mapChar? c = some [c] := by
  rw [mapChar?, h]

/-- A character stands for valid ones. -/
theorem valid_of_mapChar? {c t : Char} {targets : List Char} (h : mapChar? c = some targets)
    (ht : t ∈ targets) : hostStatus t = .valid := by
  unfold mapChar? at h
  cases hstatus : hostStatus c with
  | valid =>
    rw [hstatus] at h
    obtain rfl := Option.some.inj h
    rw [List.mem_singleton.1 ht]
    exact hstatus
  | ignored =>
    rw [hstatus] at h
    obtain rfl := Option.some.inj h
    cases ht
  | disallowed =>
    rw [hstatus] at h
    cases h
  | mapped found =>
    rw [hstatus] at h
    obtain rfl := Option.some.inj h
    exact hostStatus_of_mem_mapped hstatus ht

/-- A domain is mapped to the normal form of what its characters stand for, if no character of that
is forbidden. -/
theorem mapDomain?_eq_some {cs mapped : List Char} :
    mapDomain? cs = some mapped ↔
      ∃ pieces, cs.mapM mapChar? = some pieces ∧ normalize pieces.flatten = mapped ∧
        ∀ c ∈ mapped, isForbidden c = false := by
  unfold mapDomain?
  rw [Option.filter_eq_some_iff, Option.map_eq_some_iff, Bool.not_eq_true', List.any_eq_false]
  simp only [Bool.not_eq_true, ← exists_and_right, and_assoc]

theorem allowed_of_mem_mapDomain? {cs mapped : List Char} (h : mapDomain? cs = some mapped) :
    ∀ c ∈ mapped, Allowed c := by
  obtain ⟨pieces, hpieces, rfl, hforbidden⟩ := mapDomain?_eq_some.1 h
  intro c hc
  refine ⟨hostStatus_of_mem_normalize (fun d hd => ?_) c hc, hforbidden c hc⟩
  obtain ⟨piece, hpiece, hd⟩ := List.mem_flatten.1 hd
  obtain ⟨e, -, he⟩ := exists_of_mem_mapM hpieces piece hpiece
  exact valid_of_mapChar? he hd

/-! ### Labels -/

/-- Whether a text is of ASCII characters only. -/
def IsAscii (cs : List Char) : Prop := cs.all (·.toNat < 0x80) = true

theorem closeLabel_of_isAscii {label : List Char} (h : IsAscii label) : closeLabel label = label :=
  if_pos h

theorem closeLabel_of_not_isAscii {label : List Char} (h : ¬ IsAscii label) :
    closeLabel label = "xn--".toList ++ Punycode.encode label :=
  if_neg h

/-- A label that has been checked, as it is written out. -/
structure OpenLabel (label : List Char) : Prop where
  allowed : ∀ c ∈ label, Allowed c
  point : '.' ∉ label
  normal : normalize label = label
  isLabel : isLabel label = true
  plain : IsAscii label → afterStart? "xn--".toList label = none

/-- A label whose Punycode is longer than what is read. -/
def IsLongLabel (label : List Char) : Prop :=
  ¬ IsAscii label ∧ maxPunycode < (Punycode.encode label).length

/-- A label is checked to be in the form of labels that are written out. -/
theorem openLabel_of_openLabel? {piece label : List Char} (h : openLabel? piece = some label)
    (hallowed : ∀ c ∈ piece, Allowed c) (hpoint : '.' ∉ piece)
    (hnormal : normalize piece = piece) : OpenLabel label := by
  unfold openLabel? at h
  cases hstart : afterStart? "xn--".toList piece with
  | none =>
    rw [hstart] at h
    dsimp only at h
    split at h
    · next hlabel =>
      obtain rfl := Option.some.inj h
      exact ⟨hallowed, hpoint, hnormal, hlabel, fun _ => hstart⟩
    · cases h
  | some code =>
    rw [hstart] at h
    dsimp only at h
    split at h
    · unfold decodeLabel? at h
      split at h
      · cases h
      · next hcode =>
        simp only [Bool.or_eq_true, not_or, decide_eq_true_eq, List.isEmpty_iff] at hcode
        obtain ⟨⟨hne, hlast⟩, -⟩ := hcode
        obtain ⟨found, hdecode, h⟩ := Option.bind_eq_some_iff.1 h
        split at h
        · next hchecks =>
          obtain rfl := Option.some.inj h
          simp only [Bool.and_eq_true, List.all_eq_true, decide_eq_true_eq,
            Bool.not_eq_true'] at hchecks
          obtain ⟨⟨hchars, hnormal⟩, hlabel⟩ := hchecks
          obtain ⟨c, hc, hge⟩ := Punycode.exists_ge_of_decode? hdecode hne hlast
          refine ⟨fun d hd => (hchars d hd).1, fun hd => (hchars _ hd).2 rfl, hnormal, hlabel, ?_⟩
          intro hascii
          have hlt := List.all_eq_true.1 hascii c hc
          simp only [decide_eq_true_eq] at hlt
          omega
        · cases h
    · cases h

theorem isPlain_digitOf {d : Nat} (h : d < 36) : IsPlain (Punycode.digitOf d).toNat := by
  have hall : ∀ d < 36, 0x30 ≤ (Punycode.digitOf d).toNat ∧ (Punycode.digitOf d).toNat ≤ 0x39 ∨
      0x61 ≤ (Punycode.digitOf d).toNat ∧ (Punycode.digitOf d).toNat ≤ 0x7A := by decide
  exact .inr (.inr (hall d h))

/-- A label in ASCII consists of allowed ASCII characters, none of them a point. -/
theorem OpenLabel.of_mem_closeLabel {label : List Char} (h : OpenLabel label) :
    ∀ c ∈ closeLabel label, Allowed c ∧ c.toNat < 0x80 ∧ c ≠ '.' := by
  intro c hc
  unfold closeLabel at hc
  split at hc
  · next hascii =>
    exact ⟨h.allowed c hc, by simpa using List.all_eq_true.1 hascii c hc,
      fun heq => h.point (heq ▸ hc)⟩
  · rcases List.mem_append.1 hc with hc | hc
    · have hstart : ∀ d ∈ "xn--".toList, IsPlain d.toNat ∧ d.toNat < 0x80 ∧ d ≠ '.' := by
        unfold IsPlain
        exact List.all_iff_forall_prop.1 (by decide)
      obtain ⟨hplain, hlt, hne⟩ := hstart c hc
      exact ⟨allowed_of_isPlain hplain, hlt, hne⟩
    · rcases Punycode.mem_encode hc with ⟨hc, hlt⟩ | rfl | ⟨d, hd, rfl⟩
      · exact ⟨h.allowed c hc, hlt, fun heq => h.point (heq ▸ hc)⟩
      · exact ⟨allowed_of_isPlain (.inl rfl), by decide, by decide⟩
      · have hpoint : ∀ d < 36, Punycode.digitOf d ≠ '.' ∧ (Punycode.digitOf d).toNat < 0x80 := by
          decide
        exact ⟨allowed_of_isPlain (isPlain_digitOf hd), (hpoint d hd).2, (hpoint d hd).1⟩

/-- The Punycode of a label is decoded, if it is not too long. -/
theorem OpenLabel.decodeLabel?_encode {label : List Char} (h : OpenLabel label)
    (hascii : ¬ IsAscii label) :
    decodeLabel? (Punycode.encode label) =
      if maxPunycode < (Punycode.encode label).length then none else some label := by
  obtain ⟨d, hd, hlast⟩ := Punycode.getLast?_encode hascii
  have hempty : (Punycode.encode label).isEmpty = false := by
    cases hcode : Punycode.encode label with
    | nil =>
      rw [hcode] at hlast
      cases hlast
    | cons c code => rfl
  have hhyphen : ((Punycode.encode label).getLast? = some '-') = False := by
    rw [hlast]
    simpa using Punycode.hyphen_ne_digitOf hd
  have hchecks :
      label.all (fun c => hostStatus c = .valid && !isForbidden c && c ≠ '.') = true := by
    refine List.all_eq_true.2 fun c hc => ?_
    obtain ⟨hvalid, hforbidden⟩ := h.allowed c hc
    have hne : c ≠ '.' := fun heq => h.point (heq ▸ hc)
    simp [hvalid, hforbidden, hne]
  unfold decodeLabel?
  simp only [hempty, hhyphen, decide_false, Bool.false_or, decide_eq_true_eq]
  split
  · rfl
  · rw [Punycode.decode?_encode, Option.bind_eq_bind, Option.bind_some, hchecks, h.normal,
      h.isLabel]
    simp

/-- The ASCII form of a label is read as the label, unless its Punycode is too long. -/
theorem OpenLabel.openLabel?_closeLabel {label : List Char} (h : OpenLabel label) :
    (¬ IsLongLabel label → openLabel? (closeLabel label) = some label) ∧
      (IsLongLabel label → openLabel? (closeLabel label) = none) := by
  by_cases hascii : IsAscii label
  · refine ⟨fun _ => ?_, fun hlong => absurd hascii hlong.1⟩
    rw [closeLabel_of_isAscii hascii, openLabel?, h.plain hascii]
    exact if_pos h.isLabel
  · have hcode : ∀ c ∈ Punycode.encode label, c.toNat < 0x80 := by
      intro c hc
      have hmem : c ∈ closeLabel label := by
        rw [closeLabel_of_not_isAscii hascii]
        exact List.mem_append_right _ hc
      exact (h.of_mem_closeLabel c hmem).2.1
    have hopen : openLabel? (closeLabel label) = decodeLabel? (Punycode.encode label) := by
      rw [closeLabel_of_not_isAscii hascii, openLabel?, afterStart?_append]
      exact if_pos (List.all_eq_true.2 fun c hc => decide_eq_true (hcode c hc))
    rw [hopen, h.decodeLabel?_encode hascii]
    exact ⟨fun hshort => if_neg fun hlt => hshort ⟨hascii, hlt⟩, fun hlong => if_pos hlong.2⟩

/-! ### Domains -/

/-- What the labels of a domain are, when it has been read. -/
theorem exists_labels {cs name : List Char} (h : domainToAscii? cs = some name) :
    ∃ mapped labels, mapDomain? cs = some mapped ∧
      (splitAll '.' mapped).mapM openLabel? = some labels ∧ labels ≠ [] ∧
      (∀ label ∈ labels, OpenLabel label) ∧
      (labels.any (·.any isRightToLeft) && !labels.all directionsAgree) = false ∧
      name = joinAll ['.'] (labels.map closeLabel) := by
  unfold domainToAscii? at h
  obtain ⟨mapped, hmapped, h⟩ := Option.bind_eq_some_iff.1 h
  obtain ⟨labels, hlabels, h⟩ := Option.bind_eq_some_iff.1 h
  split at h
  · cases h
  · next hdirections =>
    refine ⟨mapped, labels, hmapped, hlabels, ?_, fun label hlabel => ?_,
      by simpa using hdirections, (Option.some.inj h).symm⟩
    · rintro rfl
      have hlength := (mapM_eq_some_iff.1 hlabels).length_eq
      exact splitAll_ne_nil '.' mapped (List.eq_nil_of_length_eq_zero hlength)
    · obtain ⟨piece, hpiece, hopen⟩ := exists_of_mem_mapM hlabels label hlabel
      have hallowed := allowed_of_mem_mapDomain? hmapped
      obtain ⟨pieces, -, rfl, -⟩ := mapDomain?_eq_some.1 hmapped
      refine openLabel_of_openLabel? hopen (fun c hc => ?_) (fun hc => ?_)
        (normalize_of_mem_splitAll hpiece)
      · exact hallowed c (mem_of_mem_splitAll hpiece hc).1
      · exact (mem_of_mem_splitAll hpiece hc).2 rfl

/-- A text of allowed characters in normal form is mapped to itself. -/
theorem mapDomain?_of_allowed {cs : List Char} (h : ∀ c ∈ cs, Allowed c)
    (hnormal : normalize cs = cs) : mapDomain? cs = some cs := by
  have hmap : cs.mapM mapChar? = some (cs.map ([·])) :=
    mapM_eq_some_map fun c hc => mapChar?_of_valid (h c hc).1
  have hflatten : (cs.map ([·])).flatten = cs := by
    rw [← List.flatMap_def, List.flatMap_singleton']
  exact mapDomain?_eq_some.2 ⟨_, hmap, by rw [hflatten, hnormal], fun c hc => (h c hc).2⟩

theorem mapDomain?_of_ascii {cs : List Char} (h : ∀ c ∈ cs, Allowed c ∧ c.toNat < 0x80) :
    mapDomain? cs = some cs :=
  mapDomain?_of_allowed (fun c hc => (h c hc).1) (normalize_of_ascii fun c hc => (h c hc).2)

theorem allowed_of_mem_joinAll {labels : List (List Char)}
    (hlabels : ∀ label ∈ labels, OpenLabel label) :
    ∀ c ∈ joinAll ['.'] (labels.map closeLabel), Allowed c ∧ c.toNat < 0x80 := by
  intro c hc
  rcases mem_joinAll hc with hc | ⟨piece, hpiece, hc⟩
  · rw [List.mem_singleton.1 hc]
    exact ⟨allowed_of_isPlain (.inr (.inl rfl)), by decide⟩
  · obtain ⟨label, hlabel, rfl⟩ := List.mem_map.1 hpiece
    obtain ⟨hallowed, hlt, -⟩ := (hlabels label hlabel).of_mem_closeLabel c hc
    exact ⟨hallowed, hlt⟩

theorem splitAll_closed {labels : List (List Char)} (hne : labels ≠ [])
    (hlabels : ∀ label ∈ labels, OpenLabel label) :
    splitAll '.' (joinAll ['.'] (labels.map closeLabel)) = labels.map closeLabel := by
  refine splitAll_joinAll (by simpa using hne) fun piece hpiece hpoint => ?_
  obtain ⟨label, hlabel, rfl⟩ := List.mem_map.1 hpiece
  exact ((hlabels label hlabel).of_mem_closeLabel '.' hpoint).2.2 rfl

/-- The ASCII form of checked labels is read as it stands, unless one of them is too long. -/
theorem domainToAscii?_joinAll {labels : List (List Char)} (hne : labels ≠ [])
    (hlabels : ∀ label ∈ labels, OpenLabel label)
    (hdirections : (labels.any (·.any isRightToLeft) && !labels.all directionsAgree) = false) :
    ((∀ label ∈ labels, ¬ IsLongLabel label) →
      domainToAscii? (joinAll ['.'] (labels.map closeLabel)) =
        some (joinAll ['.'] (labels.map closeLabel))) ∧
    ((∃ label ∈ labels, IsLongLabel label) →
      domainToAscii? (joinAll ['.'] (labels.map closeLabel)) = none) := by
  have hread : domainToAscii? (joinAll ['.'] (labels.map closeLabel)) =
      ((labels.map closeLabel).mapM openLabel?).bind fun labels =>
        if labels.any (·.any isRightToLeft) && !labels.all directionsAgree then none
        else some (joinAll ['.'] (labels.map closeLabel)) := by
    rw [domainToAscii?, mapDomain?_of_ascii (allowed_of_mem_joinAll hlabels), Option.bind_eq_bind,
      Option.bind_some, splitAll_closed hne hlabels]
    rfl
  rw [hread]
  constructor
  · intro hshort
    have hopen : (labels.map closeLabel).mapM openLabel? = some labels := by
      rw [mapM_eq_some_iff, List.forall₂_map_left_iff, List.forall₂_same]
      exact fun label hlabel =>
        (hlabels label hlabel).openLabel?_closeLabel.1 (hshort label hlabel)
    rw [hopen, Option.bind_some, hdirections]
    rfl
  · rintro ⟨label, hlabel, hlong⟩
    cases hopen : (labels.map closeLabel).mapM openLabel? with
    | none => rfl
    | some found =>
      exfalso
      rw [mapM_eq_some_iff, List.forall₂_map_left_iff] at hopen
      obtain ⟨i, hi, rfl⟩ := List.mem_iff_getElem.1 hlabel
      have hget := hopen.get hi (hopen.length_eq ▸ hi)
      rw [List.get_eq_getElem, (hlabels _ hlabel).openLabel?_closeLabel.2 hlong] at hget
      cases hget

end NodeFleet.Url
