import NodeFleet.Proofs.HostName

/-!
# Labels of ideographs

Ideographs of the supplementary plane are valid starters that nothing is composed with, and are
written from left to right. So a label of them is read as it stands, unless it is too long.
-/

namespace NodeFleet.Unicode

open Text

/-- The code points of the first block of supplementary ideographs. -/
def IsIdeograph (n : Nat) : Prop := 0x20000 ≤ n ∧ n ≤ 0x2A6DF

variable {c : Char}

theorem hostStatus_ideograph (h : IsIdeograph c.toNat) : hostStatus c = .valid := by
  have hall : (validSet >>> 0x20000) % 2 ^ 42720 = 2 ^ 42720 - 1 := by decide +kernel
  exact hostStatus_of_range hall h.1 (Nat.lt_succ_of_le h.2)

/-- The table of composites ends before the ideographs. -/
theorem lt_of_mem_compositionRows :
    ∀ row ∈ compositionRows, row.1 < 0x20000 ∧ row.2.2 < 0x20000 := by decide +kernel

theorem isPart_ideograph (h : IsIdeograph c.toNat) : IsPart c := by
  have hbase : hangulBase = 0xAC00 := rfl
  refine ⟨fun hs => ?_, fun e he heq => ?_⟩
  · have := hs.2
    have := h.1
    omega
  · have hlt := (lt_of_mem_compositionRows _ (exists_row he)).1
    rw [heq] at hlt
    exact Nat.not_le_of_lt hlt h.1

theorem compose?_ideograph (h : IsIdeograph c.toNat) (s : Char) : compose? s c = none := by
  cases hcompose : compose? s c with
  | none => rfl
  | some d =>
    exfalso
    have hge := h.1
    rcases composeHangul?_or_isComposite hcompose with hhangul | ⟨e, he, -, rfl, -⟩
    · unfold composeHangul? at hhangul
      dsimp only at hhangul
      split at hhangul
      · next hrange =>
        simp only [Bool.and_eq_true, decide_eq_true_eq] at hrange
        omega
      split at hhangul
      · next hrange =>
        simp only [Bool.and_eq_true, decide_eq_true_eq] at hrange
        omega
      · cases hhangul
    · exact Nat.not_le_of_lt (lt_of_mem_compositionRows _ (exists_row he)).2 hge

theorem combiningClass_ideograph (h : IsIdeograph c.toNat) : combiningClass c = 0 := by
  have hrun : boundsUpTo 0x20000 (runningTotals 0 (combiningRuns.dropLast.map (·.1))) =
      boundsUpTo 0x2A6DF (runningTotals 0 (combiningRuns.dropLast.map (·.1))) := by decide +kernel
  have hvalue : (combiningRuns.map (·.2)).getD
      (boundsUpTo 0x20000 (runningTotals 0 (combiningRuns.dropLast.map (·.1)))) 0 = 0 := by
    decide +kernel
  rw [combiningClass, combiningClasses, RunMap.get_ofRuns_bounds,
    boundsUpTo_of_between h.1 h.2 hrun, hvalue]

theorem direction_ideograph (h : IsIdeograph c.toNat) : direction c = .leftToRight := by
  have hrun : boundsUpTo 0x20000 (runningTotals 0 (directionRuns.dropLast.map (·.1))) =
      boundsUpTo 0x2A6DF (runningTotals 0 (directionRuns.dropLast.map (·.1))) := by decide +kernel
  have hvalue : (directionRuns.map (·.2)).getD
      (boundsUpTo 0x20000 (runningTotals 0 (directionRuns.dropLast.map (·.1)))) 0 = 1 := by
    decide +kernel
  have hget : directions.get c.toNat = 1 := by
    rw [directions, RunMap.get_ofRuns_bounds, boundsUpTo_of_between h.1 h.2 hrun, hvalue]
  rw [direction, hget]
  rfl

theorem marks_ideograph {n : Nat} (h : IsIdeograph n) : marks.contains n = false := by
  have hrun : boundsUpTo 0x20000 (runningTotals 0 markLengths) =
      boundsUpTo 0x2A6DF (runningTotals 0 markLengths) := by decide +kernel
  have hvalue : (boundsUpTo 0x20000 (runningTotals 0 markLengths) % 2 == 1) = false := by
    decide +kernel
  rw [marks, RunTable.contains_ofLengths, boundsUpTo_of_between h.1 h.2 hrun, hvalue]

end NodeFleet.Unicode

namespace NodeFleet.Url

open Text Unicode

variable {label : List Char}

theorem joinersFit_of_ideographs (h : ∀ c ∈ label, IsIdeograph c.toNat) (before : List Char) :
    joinersFit before label = true := by
  induction label generalizing before with
  | nil => rfl
  | cons c label ih =>
    obtain ⟨hc, hrest⟩ := List.forall_mem_cons.1 h
    have hge := hc.1
    rw [joinersFit, if_neg (by omega), ih hrest]
    rfl

theorem not_mem_of_ideographs (h : ∀ c ∈ label, IsIdeograph c.toNat) {d : Char}
    (hd : d.toNat < 0x80) : d ∉ label := fun hmem => by
  have hge := (h d hmem).1
  omega

/-- A label of ideographs is in the form of labels that are written out. -/
theorem openLabel_of_ideographs (h : ∀ c ∈ label, IsIdeograph c.toNat)
    (hlength : label.length ≤ maxLabel) : OpenLabel label where
  allowed c hc := by
    have hge := (h c hc).1
    exact ⟨hostStatus_ideograph (h c hc), isForbidden_of_ge (by omega)⟩
  point := not_mem_of_ideographs h (by decide)
  normal := normalize_of_starters fun c hc =>
    ⟨isPart_ideograph (h c hc), combiningClass_ideograph (h c hc), compose?_ideograph (h c hc)⟩
  isLabel := by
    unfold isLabel
    rw [joinersFit_of_ideographs h, decide_eq_true hlength]
    cases label with
    | nil => rfl
    | cons c label => simp [marks_ideograph (h c List.mem_cons_self)]
  plain _ := afterStart?_of_not_mem (by decide : 'x' ∈ "xn--".toList)
    (not_mem_of_ideographs h (by decide))

/-- A label of ideographs has an ASCII form as a domain. -/
theorem domainToAscii?_of_ideographs (h : ∀ c ∈ label, IsIdeograph c.toNat)
    (hlength : label.length ≤ maxLabel) : domainToAscii? label = some (closeLabel label) := by
  have hopen := openLabel_of_ideographs h hlength
  have hmapped : mapDomain? label = some label :=
    mapDomain?_of_allowed hopen.allowed hopen.normal
  have hstart : afterStart? "xn--".toList label = none :=
    afterStart?_of_not_mem (by decide : 'x' ∈ "xn--".toList)
      (not_mem_of_ideographs h (by decide))
  have hread : openLabel? label = some label := by
    rw [openLabel?, hstart]
    exact if_pos hopen.isLabel
  have hdirection : [label].any (·.any isRightToLeft) = false := by
    rw [List.any_cons, List.any_nil, Bool.or_false, List.any_eq_false]
    intro c hc
    rw [isRightToLeft, direction_ideograph (h c hc)]
    exact Bool.false_ne_true
  have hlabels : [label].mapM openLabel? = some [label] := by
    rw [List.mapM_cons, hread]
    rfl
  rw [domainToAscii?, hmapped, Option.bind_eq_bind, Option.bind_some,
    splitAll_of_not_mem hopen.point, hlabels, Option.bind_eq_bind, Option.bind_some, hdirection]
  rfl

theorem not_isAscii_of_ideographs (h : ∀ c ∈ label, IsIdeograph c.toNat) (hne : label ≠ []) :
    ¬ IsAscii label := by
  intro hascii
  obtain ⟨c, rest, rfl⟩ := List.exists_cons_of_ne_nil hne
  have hlt := List.all_eq_true.1 hascii c List.mem_cons_self
  have hge := (h c List.mem_cons_self).1
  simp only [decide_eq_true_eq] at hlt
  omega

/-- Punycode after its mark is one label, and no number. -/
theorem not_endsInNumber_of_xn {code : List Char} (h : '.' ∉ code) :
    Host.endsInNumber ("xn--".toList ++ code) = false := by
  have hstart : "xn--".toList = ['x', 'n', '-', '-'] := by decide
  have hpoint : '.' ∉ "xn--".toList ++ code := by
    rw [List.mem_append, not_or]
    exact ⟨by decide, h⟩
  rw [Host.endsInNumber, Host.labels, splitAll_of_not_mem hpoint, hstart]
  rfl

/-- The Punycode of ideographs is one label. -/
theorem point_not_mem_encode (h : ∀ c ∈ label, IsIdeograph c.toNat) (hne : label ≠ [])
    (hlength : label.length ≤ maxLabel) : '.' ∉ Punycode.encode label := fun hmem => by
  have hclosed : '.' ∈ closeLabel label := by
    rw [closeLabel_of_not_isAscii (not_isAscii_of_ideographs h hne)]
    exact List.mem_append_right _ hmem
  exact ((openLabel_of_ideographs h hlength).of_mem_closeLabel '.' hclosed).2.2 rfl

/-- A host of ideographs is read as a domain in Punycode. -/
theorem Host.read?_of_ideographs (h : ∀ c ∈ label, IsIdeograph c.toNat) (hne : label ≠ [])
    (hlength : label.length ≤ maxLabel) :
    Host.read? label = some (.domain ("xn--".toList ++ Punycode.encode label)) := by
  have hhead : label.head? ≠ some '[' := fun hhead =>
    not_mem_of_ideographs h (by decide : '['.toNat < 0x80) (List.mem_of_mem_head? hhead)
  have hpercent : '%' ∉ label := not_mem_of_ideographs h (by decide)
  have hempty : ("xn--".toList ++ Punycode.encode label).isEmpty = false := rfl
  rw [Host.read?_of_not_mem hhead hpercent, domainToAscii?_of_ideographs h hlength,
    closeLabel_of_not_isAscii (not_isAscii_of_ideographs h hne), Option.bind_some, hempty,
    not_endsInNumber_of_xn (point_not_mem_encode h hne hlength)]
  rfl

end NodeFleet.Url
