import NodeFleet.Instant
import Mathlib.Tactic.IntervalCases

/-!
# Days of the calendar

The day that is found for a number of days exists and lies that number of days after the first one.
Years are taken to begin in March: the day that only some of them have is then their last one. An
era is 400 such years, and its days are counted in centuries of 36524 days, cycles of 1461 and years
of 365, where the last year of a cycle and the last cycle of an era have a day more than that.
-/

namespace NodeFleet.Date

/-- A day of an era as a day of a year, of a cycle and of a century of it. -/
structure InEra (day century cycle year rest : Int) : Prop where
  day_eq : day = 36524 * century + 1461 * cycle + 365 * year + rest
  century_mem : 0 ≤ century ∧ century ≤ 3
  cycle_mem : 0 ≤ cycle ∧ cycle ≤ 24
  year_mem : 0 ≤ year ∧ year ≤ 3
  rest_mem : 0 ≤ rest ∧ rest ≤ 365
  year_of_leap : rest = 365 → year = 3
  century_of_leap : rest = 365 → cycle = 24 → century = 3

/-- The days of an era that come before a year of it. -/
def daysBefore (yearOfEra : Int) : Int := 365 * yearOfEra + yearOfEra / 4 - yearOfEra / 100

/-- The day of a year that begins in March; the next year is that of its January and February. -/
def ofMarch (year dayOfYear : Int) : Date :=
  let month := (5 * dayOfYear + 2) / 153
  let day := dayOfYear - (153 * month + 2) / 5 + 1
  if month < 10 then ⟨year, (month + 3).toNat, day.toNat⟩
  else ⟨year + 1, (month - 9).toNat, day.toNat⟩

section Era
variable {day century cycle year rest : Int}

theorem exists_inEra (hpos : 0 ≤ day) (hlt : day < 146097) :
    ∃ century cycle year rest, InEra day century cycle year rest := by
  by_cases hlast : day = 146096
  · exact ⟨3, 24, 3, 365, by omega, by omega, by omega, by omega, by omega, by omega, by omega⟩
  by_cases hfour : day % 36524 % 1461 = 1460
  · exact ⟨day / 36524, day % 36524 / 1461, 3, 365,
      by omega, by omega, by omega, by omega, by omega, by omega, by omega⟩
  · exact ⟨day / 36524, day % 36524 / 1461, day % 36524 % 1461 / 365, day % 36524 % 1461 % 365,
      by omega, by omega, by omega, by omega, by omega, by omega, by omega⟩

theorem InEra.centuries (h : InEra day century cycle year rest) :
    day / 36524 - day / 146096 = century := by
  obtain ⟨hday, ⟨_, _⟩, ⟨_, _⟩, ⟨_, _⟩, ⟨_, _⟩, hyear, hcentury⟩ := h
  by_cases hlast : day = 146096
  · subst hlast
    omega
  · have hlt : day / 146096 = 0 := by omega
    have hof : day / 36524 = century := by omega
    omega

/-- Without the days that the cycles have on top of four years, every year has 365 days. -/
theorem InEra.cycles (h : InEra day century cycle year rest) :
    ∃ place, day - day / 1460 + century = 365 * (100 * century + 4 * cycle + year) + place ∧
      0 ≤ place ∧ place < 365 := by
  obtain ⟨hday, ⟨_, _⟩, ⟨_, _⟩, ⟨_, _⟩, ⟨_, _⟩, hyear, hcentury⟩ := h
  by_cases hfew : 24 * century + cycle + (365 * year + rest) < 1460
  · have hquot : day / 1460 = 25 * century + cycle := by omega
    exact ⟨rest, by omega, by omega, by omega⟩
  · have hquot : day / 1460 = 25 * century + cycle + 1 := by omega
    exact ⟨rest - 1, by omega, by omega, by omega⟩

theorem InEra.yearOfEra (h : InEra day century cycle year rest) :
    (day - day / 1460 + day / 36524 - day / 146096) / 365 = 100 * century + 4 * cycle + year := by
  have hsum : day - day / 1460 + day / 36524 - day / 146096 = day - day / 1460 + century := by
    rw [← h.centuries]
    omega
  obtain ⟨place, hplace, hpos, hlt⟩ := h.cycles
  rw [hsum, hplace]
  omega

theorem InEra.daysBefore_eq (h : InEra day century cycle year rest) :
    day - daysBefore (100 * century + 4 * cycle + year) = rest := by
  obtain ⟨hday, ⟨_, _⟩, ⟨_, _⟩, ⟨_, _⟩, _, _, _⟩ := h
  have hfour : (100 * century + 4 * cycle + year) / 4 = 25 * century + cycle := by omega
  have hhundred : (100 * century + 4 * cycle + year) / 100 = century := by omega
  unfold daysBefore
  omega

/-- The last day of a year that has 366 is the one before March of a leap year. -/
theorem InEra.isLeapYear_eq (h : InEra day century cycle year rest) (era : Int)
    (hrest : rest = 365) :
    isLeapYear (400 * era + (100 * century + 4 * cycle + year) + 1) = true := by
  obtain ⟨_, ⟨_, _⟩, ⟨_, _⟩, ⟨_, _⟩, _, hyear, hcentury⟩ := h
  have hthree := hyear hrest
  have hlast := hcentury hrest
  subst hthree
  have hfour : (400 * era + (100 * century + 4 * cycle + 3) + 1) % 4 = 0 := by omega
  simp only [isLeapYear, hfour, beq_self_eq_true, Bool.true_and, Bool.or_eq_true, bne_iff_ne,
    beq_iff_eq]
  by_cases hcycle : cycle = 24
  · have := hlast hcycle
    subst hcycle
    right
    omega
  · left
    omega

end Era

section Year
variable {year dayOfYear : Int}

/-- The month of a day of a year, counted from March. -/
theorem month_mem (hpos : 0 ≤ dayOfYear) (hle : dayOfYear ≤ 365) :
    0 ≤ (5 * dayOfYear + 2) / 153 ∧ (5 * dayOfYear + 2) / 153 ≤ 11 := by
  constructor <;> omega

/-- The days of a year that begins in March exist, if its last day does. -/
theorem isValid_ofMarch (hpos : 0 ≤ dayOfYear) (hle : dayOfYear ≤ 365)
    (hleap : dayOfYear = 365 → isLeapYear (year + 1) = true) :
    (ofMarch year dayOfYear).isValid = true := by
  obtain ⟨hmonth, hmonth'⟩ := month_mem hpos hle
  have hlast : dayOfYear = 365 ∨ dayOfYear ≤ 364 := by omega
  unfold ofMarch
  generalize hm : (5 * dayOfYear + 2) / 153 = month at *
  interval_cases month
  case «11» =>
    rcases hlast with rfl | hle'
    · simp [isValid, daysInMonth, hleap rfl]
    · simp [isValid, daysInMonth]
      split <;> omega
  all_goals
    simp [isValid, daysInMonth]
    omega

theorem toDays_ofMarch (hpos : 0 ≤ dayOfYear) (hle : dayOfYear ≤ 365) :
    (ofMarch year dayOfYear).toDays
      = 365 * year + year / 4 - year / 100 + year / 400 + dayOfYear - daysToEpoch := by
  obtain ⟨hmonth, hmonth'⟩ := month_mem hpos hle
  have hday : 0 ≤ dayOfYear - (153 * ((5 * dayOfYear + 2) / 153) + 2) / 5 := by omega
  unfold ofMarch
  generalize hm : (5 * dayOfYear + 2) / 153 = month at *
  by_cases hlt : month < 10
  · have hof : ¬ (month + 3).toNat ≤ 2 := by omega
    simp only [hlt, if_true, toDays, hof, if_false]
    omega
  · have hof : (month - 9).toNat ≤ 2 := by omega
    simp only [hlt, toDays, hof, if_true, if_false]
    omega

end Year

theorem ofDays_eq (n : Int) :
    ∃ era century cycle year rest, InEra ((n + daysToEpoch) % 146097) century cycle year rest ∧
      n + daysToEpoch = 146097 * era + (n + daysToEpoch) % 146097 ∧
      ofDays n = ofMarch (400 * era + (100 * century + 4 * cycle + year)) rest := by
  obtain ⟨century, cycle, year, rest, h⟩ :=
    exists_inEra (Int.emod_nonneg (n + daysToEpoch) (by decide)) (Int.emod_lt_of_pos _ (by decide))
  refine ⟨(n + daysToEpoch) / 146097, century, cycle, year, rest, h, by omega, ?_⟩
  have hrest := h.daysBefore_eq
  unfold daysBefore at hrest
  simp only [ofDays, ofMarch, h.yearOfEra, hrest]

/-- The day found for a number of days exists. -/
theorem isValid_ofDays (n : Int) : (ofDays n).isValid = true := by
  obtain ⟨era, century, cycle, year, rest, h, -, hof⟩ := ofDays_eq n
  rw [hof]
  exact isValid_ofMarch h.rest_mem.1 h.rest_mem.2 (h.isLeapYear_eq era)

/-- The day found for a number of days lies that number of days after the first one. -/
theorem toDays_ofDays (n : Int) : (ofDays n).toDays = n := by
  obtain ⟨era, century, cycle, year, rest, h, hera, hof⟩ := ofDays_eq n
  have hbefore := h.daysBefore_eq
  have hcentury := h.century_mem
  have hcycle := h.cycle_mem
  have hyear := h.year_mem
  rw [hof, toDays_ofMarch h.rest_mem.1 h.rest_mem.2]
  unfold daysBefore at hbefore
  omega

end NodeFleet.Date
