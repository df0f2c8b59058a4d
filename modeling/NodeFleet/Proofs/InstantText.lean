import NodeFleet.Proofs.Calendar
import NodeFleet.Proofs.Digits

/-!
# The text of an instant

Reading the text of an instant gives the instant back, to the nanosecond and also within a leap
second.
-/

namespace NodeFleet.Text

/-- The digits of `padNat`. -/
def padded (width n : Nat) : List Char :=
  List.replicate (width - (Nat.toDigits 10 n).length) '0' ++ Nat.toDigits 10 n

theorem toList_padNat (width n : Nat) : (padNat width n).toList = padded width n :=
  String.toList_ofList

theorem padded_one {n : Nat} (h : n < 10) : padded 1 n = [Nat.digitChar n] := by
  rw [padded, Nat.toDigits_of_lt_base h]
  rfl

/-- A further place takes the last digit. -/
theorem padded_succ {width : Nat} (hwidth : 1 ≤ width) (n : Nat) :
    padded (width + 1) n = padded width (n / 10) ++ [Nat.digitChar (n % 10)] := by
  by_cases hn : n < 10
  · obtain ⟨width, rfl⟩ : ∃ w, width = w + 1 := ⟨width - 1, by omega⟩
    have hzero : n / 10 = 0 := by omega
    rw [padded, padded, hzero, Nat.toDigits_of_lt_base hn, Nat.mod_eq_of_lt hn,
      Nat.toDigits_of_lt_base (by decide)]
    simp only [List.length_singleton, Nat.add_sub_cancel, List.replicate_succ']
    rfl
  · have hlength : (Nat.toDigits 10 n).length = (Nat.toDigits 10 (n / 10)).length + 1 := by
      rw [Nat.toDigits_of_base_le (by decide) (by omega), List.length_append, List.length_singleton]
    rw [padded, padded, hlength, Nat.add_sub_add_right, List.append_assoc,
      ← Nat.toDigits_of_base_le (by decide) (by omega)]

theorem mem_padded {width n : Nat} {c : Char} (h : c ∈ padded width n) :
    ∃ d < 10, c = Nat.digitChar d := by
  rcases List.mem_append.1 h with h | h
  · exact ⟨0, by decide, (List.mem_replicate.1 h).2⟩
  · exact mem_toDigits (by decide) h

end NodeFleet.Text

namespace NodeFleet

theorem daysInMonth_le (year : Int) (month : Nat) : daysInMonth year month ≤ 31 := by
  unfold daysInMonth
  split
  · split <;> decide
  · split <;> decide

namespace Instant

open Text

theorem takeDigits_digitChar {d : Nat} (h : d < 10) (value count : Nat) (cs : List Char) :
    takeDigits value (count + 1) (Nat.digitChar d :: cs) =
      takeDigits (10 * value + d) count cs := by
  rw [takeDigits, digit?_digitChar h]

theorem takeFraction_digitChar {d : Nat} (h : d < 10) (value unit : Nat) (cs : List Char) :
    takeFraction value unit (Nat.digitChar d :: cs) =
      takeFraction (value + d * unit) (unit / 10) cs := by
  rw [takeFraction, digit?_digitChar h]

/-- As many digits as the number is filled up to lead to the number, whatever follows. -/
theorem takeDigits_padded_add {width n : Nat} (hwidth : 1 ≤ width) (hn : n < 10 ^ width)
    (count : Nat) (cs : List Char) :
    takeDigits 0 (width + count) (padded width n ++ cs) = takeDigits n count cs := by
  induction width, hwidth using Nat.le_induction generalizing n count cs with
  | base =>
    rw [padded_one hn, Nat.add_comm]
    simp [takeDigits_digitChar hn]
  | succ width hwidth ih =>
    rw [padded_succ hwidth, List.append_assoc, Nat.add_assoc, Nat.add_comm 1,
      ih (by rw [Nat.pow_succ] at hn; omega), List.singleton_append,
      takeDigits_digitChar (Nat.mod_lt n (by decide)), Nat.div_add_mod]

theorem takeDigits_padded (width : Nat) {n : Nat} (hwidth : 1 ≤ width) (hn : n < 10 ^ width)
    (cs : List Char) : takeDigits 0 width (padded width n ++ cs) = some (n, cs) := by
  have hread := takeDigits_padded_add hwidth hn 0 cs
  rwa [Nat.add_zero, takeDigits] at hread

/-- The digits of a fraction count as a multiple of the weight of the last one. -/
theorem takeFraction_padded {width n : Nat} (hwidth : 1 ≤ width) (hn : n < 10 ^ width)
    (unit : Nat) (cs : List Char) :
    takeFraction 0 (10 ^ (width - 1) * unit) (padded width n ++ cs)
      = takeFraction (n * unit) (unit / 10) cs := by
  induction width, hwidth using Nat.le_induction generalizing n unit cs with
  | base =>
    rw [padded_one hn]
    simp [takeFraction_digitChar hn]
  | succ width hwidth ih =>
    have hunit : 10 ^ (width + 1 - 1) * unit = 10 ^ (width - 1) * (10 * unit) := by
      obtain ⟨width, rfl⟩ : ∃ w, width = w + 1 := ⟨width - 1, by omega⟩
      simp only [Nat.add_sub_cancel, Nat.pow_succ, Nat.mul_assoc]
    have hsum : n / 10 * (10 * unit) + n % 10 * unit = n * unit := by
      rw [← Nat.mul_assoc, ← Nat.add_mul, Nat.mul_comm _ 10, Nat.div_add_mod]
    rw [padded_succ hwidth, List.append_assoc, hunit,
      ih (by rw [Nat.pow_succ] at hn; omega), List.singleton_append,
      takeFraction_digitChar (Nat.mod_lt n (by decide)), Nat.mul_div_cancel_left unit (by decide),
      hsum]

theorem readFraction_padded {width n : Nat} (unit : Nat) (hwidth : 1 ≤ width) (hn : n < 10 ^ width)
    (hunit : 10 ^ (width - 1) * unit = 100000000) (cs : List Char) :
    readFraction ('.' :: (padded width n ++ '+' :: cs)) = some (n * unit, '+' :: cs) := by
  have hread : takeFraction 0 100000000 (padded width n ++ '+' :: cs) = (n * unit, '+' :: cs) := by
    rw [← hunit, takeFraction_padded hwidth hn]
    rfl
  cases hdigits : padded width n with
  | nil => exact absurd (List.append_eq_nil_iff.1 hdigits).2 Nat.toDigits_ne_nil
  | cons c digits =>
    obtain ⟨d, hd, rfl⟩ := mem_padded (hdigits ▸ List.mem_cons_self)
    rw [hdigits, List.cons_append] at hread
    rw [List.cons_append, readFraction, digit?_digitChar hd, hread]
    rfl

/-- A fraction is read as it is written, in whichever number of digits. -/
theorem readFraction_fractionText {nano : Nat} (h : nano < nanosPerSecond) (cs : List Char) :
    readFraction ((fractionText nano).toList ++ '+' :: cs) = some (nano, '+' :: cs) := by
  have hlt : nano < 1000000000 := h
  have hpoint (digits : String) : ("." ++ digits).toList = '.' :: digits.toList :=
    String.toList_append
  unfold fractionText
  split
  · next hzero =>
    subst hzero
    rfl
  split
  · next hmilli =>
    rw [hpoint, toList_padNat, List.cons_append,
      readFraction_padded 1000000 (by decide) (by omega) rfl,
      Nat.div_mul_cancel (Nat.dvd_of_mod_eq_zero hmilli)]
  split
  · next hmicro =>
    rw [hpoint, toList_padNat, List.cons_append,
      readFraction_padded 1000 (by decide) (by omega) rfl,
      Nat.div_mul_cancel (Nat.dvd_of_mod_eq_zero hmicro)]
  · rw [hpoint, toList_padNat, List.cons_append,
      readFraction_padded 1 (by decide) hlt rfl, Nat.mul_one]

theorem yearText_eq {year : Nat} (h : year ≤ 9999) : yearText year = padNat 4 year := by
  unfold yearText
  rw [if_pos (by omega), if_pos (by omega), Int.toNat_natCast]

/-- An instant whose text has four digits for the year. A leap second is the last of its minute. -/
structure Writable (t : Instant) : Prop where
  year : 0 ≤ (Date.ofDays (t.second / secondsPerDay)).year ∧
    (Date.ofDays (t.second / secondsPerDay)).year ≤ 9999
  nano : t.nano < nanosPerSecond ∨ t.nano < 2 * nanosPerSecond ∧ t.second % 60 = 59

/-- The parts of a text in universal time are read as they are written. -/
theorem ofText?_of_parts {s : String} {date : Date} {year hour minute second nano : Nat}
    (hs : s.toList = padded 4 year ++ '-' :: (padded 2 date.month ++ '-' :: (padded 2 date.day ++
      'T' :: (padded 2 hour ++ ':' :: (padded 2 minute ++ ':' :: (padded 2 second ++
        ((fractionText nano).toList ++ "+00:00".toList)))))))
    (hyear : date.year = year) (hle : year ≤ 9999) (hdate : date.isValid = true) (hhour : hour ≤ 23)
    (hminute : minute ≤ 59) (hsecond : second ≤ 60) (hnano : nano < nanosPerSecond) :
    ofText? s = some ⟨date.toDays * secondsPerDay
        + (3600 * hour + 60 * minute + (second - second / 60) : Nat),
      nano + second / 60 * nanosPerSecond⟩ := by
  obtain ⟨_, month, day⟩ := date
  subst hyear
  have hplaces : month < 10 ^ 2 ∧ day < 10 ^ 2 := by
    have hdays := daysInMonth_le year month
    simp only [Date.isValid, Bool.and_eq_true, decide_eq_true_eq] at hdate
    omega
  have hfraction : readFraction ((fractionText nano).toList ++ "+00:00".toList)
      = some (nano, "+00:00".toList) := readFraction_fractionText hnano "00:00".toList
  have hoffset : readOffset "+00:00".toList = some (0, []) := rfl
  have hmark : isTimeMark 'T' = true := rfl
  -- the text is read part by part, each part leaving the ones after it
  have hstep {α β : Type} {x : Option α} {y : α} {next : α → Option β} {z : β} (h : x = some y)
      (hnext : next y = some z) : (x >>= next) = some z :=
    Option.bind_eq_some_iff.2 ⟨y, h, hnext⟩
  unfold ofText?
  rw [hs]
  apply hstep (takeDigits_padded 4 (by decide) (by omega : year < 10 ^ 4) _)
  apply hstep rfl
  apply hstep (takeDigits_padded 2 (by decide) hplaces.1 _)
  apply hstep rfl
  apply hstep (takeDigits_padded 2 (by decide) hplaces.2 _)
  dsimp only
  rw [hmark]
  apply hstep (takeDigits_padded 2 (by decide) (by omega : hour < 10 ^ 2) _)
  apply hstep rfl
  apply hstep (takeDigits_padded 2 (by decide) (by omega : minute < 10 ^ 2) _)
  apply hstep rfl
  apply hstep (takeDigits_padded 2 (by decide) (by omega : second < 10 ^ 2) _)
  apply hstep hfraction
  apply hstep hoffset
  simp [hdate, hhour, hminute, hsecond]

/-- The second of the day of an instant, and the nanoseconds without the second that a leap second
has on top. -/
theorem Writable.exists_parts {t : Instant} (h : t.Writable) :
    ∃ ofDay leap nano : Nat, t.second = t.second / secondsPerDay * secondsPerDay + ofDay ∧
      t.secondOfDay.toNat = ofDay ∧ ofDay < 86400 ∧
      (if nanosPerSecond ≤ t.nano then 1 else 0) = leap ∧ t.nano - leap * nanosPerSecond = nano ∧
      t.nano = nano + leap * nanosPerSecond ∧ nano < nanosPerSecond ∧
      (leap = 0 ∨ leap = 1 ∧ ofDay % 60 = 59) := by
  obtain ⟨ofDay, hofDay⟩ : ∃ n : Nat, t.second % 86400 = n :=
    Int.eq_ofNat_of_zero_le (Int.emod_nonneg _ (by decide))
  have hsecond : t.secondOfDay = ofDay := hofDay
  have hday : ofDay < 86400 ∧ t.second = t.second / 86400 * 86400 + ofDay := by omega
  by_cases hleap : nanosPerSecond ≤ t.nano
  · obtain hlt | ⟨hlt, hminute⟩ := h.nano
    · omega
    refine ⟨ofDay, 1, t.nano - nanosPerSecond, hday.2, by rw [hsecond]; rfl, hday.1, if_pos hleap,
      by omega, by omega, by omega, .inr ⟨rfl, ?_⟩⟩
    omega
  · exact ⟨ofDay, 0, t.nano, hday.2, by rw [hsecond]; rfl, hday.1, if_neg hleap, by omega, by omega,
      by omega, .inl rfl⟩

/-- Reading the text of an instant gives the instant back. -/
theorem ofText?_toText {t : Instant} (h : t.Writable) : ofText? t.toText = some t := by
  have hdate := Date.isValid_ofDays (t.second / secondsPerDay)
  have hdays := Date.toDays_ofDays (t.second / secondsPerDay)
  obtain ⟨year, hyear⟩ := Int.eq_ofNat_of_zero_le h.year.1
  have hle : year ≤ 9999 := by
    have hyear' := h.year.2
    omega
  obtain ⟨ofDay, leap, nano, hsecond, hofDay, hlt, hleap, hrest, hnano, hsmall, hminute⟩ :=
    h.exists_parts
  have htext : t.toText.toList = padded 4 year ++ '-' ::
      (padded 2 (Date.ofDays (t.second / secondsPerDay)).month ++ '-' ::
      (padded 2 (Date.ofDays (t.second / secondsPerDay)).day ++ 'T' :: (padded 2 (ofDay / 3600) ++
      ':' :: (padded 2 (ofDay / 60 % 60) ++ ':' :: (padded 2 (ofDay % 60 + leap) ++
        ((fractionText nano).toList ++ "+00:00".toList)))))) := by
    simp only [toText, hyear, yearText_eq hle, hofDay, hleap, hrest, String.toList_append,
      toList_padNat, List.append_assoc]
    rfl
  have hwhole : (ofDay % 60 + leap) / 60 = leap := by omega
  have hclock : 3600 * (ofDay / 3600) + 60 * (ofDay / 60 % 60) + (ofDay % 60 + leap - leap)
      = ofDay := by omega
  rw [ofText?_of_parts htext hyear hle hdate (by omega) (by omega) (by omega) hsmall, hdays, hwhole,
    hclock, ← hsecond, ← hnano]

end Instant

end NodeFleet
