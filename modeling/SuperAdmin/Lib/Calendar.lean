import Mathlib.Algebra.Group.Int.Defs
import Mathlib.Order.Lattice

/-! # The Gregorian calendar

Dates of the proleptic Gregorian calendar and the number of a day, counted from 1 January 1970.  A year is
counted from March, so that a leap day is its last; `ofDayNumber` takes a number apart into periods of 400,
100, 4 and 1 years, and gives every date back (`ofDayNumber_dayNumber`). -/

namespace Calendar

/-- A year with a 29 February. -/
def Leap (year : ℤ) : Prop := year % 4 = 0 ∧ (year % 100 ≠ 0 ∨ year % 400 = 0)

instance (year : ℤ) : Decidable (Leap year) := inferInstanceAs (Decidable (_ ∧ _))

/-- The days of a month. -/
def daysIn (year : ℤ) (month : ℕ) : ℕ :=
  if month = 2 then if Leap year then 29 else 28
  else if month = 4 ∨ month = 6 ∨ month = 9 ∨ month = 11 then 30 else 31

theorem daysIn_le (year : ℤ) (month : ℕ) : daysIn year month ≤ 31 := by
  unfold daysIn
  split
  · split <;> decide
  · split <;> decide

/-- A date of the calendar. -/
@[ext] structure Date where
  year : ℤ
  month : ℕ
  day : ℕ
  month_pos : 1 ≤ month
  month_le : month ≤ 12
  day_pos : 1 ≤ day
  day_le : day ≤ daysIn year month

/-! ### Years from March -/

/-- The first day of a month of a year from March, counted from zero. -/
def monthStart (m : ℤ) : ℤ := (153 * m + 2) / 5

/-- The first day of a year from March, counted from that of year zero. -/
def yearStart (y : ℤ) : ℤ := 365 * y + y / 4 - y / 100 + y / 400

/-- The days from 1 March of year zero to 1 January 1970. -/
def epoch : ℤ := 719468

/-- The number of a day, for any year, month and day. -/
def dayNumber (year : ℤ) (month day : ℕ) : ℤ :=
  let y : ℤ := if month ≤ 2 then year - 1 else year
  let m : ℤ := if month ≤ 2 then month + 9 else month - 3
  yearStart y + (monthStart m + day - 1) - epoch

/-- The year from March of a day, and the day within it. -/
def splitYear (z : ℤ) : ℤ × ℤ :=
  let inEra := z % 146097
  let century := min 3 (inEra / 36524)
  let inCentury := inEra - 36524 * century
  let inCycle := inCentury % 1461
  let year := min 3 (inCycle / 365)
  (400 * (z / 146097) + 100 * century + 4 * (inCentury / 1461) + year, inCycle - 365 * year)

/-- The year, month and day of a number. -/
def ofDayNumber (n : ℤ) : ℤ × ℕ × ℕ :=
  let (y, dayOfYear) := splitYear (n + epoch)
  let m := (5 * dayOfYear + 2) / 153
  let month := if m < 10 then m + 3 else m - 9
  (if month ≤ 2 then y + 1 else y, month.toNat, (dayOfYear - monthStart m + 1).toNat)

/-- A year from March ends with a leap day exactly if the next one is a leap year, so the periods of 400,
100, 4 and 1 years that a day lies in can be read off its number. -/
theorem splitYear_yearStart {y dayOfYear : ℤ} (hnonneg : 0 ≤ dayOfYear) (hle : dayOfYear ≤ 365)
    (hleap : dayOfYear = 365 → Leap (y + 1)) : splitYear (yearStart y + dayOfYear) = (y, dayOfYear) := by
  obtain ⟨e, c, q, a, rfl, hc, hq, ha⟩ : ∃ e c q a : ℤ, y = 400 * e + 100 * c + 4 * q + a ∧
      (0 ≤ c ∧ c ≤ 3) ∧ (0 ≤ q ∧ q ≤ 24) ∧ (0 ≤ a ∧ a ≤ 3) :=
    ⟨y / 400, y % 400 / 100, y % 100 / 4, y % 4, by omega, by omega, by omega, by omega⟩
  have hstart : yearStart (400 * e + 100 * c + 4 * q + a) = 146097 * e + (36524 * c + (1461 * q + 365 * a)) := by
    unfold yearStart
    omega
  -- the last day of a period is a leap day only where the period is the last of its kind
  have hyear : dayOfYear = 365 → a = 3 := fun h => by
    have := (hleap h).1
    omega
  have hcentury : dayOfYear = 365 → q = 24 → c = 3 := fun h hlast => by
    have := (hleap h).2
    have := hyear h
    omega
  have hera : (146097 * e + (36524 * c + (1461 * q + 365 * a)) + dayOfYear) / 146097 = e := by omega
  have hin : (146097 * e + (36524 * c + (1461 * q + 365 * a)) + dayOfYear) % 146097 =
      36524 * c + (1461 * q + 365 * a + dayOfYear) := by omega
  have hc' : min 3 ((36524 * c + (1461 * q + 365 * a + dayOfYear)) / 36524) = c := by omega
  have hq' : (1461 * q + 365 * a + dayOfYear) / 1461 = q := by omega
  have hrest : 36524 * c + (1461 * q + 365 * a + dayOfYear) - 36524 * c = 1461 * q + 365 * a + dayOfYear := by
    omega
  have hcycle : (1461 * q + 365 * a + dayOfYear) % 1461 = 365 * a + dayOfYear := by omega
  have ha' : min 3 ((365 * a + dayOfYear) / 365) = a := by omega
  rw [hstart, splitYear, hera, hin]
  simp only [hc', hrest, hq', hcycle, ha']
  rw [show 365 * a + dayOfYear - 365 * a = dayOfYear by omega]

/-- The month that a day of a year lies in. -/
theorem month_eq {m day : ℤ} (hpos : 1 ≤ day) (hle : monthStart m + day ≤ monthStart (m + 1)) :
    (5 * (monthStart m + day - 1) + 2) / 153 = m := by
  unfold monthStart at hle ⊢
  omega

namespace Date

variable (d : Date)

/-- The month, counted from March. -/
def fromMarch : ℤ := if d.month ≤ 2 then d.month + 9 else d.month - 3

theorem fromMarch_bounds : 0 ≤ d.fromMarch ∧ d.fromMarch ≤ 11 := by
  have := d.month_pos
  have := d.month_le
  unfold fromMarch
  split <;> omega

/-- A month that is not February ends where the next one starts. -/
theorem daysIn_fromMarch (h : d.month ≠ 2) :
    monthStart d.fromMarch + daysIn d.year d.month = monthStart (d.fromMarch + 1) := by
  have hmonth : d.month ∈ [1, 3, 4, 5, 6, 7, 8, 9, 10, 11, 12] := by
    have := d.month_pos
    have := d.month_le
    simp only [List.mem_cons, List.not_mem_nil, or_false]
    omega
  unfold fromMarch daysIn
  rw [if_neg h]
  clear h
  generalize d.month = month at hmonth
  revert month
  decide

/-- The days of a year from March before a date: the last of them is a leap day. -/
theorem day_in_month : monthStart d.fromMarch + d.day ≤ monthStart (d.fromMarch + 1) ∧
    (monthStart d.fromMarch + d.day ≤ 365 ∨
      d.month = 2 ∧ Leap d.year ∧ monthStart d.fromMarch + d.day = 366) := by
  obtain ⟨hlow, hhigh⟩ := d.fromMarch_bounds
  have hday := d.day_le
  by_cases hfeb : d.month = 2
  · have hm : d.fromMarch = 11 := by
      unfold fromMarch
      rw [hfeb]
      rfl
    unfold daysIn at hday
    rw [if_pos hfeb] at hday
    rw [hm, show monthStart 11 = 337 from rfl, show monthStart (11 + 1) = 367 from rfl]
    by_cases hleap : Leap d.year
    · rw [if_pos hleap] at hday
      simp only [hfeb, hleap, true_and]
      omega
    · rw [if_neg hleap] at hday
      omega
  · have hend := d.daysIn_fromMarch hfeb
    have hne : d.fromMarch ≠ 11 := by
      have := d.month_le
      unfold fromMarch
      split <;> omega
    unfold monthStart at hend ⊢
    omega

/-- The number of the day. -/
def toDayNumber : ℤ := dayNumber d.year d.month d.day

/-- Every date is read back from its number. -/
theorem ofDayNumber_toDayNumber : ofDayNumber d.toDayNumber = (d.year, d.month, d.day) := by
  obtain ⟨hin, hlast⟩ := d.day_in_month
  obtain ⟨hlow, hhigh⟩ := d.fromMarch_bounds
  have hpos := d.day_pos
  have hmonth_le := d.month_le
  have hmonth_pos := d.month_pos
  have hstart : 0 ≤ monthStart d.fromMarch := by
    unfold monthStart
    omega
  have hsplit : splitYear (d.toDayNumber + epoch) = (if d.month ≤ 2 then d.year - 1 else d.year,
      monthStart d.fromMarch + d.day - 1) := by
    have hnumber : d.toDayNumber + epoch = yearStart (if d.month ≤ 2 then d.year - 1 else d.year) +
        (monthStart d.fromMarch + d.day - 1) := by
      show yearStart _ + (monthStart d.fromMarch + d.day - 1) - epoch + epoch = _
      exact Int.sub_add_cancel _ _
    rw [hnumber]
    refine splitYear_yearStart (by omega) (by omega) fun h => ?_
    rcases hlast with hlast | ⟨hfeb, hleap, -⟩
    · omega
    · rw [if_pos (by omega), Int.sub_add_cancel]
      exact hleap
  unfold ofDayNumber
  rw [hsplit]
  dsimp only
  rw [month_eq (by omega) hin]
  have hday : (monthStart d.fromMarch + d.day - 1 - monthStart d.fromMarch + 1).toNat = d.day := by omega
  have hmonth : (if d.fromMarch < 10 then d.fromMarch + 3 else d.fromMarch - 9) = d.month := by
    unfold fromMarch
    split <;> split <;> omega
  rw [hday, hmonth, Int.toNat_natCast]
  congr 1
  split <;> split <;> omega

end Date

end Calendar
