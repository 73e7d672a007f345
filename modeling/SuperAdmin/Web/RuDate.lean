import SuperAdmin.Web.Format
import SuperAdmin.Go.Encoding

/-! # Dates that are written and typed in

`parseRuDate` reads back what `formatDate` writes.  It also accepts what `formatDate` never writes: a day or a
month that the calendar does not have carries over, and a year below 100 is taken for one of the twentieth
century. -/

namespace SuperAdmin.RuDate

open Web Calendar

/-! ### Digits -/

theorem digitChar_of_isDigit {c : Char} (h : c.isDigit = true) : ∃ k < 10, c = Nat.digitChar k := by
  obtain ⟨hlow, hhigh⟩ := Char.isDigit_iff_toNat.mp h
  have hlow : 48 ≤ c.toNat := hlow
  have hhigh : c.toNat ≤ 57 := hhigh
  refine ⟨c.toNat - 48, by omega, Char.toNat_inj.mp ?_⟩
  rw [Nat.toNat_digitChar_of_lt_ten (by omega)]
  omega

theorem isDigit_digitChar {k : ℕ} (h : k < 10) : (Nat.digitChar k).isDigit = true := by
  rw [Nat.isDigit_digitChar, decide_eq_true h]

theorem twoDigits_isDigit (n : ℕ) : ∀ c ∈ twoDigits n, c.isDigit = true := by
  have hdigit : ∀ k, (Nat.digitChar (k % 10)).isDigit = true := fun k =>
    isDigit_digitChar (Nat.mod_lt k (by decide))
  simp only [twoDigits, List.forall_mem_cons, hdigit, List.not_mem_nil, false_implies, implies_true, and_self]

/-- Two digits are those of their number. -/
theorem twoDigits_ofDigitChars {a b : Char} (ha : a.isDigit = true) (hb : b.isDigit = true) :
    twoDigits (Nat.ofDigitChars 10 [a, b] 0) = [a, b] ∧ Nat.ofDigitChars 10 [a, b] 0 < 100 := by
  obtain ⟨k, hk, rfl⟩ := digitChar_of_isDigit ha
  obtain ⟨m, hm, rfl⟩ := digitChar_of_isDigit hb
  simp only [Nat.ofDigitChars_cons_digitChar_of_lt_ten, hk, hm, Nat.ofDigitChars_nil]
  have htens : (10 * (10 * 0 + k) + m) / 10 % 10 = k := by omega
  have hones : (10 * (10 * 0 + k) + m) % 10 = m := by omega
  refine ⟨?_, by omega⟩
  rw [twoDigits, htens, hones]

theorem ofDigitChars_twoDigits {n : ℕ} (h : n < 100) : Nat.ofDigitChars 10 (twoDigits n) 0 = n := by
  have hlt : ∀ k, k % 10 < 10 := fun k => Nat.mod_lt k (by decide)
  simp only [twoDigits, Nat.ofDigitChars_cons_digitChar_of_lt_ten, hlt, Nat.ofDigitChars_nil]
  omega

/-- Hundreds do not show in the last two digits. -/
theorem twoDigits_add (m n : ℕ) : twoDigits (100 * m + n) = twoDigits n := by
  have htens : (100 * m + n) / 10 % 10 = n / 10 % 10 := by omega
  have hones : (100 * m + n) % 10 = n % 10 := by omega
  rw [twoDigits, htens, hones, twoDigits]

/-- Four digits. -/
def fourDigits (n : ℕ) : List Char := twoDigits (n / 100) ++ twoDigits n

theorem ofDigitChars_append_two (l : List Char) (a b : Char) :
    Nat.ofDigitChars 10 (l ++ [a, b]) 0 = 100 * Nat.ofDigitChars 10 l 0 + Nat.ofDigitChars 10 [a, b] 0 := by
  rw [Nat.ofDigitChars_append, Nat.ofDigitChars_eq_ofDigitChars_zero]
  rfl

theorem fourDigits_ofDigitChars {a b c d : Char} (ha : a.isDigit = true) (hb : b.isDigit = true)
    (hc : c.isDigit = true) (hd : d.isDigit = true) :
    fourDigits (Nat.ofDigitChars 10 [a, b, c, d] 0) = [a, b, c, d] ∧
      Nat.ofDigitChars 10 [a, b, c, d] 0 < 10000 := by
  obtain ⟨hfirst, hfirst_lt⟩ := twoDigits_ofDigitChars ha hb
  obtain ⟨hlast, hlast_lt⟩ := twoDigits_ofDigitChars hc hd
  have hsum := ofDigitChars_append_two [a, b] c d
  rw [List.cons_append, List.cons_append, List.nil_append] at hsum
  rw [hsum]
  generalize Nat.ofDigitChars 10 [a, b] 0 = m at hfirst hfirst_lt ⊢
  generalize Nat.ofDigitChars 10 [c, d] 0 = n at hlast hlast_lt ⊢
  have hhundreds : (100 * m + n) / 100 = m := by omega
  refine ⟨?_, by omega⟩
  rw [fourDigits, hhundreds, twoDigits_add, hfirst, hlast]
  rfl

theorem ofDigitChars_fourDigits {n : ℕ} (h : n < 10000) : Nat.ofDigitChars 10 (fourDigits n) 0 = n := by
  have hsplit : n = 100 * (n / 100) + n % 100 := (Nat.div_add_mod n 100).symm
  have hlast : twoDigits n = twoDigits (n % 100) := (congrArg twoDigits hsplit).trans (twoDigits_add _ _)
  have hsum := ofDigitChars_append_two (twoDigits (n / 100)) (Nat.digitChar (n % 100 / 10 % 10))
    (Nat.digitChar (n % 100 % 10))
  rw [← twoDigits, ofDigitChars_twoDigits (by omega), ofDigitChars_twoDigits (by omega), ← hlast, ← hsplit] at hsum
  exact hsum

/-- `dd.mm.yyyy`. -/
def form (day month year : ℕ) : List Char := twoDigits day ++ '.' :: (twoDigits month ++ '.' :: fourDigits year)

/-- What the pattern of `parseRuDate` accepts. -/
theorem ruDateGroups_eq_some_iff {l : List Char} {day month year : ℕ} : ruDateGroups l = some (day, month, year) ↔
    (day < 100 ∧ month < 100 ∧ year < 10000) ∧ l = form day month year := by
  constructor
  · intro h
    unfold ruDateGroups at h
    split at h
    · split at h
      · rename_i hdigits
        simp only [List.all_cons, List.all_nil, Bool.and_true, Bool.and_eq_true] at hdigits
        obtain ⟨h₁, h₂, h₃, h₄, h₅, h₆, h₇, h₈⟩ := hdigits
        cases h
        obtain ⟨hday, hday_lt⟩ := twoDigits_ofDigitChars h₁ h₂
        obtain ⟨hmonth, hmonth_lt⟩ := twoDigits_ofDigitChars h₃ h₄
        obtain ⟨hyear, hyear_lt⟩ := fourDigits_ofDigitChars h₅ h₆ h₇ h₈
        refine ⟨⟨hday_lt, hmonth_lt, hyear_lt⟩, ?_⟩
        rw [form, hday, hmonth, hyear]
        rfl
      · cases h
    · cases h
  · rintro ⟨⟨hday, hmonth, hyear⟩, rfl⟩
    have hdigits : (twoDigits day ++ (twoDigits month ++ fourDigits year)).all Char.isDigit = true := by
      simp only [List.all_eq_true, fourDigits, List.forall_mem_append]
      exact ⟨twoDigits_isDigit _, twoDigits_isDigit _, twoDigits_isDigit _, twoDigits_isDigit _⟩
    show (if (twoDigits day ++ (twoDigits month ++ fourDigits year)).all Char.isDigit = true then
      some (Nat.ofDigitChars 10 (twoDigits day) 0, Nat.ofDigitChars 10 (twoDigits month) 0,
        Nat.ofDigitChars 10 (fourDigits year) 0) else none) = _
    rw [if_pos hdigits, ofDigitChars_twoDigits hday, ofDigitChars_twoDigits hmonth, ofDigitChars_fourDigits hyear]

/-! ### Dates -/

/-- How a date is written. -/
def written (d : Date) : List Char := form d.day d.month d.year.toNat

/-- The time value of the midnight at which a date begins. -/
def midnight (offset : ℤ) (d : Date) : ℤ := d.toDayNumber * 86400000 - offset

/-- A date is accepted only as it is written, and as what it says. -/
def Strict (offset : ℤ) (s : String) : Prop :=
  ∀ time, parseRuDate (fun _ => offset) s = some time →
    ∃ d : Date, (0 ≤ d.year ∧ d.year ≤ 9999) ∧ trim s = written d ∧ time = midnight offset d

/-- A day of the calendar in a year that `Date` does not move. -/
def OnCalendar (day month year : ℕ) : Prop :=
  100 ≤ year ∧ (1 ≤ month ∧ month ≤ 12) ∧ 1 ≤ day ∧ day ≤ daysIn year month

instance (day month year : ℕ) : Decidable (OnCalendar day month year) := inferInstanceAs (Decidable (_ ∧ _))

theorem daysFromCivil_eq (year month day : ℕ) : RFC3339.daysFromCivil year month day = dayNumber year month day := by
  unfold RFC3339.daysFromCivil dayNumber yearStart monthStart epoch
  rfl

variable {offset : ℤ}

theorem dayNumber_first (year : ℤ) (month day : ℕ) :
    dayNumber year month 1 + day - 1 = dayNumber year month day := by
  unfold dayNumber
  dsimp only
  omega

/-- In a month of the calendar the day counts from the first; a year below 100 is moved. -/
theorem newDate_eq {day month year : ℕ} (hpos : 1 ≤ month) (hle : month ≤ 12) :
    newDate (fun _ => offset) year (month - 1) day =
      dayNumber (if year ≤ 99 then 1900 + year else year) month day * 86400000 - offset := by
  have hyear : ((month : ℤ) - 1) / 12 = 0 := by omega
  have hmonth : (((month : ℤ) - 1) % 12 + 1).toNat = month := by omega
  have hnat : ((if year ≤ 99 then 1900 + year else year : ℤ) + 0).toNat =
      if year ≤ 99 then 1900 + year else year := by
    split <;> omega
  unfold newDate localMidnight
  dsimp only
  rw [hyear, hmonth, hnat, daysFromCivil_eq, dayNumber_first]
  split <;> rfl

/-- The days of a year below 100 and of the one 1900 years later are not the same. -/
theorem dayNumber_moved (year : ℤ) (month day : ℕ) :
    dayNumber (1900 + year) month day ≠ dayNumber year month day := by
  unfold dayNumber yearStart
  dsimp only
  split <;> omega

/-! ### What is accepted -/

variable {s : String}

theorem parseRuDate_eq_some_iff {zone : Zone} {time : ℤ} : parseRuDate zone s = some time ↔
    ∃ day month year, ruDateGroups (trim s) = some (day, month, year) ∧ newDate zone year (month - 1) day = time := by
  unfold parseRuDate
  rw [Option.map_eq_some_iff]
  constructor
  · rintro ⟨⟨day, month, year⟩, hgroups, htime⟩
    exact ⟨day, month, year, hgroups, htime⟩
  · rintro ⟨day, month, year, hgroups, htime⟩
    exact ⟨(day, month, year), hgroups, htime⟩

theorem ruDateGroups_written {d : Date} (hpos : 0 ≤ d.year) (hle : d.year ≤ 9999) :
    ruDateGroups (written d) = some (d.day, d.month, d.year.toNat) := by
  have hday := d.day_le.trans (daysIn_le d.year d.month)
  have hmonth := d.month_le
  exact ruDateGroups_eq_some_iff.mpr ⟨by omega, rfl⟩

/-- The parser is strict exactly on the strings that are no date at all or a date that the calendar has, in a
year from 100 on. -/
theorem strict_iff : Strict offset s ↔ ∀ day month year, day < 100 → month < 100 → year < 10000 →
    trim s = form day month year → OnCalendar day month year := by
  constructor
  · intro hstrict day month year hday hmonth hyear htrim
    have hgroups := ruDateGroups_eq_some_iff.mpr ⟨⟨hday, hmonth, hyear⟩, htrim⟩
    obtain ⟨d, ⟨hpos, hle⟩, hwritten, htime⟩ := hstrict _ (parseRuDate_eq_some_iff.mpr ⟨_, _, _, hgroups, rfl⟩)
    rw [hwritten, ruDateGroups_written hpos hle] at hgroups
    cases hgroups
    refine ⟨?_, ⟨d.month_pos, d.month_le⟩, d.day_pos, ?_⟩
    · by_contra hsmall
      rw [newDate_eq d.month_pos d.month_le, if_pos (by omega), midnight, Date.toDayNumber,
        Int.toNat_of_nonneg hpos] at htime
      have hmoved := dayNumber_moved d.year d.month d.day
      omega
    · rw [Int.toNat_of_nonneg hpos]
      exact d.day_le
  · rintro hcalendar time htime
    obtain ⟨day, month, year, hgroups, rfl⟩ := parseRuDate_eq_some_iff.mp htime
    obtain ⟨⟨hday, hmonth, hyear⟩, htrim⟩ := ruDateGroups_eq_some_iff.mp hgroups
    obtain ⟨hfrom, ⟨hmonth_pos, hmonth_le⟩, hday_pos, hday_le⟩ := hcalendar day month year hday hmonth hyear htrim
    refine ⟨⟨year, month, day, hmonth_pos, hmonth_le, hday_pos, hday_le⟩, ⟨?_, ?_⟩, htrim, ?_⟩
    · exact Int.natCast_nonneg year
    · exact Int.ofNat_le.mpr (Nat.le_of_lt_succ hyear)
    · rw [newDate_eq hmonth_pos hmonth_le, if_neg (by omega)]
      rfl

/-! ### What is written -/

/-- A year of four digits. -/
theorem toDigits_eq_fourDigits {n : ℕ} (hlow : 1000 ≤ n) (hhigh : n ≤ 9999) : Nat.toDigits 10 n = fourDigits n := by
  have hten : n / 10 / 10 = n / 100 := by omega
  have hthousands : n / 10 / 10 / 10 = n / 100 / 10 % 10 := by omega
  rw [Nat.toDigits_of_base_le (by decide) (by omega), Nat.toDigits_of_base_le (by decide) (by omega),
    Nat.toDigits_of_base_le (by decide) (by omega), Nat.toDigits_of_lt_base (by omega), hthousands, hten]
  rfl

/-- Any instant of a day is written as its date. -/
theorem dateFmt_eq {d : Date} {time : ℤ} (hlow : 1000 ≤ d.year) (hhigh : d.year ≤ 9999)
    (hfrom : midnight offset d ≤ time) (hto : time < midnight offset d + 86400000) :
    dateFmt offset time = String.ofList (written d) := by
  have hday : (time + offset) / 86400000 = d.toDayNumber := by
    unfold midnight at hfrom hto
    omega
  unfold dateFmt
  rw [hday, d.ofDayNumber_toDayNumber]
  dsimp only
  rw [if_neg (by omega), toDigits_eq_fourDigits (by omega) (by omega)]
  rfl

/-- A digit is not white space. -/
theorem not_isSpace_of_isDigit {c : Char} (h : c.isDigit = true) : Web.isSpace c = false := by
  obtain ⟨k, hk, rfl⟩ := digitChar_of_isDigit h
  revert k
  decide

theorem trim_form (day month year : ℕ) : trim (String.ofList (form day month year)) = form day month year := by
  have htwo : ∀ n, ∀ c ∈ twoDigits n, Web.isSpace c = false := fun n c hc =>
    not_isSpace_of_isDigit (twoDigits_isDigit n c hc)
  have hdot : Web.isSpace '.' = false := by decide
  have hnone : ∀ c ∈ form day month year, Web.isSpace c = false := by
    simp only [form, fourDigits, List.forall_mem_append, List.forall_mem_cons]
    exact ⟨htwo _, hdot, htwo _, hdot, htwo _, htwo _⟩
  rw [trim, String.toList_ofList, trim_eq_self hnone]

/-- What is written for an instant of a day is read back as its midnight. -/
theorem parseRuDate_dateFmt {d : Date} {time : ℤ} (hlow : 1000 ≤ d.year) (hhigh : d.year ≤ 9999)
    (hfrom : midnight offset d ≤ time) (hto : time < midnight offset d + 86400000) :
    parseRuDate (fun _ => offset) (dateFmt offset time) = some (midnight offset d) := by
  rw [dateFmt_eq hlow hhigh hfrom hto, parseRuDate_eq_some_iff]
  refine ⟨d.day, d.month, d.year.toNat, ?_, ?_⟩
  · rw [written, trim_form]
    exact ruDateGroups_written (by omega) hhigh
  · rw [newDate_eq d.month_pos d.month_le, if_neg (by omega), Int.toNat_of_nonneg (by omega)]
    rfl

/-- `parseRuDate` reads back what `formatDate` writes; it is strict exactly on what is not written as a date or
is one of the calendar, in a year from 100 on. -/
theorem parseRuDate_formatDate (offset : ℤ) :
    (∀ s, Strict offset s ↔ ∀ day month year, day < 100 → month < 100 → year < 10000 →
      trim s = form day month year → OnCalendar day month year) ∧
    ∀ (dateParse : String → Option ℤ) (iso : String) (time : ℤ) (d : Date), 1000 ≤ d.year → d.year ≤ 9999 →
      dateParse iso = some time → midnight offset d ≤ time → time < midnight offset d + 86400000 →
      (formatDate dateParse offset iso).bind (parseRuDate fun _ => offset) = some (midnight offset d) := by
  refine ⟨fun s => strict_iff, fun dateParse iso time d hlow hhigh hparse hfrom hto => ?_⟩
  rw [formatDate, hparse, Option.map_some, Option.bind_some]
  exact parseRuDate_dateFmt hlow hhigh hfrom hto

/-- 14 February 2026. -/
def valentine : Date := ⟨2026, 2, 14, by decide, by decide, by decide, by decide⟩

theorem parseRuDate_valentine : Strict 10800000 " 14.02.2026" ∧
    (formatDate (fun _ => some 1771059600000) 10800000 "2026-02-14T09:00:00Z").bind
      (parseRuDate fun _ => 10800000) = some (midnight 10800000 valentine) := by
  refine ⟨((parseRuDate_formatDate 10800000).1 " 14.02.2026").mpr fun day month year hday hmonth hyear htrim => ?_,
    (parseRuDate_formatDate 10800000).2 _ _ 1771059600000 valentine (by decide) (by decide) rfl (by decide)
      (by decide)⟩
  have hgroups := ruDateGroups_eq_some_iff.mpr ⟨⟨hday, hmonth, hyear⟩, htrim⟩
  rw [show ruDateGroups (trim " 14.02.2026") = some (14, 2, 2026) by decide] at hgroups
  cases hgroups
  decide

/-- 31 February is read as 3 March. -/
theorem parseRuDate_carries : ¬ Strict 10800000 "31.02.2026" := by
  intro hstrict
  obtain ⟨d, ⟨hpos, hle⟩, hwritten, -⟩ := hstrict 1772485200000 (by decide)
  have hgroups := ruDateGroups_written hpos hle
  rw [← hwritten, show ruDateGroups (trim "31.02.2026") = some (31, 2, 2026) by decide] at hgroups
  simp only [Option.some.injEq, Prod.mk.injEq] at hgroups
  obtain ⟨hday, hmonth, hyear⟩ := hgroups
  have hlast := d.day_le
  rw [← hday, ← hmonth, show d.year = 2026 by omega] at hlast
  revert hlast
  decide

end SuperAdmin.RuDate
