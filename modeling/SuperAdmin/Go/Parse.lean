import SuperAdmin.Go.Time
import Mathlib.Data.String.Basic

/-! # Numbers and instants of a query string

`strconv.Atoi`, and `time.Parse` with the layout `time.RFC3339`; `none` is an error. -/

namespace SuperAdmin

/-! ### strconv -/

/-- A non-empty string of digits. -/
def decimal (l : List Char) : Option ℕ :=
  if l ≠ [] ∧ l.all Char.isDigit then some (Nat.ofDigitChars 10 l 0) else none

/-- A number that an `int` holds. -/
def toInt? (n : ℤ) : Option Int64 :=
  if Int64.minValue.toInt ≤ n ∧ n ≤ Int64.maxValue.toInt then some (.ofInt n) else none

/-- `strconv.Atoi`. -/
def atoi (s : String) : Option Int64 :=
  match s.toList with
  | '-' :: l => (decimal l).bind fun n => toInt? (-n)
  | '+' :: l => (decimal l).bind fun n => toInt? n
  | l => (decimal l).bind fun n => toInt? n

theorem decimal_toDigits (n : ℕ) : decimal (Nat.toDigits 10 n) = some n := by
  have hdigits : (Nat.toDigits 10 n).all Char.isDigit = true :=
    List.all_eq_true.mpr fun _ hc => Nat.isDigit_of_mem_toDigits (by decide) (by decide) hc
  rw [decimal, if_pos ⟨Nat.toDigits_ne_nil, hdigits⟩, Nat.ofDigitChars_ten_toDigits]

/-- A natural number that an `int` holds is read back. -/
theorem atoi_repr {n : ℕ} (h : n < 2 ^ 63) : atoi n.repr = some (.ofInt n) := by
  have hfits : toInt? n = some (.ofInt n) := by
    refine if_pos ⟨?_, ?_⟩
    · have hmin : Int64.minValue.toInt = -2 ^ 63 := by decide
      omega
    · have hmax : Int64.maxValue.toInt = 2 ^ 63 - 1 := by decide
      omega
  have hread := decimal_toDigits n
  have hdigit : ∀ c ∈ Nat.toDigits 10 n, c.isDigit = true := fun _ hc =>
    Nat.isDigit_of_mem_toDigits (by decide) (by decide) hc
  unfold atoi
  rw [Nat.toList_repr]
  generalize Nat.toDigits 10 n = l at hread hdigit
  -- a digit is no sign
  split
  · exact absurd (hdigit '-' List.mem_cons_self) (by decide)
  · exact absurd (hdigit '+' List.mem_cons_self) (by decide)
  · rw [hread]
    exact hfits

/-! ### time.Parse -/

namespace RFC3339

/-- The value of a digit. -/
def digit (c : Char) : Option ℕ := if c.isDigit then some (c.toNat - 48) else none

/-- `getnum`: two digits, or one where that is enough. -/
def getnum (fixed : Bool) : List Char → Option (ℕ × List Char)
  | [] => none
  | a :: rest => do
      let m ← digit a
      match rest with
      | b :: rest' =>
          match digit b with
          | some n => some (10 * m + n, rest')
          | none => if fixed then none else some (m, b :: rest')
      | [] => if fixed then none else some (m, [])

/-- A character of the layout. -/
def literal (c : Char) : List Char → Option (List Char)
  | [] => none
  | a :: rest => if a = c then some rest else none

/-- The four digits of a year. -/
def year (l : List Char) : Option (ℕ × List Char) := do
  let (century, l) ← getnum true l
  let (rest, l) ← getnum true l
  some (100 * century + rest, l)

/-- A fraction of a second, which the layout does not mention: nine digits count. -/
def fraction : List Char → ℕ × List Char
  | p :: l =>
      let ds := l.takeWhile Char.isDigit
      if (p = '.' ∨ p = ',') ∧ ds ≠ [] then
        (Nat.ofDigitChars 10 ((ds ++ List.replicate 9 '0').take 9) 0, l.dropWhile Char.isDigit)
      else (0, p :: l)
  | [] => (0, [])

/-- The offset of a zone, in seconds. -/
def zone : List Char → Option (ℤ × List Char)
  | 'Z' :: l => some (0, l)
  | sign :: l => do
      let (hours, l) ← getnum true l
      let l ← literal ':' l
      let (minutes, l) ← getnum true l
      if hours > 24 ∨ minutes > 60 then none
      else
        let offset : ℤ := 3600 * hours + 60 * minutes
        if sign = '+' then some (offset, l) else if sign = '-' then some (-offset, l) else none
  | [] => none

/-- `daysIn`. -/
def daysIn (month year : ℕ) : ℕ :=
  if month = 2 then if year % 4 = 0 ∧ (year % 100 ≠ 0 ∨ year % 400 = 0) then 29 else 28
  else if month = 4 ∨ month = 6 ∨ month = 9 ∨ month = 11 then 30 else 31

/-- The days from the Unix epoch to a date; the years are counted from March. -/
def daysFromCivil (year month day : ℕ) : ℤ :=
  let y : ℤ := if month ≤ 2 then year - 1 else year
  let m : ℤ := if month ≤ 2 then month + 9 else month - 3
  let dayOfYear : ℤ := (153 * m + 2) / 5 + day - 1
  365 * y + y / 4 - y / 100 + y / 400 + dayOfYear - 719468

end RFC3339

open RFC3339 in
/-- `time.Parse(time.RFC3339, s)`. -/
def parseRFC3339 (s : String) : Option Time := do
  let (year, l) ← year s.toList
  let (month, l) ← getnum true (← literal '-' l)
  let (day, l) ← getnum true (← literal '-' l)
  let (hour, l) ← getnum false (← literal 'T' l)
  let (minute, l) ← getnum true (← literal ':' l)
  let (second, l) ← getnum true (← literal ':' l)
  let (nanos, l) := fraction l
  let (offset, l) ← zone l
  if l ≠ [] ∨ month < 1 ∨ 12 < month ∨ day < 1 ∨ daysIn month year < day ∨ 24 ≤ hour ∨
      60 ≤ minute ∨ 60 ≤ second then none
  else
    let seconds : ℤ := 86400 * daysFromCivil year month day + 3600 * hour + 60 * minute + second
    some ⟨(seconds - offset) * 1000000000 + nanos⟩

example : parseRFC3339 "2026-08-14T11:42:13.5+05:00" = some ⟨1786689733500000000⟩ := by
  decide

end SuperAdmin
