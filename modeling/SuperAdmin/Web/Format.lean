import SuperAdmin.Go.Parse
import SuperAdmin.Lib.Calendar
import Mathlib.Data.List.DropRight

/-! # Dates in the browser

`formatDate` and `parseRuDate` of `web/src/lib/format.ts` and what they use of ECMAScript.  A `Date` is a
time value, in milliseconds since the Unix epoch; the time zone of the browser is the offset, in
milliseconds, that belongs to a local time. -/

namespace SuperAdmin.Web

/-- The time zone of a browser. -/
abbrev Zone : Type := ℤ → ℤ

/-! ### formatDate -/

def twoDigits (n : ℕ) : List Char := [Nat.digitChar (n / 10 % 10), Nat.digitChar (n % 10)]

/-- `dateFmt.format` of a time value at which the zone has the offset: the day and the month with two digits,
the year in its era. -/
def dateFmt (offset time : ℤ) : String :=
  let (year, month, day) := Calendar.ofDayNumber ((time + offset) / 86400000)
  let yearOfEra := if year ≤ 0 then 1 - year else year
  String.ofList (twoDigits day ++ '.' :: (twoDigits month ++ '.' :: Nat.toDigits 10 yearOfEra.toNat))

/-- `formatDate`, over the time value of `new Date(iso)`; that of an invalid date is a `RangeError`. -/
def formatDate (dateParse : String → Option ℤ) (offset : ℤ) (iso : String) : Option String :=
  (dateParse iso).map (dateFmt offset)

example : formatDate (fun _ => some 1771059600000) 10800000 "2026-02-14T09:00:00Z" = some "14.02.2026" := by
  decide

/-! ### parseRuDate -/

/-- White space and line terminators, which `String.prototype.trim` removes. -/
def isSpace (c : Char) : Bool :=
  let n := c.toNat
  (0x09 ≤ n && n ≤ 0x0D) || n == 0x20 || n == 0xA0 || n == 0x1680 || (0x2000 ≤ n && n ≤ 0x200A) ||
    n == 0x2028 || n == 0x2029 || n == 0x202F || n == 0x205F || n == 0x3000 || n == 0xFEFF

/-- `value.trim()`. -/
def trim (value : String) : List Char := (value.toList.dropWhile isSpace).rdropWhile isSpace

/-- The local time of a midnight: a month or a day out of range carries over, and a year below 100 is one
of the twentieth century. -/
def localMidnight (year : ℕ) (monthIndex : ℤ) (day : ℕ) : ℤ :=
  let fullYear : ℤ := if year ≤ 99 then 1900 + year else year
  let first := RFC3339.daysFromCivil (fullYear + monthIndex / 12).toNat (monthIndex % 12 + 1).toNat 1
  (first + day - 1) * 86400000

/-- `new Date(year, monthIndex, day)`. -/
def newDate (zone : Zone) (year : ℕ) (monthIndex : ℤ) (day : ℕ) : ℤ :=
  localMidnight year monthIndex day - zone (localMidnight year monthIndex day)

/-- What the groups of `/^(\d{2})\.(\d{2})\.(\d{4})$/` capture, as numbers. -/
def ruDateGroups : List Char → Option (ℕ × ℕ × ℕ)
  | [d₁, d₂, '.', m₁, m₂, '.', y₁, y₂, y₃, y₄] =>
      if [d₁, d₂, m₁, m₂, y₁, y₂, y₃, y₄].all Char.isDigit then
        some (Nat.ofDigitChars 10 [d₁, d₂] 0, Nat.ofDigitChars 10 [m₁, m₂] 0,
          Nat.ofDigitChars 10 [y₁, y₂, y₃, y₄] 0)
      else none
  | _ => none

/-- `parseRuDate`.  A date of four digits is never too large for a time value. -/
def parseRuDate (zone : Zone) (value : String) : Option ℤ :=
  (ruDateGroups (trim value)).map fun (day, month, year) => newDate zone year (month - 1) day

example : parseRuDate (fun _ => 10800000) " 14.08.2026" = some 1786654800000 := by decide

end SuperAdmin.Web
