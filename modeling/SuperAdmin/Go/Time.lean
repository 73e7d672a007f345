import Mathlib.Order.Lattice
import Mathlib.Algebra.Group.Int.Defs

/-! # Instants and durations

`time.Time` is an instant, here in nanoseconds since the Unix epoch; `time.Duration` is a
64-bit count of nanoseconds.  `t.After(u)` is `u < t` and `t.Before(u)` is `t < u`.  Two places
of the system keep less than a nanosecond: a `timestamptz` column keeps microseconds, and a
`NumericDate` of a token keeps seconds. -/

namespace SuperAdmin

/-- `time.Duration`. -/
abbrev Duration : Type := Int64

namespace Duration

def second : Duration := 1000000000
def minute : Duration := 60 * second
def hour : Duration := 60 * minute

/-- The nanoseconds of the largest duration, about 292 years. -/
def maxNs : ℤ := 2 ^ 63 - 1
/-- The nanoseconds of the smallest duration. -/
def minNs : ℤ := -2 ^ 63

theorem toInt_le_maxNs (d : Duration) : d.toInt ≤ maxNs := by
  have := d.toInt_lt
  unfold maxNs; omega

end Duration

/-- `time.Time`: nanoseconds since the Unix epoch. -/
@[ext] structure Time where
  ns : ℤ
deriving DecidableEq, Repr

namespace Time

theorem ns_injective : Function.Injective ns := fun _ _ h => Time.ext h

instance : LinearOrder Time := LinearOrder.lift' ns ns_injective

theorem lt_iff {t u : Time} : t < u ↔ t.ns < u.ns := Iff.rfl
theorem le_iff {t u : Time} : t ≤ u ↔ t.ns ≤ u.ns := Iff.rfl

/-- `t.Add(d)`. -/
def add (t : Time) (d : Duration) : Time := ⟨t.ns + d.toInt⟩

/-- `t.AddDate(0, 0, days)`, in UTC. -/
def addDays (t : Time) (days : ℕ) : Time := ⟨t.ns + days * (86400 * 1000000000)⟩

/-- `t.Sub(u)`; a difference outside the range of `Duration` is cut to the ends of the range. -/
def sub (t u : Time) : Duration :=
  Int64.ofInt (max Duration.minNs (min Duration.maxNs (t.ns - u.ns)))

/-- The zero `time.Time`, 1 January of year 1. -/
def zero : Time := ⟨-62135596800 * 1000000000⟩

/-- What a `timestamptz` column keeps of an instant. -/
def timestamptz (t : Time) : Time := ⟨t.ns / 1000 * 1000⟩

/-- `t.Truncate(time.Second)`. -/
def truncateSecond (t : Time) : Time := ⟨t.ns / 1000000000 * 1000000000⟩

@[simp] theorem ns_add (t : Time) (d : Duration) : (t.add d).ns = t.ns + d.toInt := rfl

theorem truncateSecond_le (t : Time) : t.truncateSecond ≤ t := by
  show t.ns / 1000000000 * 1000000000 ≤ t.ns
  omega

theorem toInt_sub (t u : Time) :
    (t.sub u).toInt = max Duration.minNs (min Duration.maxNs (t.ns - u.ns)) := by
  unfold sub Duration.minNs Duration.maxNs
  exact Int64.toInt_ofInt_of_le (by omega) (by omega)

/-- A difference of two instants within the range of `Duration` is exact. -/
theorem toInt_sub_of_le {t u : Time} (h₀ : Duration.minNs ≤ t.ns - u.ns)
    (h₁ : t.ns - u.ns ≤ Duration.maxNs) : (t.sub u).toInt = t.ns - u.ns := by
  rw [toInt_sub]; omega

/-- `t.Sub(u) > 0` says that `u` is before `t`, also where the difference is cut. -/
theorem sub_pos {t u : Time} : (0 : Duration) < t.sub u ↔ u < t := by
  rw [Int64.lt_iff_toInt_lt, toInt_sub, lt_iff]
  unfold Duration.minNs Duration.maxNs
  rw [Int64.toInt_zero]
  omega

end Time

end SuperAdmin
