import Mathlib.Data.Rat.Floor
import Mathlib.Algebra.Order.Round
import Mathlib.Algebra.Order.Group.Unbundled.Int

/-! # Relative times

`formatRelative` of `web/src/lib/format.ts` picks the unit by the distance and rounds the count after it.  So
the count of minutes, hours or days can come to the length of the next unit, and does for the distances that
lie in the last half unit before it. -/

namespace SuperAdmin.Web

/-! ### formatRelative -/

/-- `Math.round(a / b)`: a half goes up. -/
def mathRound (a b : ℤ) : ℤ := (2 * a + b) / (2 * b)

theorem mathRound_eq_round (a : ℤ) {b : ℤ} (hb : 0 < b) : mathRound a b = round ((a : ℚ) / b) := by
  have hne : (b : ℚ) ≠ 0 := Int.cast_ne_zero.mpr hb.ne'
  have hhalf : (a : ℚ) / b + 1 / 2 = ((2 * a + b : ℤ) : ℚ) / ((2 * b : ℤ) : ℚ) := by
    push_cast
    field_simp
  obtain ⟨n, hn⟩ := Int.eq_ofNat_of_zero_le (show 0 ≤ 2 * b by omega)
  rw [mathRound, round_eq, hhalf, hn, Int.cast_natCast, Rat.floor_intCast_div_natCast]

/-- `Intl.RelativeTimeFormatUnit`, as far as `UNITS` goes. -/
inductive RelativeTimeFormatUnit where
  | year
  | month
  | day
  | hour
  | minute
deriving DecidableEq, Repr

/-- `UNITS`: the units with their lengths in seconds. -/
def units : List (RelativeTimeFormatUnit × ℤ) := [
  (.year, 365 * 24 * 60 * 60),
  (.month, 30 * 24 * 60 * 60),
  (.day, 24 * 60 * 60),
  (.hour, 60 * 60),
  (.minute, 60)]

/-- `formatRelative`, over `relativeFmt.format` and the time value of `new Date(iso)`, which is `none` for an
invalid date. -/
def formatRelative (relativeFmt : ℤ → RelativeTimeFormatUnit → String) (dateParse : String → Option ℤ)
    (iso : String) (now : ℤ) : String :=
  match dateParse iso with
  -- no comparison with `NaN` is true
  | none => "только что"
  | some time =>
      let seconds := mathRound (time - now) 1000
      let abs := |seconds|
      if abs < 60 then "только что"
      else
        match units.find? fun (_, size) => size ≤ abs with
        | some (unit, size) => relativeFmt (mathRound seconds size) unit
        | none => "только что"

end SuperAdmin.Web

namespace SuperAdmin.RelativeTime

open Web

/-! ### The count and its unit -/

/-- Neighbours in `UNITS`, the larger first. -/
def neighbours : List ((RelativeTimeFormatUnit × ℤ) × (RelativeTimeFormatUnit × ℤ)) := units.zip units.tail

/-- A count of a unit is at least one, and less than the next larger unit. -/
def Fits (n : ℤ) (unit : RelativeTimeFormatUnit) : Prop :=
  1 ≤ |n| ∧ ∀ p ∈ neighbours, p.2.1 = unit → |n| * p.2.2 < p.1.2

/-- The distances, in milliseconds, within the last half of a unit before the next one, of which it is a
part. -/
def RoundsUp (distance : ℤ) : Prop :=
  ∃ p ∈ neighbours, p.2.2 ∣ p.1.2 ∧
    (1000 * p.1.2 - 500 * p.2.2 - 500 ≤ distance ∧ distance < 1000 * p.1.2 - 500 ∨
      1000 * p.1.2 - 500 * p.2.2 + 500 < -distance ∧ -distance ≤ 1000 * p.1.2 - 500)

theorem neighbours_eq : neighbours = [((.year, 31536000), (.month, 2592000)), ((.month, 2592000), (.day, 86400)),
    ((.day, 86400), (.hour, 3600)), ((.hour, 3600), (.minute, 60))] := by decide

/-! ### Rounded quotients -/

section rounding

variable {a b k : ℤ}

theorem mathRound_lt_iff (hb : 0 < b) : mathRound a b < k ↔ 2 * a + b < k * (2 * b) :=
  Int.ediv_lt_iff_lt_mul (by omega)

theorem le_mathRound_iff (hb : 0 < b) : k ≤ mathRound a b ↔ k * (2 * b) ≤ 2 * a + b :=
  Int.le_ediv_iff_mul_le (by omega)

/-- A quotient of at least one is not rounded to zero. -/
theorem one_le_abs_mathRound (hb : 0 < b) (h : b ≤ |a|) : 1 ≤ |mathRound a b| := by
  rcases le_abs.mp h with hpos | hneg
  · exact le_abs.mpr (.inl ((le_mathRound_iff hb).mpr (by omega)))
  · refine le_abs.mpr (.inr ?_)
    have hlt : mathRound a b < 0 := (mathRound_lt_iff hb).mpr (by omega)
    omega

/-- A rounded quotient stays below a whole number exactly if the quotient is not in the last half before it;
a half goes up, so below zero the middle is not in that half. -/
theorem abs_mathRound_lt_iff (hb : 0 < b) :
    |mathRound a b| < k ↔ 2 * a + b < 2 * (k * b) ∧ 2 * -a + b ≤ 2 * (k * b) := by
  have hlow : -k < mathRound a b ↔ (1 - k) * (2 * b) ≤ 2 * a + b := by
    rw [← le_mathRound_iff hb]
    omega
  rw [abs_lt, hlow, mathRound_lt_iff hb, Int.sub_mul, Int.mul_left_comm k]
  omega

end rounding

/-! ### The unit -/

/-- From a minute on there is a unit that fits, and the next larger one does not. -/
theorem find_unit {distance : ℤ} (h : 60 ≤ distance) : ∃ unit size,
    units.find? (fun (_, size) => size ≤ distance) = some (unit, size) ∧ (unit, size) ∈ units ∧
      size ≤ distance ∧ ∀ p ∈ neighbours, p.2.1 = unit → distance < p.1.2 := by
  rw [neighbours_eq]
  by_cases hyear : 31536000 ≤ distance
  · exact ⟨.year, 31536000, by simp [units, hyear], by simp [units], hyear, by simp⟩
  by_cases hmonth : 2592000 ≤ distance
  · exact ⟨.month, 2592000, by simp [units, hyear, hmonth], by simp [units], hmonth, by simp; omega⟩
  by_cases hday : 86400 ≤ distance
  · exact ⟨.day, 86400, by simp [units, hyear, hmonth, hday], by simp [units], hday, by simp; omega⟩
  by_cases hhour : 3600 ≤ distance
  · exact ⟨.hour, 3600, by simp [units, hyear, hmonth, hday, hhour], by simp [units], hhour, by simp; omega⟩
  · exact ⟨.minute, 60, by simp [units, hyear, hmonth, hday, hhour, h], by simp [units], h, by simp; omega⟩

variable {dateParse : String → Option ℤ} {iso : String} {time now : ℤ}

/-- Two instants that are a minute apart are so in seconds. -/
theorem far_apart (hfar : 60000 ≤ |time - now|) : 60 ≤ |mathRound (time - now) 1000| := by
  rcases le_abs.mp hfar with hpos | hneg
  · exact le_abs.mpr (.inl ((le_mathRound_iff (by decide)).mpr (by omega)))
  · refine le_abs.mpr (.inr ?_)
    have hlt : mathRound (time - now) 1000 < -59 := (mathRound_lt_iff (by decide)).mpr (by omega)
    omega

/-- The formatter is given the rounded count of the unit that fits. -/
theorem formatRelative_eq (hparse : dateParse iso = some time) (hfar : 60000 ≤ |time - now|) :
    ∃ unit size, (unit, size) ∈ units ∧ size ≤ |mathRound (time - now) 1000| ∧
      (∀ p ∈ neighbours, p.2.1 = unit → |mathRound (time - now) 1000| < p.1.2) ∧
      ∀ relativeFmt, formatRelative relativeFmt dateParse iso now =
        relativeFmt (mathRound (mathRound (time - now) 1000) size) unit := by
  have hsixty := far_apart hfar
  obtain ⟨unit, size, hfind, hmem, hle, hnext⟩ := find_unit hsixty
  refine ⟨unit, size, hmem, hle, hnext, fun relativeFmt => ?_⟩
  unfold formatRelative
  rw [hparse]
  dsimp only
  rw [if_neg (not_lt.mpr hsixty), hfind]

/-- The seconds between two instants, in their milliseconds. -/
theorem seconds_bounds (distance : ℤ) : 1000 * mathRound distance 1000 - 500 ≤ distance ∧
    distance < 1000 * mathRound distance 1000 + 500 := by
  unfold mathRound
  omega

/-- The distances that are rounded up: to 60 minutes, 24 hours or 30 days. -/
theorem roundsUp_iff {distance : ℤ} : RoundsUp distance ↔
    (3569500 ≤ distance ∧ distance < 3599500 ∨ 3570500 < -distance ∧ -distance ≤ 3599500) ∨
    (84599500 ≤ distance ∧ distance < 86399500 ∨ 84600500 < -distance ∧ -distance ≤ 86399500) ∨
    (2548799500 ≤ distance ∧ distance < 2591999500 ∨ 2548800500 < -distance ∧ -distance ≤ 2591999500) := by
  have hmonths : ¬ (2592000 : ℤ) ∣ 31536000 := by decide
  have hdays : (86400 : ℤ) ∣ 2592000 := by decide
  have hhours : (3600 : ℤ) ∣ 86400 := by decide
  have hminutes : (60 : ℤ) ∣ 3600 := by decide
  unfold RoundsUp
  rw [neighbours_eq]
  simp only [List.mem_cons, List.not_mem_nil, or_false, exists_eq_or_imp, exists_eq_left, hmonths, hdays, hhours,
    hminutes, false_and, true_and, false_or]
  omega

/-- The count of the unit that fits stays below the next unit exactly off the last half unit before it. -/
theorem fits_iff {unit : RelativeTimeFormatUnit} {size distance : ℤ} (hmem : (unit, size) ∈ units)
    (hle : size ≤ |mathRound distance 1000|)
    (hnext : ∀ p ∈ neighbours, p.2.1 = unit → |mathRound distance 1000| < p.1.2) :
    Fits (mathRound (mathRound distance 1000) size) unit ↔ ¬ RoundsUp distance := by
  have hsize : 0 < size := by
    have hpos : ∀ u ∈ units, 0 < u.2 := by decide
    exact hpos _ hmem
  have hone := one_le_abs_mathRound hsize hle
  have hbounds := seconds_bounds distance
  rw [Fits, and_iff_right hone, roundsUp_iff]
  rw [neighbours_eq] at hnext ⊢
  generalize mathRound distance 1000 = seconds at hle hnext hone hbounds ⊢
  have habs := abs_cases seconds
  have hcount := fun k => abs_mathRound_lt_iff (k := k) (a := seconds) hsize
  simp only [units, List.mem_cons, Prod.mk.injEq, List.not_mem_nil, or_false] at hmem
  rcases hmem with ⟨rfl, rfl⟩ | ⟨rfl, rfl⟩ | ⟨rfl, rfl⟩ | ⟨rfl, rfl⟩ | ⟨rfl, rfl⟩ <;>
    simp only [List.forall_mem_cons, List.not_mem_nil, reduceCtorEq, false_implies, implies_true, and_true,
      true_and, forall_const, true_iff] at hnext ⊢
  · omega
  · have := hcount 13
    omega
  · have := hcount 30
    omega
  · have := hcount 24
    omega
  · have := hcount 60
    omega

/-- The formatter gets a unit and a count that fit exactly off the last half unit before a larger one. -/
theorem relative_fits_iff (hparse : dateParse iso = some time) (hfar : 60000 ≤ |time - now|) :
    (∃ n unit, (∀ relativeFmt, formatRelative relativeFmt dateParse iso now = relativeFmt n unit) ∧ Fits n unit) ↔
      ¬ RoundsUp (time - now) := by
  obtain ⟨unit, size, hmem, hle, hnext, hformat⟩ := formatRelative_eq hparse hfar
  rw [← fits_iff hmem hle hnext]
  constructor
  · rintro ⟨n, unit', hformat', hfits⟩
    -- a formatter that knows this call tells it apart from every other
    have hcall := hformat' fun m u => if m = n ∧ u = unit' then "1" else "0"
    rw [hformat, if_pos (And.intro (Eq.refl n) (Eq.refl unit'))] at hcall
    by_cases hsame : mathRound (mathRound (time - now) 1000) size = n ∧ unit = unit'
    · obtain ⟨rfl, rfl⟩ := hsame
      exact hfits
    · rw [if_neg hsame] at hcall
      exact absurd hcall (by decide)
  · exact fun hfits => ⟨_, unit, hformat, hfits⟩

/-- An hour and a half ago. -/
theorem relative_fits_hour :
    ∃ n unit, (∀ relativeFmt, formatRelative relativeFmt (fun _ => some 0) "1970-01-01T00:00:00Z" 5400000 =
      relativeFmt n unit) ∧ Fits n unit :=
  (@relative_fits_iff (fun _ => some 0) "1970-01-01T00:00:00Z" 0 5400000 rfl (by decide)).mpr
    (by rw [roundsUp_iff]; decide)

/-- What was an hour ago but for a second is shown as 60 minutes ago. -/
theorem relative_sixty_minutes : ¬ ∀ (dateParse : String → Option ℤ) (iso : String) (time now : ℤ),
    dateParse iso = some time → 60000 ≤ |time - now| →
    ∃ n unit, (∀ relativeFmt, formatRelative relativeFmt dateParse iso now = relativeFmt n unit) ∧ Fits n unit := by
  intro hclaim
  obtain ⟨n, unit, hformat, -, hfits⟩ := hclaim (fun _ => some 0) "1970-01-01T00:00:00Z" 0 3599000 rfl (by decide)
  have hcall := hformat fun m u => if m = -60 ∧ u = .minute then "1" else "0"
  rw [show formatRelative (fun m u => if m = -60 ∧ u = .minute then "1" else "0") (fun _ => some 0)
    "1970-01-01T00:00:00Z" 3599000 = "1" by decide] at hcall
  by_cases hsame : n = -60 ∧ unit = .minute
  · obtain ⟨rfl, rfl⟩ := hsame
    have hlt : |(-60 : ℤ)| * 60 < 3600 := hfits ((.hour, 3600), (.minute, 60)) (by decide) rfl
    revert hlt
    decide
  · rw [if_neg hsame] at hcall
    exact absurd hcall (by decide)

end SuperAdmin.RelativeTime
