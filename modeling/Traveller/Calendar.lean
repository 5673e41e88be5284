import Mathlib.Order.MinMax
import Mathlib.Tactic.Common
/-!
# Calendar — days and years of the Gregorian calendar

Days are counted from the first of January 1970.  A day has a date (`civil`) and a date its day (`dayNumber`), both computed
without a table.  A year later is the same date in the next year, or the last of February where a leap day has none (`addYears`);
`completedYears` is the number of years that are over between two days (`completedYears_spec`).
-/
namespace Calendar

structure Date where
  year : Int
  month : Int
  day : Int
  deriving DecidableEq, Repr

def isLeap (y : Int) : Bool := decide (y % 4 = 0 ∧ (y % 100 ≠ 0 ∨ y % 400 = 0))

/-- The first day of the year. -/
def yearStart (y : Int) : Int := 365 * (y - 1970) + ((y - 1) / 4 - (y - 1) / 100 + (y - 1) / 400) - 477

/-- The year of a day: off by one at most when estimated by the mean length of a year. -/
def yearOf (n : Int) : Int :=
  let y := 1970 + 400 * n / 146097
  if n < yearStart y then y - 1 else if yearStart (y + 1) ≤ n then y + 1 else y

/-- The days of a year before its month `m`. -/
def monthStart (y m : Int) : Int := (367 * m - 362) / 12 - if m ≤ 2 then 0 else if isLeap y then 1 else 2

def monthLength (y m : Int) : Int := monthStart y (m + 1) - monthStart y m

def dayNumber (d : Date) : Int := yearStart d.year + monthStart d.year d.month + (d.day - 1)

def civil (n : Int) : Date :=
  let y := yearOf n
  let dayOfYear := n - yearStart y
  -- the month as if February had thirty days
  let shift := if dayOfYear < monthStart y 3 then 0 else if isLeap y then 1 else 2
  let m := (12 * (dayOfYear + shift) + 373) / 367
  { year := y, month := m, day := dayOfYear - monthStart y m + 1 }

/-! ## Days and dates -/

theorem yearStart_succ (y : Int) : yearStart (y + 1) = yearStart y + if isLeap y then 366 else 365 := by
  simp only [yearStart, isLeap, decide_eq_true_eq]
  split <;> omega

theorem yearStart_estimate (n : Int) :
    yearStart (1970 + 400 * n / 146097 - 1) ≤ n ∧ n < yearStart (1970 + 400 * n / 146097 + 1 + 1) := by
  simp only [yearStart]
  omega

theorem yearStart_yearOf (n : Int) : yearStart (yearOf n) ≤ n ∧ n < yearStart (yearOf n + 1) := by
  obtain ⟨hlow, hhigh⟩ := yearStart_estimate n
  unfold yearOf
  dsimp only
  split
  · rename_i hbefore
    rw [Int.sub_add_cancel]
    exact ⟨hlow, hbefore⟩
  · rename_i hafter
    split
    · rename_i hnext
      exact ⟨hnext, hhigh⟩
    · rename_i hnot
      exact ⟨Int.not_lt.1 hafter, Int.not_le.1 hnot⟩

theorem yearStart_mono {y y' : Int} (h : y ≤ y') : yearStart y ≤ yearStart y' := by
  simp only [yearStart]
  omega

/-- **A day is in one year.** -/
theorem yearOf_eq {n y : Int} (hstart : yearStart y ≤ n) (hend : n < yearStart (y + 1)) : yearOf n = y := by
  obtain ⟨hlow, hhigh⟩ := yearStart_yearOf n
  rcases Int.lt_trichotomy (yearOf n) y with h | h | h
  · have := yearStart_mono (Int.add_one_le_of_lt h)
    omega
  · exact h
  · have := yearStart_mono (Int.add_one_le_of_lt h)
    omega

theorem dayNumber_civil (n : Int) : dayNumber (civil n) = n := by
  simp only [dayNumber, civil]
  omega

/-- A month of the calendar and a day of the month. -/
structure Date.Valid (d : Date) : Prop where
  month_pos : 1 ≤ d.month
  month_le : d.month ≤ 12
  day_pos : 1 ≤ d.day
  day_le : d.day ≤ monthLength d.year d.month

theorem valid_civil (n : Int) : (civil n).Valid := by
  obtain ⟨hlow, hhigh⟩ := yearStart_yearOf n
  rw [yearStart_succ] at hhigh
  cases hleap : isLeap (yearOf n) <;> rw [hleap] at hhigh
  all_goals
    constructor <;> simp only [civil, monthLength, monthStart, hleap] <;> grind

theorem monthStart_bounds {y m : Int} (hm : 1 ≤ m) (hm' : m ≤ 12) :
    0 ≤ monthStart y m ∧ monthStart y (m + 1) ≤ (if isLeap y then 366 else 365) ∧ 28 ≤ monthLength y m := by
  simp only [monthLength, monthStart]
  cases isLeap y <;> grind

/-- **The dates of a year are in the year.** -/
theorem yearOf_dayNumber {d : Date} (h : d.Valid) : yearOf (dayNumber d) = d.year := by
  obtain ⟨hm, hm', hd, hd'⟩ := h
  obtain ⟨hfirst, hlast, -⟩ := monthStart_bounds (y := d.year) hm hm'
  have hyear := yearStart_succ d.year
  apply yearOf_eq <;> simp only [dayNumber, monthLength] at *
  · omega
  · rw [hyear]
    omega

/-! ## Years later -/

/-- The same date so many years later, or the last of its month. -/
def addYears (n years : Int) : Int :=
  let d := civil n
  dayNumber { year := d.year + years, month := d.month, day := min d.day (monthLength (d.year + years) d.month) }

theorem yearOf_addYears (n years : Int) : yearOf (addYears n years) = yearOf n + years := by
  obtain ⟨hm, hm', hd, -⟩ := valid_civil n
  have hlong := (monthStart_bounds (y := (civil n).year + years) hm hm').2.2
  exact yearOf_dayNumber ⟨hm, hm', le_min hd (by omega), min_le_right _ _⟩

theorem lt_of_yearOf_lt {n n' : Int} (h : yearOf n < yearOf n') : n < n' := by
  have hend := (yearStart_yearOf n).2
  have hstart := (yearStart_yearOf n').1
  have := yearStart_mono (Int.add_one_le_of_lt h)
  omega

/-! ## Instants -/

/-- An instant of a local clock, in milliseconds: its day, and the time since midnight. -/
def dayOf (t : Int) : Int := t / 86400000

def timeOf (t : Int) : Int := t % 86400000

def yearsLater (t years : Int) : Int := addYears (dayOf t) years * 86400000 + timeOf t

/-- The years that are over between two instants. -/
def completedYears (t t' : Int) : Int :=
  let years := yearOf (dayOf t') - yearOf (dayOf t)
  if yearsLater t years ≤ t' then years else years - 1

theorem dayOf_yearsLater (t years : Int) : dayOf (yearsLater t years) = addYears (dayOf t) years := by
  simp only [yearsLater, timeOf, dayOf]
  omega

/-- **They are over, and one more is not.** -/
theorem completedYears_spec (t t' : Int) :
    yearsLater t (completedYears t t') ≤ t' ∧ t' < yearsLater t (completedYears t t' + 1) := by
  have hyear : ∀ years, yearOf (dayOf (yearsLater t years)) = yearOf (dayOf t) + years := fun years => by
    rw [dayOf_yearsLater, yearOf_addYears]
  have hlt : ∀ {s s' : Int}, yearOf (dayOf s) < yearOf (dayOf s') → s < s' := fun h => by
    have := lt_of_yearOf_lt h
    simp only [dayOf] at this
    omega
  unfold completedYears
  dsimp only
  split
  · rename_i hle
    exact ⟨hle, hlt (by rw [hyear]; omega)⟩
  · rename_i hgt
    rw [Int.sub_add_cancel]
    exact ⟨(hlt (by rw [hyear]; omega)).le, Int.not_le.1 hgt⟩

/-- A leap day's year is over on the last of February. -/
example : addYears (dayNumber ⟨2000, 2, 29⟩) 1 = dayNumber ⟨2001, 2, 28⟩ := by decide

end Calendar
