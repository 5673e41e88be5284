import Mathlib.Logic.Function.Basic
/-!
# LocalTime — instants, local days and times of day

An instant is a number of seconds since the beginning of 1970 in Greenwich.  In a zone without daylight saving it has a local
day, counted from that one, and a minute of the day.  `Zone.instant` goes back from a day and a time of day to the instant;
`Zone.shows_instant_add_iff` says how far an instant can be moved and still show its day and its minute.
-/
namespace LocalTime

/-- A time zone whose offset does not change. -/
structure Zone where
  secondsFromGMT : Int
  deriving DecidableEq, Repr

namespace Zone
variable (z : Zone)

/-- What a clock on the wall would have counted at the instant. -/
def wall (t : Int) : Int := t + z.secondsFromGMT

def day (t : Int) : Int := z.wall t / 86400

/-- The seconds since local midnight. -/
def timeOfDay (t : Int) : Int := z.wall t % 86400

def minuteOfDay (t : Int) : Int := z.timeOfDay t / 60

/-- The instant on a day that is a time of day after midnight. -/
def instant (day timeOfDay : Int) : Int := day * 86400 + timeOfDay - z.secondsFromGMT

theorem day_instant {d r : Int} (h0 : 0 ≤ r) (h1 : r < 86400) : z.day (z.instant d r) = d := by
  simp only [instant, day, wall]
  omega

theorem minuteOfDay_instant {d m r : Int} (hm0 : 0 ≤ m) (hm1 : m < 1440) (hr0 : 0 ≤ r) (hr1 : r < 60) :
    z.minuteOfDay (z.instant d (m * 60 + r)) = m := by
  simp only [instant, minuteOfDay, timeOfDay, wall]
  omega

theorem timeOfDay_nonneg (t : Int) : 0 ≤ z.timeOfDay t := Int.emod_nonneg _ (by decide)

theorem timeOfDay_lt (t : Int) : z.timeOfDay t < 86400 := Int.emod_lt_of_pos _ (by decide)

/-- **How far an instant may be moved**: it shows the same day and minute as long as it stays in the minute. -/
theorem shows_instant_add_iff {d m r s : Int} (h0 : 0 ≤ m) (h1 : m < 1440) :
    z.day (z.instant d (m * 60 + r) + s) = d ∧ z.minuteOfDay (z.instant d (m * 60 + r) + s) = m ↔
      0 ≤ r + s ∧ r + s < 60 := by
  simp only [instant, day, minuteOfDay, timeOfDay, wall]
  omega

end Zone

/-- How days and minutes of a day are written. -/
structure Texts where
  day : Int → String
  minute : Int → String
  day_ne : ∀ d, day d ≠ ""
  minute_ne : ∀ m, minute m ≠ ""
  day_injective : Function.Injective day
  minute_injective : Function.Injective minute

end LocalTime
