import Traveller.TripForm
/-!
# ArrivalTime — the arrival time saved and the one shown

A date picker returns the chosen day at the time of day at which it was opened, a time picker the day it was opened at the
chosen minute.  For a near date `start_timestamp` is the second of the two, whatever day it is shown with.  For a later one it
is the date, moved by the difference between the chosen time and the clock at its acceptance: as the date's time of day is that
of the opening of the first picker, the arrival is early by all the time the user took (`Arrival.slack`).

Nothing is computed again when the date is picked again.
-/
namespace Traveller

open LocalTime (Zone Texts)

/-- A choice in the date picker: when the picker was opened, and the day chosen. -/
structure DatePick where
  opened : Int
  day : Int
  deriving DecidableEq, Repr

/-- A choice in the time picker: when the picker was opened, the minute of the day chosen, and the seconds it is returned
with. -/
structure TimePick where
  opened : Int
  minute : Fin 1440
  rest : Fin 60
  deriving DecidableEq, Repr

namespace ArrivalTime

section
variable (z : Zone)

def dateValue (pick : DatePick) : Int := z.instant pick.day (z.timeOfDay pick.opened)

def timeValue (pick : TimePick) : Int := z.instant (z.day pick.opened) ((pick.minute : Int) * 60 + (pick.rest : Int))

end

/-- The two pickers are done at a clock reading; everything else happens to the form. -/
inductive PickerEvent where
  | date (pick : DatePick) (now : Int)
  | time (pick : TimePick) (now : Int)
  | form (e : NewTripEvent)
  deriving DecidableEq, Repr

section
variable (z : Zone) (T : Texts)

def step (s : NewTripVC) : PickerEvent → NewTripVC
  | .date pick now => s.step z T (.btnStartDateClicked now (dateValue z pick))
  | .time pick now => s.step z T (.btnEndDateClicked now (timeValue z pick))
  | .form (.btnStartDateClicked ..) | .form (.btnEndDateClicked ..) => s
  | .form e => s.step z T e

end

def creates (s : NewTripVC) : PickerEvent → Option NewTrip
  | .form e => s.creates e
  | _ => none

/-- An accepted time: the choice, the clock then, and the date remembered then. -/
structure Arrival where
  date : DatePick
  pick : TimePick
  now : Int

/-- What is noted: the date accepted last and the time accepted last. -/
structure Chosen where
  date : Option DatePick := none
  time : Option Arrival := none

namespace Arrival
variable (z : Zone) (a : Arrival)

/-- The date is at most 23 hours ahead. -/
def Near : Prop :=
  dateValue z a.date * 1000 - wholeSeconds a.now * 1000 ≤ Constants.oneDayTimestamp - Constants.oneHourTimestamp

instance : Decidable (a.Near z) := inferInstanceAs (Decidable (_ ≤ _))

/-- The instant assigned, in seconds. -/
def start : Int :=
  if a.Near z then timeValue z a.pick else dateValue z a.date - (wholeSeconds a.now - timeValue z a.pick)

/-- What is left of the seconds of the time after the delay between the opening of the date picker and the acceptance of the
time has been taken off, for the day that is shown. -/
def slack (shown : DatePick) : Int :=
  (a.date.day - shown.day + (z.day a.pick.opened - z.day a.date.opened)) * 86400 + (a.pick.rest : Int) -
    (wholeSeconds a.now - a.date.opened)

/-- **When the arrival is the one shown**: for a near date when the time was chosen on the day shown; for a later one when the
delay has left the chosen minute. -/
def Shows (shown : DatePick) : Prop :=
  if a.Near z then z.day a.pick.opened = shown.day else 0 ≤ a.slack z shown ∧ a.slack z shown < 60

variable {z a}

theorem shows_iff (shown : DatePick) :
    z.day (a.start z) = shown.day ∧ z.minuteOfDay (a.start z) = (a.pick.minute : Int) ↔ a.Shows z shown := by
  have hm := a.pick.minute.isLt
  have hr := a.pick.rest.isLt
  unfold Shows start
  split
  · have hday : z.day (timeValue z a.pick) = z.day a.pick.opened := z.day_instant (by omega) (by omega)
    have hminute : z.minuteOfDay (timeValue z a.pick) = (a.pick.minute : Int) :=
      z.minuteOfDay_instant (by omega) (by omega) (by omega) (by omega)
    rw [hday, hminute]
    exact and_iff_left rfl
  · -- The later branch moves the minute shown by what the delay leaves of its seconds.
    have hmove : dateValue z a.date - (wholeSeconds a.now - timeValue z a.pick) =
        z.instant shown.day ((a.pick.minute : Int) * 60 + (a.pick.rest : Int)) +
          (a.slack z shown - (a.pick.rest : Int)) := by
      simp only [dateValue, timeValue, slack, Zone.instant, Zone.timeOfDay, Zone.day, Zone.wall]
      omega
    rw [hmove, z.shows_instant_add_iff (by omega) (by omega)]
    omega

end Arrival

section
variable (z : Zone) (T : Texts)

def note (n : Chosen) (s : NewTripVC) : PickerEvent → Chosen
  | .date pick now => if now > dateValue z pick * 1000 + Constants.oneHourTimestamp then n else { n with date := some pick }
  | .time pick now =>
    match n.date, s.arrival now (timeValue z pick) with
    | some date, some _ => { n with time := some ⟨date, pick, now⟩ }
    | _, _ => n
  | .form _ => n

abbrev noting : NewTripVC × Chosen → PickerEvent → NewTripVC × Chosen := Runs.noting (step z T) (note z)

/-- **The arrival saved is the one shown**: the trip's date and time are those of its `travel_time`. -/
def SavesShown (y : NewTripVC × Chosen) (e : PickerEvent) : Prop :=
  ∀ trip, creates y.1 e = some trip →
    T.day (z.day (trip.travelTime / 1000)) = trip.date ∧ T.minute (z.minuteOfDay (trip.travelTime / 1000)) = trip.time

/-- Where a trip is created, the time accepted last shows the arrival with the date accepted last. -/
def SavesArrival (y : NewTripVC × Chosen) (e : PickerEvent) : Prop :=
  creates y.1 e ≠ none → ∀ shown a, y.2.date = some shown → y.2.time = some a → a.Shows z shown

/-- **What the form remembers**: the date accepted last, and beside a time the instant of the time accepted last. -/
structure Inv (y : NewTripVC × Chosen) : Prop where
  dateTimestamp : y.1.dateTimestamp = y.2.date.map fun pick => dateValue z pick * 1000
  edtDate : y.1.edtDate ≠ "" → ∃ pick, y.2.date = some pick ∧ y.1.edtDate = T.day pick.day
  edtTime : y.1.edtTime ≠ "" → ∃ a, y.2.time = some a ∧ y.1.edtTime = T.minute (a.pick.minute : Int) ∧
    y.1.startTimestamp = some (a.start z * 1000)

variable {z T}

/-- The instant assigned at the acceptance of a time. -/
theorem arrival_eq {s : NewTripVC} {date : DatePick} (hdate : s.dateTimestamp = some (dateValue z date * 1000))
    {pick : TimePick} {now t : Int} (ht : s.arrival now (timeValue z pick) = some t) :
    t = (Arrival.mk date pick now).start z * 1000 := by
  simp only [NewTripVC.arrival, hdate, Option.bind_some] at ht
  split_ifs at ht with hnear hsoon
  · rw [Arrival.start, if_pos (show (Arrival.mk date pick now).Near z from hnear)]
    exact (Option.some.inj ht).symm
  · rw [Arrival.start, if_neg (show ¬ (Arrival.mk date pick now).Near z from hnear)]
    have := Option.some.inj ht
    dsimp only
    omega

theorem Inv.step {y : NewTripVC × Chosen} (h : Inv z T y) (e : PickerEvent) : Inv z T (noting z T y e) := by
  obtain ⟨s, n⟩ := y
  cases e with
  | date pick now =>
    simp only [Runs.noting, ArrivalTime.step, NewTripVC.step, note, NewTripVC.btnStartDateClicked]
    split
    · exact ⟨h.dateTimestamp, fun hne => absurd rfl hne, h.edtTime⟩
    · have hday : z.day (dateValue z pick) = pick.day := z.day_instant (z.timeOfDay_nonneg _) (z.timeOfDay_lt _)
      exact ⟨rfl, fun _ => ⟨pick, rfl, by rw [hday]⟩, h.edtTime⟩
  | time pick now =>
    simp only [Runs.noting, ArrivalTime.step, NewTripVC.step, note, NewTripVC.btnEndDateClicked_eq]
    cases ha : s.arrival now (timeValue z pick) with
    | none =>
      have hn : (match n.date, (none : Option Int) with
          | some date, some _ => { n with time := some ⟨date, pick, now⟩ }
          | _, _ => n) = n := by cases n.date <;> rfl
      simp only [hn]
      split
      · exact ⟨h.dateTimestamp, h.edtDate, fun hne => absurd rfl hne⟩
      · exact h
    | some t =>
      cases hdate : n.date with
      | none =>
        -- Without a date no time is accepted.
        have hs : s.dateTimestamp = none := by rw [h.dateTimestamp, hdate, Option.map_none]
        simp [NewTripVC.arrival, hs] at ha
      | some date =>
        have hs : s.dateTimestamp = some (dateValue z date * 1000) := by rw [h.dateTimestamp, hdate, Option.map_some]
        have hminute : z.minuteOfDay (timeValue z pick) = (pick.minute : Int) := by
          have hm := pick.minute.isLt
          have hr := pick.rest.isLt
          exact z.minuteOfDay_instant (by omega) (by omega) (by omega) (by omega)
        refine ⟨by simpa [hdate] using hs, by simpa [hdate] using h.edtDate, fun _ => ⟨⟨date, pick, now⟩, rfl, ?_, ?_⟩⟩
        · simp only [hminute]
        · simp only [arrival_eq hs ha]
  | form e =>
    cases e with
    | didAutocompleteWith place =>
      simp only [Runs.noting, ArrivalTime.step, NewTripVC.step, note, NewTripVC.didAutocompleteWith]
      split_ifs <;> exact ⟨h.dateTimestamp, h.edtDate, h.edtTime⟩
    | _ => exact ⟨h.dateTimestamp, h.edtDate, h.edtTime⟩

/-- At a save the trip shows its arrival exactly when the time accepted last does. -/
theorem Inv.savesShown_iff {y : NewTripVC × Chosen} (h : Inv z T y) (e : PickerEvent) :
    SavesShown z T y e ↔ SavesArrival z y e := by
  obtain ⟨s, n⟩ := y
  have hsave : ∀ now, SavesShown z T (s, n) (.form (.saveBtnClicked now)) ↔
      SavesArrival z (s, n) (.form (.saveBtnClicked now)) := by
    intro now
    simp only [SavesShown, SavesArrival, creates, NewTripVC.creates]
    cases hs : s.saveBtnClicked now with
    | none => simp
    | some trip =>
      obtain ⟨-, -, hdate, htime, rfl⟩ := NewTripVC.saveBtnClicked_eq_some hs
      obtain ⟨shown, hshown, hd⟩ := h.edtDate hdate
      obtain ⟨a, ha, ht, hstart⟩ := h.edtTime htime
      dsimp only at hshown hd ha ht hstart
      have htravel : (s.trip now).travelTime / 1000 = a.start z := by
        simp only [NewTripVC.trip, hstart, Option.getD_some]
        omega
      simp only [Option.some.injEq, forall_eq', hshown, ha, ne_eq, reduceCtorEq, not_false_eq_true, forall_const, htravel]
      simp only [NewTripVC.trip, hd, ht, T.day_injective.eq_iff, T.minute_injective.eq_iff]
      rw [Arrival.shows_iff]
      exact ⟨by rintro hshows _ _ rfl rfl; exact hshows, fun hall => hall shown a rfl rfl⟩
  cases e with
  | form e =>
    cases e with
    | saveBtnClicked now => exact hsave now
    | _ => exact iff_of_true (fun _ h => by cases h) fun h => absurd rfl h
  | _ => exact iff_of_true (fun _ h => by cases h) fun h => absurd rfl h

end

/-- **The arrival saved is the one shown exactly when at each save the time accepted last shows it**, with the date accepted
last: a near date was the day itself, and the delay has not left the minute of a later one. -/
theorem saved_arrival_is_shown_iff (z : Zone) (T : Texts) (es : List PickerEvent) :
    Runs.AllSteps (noting z T) (SavesShown z T) ({}, {}) es ↔ Runs.AllSteps (noting z T) (SavesArrival z) ({}, {}) es :=
  Runs.allSteps_congr (Inv z T) (fun _ e h => h.step e) (fun _ e h => h.savesShown_iff e)
    ⟨rfl, fun h => absurd rfl h, fun h => absurd rfl h⟩

/-- In Greenwich, at ten: a day five days ahead and half past three, chosen in a minute and five seconds.  The trip arrives at
15:28. -/
theorem a_minute_late_is_a_minute_early :
    ¬ Runs.AllSteps (noting ⟨0⟩ NewTripVC.numbered) (SavesShown ⟨0⟩ NewTripVC.numbered) ({}, {})
      [.form .flyingFromFieldTapped, .form (.didAutocompleteWith ⟨some "Riga", some "r1", none⟩),
        .form .flyingToFieldTapped, .form (.didAutocompleteWith ⟨some "Oslo", some "o1", none⟩),
        .date ⟨8676000, 105⟩ 8676010000, .time ⟨8676020, 930, 0⟩ 8676065000, .form (.edits "5" "10" "" ["Food"]),
        .form (.saveBtnClicked 8676080000)] := by
  rintro ⟨-, -, -, -, -, -, -, h, -⟩
  exact absurd (h _ rfl).2 (by decide)

end ArrivalTime
end Traveller
