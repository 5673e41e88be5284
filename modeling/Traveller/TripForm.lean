import Mathlib.Data.List.Induction
import Traveller.ChatRooms
import Traveller.LocalTime
import Traveller.Runs
import Traveller.SessionApi
/-!
# TripForm — `NewTripVC`

The form of a new trip: two places, an arrival date, an arrival time.  The time is chosen after the date; what is stored is one
instant, `start_timestamp`, put together when the time is accepted.  For a date that is near the picker's time of today is
taken as it is and has to be 59 minutes ahead; for a later one the difference between the clock and the chosen time is taken
off the date, and nothing is checked (`accepted_time_is_future_iff`).

A clock reading is in milliseconds.  Of a picked date both `Int(_)` and the description that is shown drop the fraction of the
second: a picked date is its whole seconds.  How the device writes days and minutes is the system's, and a parameter.
-/
namespace Traveller

open LocalTime (Zone Texts)

namespace Constants

def oneMinTimestamp : Int := 60 * 1000
def oneHourTimestamp : Int := 3600 * 1000
def oneDayTimestamp : Int := 86400 * 1000

end Constants

/-- `Int(NSDate().timeIntervalSince1970)` at a clock reading. -/
def wholeSeconds (now : Int) : Int := now.tdiv 1000

/-! ## Places -/

/-- `GMSAddressComponent`. -/
structure AddressComponent where
  types : List String
  shortName : Option String
  deriving DecidableEq, Repr

def AddressComponent.isCountry (one : AddressComponent) : Bool := one.types.contains "country"

/-- `GMSPlace`. -/
structure Place where
  formattedAddress : Option String
  placeID : Option String
  addressComponents : Option (List AddressComponent)
  deriving DecidableEq, Repr

namespace Place

/-- The text a field shows for the place. -/
def text (place : Place) : String := place.formattedAddress.getD ""

/-- The short names of the components that are countries. -/
def countries (place : Place) : List (Option String) :=
  ((place.addressComponents.getD []).filter AddressComponent.isCountry).map AddressComponent.shortName

/-- The loop over the components and their types: a country is assigned for each component that is one, the last stays. -/
def assignCountry {β : Type*} (ofName : Option String → β) (country : β) (place : Place) : β :=
  (place.addressComponents.getD []).foldl (fun country one => if one.isCountry then ofName one.shortName else country) country

theorem assignCountry_eq {β : Type*} (ofName : Option String → β) (country : β) (place : Place) :
    place.assignCountry ofName country = (place.countries.getLast?.map ofName).getD country := by
  obtain ⟨_, _, addressComponents⟩ := place
  unfold assignCountry countries
  generalize addressComponents.getD [] = components
  induction components using List.reverseRecOn with
  | nil => rfl
  | append_singleton components one ih =>
    rw [List.foldl_append, List.filter_append, List.map_append, ih]
    by_cases hone : one.isCountry = true
    · simp [hone]
    · simp [hone]

end Place

/-! ## The form -/

structure NewTripVC where
  edtFlyingfrom : String := ""
  edtFlyingto : String := ""
  edtDate : String := ""
  edtTime : String := ""
  edtWeight : String := ""
  edtPrice : String := ""
  txvAdditionalinformation : String := ""
  checkBoxs : List String := []
  selectedField : Nat := 0
  dateTimestamp : Option Int := none
  startTimestamp : Option Int := none
  fromId : String := ""
  toId : String := ""
  fromCountry : String := ""
  toCountry : String := ""
  deriving DecidableEq, Repr

/-- What the user does.  The two dates are picked at a clock reading, a save reads the clock too; `edits` is what is typed and
checked. -/
inductive NewTripEvent where
  | btnStartDateClicked (now value : Int)
  | btnEndDateClicked (now value : Int)
  | flyingFromFieldTapped
  | flyingToFieldTapped
  | didAutocompleteWith (place : Place)
  | edits (weight price additionalinformation : String) (items : List String)
  | saveBtnClicked (now : Int)
  deriving DecidableEq, Repr

namespace NewTripVC

section Handlers
variable (z : Zone) (T : Texts)

/-- The done block of `btnStartDateClicked`: a date more than an hour back is refused, and stays remembered. -/
def btnStartDateClicked (now value : Int) (s : NewTripVC) : NewTripVC :=
  if now > value * 1000 + Constants.oneHourTimestamp then { s with edtDate := "" }
  else { s with dateTimestamp := some (value * 1000), edtDate := T.day (z.day value) }

/-- The done block of `btnEndDateClicked`. -/
def btnEndDateClicked (now value : Int) (s : NewTripVC) : NewTripVC :=
  match s.dateTimestamp with
  | none => s
  | some dateTimestamp =>
    if dateTimestamp - wholeSeconds now * 1000 ≤ Constants.oneDayTimestamp - Constants.oneHourTimestamp then
      if value * 1000 - now ≤ Constants.oneHourTimestamp - Constants.oneMinTimestamp then { s with edtTime := "" }
      else { s with startTimestamp := some (value * 1000), edtTime := T.minute (z.minuteOfDay value) }
    else
      let timediff := wholeSeconds now * 1000 - value * 1000
      { s with startTimestamp := some (dateTimestamp - timediff), edtTime := T.minute (z.minuteOfDay value) }

def didAutocompleteWith (place : Place) (s : NewTripVC) : NewTripVC :=
  if s.selectedField = 1 then
    { s with
      edtFlyingfrom := place.text
      fromId := place.placeID.getD ""
      fromCountry := place.assignCountry (·.getD "") s.fromCountry }
  else if s.selectedField = 2 then
    { s with
      edtFlyingto := place.text
      toId := place.placeID.getD ""
      toCountry := place.assignCountry (·.getD "") s.toCountry }
  else s

/-- The trip `saveBtnClicked` reads off the form. -/
def trip (now : Int) (s : NewTripVC) : NewTrip where
  fromLocation := s.edtFlyingfrom
  toLocation := s.edtFlyingto
  date := s.edtDate
  time := s.edtTime
  weight := s.edtWeight
  price := s.edtPrice
  items := s.checkBoxs
  des :=
    if s.txvAdditionalinformation = "You can add additional information here to share with other people" ∨
        s.txvAdditionalinformation = "Добавить дополнительную информацию для заказчиков" then ""
    else s.txvAdditionalinformation
  travelTime := s.startTimestamp.getD now
  fromId := s.fromId
  toId := s.toId
  fromCountry := s.fromCountry
  toCountry := s.toCountry

/-- The trip `saveBtnClicked` calls `createTravel` with, where no field is empty. -/
def saveBtnClicked (now : Int) (s : NewTripVC) : Option NewTrip :=
  if s.edtFlyingfrom = "" then none
  else if s.edtFlyingto = "" then none
  else if s.edtDate = "" then none
  else if s.edtTime = "" then none
  else if s.edtWeight = "" then none
  else if s.edtPrice = "" then none
  else if s.checkBoxs = [] then none
  else some (s.trip now)

def step (s : NewTripVC) : NewTripEvent → NewTripVC
  | .btnStartDateClicked now value => s.btnStartDateClicked z T now value
  | .btnEndDateClicked now value => s.btnEndDateClicked z T now value
  | .flyingFromFieldTapped => { s with selectedField := 1 }
  | .flyingToFieldTapped => { s with selectedField := 2 }
  | .didAutocompleteWith place => s.didAutocompleteWith place
  | .edits weight price additionalinformation items =>
    { s with edtWeight := weight, edtPrice := price, txvAdditionalinformation := additionalinformation, checkBoxs := items }
  | .saveBtnClicked _ => s

end Handlers

/-- The trip a step creates, if it creates one. -/
def creates (s : NewTripVC) : NewTripEvent → Option NewTrip
  | .saveBtnClicked now => s.saveBtnClicked now
  | _ => none

theorem saveBtnClicked_eq_some {s : NewTripVC} {now : Int} {trip : NewTrip} (h : s.saveBtnClicked now = some trip) :
    s.edtFlyingfrom ≠ "" ∧ s.edtFlyingto ≠ "" ∧ s.edtDate ≠ "" ∧ s.edtTime ≠ "" ∧ trip = s.trip now := by
  unfold saveBtnClicked at h
  split_ifs at h with hfrom hto hdate htime
  exact ⟨hfrom, hto, hdate, htime, (Option.some.inj h).symm⟩

/-- **The form feeds the app**: what the app sends for the trip on the form is what the form's own checks let through. -/
theorem sends_saveBtnClicked (a : App) (s : NewTripVC) (now : Int) :
    a.sends (.saveBtnClicked (s.trip now)) =
      (s.saveBtnClicked now).map (.createTravel a.session.thisuser.userId) := by
  simp only [App.sends, saveBtnClicked, List.any_cons, List.any_nil, Bool.or_false, Bool.or_eq_true, decide_eq_true_eq,
    List.isEmpty_iff, ite_or, apply_ite (Option.map _), Option.map_none, Option.map_some]
  rfl

/-! ## The time accepted -/

/-- The instant `btnEndDateClicked` assigns, if it assigns one. -/
def arrival (now value : Int) (s : NewTripVC) : Option Int :=
  s.dateTimestamp.bind fun dateTimestamp =>
    if dateTimestamp - wholeSeconds now * 1000 ≤ Constants.oneDayTimestamp - Constants.oneHourTimestamp then
      if value * 1000 - now ≤ Constants.oneHourTimestamp - Constants.oneMinTimestamp then none else some (value * 1000)
    else some (dateTimestamp - (wholeSeconds now * 1000 - value * 1000))

/-- **What a choice of the time does**: nothing without a date; else the instant is assigned and the time shown, or the field
is emptied. -/
theorem btnEndDateClicked_eq (z : Zone) (T : Texts) (now value : Int) (s : NewTripVC) :
    s.btnEndDateClicked z T now value =
      match s.arrival now value with
      | some arrival => { s with startTimestamp := some arrival, edtTime := T.minute (z.minuteOfDay value) }
      | none => if s.dateTimestamp.isSome then { s with edtTime := "" } else s := by
  unfold btnEndDateClicked arrival
  cases s.dateTimestamp with
  | none => rfl
  | some dateTimestamp =>
    simp only [Option.bind_some, Option.isSome_some, if_true]
    split_ifs <;> rfl

/-- **An accepted arrival time lies in the future**, by 59 minutes. -/
def AcceptsFuture (s : NewTripVC) : NewTripEvent → Prop
  | .btnEndDateClicked now value =>
    ∀ arrival, s.arrival now value = some arrival →
      Constants.oneHourTimestamp - Constants.oneMinTimestamp < arrival - now
  | _ => True

/-- Either the date is at most 23 hours ahead, or the time chosen is less far back than the date is ahead, by 59 minutes. -/
def ChoosesAhead (s : NewTripVC) : NewTripEvent → Prop
  | .btnEndDateClicked now value =>
    ∀ dateTimestamp, s.dateTimestamp = some dateTimestamp →
      dateTimestamp - wholeSeconds now * 1000 ≤ Constants.oneDayTimestamp - Constants.oneHourTimestamp ∨
        now - value * 1000 <
          dateTimestamp - wholeSeconds now * 1000 - (Constants.oneHourTimestamp - Constants.oneMinTimestamp)
  | _ => True

theorem acceptsFuture_iff (s : NewTripVC) (e : NewTripEvent) : AcceptsFuture s e ↔ ChoosesAhead s e := by
  cases e with
  | btnEndDateClicked now value =>
    simp only [AcceptsFuture, ChoosesAhead, arrival]
    cases s.dateTimestamp with
    | none => simp
    | some dateTimestamp =>
      simp only [Option.bind_some, Option.some.injEq, forall_eq']
      split
      · -- The branch of today asks for the 59 minutes itself.
        rename_i htoday
        refine iff_of_true (fun arrival ha => ?_) (.inl htoday)
        split at ha
        · cases ha
        · cases ha
          omega
      · rename_i hlater
        simp only [Option.some.injEq, forall_eq', or_iff_right hlater]
        omega
  | _ => exact Iff.rfl

/-- **The accepted times lie in the future exactly when each is chosen ahead**: the branch of later dates has no check. -/
theorem accepted_time_is_future_iff (z : Zone) (T : Texts) (es : List NewTripEvent) :
    Runs.AllSteps (step z T) AcceptsFuture {} es ↔ Runs.AllSteps (step z T) ChoosesAhead {} es :=
  Runs.allSteps_congr (fun _ => True) (fun _ _ _ => trivial) (fun s e _ => acceptsFuture_iff s e) trivial

/-- One way to write days and minutes. -/
def numbered : Texts where
  day d := "day " ++ toString d
  minute m := "minute " ++ toString m
  day_ne d := by simp
  minute_ne m := by simp
  day_injective d d' h := toString_inj.1 (String.append_right_inj _ |>.1 h)
  minute_injective m m' h := toString_inj.1 (String.append_right_inj _ |>.1 h)

/-- In Greenwich, at one minute to midnight: the date is tomorrow's, the time midnight, and the trip arrives before it is
saved. -/
theorem tomorrow_at_midnight_is_past :
    ¬ Runs.AllSteps (step ⟨0⟩ numbered) AcceptsFuture {}
      [.btnStartDateClicked 8726350000 8812740, .btnEndDateClicked 8726390000 8640000] := by
  rintro ⟨-, h, -⟩
  exact absurd (h 8726350000 (by decide)) (by decide)

end NewTripVC
end Traveller
