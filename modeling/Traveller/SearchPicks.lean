import Traveller.ListScreens
import Traveller.TripForm
/-!
# SearchPicks — what the user picks in `SearchVC`

Two dates and two places.  A date is four variables that two handlers and a refresh write: the instants and the texts.  A start
date is looked at alone, an end date against the start date; an end date that is refused takes the start instant away and
empties the text of the end (`range_shown_iff`).

The calendar is any map from instants to days: for the dates nothing is assumed of the time zone.
-/
namespace Traveller

open LocalTime (Texts)

/-- `place.addressComponents?.first?.types.first == "country"`. -/
def Place.isCountry (place : Place) : Bool :=
  ((place.addressComponents.bind List.head?).bind fun one => one.types.head?) = some "country"

namespace SearchFields

section Dates
variable (day : Int → Int) (T : Texts)

/-- The done block of `btnStartDateClicked`. -/
def btnStartDateClicked (now value : Int) (f : SearchFields) : SearchFields :=
  if now > value * 1000 + Constants.oneHourTimestamp then { f with startTimestamp := none, edtFromdate := "" }
  else { f with startTimestamp := some (value * 1000), edtFromdate := T.day (day value) }

/-- Whether `btnEndDateClicked` refuses the date: it is past, or not after the start, or where there is none not an hour from
now. -/
def RefusesEnd (now value : Int) (f : SearchFields) : Prop :=
  now > value * 1000 + Constants.oneHourTimestamp ∨
    value * 1000 ≤ f.startTimestamp.getD (wholeSeconds now * 1000 + Constants.oneHourTimestamp)

instance (now value : Int) (f : SearchFields) : Decidable (f.RefusesEnd now value) := inferInstanceAs (Decidable (_ ∨ _))

/-- The done block of `btnEndDateClicked`. -/
def btnEndDateClicked (now value : Int) (f : SearchFields) : SearchFields :=
  if f.RefusesEnd now value then { f with startTimestamp := none, edtTodate := "" }
  else { f with endTimestamp := some (value * 1000), edtTodate := T.day (day value) }

end Dates

/-- `viewController(_:didAutocompleteWith:)`: the country is assigned where the first type of the first component is one. -/
def didAutocompleteWith (selectedField : Nat) (place : Place) (f : SearchFields) : SearchFields :=
  if selectedField = 1 then
    { f with
      edtFlyingfrom := place.text
      fromId := place.placeID
      fromIsCountry := if place.isCountry then 1 else 0
      fromCountry := if place.isCountry then place.assignCountry id f.fromCountry else f.fromCountry }
  else if selectedField = 2 then
    { f with
      edtFlyingto := place.text
      toId := place.placeID
      toIsCountry := if place.isCountry then 1 else 0
      toCountry := if place.isCountry then place.assignCountry id f.toCountry else f.toCountry }
  else f

end SearchFields

/-- `SearchVC` with `selected_field`. -/
structure SearchPicks (α : Type*) where
  screen : SearchVC α := {}
  selectedField : Nat := 0

/-- What happens to it; the picks come through their handlers, everything else is the screen's. -/
inductive PickEvent (α : Type*) where
  | btnStartDateClicked (now value : Int)
  | btnEndDateClicked (now value : Int)
  | flyingFromFieldTapped
  | flyingToFieldTapped
  | didAutocompleteWith (place : Place)
  | screen (e : SearchEvent α)

namespace SearchPicks
variable {α : Type*}

def picks (x : SearchPicks α) (fields : SearchFields) : SearchPicks α :=
  { x with screen := x.screen.step (.picks fields) }

section Step
variable (day : Int → Int) (T : Texts)

def step (x : SearchPicks α) : PickEvent α → SearchPicks α
  | .btnStartDateClicked now value => x.picks (x.screen.fields.btnStartDateClicked day T now value)
  | .btnEndDateClicked now value => x.picks (x.screen.fields.btnEndDateClicked day T now value)
  | .flyingFromFieldTapped => { x with selectedField := 1 }
  | .flyingToFieldTapped => { x with selectedField := 2 }
  | .didAutocompleteWith place => x.picks (x.screen.fields.didAutocompleteWith x.selectedField place)
  | .screen (.picks _) => x
  | .screen e => { x with screen := x.screen.step e }

end Step

/-- The call of `getTravel` that a search or a refresh makes. -/
def asks (x : SearchPicks α) : PickEvent α → Option GetTravel
  | .screen .searchBtnClicked => if x.screen.trapped then none else some x.screen.fields.searchBtnClicked.getTravel
  | .screen .refreshBtnClicked => if x.screen.trapped then none else some {}
  | _ => none

theorem requests_of_asks (day : Int → Int) (T : Texts) {x : SearchPicks α} {e : PickEvent α} {q : GetTravel}
    (h : x.asks e = some q) :
    (x.step day T e).screen.requests = x.screen.requests ++ [(x.screen.issued, q)] := by
  cases e with
  | screen e =>
    cases e with
    | searchBtnClicked | refreshBtnClicked =>
      simp only [asks] at h
      split at h
      · cases h
      · rename_i ht
        cases h
        simp [step, SearchVC.step, SearchVC.setDataSource, ht]
    | _ => cases h
  | _ => cases h

theorem picks_fields {x : SearchPicks α} (ht : x.screen.trapped = false) (fields : SearchFields) :
    (x.picks fields).screen.fields = fields := by
  simp [picks, SearchVC.step, ht]

theorem picks_of_trapped {x : SearchPicks α} (ht : x.screen.trapped = true) (fields : SearchFields) :
    x.picks fields = x := by
  simp [picks, SearchVC.step, ht]

/-- **What the screen's own events do to the fields**: a search takes the two texts over, a refresh empties the texts and the
dates, a success empties the places. -/
theorem screen_fields (day : Int → Int) (T : Texts) (x : SearchPicks α) (e : SearchEvent α) :
    (x.step day T (.screen e)).screen.fields = x.screen.fields ∨
      x.screen.trapped = false ∧
        ((e = .searchBtnClicked ∧ (x.step day T (.screen e)).screen.fields = x.screen.fields.searchBtnClicked) ∨
          (e = .refreshBtnClicked ∧ (x.step day T (.screen e)).screen.fields = x.screen.fields.refreshBtnClicked) ∨
          ∃ i totalTravel, e = .reply i (some (some totalTravel)) ∧ x.screen.requests[i]?.isSome = true ∧
            (x.step day T (.screen e)).screen.fields = x.screen.fields.loaded totalTravel.isEmpty) := by
  cases ht : x.screen.trapped with
  | true =>
    refine .inl ?_
    cases e with
    | picks fields => rfl
    | _ => simp [step, SearchVC.step, ht]
  | false =>
    cases e with
    | searchBtnClicked => exact .inr ⟨rfl, .inl ⟨rfl, by simp [step, SearchVC.step, SearchVC.setDataSource, ht]⟩⟩
    | refreshBtnClicked => exact .inr ⟨rfl, .inr (.inl ⟨rfl, by simp [step, SearchVC.step, SearchVC.setDataSource, ht]⟩)⟩
    | reply i r =>
      cases hi : x.screen.requests[i]? with
      | none => exact .inl (by simp [step, SearchVC.step, SearchVC.reply, ht, hi])
      | some q =>
        rcases r with _ | _ | totalTravel
        · exact .inl (by simp [step, SearchVC.step, SearchVC.reply, ht, hi])
        · exact .inl (by simp [step, SearchVC.step, SearchVC.reply, ht, hi])
        · exact .inr ⟨rfl, .inr (.inr ⟨i, totalTravel, rfl, by simp [hi], by simp [step, SearchVC.step, SearchVC.reply, ht, hi]⟩)⟩
    | picks fields => exact .inl rfl
    | viewDidLoad => exact .inl (by simp [step, SearchVC.step, SearchVC.setDataSource, ht])
    | _ => exact .inl (by simp [step, SearchVC.step, ht])

/-! ## The dates -/

section Dates
variable (day : Int → Int) (T : Texts)

/-- A field shows a date: it is empty without one, and with one it shows the day of the instant. -/
def ShowsDate (timestamp : Option Int) (text : String) : Prop :=
  (timestamp.isSome = true ↔ text ≠ "") ∧ ∀ t, timestamp = some t → text = T.day (day (t / 1000))

/-- The range of two dates is the one shown, and it is not empty. -/
def ShowsRange (f : SearchFields) (fromDate toDate : Option Int) : Prop :=
  ShowsDate day T fromDate f.edtFromdate ∧ ShowsDate day T toDate f.edtTodate ∧
    ∀ a b, fromDate = some a → toDate = some b → a < b

/-- **The dates agree with what is shown.** -/
def RangeShown (x : SearchPicks α) : Prop :=
  ShowsRange day T x.screen.fields x.screen.fields.startTimestamp x.screen.fields.endTimestamp

/-- No start date is accepted that is not before the end date there is, and no end date is refused while there is a date. -/
def KeepsRange (x : SearchPicks α) : PickEvent α → Prop
  | .btnStartDateClicked now value =>
    x.screen.trapped = false → now ≤ value * 1000 + Constants.oneHourTimestamp →
      ∀ t, x.screen.fields.endTimestamp = some t → value * 1000 < t
  | .btnEndDateClicked now value =>
    x.screen.trapped = false → x.screen.fields.RefusesEnd now value →
      x.screen.fields.startTimestamp = none ∧ x.screen.fields.endTimestamp = none
  | _ => True

variable {day T}

theorem showsDate_none {text : String} : ShowsDate day T none text ↔ text = "" := by
  simp [ShowsDate]

theorem showsDate_some {t : Int} {text : String} : ShowsDate day T (some t) text ↔ text = T.day (day (t / 1000)) := by
  simp only [ShowsDate, Option.isSome_some, true_iff, Option.some.injEq, forall_eq']
  exact and_iff_right_of_imp fun h => by
    rw [h]
    exact T.day_ne _

/-- The day of a picked date is the day of its timestamp. -/
theorem showsDate_picked (value : Int) : ShowsDate day T (some (value * 1000)) (T.day (day value)) := by
  rw [showsDate_some, Int.mul_ediv_cancel value (by decide)]

theorem RangeShown.start_iff {x : SearchPicks α} (h : RangeShown day T x) (ht : x.screen.trapped = false) (now value : Int) :
    RangeShown day T (x.step day T (.btnStartDateClicked now value)) ↔ KeepsRange x (.btnStartDateClicked now value) := by
  obtain ⟨-, hend, -⟩ := h
  simp only [RangeShown, step, picks_fields ht, KeepsRange, ht, SearchFields.btnStartDateClicked, forall_const]
  by_cases hpast : now > value * 1000 + Constants.oneHourTimestamp
  · rw [if_pos hpast]
    exact iff_of_true ⟨showsDate_none.2 rfl, hend, fun _ _ ha => by cases ha⟩ fun hle => absurd hpast (by omega)
  · rw [if_neg hpast]
    refine ⟨fun hrange _ t ht' => hrange.2.2 _ t rfl ht', fun hok => ⟨showsDate_picked value, hend, fun a b ha hb => ?_⟩⟩
    cases ha
    exact hok (by omega) b hb

theorem RangeShown.end_iff {x : SearchPicks α} (h : RangeShown day T x) (ht : x.screen.trapped = false) (now value : Int) :
    RangeShown day T (x.step day T (.btnEndDateClicked now value)) ↔ KeepsRange x (.btnEndDateClicked now value) := by
  obtain ⟨hstart, hend, -⟩ := h
  simp only [RangeShown, step, picks_fields ht, KeepsRange, ht, SearchFields.btnEndDateClicked, forall_const]
  by_cases hrefuse : x.screen.fields.RefusesEnd now value
  · -- The start instant goes, and with it has to go the text of the start; the end instant has to have gone with its text.
    simp only [if_pos hrefuse]
    constructor
    · rintro ⟨hfrom, hto, -⟩
      refine fun _ => ⟨?_, ?_⟩
      · have hempty := showsDate_none.1 hfrom
        cases hs : x.screen.fields.startTimestamp with
        | none => rfl
        | some t =>
          rw [hs, showsDate_some] at hstart
          exact absurd (hstart.symm.trans hempty) (T.day_ne _)
      · cases he : x.screen.fields.endTimestamp with
        | none => rfl
        | some t =>
          rw [he] at hto
          exact absurd (showsDate_some.1 hto).symm (T.day_ne _)
    · intro hok
      obtain ⟨hs, he⟩ := hok hrefuse
      rw [hs] at hstart
      exact ⟨hstart, by rw [he]; exact showsDate_none.2 rfl, fun _ _ ha => by cases ha⟩
  · simp only [if_neg hrefuse]
    refine iff_of_true ⟨hstart, showsDate_picked value, fun a b ha hb => ?_⟩ fun hr => absurd hr hrefuse
    cases hb
    have hafter := (not_or.1 hrefuse).2
    rw [ha, Option.getD_some] at hafter
    omega

/-- Nothing but the two pickers can lose the agreement. -/
theorem RangeShown.other {x : SearchPicks α} (h : RangeShown day T x) {e : PickEvent α}
    (hstart : ∀ now value, e ≠ .btnStartDateClicked now value) (hend : ∀ now value, e ≠ .btnEndDateClicked now value) :
    RangeShown day T (x.step day T e) := by
  cases e with
  | btnStartDateClicked now value => exact absurd rfl (hstart now value)
  | btnEndDateClicked now value => exact absurd rfl (hend now value)
  | flyingFromFieldTapped | flyingToFieldTapped => exact h
  | didAutocompleteWith place =>
    cases ht : x.screen.trapped with
    | true => simpa only [step, picks_of_trapped ht] using h
    | false =>
      simp only [RangeShown, step, picks_fields ht, SearchFields.didAutocompleteWith]
      split_ifs <;> exact h
  | screen e =>
    rcases x.screen_fields day T e with hf | ⟨-, ⟨-, hf⟩ | ⟨-, hf⟩ | ⟨i, totalTravel, -, -, hf⟩⟩
    · rwa [RangeShown, hf]
    · rwa [RangeShown, hf]
    · rw [RangeShown, hf]
      exact ⟨showsDate_none.2 rfl, showsDate_none.2 rfl, fun _ _ ha => by cases ha⟩
    · rwa [RangeShown, hf]

/-- **One step**: the agreement is kept exactly by the steps that keep the range. -/
theorem RangeShown.step_iff {x : SearchPicks α} (h : RangeShown day T x) (e : PickEvent α) :
    RangeShown day T (x.step day T e) ↔ KeepsRange x e := by
  cases e with
  | btnStartDateClicked now value =>
    cases ht : x.screen.trapped with
    | true => exact iff_of_true (by rwa [step, picks_of_trapped ht]) fun hf => absurd (ht.symm.trans hf) (by decide)
    | false => exact h.start_iff ht now value
  | btnEndDateClicked now value =>
    cases ht : x.screen.trapped with
    | true => exact iff_of_true (by rwa [step, picks_of_trapped ht]) fun hf => absurd (ht.symm.trans hf) (by decide)
    | false => exact h.end_iff ht now value
  | _ => exact iff_of_true (h.other (by simp) (by simp)) trivial

end Dates

end SearchPicks
end Traveller
