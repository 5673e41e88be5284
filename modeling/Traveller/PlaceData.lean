import Traveller.SearchPicks
/-!
# PlaceData — the hidden data of a place field

Behind each of the two place fields there are an id and a country, in `SearchVC` a flag too.  A pick sets them in some cases and
keeps the old ones in others, and the resets each forget some: a refresh of `SearchVC` everything but the texts, an empty answer
the countries.  What is sent is what is there: it belongs to the place shown as long as no pick and no reset leaves something
behind (`hidden_data_belongs_iff`).
-/
namespace Traveller

/-- The two place fields, by the numbers `selected_field` has for them. -/
inductive PlaceField where
  | flyingfrom | flyingto
  deriving DecidableEq, Repr

def PlaceField.number : PlaceField → Nat
  | flyingfrom => 1
  | flyingto => 2

namespace Place

theorem countries_ne_nil {place : Place} (h : place.isCountry = true) : place.countries ≠ [] := by
  obtain ⟨_, _, addressComponents⟩ := place
  simp only [isCountry, decide_eq_true_eq, Option.bind_eq_some_iff] at h
  obtain ⟨one, ⟨components, rfl, hhead⟩, htype⟩ := h
  intro hnil
  have hnone := List.filter_eq_nil_iff.1 (List.map_eq_nil_iff.1 hnil) one (List.mem_of_mem_head? hhead)
  exact hnone (by simpa [AddressComponent.isCountry] using List.mem_of_mem_head? htype)

end Place

/-! ## `SearchVC` -/

/-- A place field with what is behind it. -/
structure SearchPlace where
  text : String
  placeId : Option String
  isCountry : Int
  country : Option String
  deriving DecidableEq, Repr

def SearchFields.place (f : SearchFields) : PlaceField → SearchPlace
  | .flyingfrom => ⟨f.edtFlyingfrom, f.fromId, f.fromIsCountry, f.fromCountry⟩
  | .flyingto => ⟨f.edtFlyingto, f.toId, f.toIsCountry, f.toCountry⟩

def GetTravel.place (q : GetTravel) : PlaceField → SearchPlace
  | .flyingfrom => ⟨q.fromLocation.getD "", q.fromId, q.fromIsCountry, q.fromCountry⟩
  | .flyingto => ⟨q.toLocation.getD "", q.toId, q.toIsCountry, q.toCountry⟩

namespace SearchPlace

/-- There is no id, no country and no flag. -/
def CarriesNothing (d : SearchPlace) : Prop := d.placeId = none ∧ d.isCountry = 0 ∧ d.country = none

/-- The code is the place's own: that of the country it is, or for a place in a country that country's, or none. -/
def OwnCountry (place : Place) (country : Option String) : Prop :=
  if place.isCountry then country = place.countries.getLast?.join else country = none ∨ country ∈ place.countries

/-- **What is behind a field belongs to the place shown in it**; behind an empty field there is nothing. -/
def Belongs (shown : Option Place) (d : SearchPlace) : Prop :=
  if d.text = "" then d.CarriesNothing
  else ∃ place, shown = some place ∧ d.text = place.text ∧ d.placeId = place.placeID ∧
    d.isCountry = (if place.isCountry then 1 else 0) ∧ OwnCountry place d.country

/-- The field after a pick. -/
def picked (place : Place) (d : SearchPlace) : SearchPlace where
  text := place.text
  placeId := place.placeID
  isCountry := if place.isCountry then 1 else 0
  country := if place.isCountry then place.assignCountry id d.country else d.country

/-- The pick leaves nothing behind: a place without a text brings nothing and finds no country, a place that is not a country
finds none but its own. -/
def LeavesNothing (place : Place) (d : SearchPlace) : Prop :=
  if place.text = "" then place.placeID = none ∧ place.isCountry = false ∧ d.country = none
  else place.isCountry = true ∨ d.country = none ∨ d.country ∈ place.countries

theorem belongs_picked (place : Place) (d : SearchPlace) :
    Belongs (some place) (d.picked place) ↔ LeavesNothing place d := by
  unfold Belongs LeavesNothing
  by_cases ht : place.text = ""
  · rw [if_pos (show (d.picked place).text = "" from ht), if_pos ht]
    cases hc : place.isCountry <;> simp [CarriesNothing, picked, hc]
  · rw [if_neg (show (d.picked place).text ≠ "" from ht), if_neg ht]
    cases hc : place.isCountry with
    | false => simp [picked, OwnCountry, hc]
    | true =>
      -- A country has a component that is one, so the loop assigns.
      have hlast := List.getLast?_eq_getLast_of_ne_nil (place.countries_ne_nil hc)
      simp [picked, OwnCountry, hc, Place.assignCountry_eq, hlast]

end SearchPlace

theorem SearchFields.place_didAutocompleteWith (f : SearchFields) (selectedField : Nat) (place : Place) (field : PlaceField) :
    (f.didAutocompleteWith selectedField place).place field =
      if selectedField = field.number then (f.place field).picked place else f.place field := by
  unfold SearchFields.didAutocompleteWith
  split_ifs <;> cases field <;> simp_all [SearchFields.place, PlaceField.number, SearchPlace.picked]

theorem SearchFields.place_refreshBtnClicked (f : SearchFields) (field : PlaceField) :
    f.refreshBtnClicked.place field = { f.place field with text := "" } := by
  cases field <;> rfl

theorem SearchFields.place_loaded (f : SearchFields) (isEmpty : Bool) (field : PlaceField) :
    (f.loaded isEmpty).place field = ⟨"", none, 0, if isEmpty then (f.place field).country else none⟩ := by
  cases field <;> rfl

namespace SearchPicks
variable {α : Type*}

/-- What is noted: the place picked last for each field. -/
def noteShown (shown : PlaceField → Option Place) (x : SearchPicks α) : PickEvent α → PlaceField → Option Place
  | .didAutocompleteWith place, field =>
    if x.screen.trapped = false ∧ x.selectedField = field.number then some place else shown field
  | _, field => shown field

/-- **What is behind each field belongs to the place shown in it.** -/
def DataBelongs (y : SearchPicks α × (PlaceField → Option Place)) : Prop :=
  ∀ field, SearchPlace.Belongs (y.2 field) (y.1.screen.fields.place field)

/-- What a search sends for each field belongs to the place shown in it. -/
def AsksOwn (y : SearchPicks α × (PlaceField → Option Place)) (e : PickEvent α) : Prop :=
  ∀ q, y.1.asks e = some q → ∀ field, SearchPlace.Belongs (y.2 field) (q.place field)

/-- **No step leaves something behind a field**: a pick, a refresh that finds an id, a country or a flag, an empty answer that
finds a country. -/
def LeavesNothing (y : SearchPicks α × (PlaceField → Option Place)) : PickEvent α → Prop
  | .didAutocompleteWith place =>
    y.1.screen.trapped = false → ∀ field, y.1.selectedField = field.number →
      SearchPlace.LeavesNothing place (y.1.screen.fields.place field)
  | .screen .refreshBtnClicked =>
    y.1.screen.trapped = false → ∀ field, (y.1.screen.fields.place field).CarriesNothing
  | .screen (.reply i (some (some []))) =>
    y.1.screen.trapped = false → y.1.screen.requests[i]?.isSome = true →
      ∀ field, (y.1.screen.fields.place field).country = none
  | _ => True

section
variable (day : Int → Int) (T : LocalTime.Texts)

abbrev notingShown : SearchPicks α × (PlaceField → Option Place) → PickEvent α → SearchPicks α × (PlaceField → Option Place) :=
  Runs.noting (step day T) noteShown

variable {day T} {y : SearchPicks α × (PlaceField → Option Place)}

theorem dataBelongs_of_place (h : DataBelongs y) {e : PickEvent α} (hnote : noteShown y.2 y.1 e = y.2)
    (hplace : ∀ field, (y.1.step day T e).screen.fields.place field = y.1.screen.fields.place field) :
    DataBelongs (notingShown day T y e) := by
  intro field
  simp only [Runs.noting, hnote, hplace]
  exact h field

/-- An emptied field with nothing behind it. -/
theorem belongs_empty {shown : Option Place} {d : SearchPlace} (ht : d.text = "") :
    SearchPlace.Belongs shown d ↔ d.CarriesNothing := by
  rw [SearchPlace.Belongs, if_pos ht]

theorem DataBelongs.pick_iff (h : DataBelongs y) (place : Place) :
    DataBelongs (notingShown day T y (.didAutocompleteWith place)) ↔ LeavesNothing y (.didAutocompleteWith place) := by
  obtain ⟨x, shown⟩ := y
  simp only [DataBelongs, LeavesNothing, Runs.noting, step, noteShown]
  cases ht : x.screen.trapped with
  | true => simpa [picks_of_trapped ht, DataBelongs] using h
  | false =>
    simp only [picks_fields ht, SearchFields.place_didAutocompleteWith, true_and, forall_const]
    refine forall_congr' fun field => ?_
    by_cases hsel : x.selectedField = field.number
    · rw [if_pos hsel, if_pos hsel, SearchPlace.belongs_picked]
      exact ⟨fun hleaves _ => hleaves, fun hleaves => hleaves hsel⟩
    · rw [if_neg hsel, if_neg hsel]
      exact iff_of_true (h field) fun hs => absurd hs hsel

theorem DataBelongs.refresh_iff (h : DataBelongs y) :
    DataBelongs (notingShown day T y (.screen .refreshBtnClicked)) ↔ LeavesNothing y (.screen .refreshBtnClicked) := by
  obtain ⟨x, shown⟩ := y
  cases ht : x.screen.trapped with
  | true =>
    refine iff_of_true (dataBelongs_of_place h rfl fun field => ?_) fun hf => absurd (ht.symm.trans hf) (by decide)
    simp [step, SearchVC.step, ht]
  | false =>
    simp only [DataBelongs, LeavesNothing, Runs.noting, step, SearchVC.step, SearchVC.setDataSource, ht,
      Bool.false_eq_true, if_false, SearchFields.place_refreshBtnClicked, forall_const]
    exact forall_congr' fun field => belongs_empty rfl

/-- An answer to a search empties the fields, and what is behind them but the countries when it is empty itself. -/
theorem dataBelongs_loaded {x : SearchPicks α} {shown : PlaceField → Option Place} {i : Nat} {q : Nat × GetTravel}
    (ht : x.screen.trapped = false) (hi : x.screen.requests[i]? = some q) (totalTravel : List α) :
    DataBelongs (notingShown day T (x, shown) (.screen (.reply i (some (some totalTravel))))) ↔
      (totalTravel = [] → ∀ field, (x.screen.fields.place field).country = none) := by
  have hfields : ∀ field, (step day T x (.screen (.reply i (some (some totalTravel))))).screen.fields.place field =
      ⟨"", none, 0, if totalTravel.isEmpty then (x.screen.fields.place field).country else none⟩ := by
    intro field
    simp only [step, SearchVC.step, SearchVC.reply, ht, hi, Bool.false_eq_true, if_false, SearchFields.place_loaded]
  simp only [DataBelongs, Runs.noting, hfields, belongs_empty, SearchPlace.CarriesNothing, true_and]
  cases totalTravel with
  | nil => simp
  | cons travel totalTravel => simp

theorem DataBelongs.reply_iff (h : DataBelongs y) (i : Nat) (r : Option (Option (List α))) :
    DataBelongs (notingShown day T y (.screen (.reply i r))) ↔ LeavesNothing y (.screen (.reply i r)) := by
  obtain ⟨x, shown⟩ := y
  by_cases hlands : x.screen.trapped = false ∧ x.screen.requests[i]?.isSome = true
  · obtain ⟨ht, hsome⟩ := hlands
    obtain ⟨q, hi⟩ := Option.isSome_iff_exists.1 hsome
    rcases r with _ | _ | totalTravel
    · exact iff_of_true (dataBelongs_of_place h rfl fun field => by
        simp [step, SearchVC.step, SearchVC.reply, ht, hi]) trivial
    · exact iff_of_true (dataBelongs_of_place h rfl fun field => by
        simp [step, SearchVC.step, SearchVC.reply, ht, hi]) trivial
    · rw [dataBelongs_loaded ht hi]
      cases totalTravel with
      | nil => simp [LeavesNothing, ht, hi]
      | cons travel totalTravel => simp [LeavesNothing]
  · -- A trapped screen and one that sent no such request stay as they are.
    have hstays : (x.step day T (.screen (.reply i r))).screen = x.screen := by
      cases ht : x.screen.trapped with
      | true => simp [step, SearchVC.step, ht]
      | false =>
        have hi : x.screen.requests[i]? = none := by simpa [ht] using hlands
        simp [step, SearchVC.step, SearchVC.reply, ht, hi]
    refine iff_of_true (dataBelongs_of_place h rfl fun field => by rw [hstays]) ?_
    rcases r with _ | _ | _ | ⟨travel, totalTravel⟩
    case some.some.nil => exact fun ht hi => absurd ⟨ht, hi⟩ hlands
    all_goals trivial

/-- **One step**: the data keep belonging to the places shown exactly in the steps that leave nothing. -/
theorem DataBelongs.step_iff (h : DataBelongs y) (e : PickEvent α) :
    DataBelongs (notingShown day T y e) ↔ LeavesNothing y e := by
  obtain ⟨x, shown⟩ := y
  cases e with
  | didAutocompleteWith place => exact h.pick_iff place
  | btnStartDateClicked now value =>
    refine iff_of_true (dataBelongs_of_place h rfl fun field => ?_) trivial
    cases ht : x.screen.trapped with
    | true => rw [step, picks_of_trapped ht]
    | false =>
      simp only [step, picks_fields ht, SearchFields.btnStartDateClicked]
      split_ifs <;> cases field <;> rfl
  | btnEndDateClicked now value =>
    refine iff_of_true (dataBelongs_of_place h rfl fun field => ?_) trivial
    cases ht : x.screen.trapped with
    | true => rw [step, picks_of_trapped ht]
    | false =>
      simp only [step, picks_fields ht, SearchFields.btnEndDateClicked]
      split_ifs <;> cases field <;> rfl
  | flyingFromFieldTapped | flyingToFieldTapped => exact iff_of_true h trivial
  | screen e =>
    cases e with
    | refreshBtnClicked => exact h.refresh_iff
    | reply i r => exact h.reply_iff i r
    | searchBtnClicked =>
      refine iff_of_true (dataBelongs_of_place h rfl fun field => ?_) trivial
      cases ht : x.screen.trapped with
      | true => simp [step, SearchVC.step, ht]
      | false =>
        simp only [step, SearchVC.step, SearchVC.setDataSource, ht, Bool.false_eq_true, if_false]
        cases field <;> rfl
    | picks fields => exact iff_of_true h trivial
    | viewDidLoad =>
      refine iff_of_true (dataBelongs_of_place h rfl fun field => ?_) trivial
      cases ht : x.screen.trapped <;> simp [step, SearchVC.step, SearchVC.setDataSource, ht]
    | _ =>
      refine iff_of_true (dataBelongs_of_place h rfl fun field => ?_) trivial
      cases ht : x.screen.trapped <;> simp [step, SearchVC.step, ht]

/-- A search sends what is behind the fields, with the texts shown. -/
theorem DataBelongs.asksOwn (h : DataBelongs y) (e : PickEvent α) : AsksOwn y e := by
  obtain ⟨x, shown⟩ := y
  intro q hq field
  cases e with
  | screen e =>
    cases e with
    | searchBtnClicked =>
      simp only [asks] at hq
      split at hq
      · cases hq
      · cases hq
        have hsent : (x.screen.fields.searchBtnClicked.getTravel).place field = x.screen.fields.place field := by
          cases field <;> rfl
        rw [hsent]
        exact h field
    | refreshBtnClicked =>
      simp only [asks] at hq
      split at hq
      · cases hq
      · cases hq
        cases field <;> exact (belongs_empty rfl).2 ⟨rfl, rfl, rfl⟩
    | _ => cases hq
  | _ => cases hq

end

end SearchPicks

/-! ## `NewTripVC` -/

/-- A place field of a new trip with what is behind it. -/
structure TripPlace where
  text : String
  placeId : String
  country : String
  deriving DecidableEq, Repr

def NewTripVC.place (s : NewTripVC) : PlaceField → TripPlace
  | .flyingfrom => ⟨s.edtFlyingfrom, s.fromId, s.fromCountry⟩
  | .flyingto => ⟨s.edtFlyingto, s.toId, s.toCountry⟩

def NewTrip.place (trip : NewTrip) : PlaceField → TripPlace
  | .flyingfrom => ⟨trip.fromLocation, trip.fromId, trip.fromCountry⟩
  | .flyingto => ⟨trip.toLocation, trip.toId, trip.toCountry⟩

namespace TripPlace

/-- **What is behind a field belongs to the place shown in it**; an empty field is not saved. -/
def Belongs (shown : Option Place) (d : TripPlace) : Prop :=
  d.text ≠ "" → ∃ place, shown = some place ∧ d.text = place.text ∧ d.placeId = place.placeID.getD "" ∧
    d.country = place.countries.getLast?.join.getD ""

/-- The field after a pick. -/
def picked (place : Place) (d : TripPlace) : TripPlace where
  text := place.text
  placeId := place.placeID.getD ""
  country := place.assignCountry (·.getD "") d.country

/-- A place without a country component that shows a text finds no country. -/
def LeavesNothing (place : Place) (d : TripPlace) : Prop := place.text ≠ "" → place.countries = [] → d.country = ""

theorem belongs_picked (place : Place) (d : TripPlace) : Belongs (some place) (d.picked place) ↔ LeavesNothing place d := by
  simp only [Belongs, LeavesNothing, picked]
  refine imp_congr_right fun _ => ?_
  cases hc : place.countries.getLast? with
  | none =>
    have hnil := List.getLast?_eq_none_iff.1 hc
    simp [Place.assignCountry_eq, hnil]
  | some country =>
    have hne : place.countries ≠ [] := fun hnil => by simp [hnil] at hc
    simp [Place.assignCountry_eq, hc, hne]

end TripPlace

namespace NewTripVC

theorem place_didAutocompleteWith (s : NewTripVC) (place : Place) (field : PlaceField) :
    (s.didAutocompleteWith place).place field =
      if s.selectedField = field.number then (s.place field).picked place else s.place field := by
  unfold didAutocompleteWith
  split_ifs <;> cases field <;> simp_all [NewTripVC.place, PlaceField.number, TripPlace.picked]

/-- What is noted: the place picked last for each field. -/
def noteShown (shown : PlaceField → Option Place) (s : NewTripVC) : NewTripEvent → PlaceField → Option Place
  | .didAutocompleteWith place, field => if s.selectedField = field.number then some place else shown field
  | _, field => shown field

/-- **What is behind each field belongs to the place shown in it.** -/
def DataBelongs (y : NewTripVC × (PlaceField → Option Place)) : Prop :=
  ∀ field, TripPlace.Belongs (y.2 field) (y.1.place field)

/-- What a save sends for each field, none of which is empty, belongs to the place shown in it. -/
def CreatesOwn (y : NewTripVC × (PlaceField → Option Place)) (e : NewTripEvent) : Prop :=
  ∀ trip, y.1.creates e = some trip → ∀ field,
    (trip.place field).text ≠ "" ∧ TripPlace.Belongs (y.2 field) (trip.place field)

/-- **No pick leaves something behind a field.** -/
def LeavesNothing (y : NewTripVC × (PlaceField → Option Place)) : NewTripEvent → Prop
  | .didAutocompleteWith place =>
    ∀ field, y.1.selectedField = field.number → TripPlace.LeavesNothing place (y.1.place field)
  | _ => True

section
variable (z : LocalTime.Zone) (T : LocalTime.Texts)

abbrev notingShown : NewTripVC × (PlaceField → Option Place) → NewTripEvent → NewTripVC × (PlaceField → Option Place) :=
  Runs.noting (step z T) noteShown

variable {z T} {y : NewTripVC × (PlaceField → Option Place)}

theorem DataBelongs.step_iff (h : DataBelongs y) (e : NewTripEvent) :
    DataBelongs (notingShown z T y e) ↔ LeavesNothing y e := by
  obtain ⟨s, shown⟩ := y
  cases e with
  | didAutocompleteWith place =>
    simp only [DataBelongs, LeavesNothing, Runs.noting, step, noteShown, place_didAutocompleteWith]
    refine forall_congr' fun field => ?_
    by_cases hsel : s.selectedField = field.number
    · rw [if_pos hsel, if_pos hsel, TripPlace.belongs_picked]
      exact ⟨fun hleaves _ => hleaves, fun hleaves => hleaves hsel⟩
    · rw [if_neg hsel, if_neg hsel]
      exact iff_of_true (h field) fun hs => absurd hs hsel
  | btnStartDateClicked now value =>
    refine iff_of_true (fun field => ?_) trivial
    have hplace : (s.btnStartDateClicked z T now value).place field = s.place field := by
      unfold btnStartDateClicked
      split_ifs <;> cases field <;> rfl
    simp only [Runs.noting, step, noteShown, hplace]
    exact h field
  | btnEndDateClicked now value =>
    refine iff_of_true (fun field => ?_) trivial
    have hplace : (s.btnEndDateClicked z T now value).place field = s.place field := by
      unfold btnEndDateClicked
      split
      · rfl
      · split_ifs <;> cases field <;> rfl
    simp only [Runs.noting, step, noteShown, hplace]
    exact h field
  | flyingFromFieldTapped | flyingToFieldTapped | edits | saveBtnClicked =>
    exact iff_of_true (fun field => by cases field <;> exact h _) trivial

theorem DataBelongs.createsOwn (h : DataBelongs y) (e : NewTripEvent) : CreatesOwn y e := by
  obtain ⟨s, shown⟩ := y
  intro trip htrip field
  cases e with
  | saveBtnClicked now =>
    obtain ⟨hfrom, hto, -, -, rfl⟩ := saveBtnClicked_eq_some htrip
    have hsent : (s.trip now).place field = s.place field := by cases field <;> rfl
    rw [hsent]
    refine ⟨?_, h field⟩
    cases field with
    | flyingfrom => exact hfrom
    | flyingto => exact hto
  | _ => cases htrip

end

end NewTripVC

/-! ## Both screens -/

/-- **The hidden data belong to the places shown, in every state, exactly as long as no step leaves something behind a field**;
and as long as they do, every search and every new trip sends the data of the places shown. -/
theorem hidden_data_belongs_iff {α : Type*} (day : Int → Int) (z : LocalTime.Zone) (T : LocalTime.Texts) :
    (∀ es : List (PickEvent α),
      (Runs.AllStates (SearchPicks.notingShown day T) SearchPicks.DataBelongs ({}, fun _ => none) es ↔
        Runs.AllSteps (SearchPicks.notingShown day T) SearchPicks.LeavesNothing ({}, fun _ => none) es) ∧
      (Runs.AllSteps (SearchPicks.notingShown day T) SearchPicks.LeavesNothing ({}, fun _ => none) es →
        Runs.AllSteps (SearchPicks.notingShown day T) SearchPicks.AsksOwn ({}, fun _ => none) es)) ∧
    ∀ es : List NewTripEvent,
      (Runs.AllStates (NewTripVC.notingShown z T) NewTripVC.DataBelongs ({}, fun _ => none) es ↔
        Runs.AllSteps (NewTripVC.notingShown z T) NewTripVC.LeavesNothing ({}, fun _ => none) es) ∧
      (Runs.AllSteps (NewTripVC.notingShown z T) NewTripVC.LeavesNothing ({}, fun _ => none) es →
        Runs.AllSteps (NewTripVC.notingShown z T) NewTripVC.CreatesOwn ({}, fun _ => none) es) := by
  have hsearch : SearchPicks.DataBelongs (({} : SearchPicks α), fun _ => none) := fun field => by
    cases field <;> exact (SearchPicks.belongs_empty rfl).2 ⟨rfl, rfl, rfl⟩
  have htrip : NewTripVC.DataBelongs ({}, fun _ => none) := fun field => by cases field <;> exact fun hne => absurd rfl hne
  refine ⟨fun es => ⟨?_, fun hes => ?_⟩, fun es => ⟨?_, fun hes => ?_⟩⟩
  · exact Runs.allStates_iff_allSteps SearchPicks.DataBelongs (fun _ e h _ hok => (h.step_iff e).2 hok) (fun _ h => h)
      (fun _ e h _ hbad hq => hbad ((h.step_iff e).1 hq)) hsearch (Runs.allSteps_trivial _ _ es)
  · exact Runs.allSteps_of_invariant SearchPicks.DataBelongs (fun _ e h hok => (h.step_iff e).2 hok)
      (fun _ e h _ => h.asksOwn e) hsearch hes
  · exact Runs.allStates_iff_allSteps NewTripVC.DataBelongs (fun _ e h _ hok => (h.step_iff e).2 hok) (fun _ h => h)
      (fun _ e h _ hbad hq => hbad ((h.step_iff e).1 hq)) htrip (Runs.allSteps_trivial _ _ es)
  · exact Runs.allSteps_of_invariant NewTripVC.DataBelongs (fun _ e h hok => (h.step_iff e).2 hok)
      (fun _ e h _ => h.createsOwn e) htrip hes

/-- France is searched for, then Berlin is picked, and the search sends Berlin with France's code.  A trip from Riga, with its
country, becomes one from the sea, and is saved with Latvia's code. -/
theorem country_of_the_place_before :
    let france : Place := ⟨some "France", some "f1", some [⟨["country"], some "FR"⟩]⟩
    let berlin : Place := ⟨some "Berlin", some "b1", some [⟨["locality"], some "Berlin"⟩, ⟨["country"], some "DE"⟩]⟩
    let riga : Place := ⟨some "Riga", some "r1", some [⟨["country"], some "LV"⟩]⟩
    let sea : Place := ⟨some "North Sea", some "n1", none⟩
    ¬ Runs.AllSteps (SearchPicks.notingShown (α := String) (· / 86400) NewTripVC.numbered) SearchPicks.AsksOwn
        ({}, fun _ => none) [.flyingFromFieldTapped, .didAutocompleteWith france, .didAutocompleteWith berlin,
          .screen .searchBtnClicked] ∧
      ¬ Runs.AllSteps (NewTripVC.notingShown ⟨0⟩ NewTripVC.numbered) NewTripVC.CreatesOwn ({}, fun _ => none)
        [.flyingToFieldTapped, .didAutocompleteWith riga, .flyingFromFieldTapped, .didAutocompleteWith riga,
          .didAutocompleteWith sea, .btnStartDateClicked 0 86400, .btnEndDateClicked 0 43200, .edits "5" "10" "" ["Food"],
          .saveBtnClicked 0] := by
  intro france berlin riga sea
  refine ⟨?_, ?_⟩
  · rintro ⟨-, -, -, h, -⟩
    have hfrom := h _ rfl .flyingfrom
    rw [SearchPlace.Belongs, if_neg (by decide)] at hfrom
    obtain ⟨place, hshown, -, -, -, hcountry⟩ := hfrom
    cases hshown
    rw [SearchPlace.OwnCountry, if_neg (by decide)] at hcountry
    exact absurd hcountry (by decide)
  · rintro ⟨-, -, -, -, -, -, -, -, h, -⟩
    obtain ⟨place, hshown, -, -, hcountry⟩ := (h _ rfl .flyingfrom).2 (h _ rfl .flyingfrom).1
    cases hshown
    exact absurd hcountry (by decide)

end Traveller
