import Traveller.SessionApi
/-!
# ListScreens — the screens that load a list

`SearchVC` and `MyTripVC` load trips, `RateUserVC` and `RatingVC` reviews.  A load empties the array when it is started and
appends to it when it is answered; the tables keep the number of sections they found at the last `reloadData`.  Between the
two the table still shows rows the array no longer has: `accesses_in_bounds_iff`.

An item is whatever one element of the answer's array is decoded to, so the lists are over any type.
-/
namespace Traveller

/-- An index applied to an array, and the array's count at that moment. -/
structure Access where
  index : Nat
  count : Nat
  deriving DecidableEq, Repr

namespace Access

def InBounds (a : Access) : Prop := a.index < a.count

instance (a : Access) : Decidable a.InBounds := inferInstanceAs (Decidable (_ < _))

end Access

/-- An array, `ds`, and the number of sections its table found at the last `reloadData`. -/
structure TableRows (α : Type*) where
  ds : List α := []
  tbl : Nat := 0

namespace TableRows
variable {α : Type*}

def removeAll (t : TableRows α) : TableRows α := { t with ds := [] }

def reloadData (t : TableRows α) : TableRows α := { t with tbl := t.ds.length }

/-- The items of an answer are appended one by one, and the table is reloaded after the last. -/
def load (items : List α) (t : TableRows α) : TableRows α := { t with ds := t.ds ++ items }.reloadData

/-- The array has as many items as the table knows, and none once a load has been started. -/
def Counted (t : TableRows α) (stale : Bool) : Prop := if stale then t.ds = [] else t.ds.length = t.tbl

theorem counted_load (t : TableRows α) (items : List α) : (t.load items).Counted false := rfl

theorem counted_removeAll (t : TableRows α) : t.removeAll.Counted true := rfl

/-- A row the table knows is in the array exactly when no load has been started. -/
theorem Counted.inBounds_iff {t : TableRows α} {stale : Bool} (h : t.Counted stale) {indexPath : Nat}
    (hlt : indexPath < t.tbl) : Access.InBounds ⟨indexPath, t.ds.length⟩ ↔ stale = false := by
  cases stale with
  | false =>
    have h : t.ds.length = t.tbl := h
    exact iff_of_true (by rw [Access.InBounds, h]; exact hlt) rfl
  | true =>
    have h : t.ds = [] := h
    exact iff_of_false (by simp [Access.InBounds, h]) (by simp)

end TableRows

/-! ## `SearchVC` -/

/-- The parameters of `ApiManager.getTravel`. -/
structure GetTravel where
  fromLocation : Option String := none
  toLocation : Option String := none
  fromDate : Option Int := none
  toDate : Option Int := none
  fromId : Option String := none
  toId : Option String := none
  fromIsCountry : Int := 0
  toIsCountry : Int := 0
  fromCountry : Option String := none
  toCountry : Option String := none
  deriving DecidableEq, Repr

/-- The fields of the search, shown and hidden ones. -/
structure SearchFields where
  edtFlyingfrom : String := ""
  edtFlyingto : String := ""
  edtFromdate : String := ""
  edtTodate : String := ""
  fromLocation : Option String := none
  toLocation : Option String := none
  startTimestamp : Option Int := none
  endTimestamp : Option Int := none
  fromId : Option String := none
  toId : Option String := none
  fromIsCountry : Int := 0
  toIsCountry : Int := 0
  fromCountry : Option String := none
  toCountry : Option String := none
  deriving DecidableEq, Repr

namespace SearchFields

/-- `searchBtnClicked`, up to its call of `setDataSource`. -/
def searchBtnClicked (f : SearchFields) : SearchFields :=
  { f with fromLocation := some f.edtFlyingfrom, toLocation := some f.edtFlyingto }

def getTravel (f : SearchFields) : GetTravel where
  fromLocation := f.fromLocation
  toLocation := f.toLocation
  fromDate := f.startTimestamp
  toDate := f.endTimestamp
  fromId := f.fromId
  toId := f.toId
  fromIsCountry := f.fromIsCountry
  toIsCountry := f.toIsCountry
  fromCountry := f.fromCountry
  toCountry := f.toCountry

/-- `refreshBtnClicked`, up to its call of `setDataSource`: the ids and countries stay. -/
def refreshBtnClicked (f : SearchFields) : SearchFields :=
  { f with
    edtFlyingfrom := ""
    edtFlyingto := ""
    edtFromdate := ""
    edtTodate := ""
    fromLocation := none
    toLocation := none
    startTimestamp := none
    endTimestamp := none }

/-- What a success with `total_travel` resets; where the array is empty the countries stay. -/
def loaded (isEmpty : Bool) (f : SearchFields) : SearchFields :=
  { f with
    fromLocation := none
    toLocation := none
    fromId := none
    toId := none
    fromIsCountry := 0
    toIsCountry := 0
    fromCountry := if isEmpty then f.fromCountry else none
    toCountry := if isEmpty then f.toCountry else none
    edtFlyingto := ""
    edtFlyingfrom := "" }

end SearchFields

/-- `SearchVC`, with the loads under way by their numbers; `search` are `ds_search` and `tbl_search`. -/
structure SearchVC (α : Type*) where
  fields : SearchFields := {}
  search : TableRows α := {}
  requests : List (Nat × GetTravel) := []
  issued : Nat := 0
  trapped : Bool := false

/-- What happens to the screen.  A load fails or succeeds, with `total_travel` or without; `picks` is whatever the user picks
or types. -/
inductive SearchEvent (α : Type*) where
  | viewDidLoad
  | picks (fields : SearchFields)
  | searchBtnClicked
  | refreshBtnClicked
  | reply (i : Nat) (r : Option (Option (List α)))
  | cellForRowAt (indexPath : Nat)
  | profileAction (indexPath : Nat)
  | didSelectRowAt (indexPath : Nat)

namespace SearchVC
variable {α : Type*}

def setDataSource (params : GetTravel) (s : SearchVC α) : SearchVC α :=
  { s with search := s.search.removeAll, requests := s.requests ++ [(s.issued, params)], issued := s.issued + 1 }

def reply (i : Nat) (r : Option (Option (List α))) (s : SearchVC α) : SearchVC α :=
  match s.requests[i]?, r with
  | none, _ => s
  | some _, some (some totalTravel) =>
    { s with
      requests := s.requests.eraseIdx i
      search := s.search.load totalTravel
      fields := s.fields.loaded totalTravel.isEmpty }
  | some _, _ => { s with requests := s.requests.eraseIdx i }

/-- The indices the table's delegate applies to `ds_search`: the table asks for the rows it knows. -/
def accesses (s : SearchVC α) : SearchEvent α → List Access
  | .cellForRowAt indexPath | .profileAction indexPath | .didSelectRowAt indexPath =>
    if !s.trapped && indexPath < s.search.tbl then [⟨indexPath, s.search.ds.length⟩] else []
  | _ => []

def step (s : SearchVC α) (e : SearchEvent α) : SearchVC α :=
  if s.trapped then s
  else
    match e with
    | .viewDidLoad => s.setDataSource {}
    | .picks fields => { s with fields := fields }
    | .searchBtnClicked =>
      { s with fields := s.fields.searchBtnClicked }.setDataSource s.fields.searchBtnClicked.getTravel
    | .refreshBtnClicked => { s with fields := s.fields.refreshBtnClicked }.setDataSource {}
    | .reply i r => s.reply i r
    | e => { s with trapped := !(s.accesses e).all (·.InBounds) }

/-- Whether a load has been started since the last `reloadData`. -/
def noteStale (stale : Bool) (s : SearchVC α) : SearchEvent α → Bool
  | .viewDidLoad | .searchBtnClicked | .refreshBtnClicked => true
  | .reply i (some (some _)) => if s.requests[i]?.isSome then false else stale
  | _ => stale

def InBounds (y : SearchVC α × Bool) (e : SearchEvent α) : Prop := ∀ a ∈ y.1.accesses e, a.InBounds

/-- A row is asked for or tapped only when no load has been started since the last `reloadData`. -/
def AsksFresh (y : SearchVC α × Bool) (e : SearchEvent α) : Prop := y.1.accesses e ≠ [] → y.2 = false

def Inv (y : SearchVC α × Bool) : Prop := y.1.trapped = true ∨ y.1.search.Counted y.2

theorem Inv.step {y : SearchVC α × Bool} (h : Inv y) (e : SearchEvent α) : Inv (Runs.noting step noteStale y e) := by
  obtain ⟨s, stale⟩ := y
  cases ht : s.trapped with
  | true =>
    have hstep : s.step e = s := if_pos ht
    exact .inl (by rw [Runs.noting_fst, hstep]; exact ht)
  | false =>
    have hcount : s.search.Counted stale := h.resolve_left (by simp [ht])
    simp only [Runs.noting, SearchVC.step, ht, Bool.false_eq_true, if_false]
    refine .inr ?_
    cases e with
    | viewDidLoad | searchBtnClicked | refreshBtnClicked => exact s.search.counted_removeAll
    | picks | cellForRowAt | profileAction | didSelectRowAt => exact hcount
    | reply i r =>
      cases hi : s.requests[i]? with
      | none =>
        have hstale : noteStale stale s (.reply i r) = stale := by
          rcases r with _ | _ | totalTravel <;> simp [noteStale, hi]
        simp only [SearchVC.reply, hi, hstale]
        exact hcount
      | some q =>
        rcases r with _ | _ | totalTravel <;> simp only [SearchVC.reply, hi, noteStale]
        · exact hcount
        · exact hcount
        · exact s.search.counted_load totalTravel

theorem inBounds_iff_asksFresh {y : SearchVC α × Bool} (h : Inv y) (e : SearchEvent α) : InBounds y e ↔ AsksFresh y e := by
  obtain ⟨s, stale⟩ := y
  have hasks : ∀ indexPath, s.accesses e =
      (if !s.trapped && indexPath < s.search.tbl then [⟨indexPath, s.search.ds.length⟩] else []) →
      (InBounds (s, stale) e ↔ AsksFresh (s, stale) e) := by
    intro indexPath ha
    by_cases hc : s.trapped = false ∧ indexPath < s.search.tbl
    · rw [if_pos (by simp [hc.1, hc.2])] at ha
      have hcount : s.search.Counted stale := h.resolve_left (by simp [hc.1])
      simpa [InBounds, AsksFresh, ha] using hcount.inBounds_iff hc.2
    · rw [if_neg (by simpa using hc)] at ha
      simp [InBounds, AsksFresh, ha]
  cases e with
  | cellForRowAt indexPath | profileAction indexPath | didSelectRowAt indexPath => exact hasks indexPath rfl
  | _ => exact iff_of_true (fun a ha => absurd ha List.not_mem_nil) fun ha => absurd rfl ha

end SearchVC

/-! ## `MyTripVC` -/

/-- The two tables of `MyTripVC`. -/
inductive TripTable where
  | active | history
  deriving DecidableEq, Repr

/-- A successful answer of `getMyTrips`: its arrays, where they are there. -/
structure MyTrips (α : Type*) where
  activeTrips : Option (List α)
  historyTrips : Option (List α)

def MyTrips.trips {α : Type*} (r : MyTrips α) : TripTable → Option (List α)
  | .active => r.activeTrips
  | .history => r.historyTrips

/-- `MyTripVC`, with the loads under way by their numbers. -/
structure MyTripVC (α : Type*) where
  rows : TripTable → TableRows α := fun _ => {}
  requests : List Nat := []
  issued : Nat := 0
  trapped : Bool := false

inductive MyTripEvent (α : Type*) where
  | viewWillAppear (isValid : Bool)
  | reply (i : Nat) (r : Option (MyTrips α))
  | cellForRowAt (tableView : TripTable) (indexPath : Nat)
  | didSelectRowAt (tableView : TripTable) (indexPath : Nat)

namespace MyTripVC
variable {α : Type*}

def setDataSource (s : MyTripVC α) : MyTripVC α :=
  { s with
    rows := fun tableView => (s.rows tableView).removeAll
    requests := s.requests ++ [s.issued]
    issued := s.issued + 1 }

def reply (i : Nat) (r : Option (MyTrips α)) (s : MyTripVC α) : MyTripVC α :=
  match s.requests[i]?, r with
  | none, _ => s
  | some _, none => { s with requests := s.requests.eraseIdx i }
  | some _, some r =>
    { s with
      requests := s.requests.eraseIdx i
      rows := fun tableView => (r.trips tableView).elim (s.rows tableView) fun trips => (s.rows tableView).load trips }

/-- The indices applied to `ds_active` and `ds_history`: `cellForRowAt` looks at the count first, a tap does not. -/
def accesses (s : MyTripVC α) : MyTripEvent α → List Access
  | .cellForRowAt tableView indexPath =>
    if !s.trapped && indexPath < (s.rows tableView).tbl && indexPath < (s.rows tableView).ds.length then
      [⟨indexPath, (s.rows tableView).ds.length⟩]
    else []
  | .didSelectRowAt tableView indexPath =>
    if !s.trapped && indexPath < (s.rows tableView).tbl then [⟨indexPath, (s.rows tableView).ds.length⟩] else []
  | _ => []

def step (s : MyTripVC α) (e : MyTripEvent α) : MyTripVC α :=
  if s.trapped then s
  else
    match e with
    | .viewWillAppear isValid => if isValid then s.setDataSource else s
    | .reply i r => s.reply i r
    | e => { s with trapped := !(s.accesses e).all (·.InBounds) }

/-- Of which tables a load has been started since the last `reloadData`. -/
def noteStale (stale : TripTable → Bool) (s : MyTripVC α) : MyTripEvent α → TripTable → Bool
  | .viewWillAppear isValid, tableView => isValid || stale tableView
  | .reply i (some r), tableView =>
    if s.requests[i]?.isSome && (r.trips tableView).isSome then false else stale tableView
  | _, tableView => stale tableView

def InBounds (y : MyTripVC α × (TripTable → Bool)) (e : MyTripEvent α) : Prop := ∀ a ∈ y.1.accesses e, a.InBounds

/-- A row is tapped only when no load has been started since the last `reloadData` of its table. -/
def TapsFresh (y : MyTripVC α × (TripTable → Bool)) : MyTripEvent α → Prop
  | .didSelectRowAt tableView indexPath => y.1.accesses (.didSelectRowAt tableView indexPath) ≠ [] → y.2 tableView = false
  | _ => True

def Inv (y : MyTripVC α × (TripTable → Bool)) : Prop :=
  y.1.trapped = true ∨ ∀ tableView, (y.1.rows tableView).Counted (y.2 tableView)

theorem Inv.step {y : MyTripVC α × (TripTable → Bool)} (h : Inv y) (e : MyTripEvent α) :
    Inv (Runs.noting step noteStale y e) := by
  obtain ⟨s, stale⟩ := y
  cases ht : s.trapped with
  | true =>
    have hstep : s.step e = s := if_pos ht
    exact .inl (by rw [Runs.noting_fst, hstep]; exact ht)
  | false =>
    have hcount : ∀ tableView, (s.rows tableView).Counted (stale tableView) := h.resolve_left (by simp [ht])
    simp only [Runs.noting, MyTripVC.step, ht, Bool.false_eq_true, if_false]
    refine .inr fun tableView => ?_
    cases e with
    | viewWillAppear isValid =>
      cases isValid with
      | false => exact hcount tableView
      | true => exact (s.rows tableView).counted_removeAll
    | cellForRowAt | didSelectRowAt => exact hcount tableView
    | reply i r =>
      cases hi : s.requests[i]? with
      | none =>
        have hstale : noteStale stale s (.reply i r) tableView = stale tableView := by
          cases r <;> simp [noteStale, hi]
        simp only [MyTripVC.reply, hi, hstale]
        exact hcount tableView
      | some q =>
        cases r with
        | none =>
          simp only [MyTripVC.reply, hi, noteStale]
          exact hcount tableView
        | some r =>
          simp only [MyTripVC.reply, hi, noteStale, Option.isSome_some, Bool.true_and]
          cases hr : r.trips tableView with
          | none => exact hcount tableView
          | some trips => exact (s.rows tableView).counted_load trips

theorem inBounds_iff_tapsFresh {y : MyTripVC α × (TripTable → Bool)} (h : Inv y) (e : MyTripEvent α) :
    InBounds y e ↔ TapsFresh y e := by
  obtain ⟨s, stale⟩ := y
  cases e with
  | viewWillAppear | reply => exact iff_of_true (fun a ha => absurd ha List.not_mem_nil) trivial
  | cellForRowAt tableView indexPath =>
    refine iff_of_true (fun a ha => ?_) trivial
    simp only [accesses] at ha
    split at ha
    · rename_i hc
      rw [List.mem_singleton.1 ha]
      simpa [Access.InBounds] using (Bool.and_eq_true_iff.1 hc).2
    · cases ha
  | didSelectRowAt tableView indexPath =>
    by_cases hc : s.trapped = false ∧ indexPath < (s.rows tableView).tbl
    · have ha : s.accesses (.didSelectRowAt tableView indexPath) = [⟨indexPath, (s.rows tableView).ds.length⟩] :=
        if_pos (by simp [hc.1, hc.2])
      have hcount : ∀ tableView, (s.rows tableView).Counted (stale tableView) := h.resolve_left (by simp [hc.1])
      simpa [InBounds, TapsFresh, ha] using (hcount tableView).inBounds_iff hc.2
    · have ha : s.accesses (.didSelectRowAt tableView indexPath) = [] := if_neg (by simpa using hc)
      simp [InBounds, TapsFresh, ha]

end MyTripVC

/-! ## Row accesses -/

/-- **The rows are accessed in bounds exactly as long as the tables are not asked between a load's start and the next
`reloadData`**: in `SearchVC` for cells, profiles and taps, in `MyTripVC`, whose cells look at the count, for taps. -/
theorem accesses_in_bounds_iff {α : Type*} :
    (∀ es : List (SearchEvent α),
      Runs.AllSteps (Runs.noting SearchVC.step SearchVC.noteStale) SearchVC.InBounds ({}, false) es ↔
        Runs.AllSteps (Runs.noting SearchVC.step SearchVC.noteStale) SearchVC.AsksFresh ({}, false) es) ∧
    ∀ es : List (MyTripEvent α),
      Runs.AllSteps (Runs.noting MyTripVC.step MyTripVC.noteStale) MyTripVC.InBounds ({}, fun _ => false) es ↔
        Runs.AllSteps (Runs.noting MyTripVC.step MyTripVC.noteStale) MyTripVC.TapsFresh ({}, fun _ => false) es :=
  ⟨fun _ => Runs.allSteps_congr SearchVC.Inv (fun _ e h => h.step e) (fun _ e h => SearchVC.inBounds_iff_asksFresh h e)
    (.inr rfl),
    fun _ => Runs.allSteps_congr MyTripVC.Inv (fun _ e h => h.step e) (fun _ e h => MyTripVC.inBounds_iff_tapsFresh h e)
      (.inr fun _ => rfl)⟩

/-- A trip is shown, the search is refreshed, and the row that is still there is tapped. -/
theorem tap_after_refresh :
    ¬ Runs.AllSteps (Runs.noting SearchVC.step SearchVC.noteStale) SearchVC.InBounds (({} : SearchVC String), false)
      [.viewDidLoad, .reply 0 (some (some ["trip"])), .refreshBtnClicked, .didSelectRowAt 0] := by
  rintro ⟨-, -, -, h, -⟩
  exact absurd (h ⟨0, 0⟩ (by decide)) (by decide)

end Traveller
