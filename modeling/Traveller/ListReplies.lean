import Traveller.ListScreens
import Traveller.Loading
/-!
# ListReplies — which reply a list shows

Loads overlap: a screen that appears again, or a search that is repeated, starts another while one is under way, and each
answer is appended to what the answers before it have left.  The four screens simulate the list of `Loading`, where the
answers of `RateUserVC` and `RatingVC` to a review or a reply empty the array themselves.
-/
namespace Traveller

/-! ## `RateUserVC` and `RatingVC` -/

def Request.isGetReview : Request → Bool
  | getReview _ => true
  | _ => false

/-- The reviews of a screen, with its calls of `manageReview` under way by their numbers. -/
structure Reviews (α : Type*) where
  reviews : TableRows α := {}
  requests : List (Nat × Request) := []
  issued : Nat := 0

namespace Reviews
variable {α : Type*}

def manageReview (q : Request) (s : Reviews α) : Reviews α :=
  { s with requests := s.requests ++ [(s.issued, q)], issued := s.issued + 1 }

def setDataSource (ownerId : Int) (s : Reviews α) : Reviews α :=
  { s with reviews := s.reviews.removeAll }.manageReview (.getReview ownerId)

/-- The completions of the three calls: a failure reloads the table, a success shows `review_info`, if it is there, and after
a review or a reply in place of what was shown. -/
def reply (i : Nat) (r : Option (Option (List α))) (s : Reviews α) : Reviews α :=
  match s.requests[i]?, r with
  | none, _ => s
  | some _, none => { s with requests := s.requests.eraseIdx i, reviews := s.reviews.reloadData }
  | some (_, q), some reviewInfo =>
    { s with
      requests := s.requests.eraseIdx i
      reviews := (if q.isGetReview then s.reviews else s.reviews.removeAll).load (reviewInfo.getD []) }

end Reviews

/-- `RateUserVC`: the page of another user, if there is one. -/
structure RateUserVC (α : Type*) where
  rateUser : Option Int := none
  list : Reviews α := {}

/-- What happens to the screen; a review comes with the user's id and the id of the review it replaces, if any. -/
inductive RateUserEvent (α : Type*) where
  | viewWillAppear
  | reviewBtnClicked (thisuser : Int) (rating : Rat) (content : String) (reviewId : Option Int) (reviewTime : Int)
  | reply (i : Nat) (r : Option (Option (List α)))

namespace RateUserVC
variable {α : Type*}

def setDataSource (s : RateUserVC α) : RateUserVC α :=
  { s with list := s.rateUser.elim s.list fun user => s.list.setDataSource user }

/-- The request a tap sends, where the stars are set and a text is written. -/
def reviewBtnClicked (thisuser : Int) (rating : Rat) (content : String) (reviewId : Option Int) (reviewTime : Int)
    (s : RateUserVC α) : Option Request :=
  if rating = 0 || content = "" || content = "Write your review on user." then none
  else s.rateUser.map fun user => .giveReview user thisuser content reviewTime rating reviewId

def step (s : RateUserVC α) : RateUserEvent α → RateUserVC α
  | .viewWillAppear => s.setDataSource
  | .reviewBtnClicked thisuser rating content reviewId reviewTime =>
    { s with list :=
        (s.reviewBtnClicked thisuser rating content reviewId reviewTime).elim s.list fun q => s.list.manageReview q }
  | .reply i r => { s with list := s.list.reply i r }

end RateUserVC

/-- `RatingVC`, the user's own reviews. -/
structure RatingVC (α : Type*) where
  list : Reviews α := {}

inductive RatingEvent (α : Type*) where
  | viewWillAppear (isValid : Bool) (thisuser : Int)
  | replyBtnClicked (thisuser : Int) (selectedReview : Option Int) (reply : String)
  | reply (i : Nat) (r : Option (Option (List α)))

namespace RatingVC
variable {α : Type*}

/-- The request a tap sends, where a text is written and a review was selected. -/
def replyBtnClicked (thisuser : Int) (selectedReview : Option Int) (reply : String) : Option Request :=
  if reply = "" || reply = "Write your reply on reviewer." || reply = "напишите свой ответ рецензенту." then none
  else selectedReview.map fun id => .replyReview thisuser id reply

def step (s : RatingVC α) : RatingEvent α → RatingVC α
  | .viewWillAppear isValid thisuser => if isValid then { s with list := s.list.setDataSource thisuser } else s
  | .replyBtnClicked thisuser selectedReview reply =>
    { s with list := (replyBtnClicked thisuser selectedReview reply).elim s.list fun q => s.list.manageReview q }
  | .reply i r => { s with list := s.list.reply i r }

end RatingVC

/-- The two screens send what the app sends for their buttons. -/
theorem sends_reviews {α : Type*} (a : App) (s : RateUserVC α) {user : Int} (hu : s.rateUser = some user) (rating : Rat)
    (content : String) (reviewId : Option Int) (reviewTime : Int) (selectedReview : Option Int) (reply : String) :
    a.sends (.reviewBtnClicked user rating content reviewId reviewTime) =
        s.reviewBtnClicked a.session.thisuser.userId rating content reviewId reviewTime ∧
      a.sends (.replyBtnClicked selectedReview reply) =
        RatingVC.replyBtnClicked a.session.thisuser.userId selectedReview reply := by
  simp [App.sends, RateUserVC.reviewBtnClicked, RatingVC.replyBtnClicked, hu]

/-! ## The four screens as lists -/

namespace SearchVC
variable {α : Type*}

def loading (s : SearchVC α) : Loading.State α where
  rows := s.search.ds
  requests := s.requests.map fun q => (q.1, false)
  issued := s.issued

/-- A success without `total_travel` has no items. -/
def event (s : SearchVC α) (e : SearchEvent α) : Option (Loading.Event α) :=
  if s.trapped then none
  else
    match e with
    | .viewDidLoad | .searchBtnClicked | .refreshBtnClicked => some .load
    | .reply i r => some (.answer i (r.map (·.getD [])))
    | _ => none

theorem simulates : Loading.Simulates (step (α := α)) loading event := by
  intro s e
  cases ht : s.trapped with
  | true => simp [step, event, ht]
  | false =>
    cases e with
    | reply i r =>
      cases hi : s.requests[i]? with
      | none => rcases r with _ | _ | items <;> simp [step, event, ht, reply, loading, Loading.step, hi]
      | some q =>
        rcases r with _ | _ | items <;>
          simp [step, event, ht, reply, loading, Loading.step, hi, TableRows.load, TableRows.reloadData, List.eraseIdx_map]
    | _ => simp [step, event, ht, setDataSource, loading, Loading.step, TableRows.removeAll]

end SearchVC

namespace MyTripVC
variable {α : Type*}

def loading (tableView : TripTable) (s : MyTripVC α) : Loading.State α where
  rows := (s.rows tableView).ds
  requests := s.requests.map fun n => (n, false)
  issued := s.issued

def event (tableView : TripTable) (s : MyTripVC α) (e : MyTripEvent α) : Option (Loading.Event α) :=
  if s.trapped then none
  else
    match e with
    | .viewWillAppear isValid => if isValid then some .load else none
    | .reply i r => some (.answer i (r.map fun r => (r.trips tableView).getD []))
    | _ => none

theorem simulates (tableView : TripTable) : Loading.Simulates (step (α := α)) (loading tableView) (event tableView) := by
  intro s e
  cases ht : s.trapped with
  | true => simp [step, event, ht]
  | false =>
    cases e with
    | reply i r =>
      cases hi : s.requests[i]? with
      | none => cases r <;> simp [step, event, ht, reply, loading, Loading.step, hi]
      | some n =>
        cases r with
        | none => simp [step, event, ht, reply, loading, Loading.step, hi, List.eraseIdx_map]
        | some r =>
          cases hr : r.trips tableView <;>
            simp [step, event, ht, reply, loading, Loading.step, hi, hr, TableRows.load, TableRows.reloadData,
              List.eraseIdx_map]
    | viewWillAppear isValid =>
      cases isValid <;> simp [step, event, ht, setDataSource, loading, Loading.step, TableRows.removeAll]
    | _ => simp [step, event, ht, loading]

end MyTripVC

namespace Reviews
variable {α : Type*}

def loading (s : Reviews α) : Loading.State α where
  rows := s.reviews.ds
  requests := s.requests.map fun q => (q.1, !q.2.isGetReview)
  issued := s.issued

theorem loading_setDataSource (s : Reviews α) (ownerId : Int) :
    (s.setDataSource ownerId).loading = Loading.step s.loading .load := by
  simp [setDataSource, manageReview, loading, Loading.step, TableRows.removeAll, Request.isGetReview]

theorem loading_write (s : Reviews α) {q : Request} (hq : q.isGetReview = false) :
    (s.manageReview q).loading = Loading.step s.loading .write := by
  simp [manageReview, loading, Loading.step, hq]

theorem loading_reply (s : Reviews α) (i : Nat) (r : Option (Option (List α))) :
    (s.reply i r).loading = Loading.step s.loading (.answer i (r.map (·.getD []))) := by
  cases hi : s.requests[i]? with
  | none => cases r <;> simp [reply, loading, Loading.step, hi]
  | some q =>
    cases r with
    | none => simp [reply, loading, Loading.step, hi, TableRows.reloadData, List.eraseIdx_map]
    | some reviewInfo =>
      cases hq : q.2.isGetReview <;>
        simp [reply, loading, Loading.step, hi, hq, TableRows.load, TableRows.reloadData, TableRows.removeAll,
          List.eraseIdx_map]

end Reviews

namespace RateUserVC
variable {α : Type*}

def loading (s : RateUserVC α) : Loading.State α := s.list.loading

def event (s : RateUserVC α) : RateUserEvent α → Option (Loading.Event α)
  | .viewWillAppear => s.rateUser.map fun _ => .load
  | .reviewBtnClicked thisuser rating content reviewId reviewTime =>
    (s.reviewBtnClicked thisuser rating content reviewId reviewTime).map fun _ => .write
  | .reply i r => some (.answer i (r.map (·.getD [])))

theorem isGetReview_reviewBtnClicked {s : RateUserVC α} {thisuser : Int} {rating : Rat} {content : String}
    {reviewId : Option Int} {reviewTime : Int} {q : Request}
    (hq : s.reviewBtnClicked thisuser rating content reviewId reviewTime = some q) : q.isGetReview = false := by
  unfold reviewBtnClicked at hq
  split at hq
  · cases hq
  · obtain ⟨user, -, rfl⟩ := Option.map_eq_some_iff.1 hq
    rfl

theorem simulates : Loading.Simulates (step (α := α)) loading event := by
  intro s e
  cases e with
  | viewWillAppear =>
    cases hu : s.rateUser with
    | none => simp [step, event, setDataSource, loading, hu]
    | some user => simpa [step, event, setDataSource, loading, hu] using s.list.loading_setDataSource user
  | reviewBtnClicked thisuser rating content reviewId reviewTime =>
    cases hq : s.reviewBtnClicked thisuser rating content reviewId reviewTime with
    | none => simp [step, event, loading, hq]
    | some q => simpa [step, event, loading, hq] using s.list.loading_write (isGetReview_reviewBtnClicked hq)
  | reply i r => exact s.list.loading_reply i r

end RateUserVC

namespace RatingVC
variable {α : Type*}

def loading (s : RatingVC α) : Loading.State α := s.list.loading

def event (_ : RatingVC α) : RatingEvent α → Option (Loading.Event α)
  | .viewWillAppear isValid _ => if isValid then some .load else none
  | .replyBtnClicked thisuser selectedReview reply =>
    (replyBtnClicked thisuser selectedReview reply).map fun _ => .write
  | .reply i r => some (.answer i (r.map (·.getD [])))

theorem isGetReview_replyBtnClicked {thisuser : Int} {selectedReview : Option Int} {reply : String} {q : Request}
    (hq : replyBtnClicked thisuser selectedReview reply = some q) : q.isGetReview = false := by
  unfold replyBtnClicked at hq
  split at hq
  · cases hq
  · obtain ⟨id, -, rfl⟩ := Option.map_eq_some_iff.1 hq
    rfl

theorem simulates : Loading.Simulates (step (α := α)) loading event := by
  intro s e
  cases e with
  | viewWillAppear isValid thisuser =>
    cases isValid with
    | false => simp [step, event, loading]
    | true => simpa [step, event, loading] using s.list.loading_setDataSource thisuser
  | replyBtnClicked thisuser selectedReview reply =>
    cases hq : replyBtnClicked thisuser selectedReview reply with
    | none => simp [step, event, loading, hq]
    | some q => simpa [step, event, loading, hq] using s.list.loading_write (isGetReview_replyBtnClicked hq)
  | reply i r => exact s.list.loading_reply i r

end RatingVC

/-! ## One reply -/

/-- Of a screen that is a list: every run that is in order shows one reply after each success, the last one at rest. -/
def OneReplyInOrder {α σ ε : Type*} (step : σ → ε → σ) (loading : σ → Loading.State α)
    (event : σ → ε → Option (Loading.Event α)) (s : σ) : Prop :=
  ∀ es : List ε,
    Runs.AllSteps (Runs.noting step (Loading.noteVia loading event)) (Loading.Via loading event Loading.Orderly) (s, {}) es →
      Runs.AllSteps (Runs.noting step (Loading.noteVia loading event)) (Loading.Via loading event Loading.ShowsOneReply)
        (s, {}) es

theorem inv_empty {α : Type*} : Loading.Inv (({} : Loading.State α), ({} : Loading.History α)) :=
  ⟨⟨fun _ => rfl, nofun, nofun, nofun⟩, fun _ hq => absurd hq List.not_mem_nil, List.nodup_nil, fun _ _ => rfl, fun _ => nofun⟩

/-- **The four screens show one reply in every run that is in order**, each of the two tables of `MyTripVC` included. -/
theorem one_reply_in_order {α : Type*} (rateUser : Option Int) :
    OneReplyInOrder SearchVC.step SearchVC.loading SearchVC.event ({} : SearchVC α) ∧
      (∀ tableView,
        OneReplyInOrder MyTripVC.step (MyTripVC.loading tableView) (MyTripVC.event tableView) ({} : MyTripVC α)) ∧
      OneReplyInOrder RateUserVC.step RateUserVC.loading RateUserVC.event ({ rateUser := rateUser } : RateUserVC α) ∧
      OneReplyInOrder RatingVC.step RatingVC.loading RatingVC.event ({} : RatingVC α) :=
  ⟨fun _ => Loading.showsOneReply_of_orderly SearchVC.simulates inv_empty,
    fun tableView _ => Loading.showsOneReply_of_orderly (MyTripVC.simulates tableView) inv_empty,
    fun _ => Loading.showsOneReply_of_orderly RateUserVC.simulates inv_empty,
    fun _ => Loading.showsOneReply_of_orderly RatingVC.simulates inv_empty⟩

/-- Two searches overlap twice: the older one finds nothing before the newer is answered, and fails after it. -/
theorem one_reply_in_order_overlapping :
    Runs.AllSteps (Runs.noting SearchVC.step (Loading.noteVia SearchVC.loading SearchVC.event))
      (Loading.Via SearchVC.loading SearchVC.event Loading.ShowsOneReply) (({} : SearchVC String), {})
      [.viewDidLoad, .searchBtnClicked, .reply 0 (some (some [])), .reply 0 (some (some ["new"])), .searchBtnClicked,
        .refreshBtnClicked, .reply 1 (some (some ["newer"])), .reply 0 none] := by
  refine (one_reply_in_order none).1 _ ⟨?_, ?_, ?_, ?_, ?_, ?_, ?_, ?_, trivial⟩ <;> rintro e' he <;> cases he
  · trivial
  · trivial
  · exact ⟨fun _ => nofun, nofun⟩
  · exact ⟨fun _ _ => rfl, fun _ => rfl⟩
  · trivial
  · trivial
  · exact ⟨fun _ _ => rfl, nofun⟩
  · refine ⟨fun _ => nofun, fun _ n hn => ?_⟩
    cases hn
    exact ⟨fun hnil => absurd hnil (by decide), fun _ => rfl⟩

/-- A search is repeated while the first is under way, and the list shows the trips of both. -/
theorem two_searches_are_mixed :
    ¬ Runs.AllSteps (Runs.noting SearchVC.step (Loading.noteVia SearchVC.loading SearchVC.event))
      (Loading.Via SearchVC.loading SearchVC.event Loading.ShowsOneReply) (({} : SearchVC String), {})
      [.viewDidLoad, .searchBtnClicked, .reply 0 (some (some ["old"])), .reply 0 (some (some ["new"]))] := by
  rintro ⟨-, -, -, h, -⟩
  obtain ⟨n, hn⟩ := (h (.answer 0 (some ["new"])) rfl).1 0 ["new"] rfl (by decide)
  let old : Nat → Option (List String) := Function.update (fun _ => none) 0 (some ["old"])
  have hn : Function.update old 1 (some ["new"]) n = some ["old", "new"] := hn
  by_cases h1 : n = 1
  · rw [h1, Function.update_self] at hn
    exact absurd hn (by decide)
  · rw [Function.update_of_ne h1] at hn
    by_cases h0 : n = 0
    · subst h0
      exact absurd hn (by decide)
    · rw [show old n = none from Function.update_of_ne h0 _ _] at hn
      cases hn

end Traveller
