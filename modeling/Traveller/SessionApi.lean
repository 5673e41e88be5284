import Traveller.ForgotPin
import Traveller.SessionStore
/-!
# SessionApi — the requests of the app, and what their replies do to the session

A handler sends a request with what the session holds at that moment; the reply is handled whenever it comes, against the
session there is then.  Nothing in a reply's handler asks whether the session is still the one the request was sent for.

`App` is one process: the session, the requests under way in the order of their numbers, and whether a forced unwrap
(`user_data.first!`) has ended it.  What a handler sends is `App.sends`, what a reply does `Request.reply`.
-/
namespace Traveller

/-- The fields of `NewTripVC`. -/
structure NewTrip where
  fromLocation : String
  toLocation : String
  date : String
  time : String
  weight : String
  price : String
  items : List String
  des : String
  travelTime : Int
  fromId : String
  toId : String
  fromCountry : String
  toCountry : String
  deriving DecidableEq, Repr

/-- The calls of `ApiManager` that carry the user or answer with one, with their parameters. -/
inductive Request where
  | signin (userEmail password : String)
  | socialLogin (userEmail firstName lastName userPhoto : String) (loginType : LoginType) (socialId : String)
  | signup (userEmail firstName lastName userPhoto : String) (birthday : Int) (phoneNumber : String)
      (loginType : LoginType) (password : String)
  | updateProfile (userId : Int) (firstName lastName userPhoto : String) (birthday : Int) (phoneNumber : String)
  | changePassword (userId : Int) (password : String)
  | createTravel (userId : Int) (trip : NewTrip)
  | updateMyTrips (userId travelId : Int) (weight price : String) (items : List String) (des : String)
  | deleteMyTrips (userId travelId : Int)
  | giveReview (ownerId reviewerId : Int) (reviewContent : String) (reviewTime : Int) (reviewRating : Rat)
      (reviewId : Option Int)
  | replyReview (ownerId reviewId : Int) (reply : String)
  | getReview (ownerId : Int)
  | resetPassword (reset : ResetPassword)
  deriving DecidableEq, Repr

/-- A reply's JSON: `message`, `user_info` and the `total_rating` of each of `review_info`, where the arrays are there. -/
structure Reply where
  message : String
  userInfo : Option (List UserJson) := none
  reviewInfo : Option (List Rat) := none
  deriving DecidableEq, Repr

/-- What handling a reply leaves: the session, whether the app has trapped, and what `completion` was called with. -/
structure Handled where
  session : Session
  trapped : Bool := false
  completion : Option Bool := none
  deriving DecidableEq, Repr

/-! ## Replies -/

/-- The outer cases of every completion: no reply and a message that is not `SUCCESS` complete with false. -/
def answered (r : Option Reply) (s : Session) (success : Reply → Handled) : Handled :=
  match r with
  | none => { session := s, completion := some false }
  | some r => if r.message = "success" then success r else { session := s, completion := some false }

/-- A success with a user: the session is ended as `prepare` does it and begun again with the first of `user_info`, by
force.  Without `user_info` nothing happens, and nobody is told. -/
def takeUser (now : Int) (prepare : Session → Session) (s : Session) (r : Reply) : Handled :=
  match r.userInfo with
  | none => { session := s }
  | some [] => { session := prepare s, trapped := true }
  | some (user :: _) => { session := (prepare s).adopt now user, completion := some true }

namespace Request

/-- The completion of a sign-in and of a sign-up. -/
def signinReply (now : Int) (password : String) (s : Session) (r : Option Reply) : Handled :=
  answered r s (takeUser now (fun s => (s.clearUserInfo.setPassword password).setLogout false) s)

/-- `socialLogin` looks whether there is a user, and completes with true where there is none. -/
def socialReply (now : Int) (s : Session) (r : Option Reply) : Handled :=
  answered r s fun r =>
    let cleared := s.clearUserInfo.setLogout false
    match r.userInfo with
    | none => { session := s }
    | some [] => { session := cleared, completion := some true }
    | some (user :: _) => { session := cleared.adopt now user, completion := some true }

def updateProfileReply (now : Int) (s : Session) (r : Option Reply) : Handled :=
  answered r s (takeUser now (fun s => s.clearUserInfo.setLogout false) s)

/-- The completions of a changed and of a reset password store it. -/
def passwordReply (now : Int) (password : String) (s : Session) (r : Option Reply) : Handled :=
  answered r s fun _ => { session := (s.setPassword password).refresh now, completion := some true }

/-- `RatingVC.setDataSource`: the rating it sets is loaded over again. -/
def getReviewReply (now : Int) (s : Session) (r : Option Reply) : Handled :=
  answered r s fun r =>
    let rating := ((r.reviewInfo.getD []).head?).getD 0
    { session := { s with thisuser := { s.thisuser with rating := some rating } }.refresh now, completion := some true }

def reply (now : Int) (s : Session) (r : Option Reply) : Request → Handled
  | signin _ password | signup _ _ _ _ _ _ _ password => signinReply now password s r
  | socialLogin .. => socialReply now s r
  | updateProfile .. => updateProfileReply now s r
  | changePassword _ password => passwordReply now password s r
  | resetPassword reset => passwordReply now reset.password s r
  | getReview _ => getReviewReply now s r
  | createTravel .. | updateMyTrips .. | deleteMyTrips .. | giveReview .. | replyReview .. =>
    answered r s fun _ => { session := s, completion := some true }

def logsIn : Request → Bool
  | signin .. | signup .. | socialLogin .. => true
  | _ => false

end Request

/-! ## The app -/

structure App where
  session : Session := {}
  requests : List (Nat × Request) := []
  issued : Nat := 0
  trapped : Bool := false
  deriving DecidableEq, Repr

/-- What the user, the system and the server do.  `launch` starts a process: `AppDelegate` loads and saves the session, and
what was under way is gone.  `connect` is `SceneDelegate`, which loads and saves it again. -/
inductive AppEvent where
  | launch (now : Int)
  | connect (now : Int)
  | checkBackgrouond
  | loginBtnClicked (email password : String)
  | signupBtnClicked (photo : Option String) (firstName lastName email : String) (birthday : Int)
      (password confirmpassword : String) (isChecked : Bool)
  | socialLogin (email firstName lastName userPhoto : String) (loginType : LoginType) (socialId : String)
  | loginWithGuest (now : Int)
  | ratingAppears
  | saveBtnClicked (trip : NewTrip)
  | upateTripBtnClicked (travelId : Int) (weight price : String) (items : List String) (des : String)
  | deleteTripConfirmed (travelId : Int)
  | reviewBtnClicked (rateUser : Int) (rating : Rat) (content : String) (reviewId : Option Int) (reviewTime : Int)
  | replyBtnClicked (selectedReview : Option Int) (reply : String)
  | updateBtnClicked (photo firstName lastName email birthday : String) (birthdayTimestamp : Int)
  | changeBtnClicked (currentpwd newpwd confirmpwd : String)
  | sendNewPwd (screen : ForgotVC) (newPwd confirmPwd : String)
  | logoutBtnClicked (now : Int)
  | reply (i : Nat) (r : Option Reply) (now : Int)
  deriving DecidableEq, Repr

/-- Neither the end of a session nor a reply. -/
def AppEvent.keeps : AppEvent → Bool
  | .loginWithGuest _ | .logoutBtnClicked _ | .reply .. => false
  | _ => true

namespace App

/-- `checkBackgrouond`: a stored user is logged in again, by the password, or by its e-mail with the password for an id. -/
def checkBackgrouond (u : UserModel) (logout : Bool) : Option Request :=
  if u.isValid && !logout then
    if u.loginType = some .email then some (.signin (u.userEmail.getD "") (u.password.getD ""))
    else some (.socialLogin (u.userEmail.getD "") (u.firstName.getD "") (u.lastName.getD "") (u.userPhoto.getD "")
      (u.loginType.getD .google) (u.password.getD ""))
  else none

/-- **What a handler sends**: its own checks, then the request with the user of that moment. -/
def sends (a : App) : AppEvent → Option Request
  | .checkBackgrouond => checkBackgrouond a.session.thisuser (a.session.defaults.logout.getD false)
  | .loginBtnClicked email password =>
    if isValidEmail email && password ≠ "" then some (.signin email password) else none
  | .signupBtnClicked photo firstName lastName email birthday password confirmpassword isChecked =>
    if firstName ≠ "" && lastName ≠ "" && isValidEmail email && birthday ≠ 0 && password ≠ "" &&
        password = confirmpassword && isChecked then
      photo.map fun photo => .signup email firstName lastName photo birthday "" .email password
    else none
  | .socialLogin email firstName lastName userPhoto loginType socialId =>
    some (.socialLogin email firstName lastName userPhoto loginType socialId)
  | .ratingAppears => if a.session.thisuser.isValid then some (.getReview a.session.thisuser.userId) else none
  | .saveBtnClicked trip =>
    if [trip.fromLocation, trip.toLocation, trip.date, trip.time, trip.weight, trip.price].any (· = "") ||
      trip.items.isEmpty then none
    else some (.createTravel a.session.thisuser.userId trip)
  | .upateTripBtnClicked travelId weight price items des =>
    if weight = "" || price = "" || items.isEmpty then none
    else some (.updateMyTrips a.session.thisuser.userId travelId weight price items des)
  | .deleteTripConfirmed travelId => some (.deleteMyTrips a.session.thisuser.userId travelId)
  | .reviewBtnClicked rateUser rating content reviewId reviewTime =>
    if rating = 0 || content = "" || content = "Write your review on user." then none
    else some (.giveReview rateUser a.session.thisuser.userId content reviewTime rating reviewId)
  | .replyBtnClicked selectedReview reply =>
    if reply = "" || reply = "Write your reply on reviewer." || reply = "напишите свой ответ рецензенту." then none
    else selectedReview.map fun id => .replyReview a.session.thisuser.userId id reply
  | .updateBtnClicked photo firstName lastName email birthday birthdayTimestamp =>
    if a.session.thisuser.isValid && firstName ≠ "" && lastName ≠ "" && isValidEmail email && birthday ≠ "" then
      some (.updateProfile a.session.thisuser.userId firstName lastName photo
        (if birthdayTimestamp = 0 then a.session.thisuser.birthday.getD 0 else birthdayTimestamp)
        (a.session.thisuser.phoneNumber.getD ""))
    else none
  | .changeBtnClicked currentpwd newpwd confirmpwd =>
    if a.session.thisuser.isValid && some currentpwd = a.session.thisuser.password && newpwd ≠ "" && confirmpwd ≠ "" &&
        newpwd = confirmpwd then
      some (.changePassword a.session.thisuser.userId newpwd)
    else none
  | .sendNewPwd screen newPwd confirmPwd => (screen.sendNewPwd newPwd confirmPwd).map .resetPassword
  | .launch _ | .connect _ | .loginWithGuest _ | .logoutBtnClicked _ | .reply .. => none

/-- What handling the reply to the `i`-th request under way leaves, where there is one. -/
def handled (a : App) (i : Nat) (r : Option Reply) (now : Int) : Option Handled :=
  a.requests[i]?.map fun q => q.2.reply now a.session r

def step (a : App) (e : AppEvent) : App :=
  match e with
  | .launch now => { session := { a.session with thisuser := {} }.refresh now, issued := a.issued }
  | e =>
    -- a trap ends the process: nothing runs until the next launch
    if a.trapped then a
    else
      match e with
      | .connect now => { a with session := { a.session with thisuser := {} }.refresh now }
      | .loginWithGuest now => { a with session := a.session.forget now }
      | .logoutBtnClicked now => { a with session := (a.session.setLogout true).forget now }
      | .reply i r now =>
        match a.handled i r now with
        | none => a
        | some h => { a with session := h.session, requests := a.requests.eraseIdx i, trapped := h.trapped }
      | e =>
        match a.sends e with
        | none => a
        | some request => { a with requests := a.requests ++ [(a.issued, request)], issued := a.issued + 1 }

/-! ## Steps, by what they do to the session -/

theorem step_session (a : App) {e : AppEvent} (he : e.keeps = true) :
    (a.step e).session = a.session ∨ ∃ now, (a.step e).session = { a.session with thisuser := {} }.refresh now := by
  unfold step
  split
  · exact .inr ⟨_, rfl⟩
  · split
    · exact .inl rfl
    · split
      · exact .inr ⟨_, rfl⟩
      · cases he
      · cases he
      · cases he
      · split <;> exact .inl rfl

variable {a : App}

theorem userId_of_keeps (h : a.session.Stored) {e : AppEvent} (he : e.keeps = true) :
    (a.step e).session.thisuser.userId = a.session.thisuser.userId := by
  rcases a.step_session he with hs | ⟨now, hs⟩ <;> rw [hs]
  exact h.refresh_userId now {}

theorem step_loginWithGuest (ht : a.trapped = false) (now : Int) :
    (a.step (.loginWithGuest now)).session = a.session.forget now := by simp [step, ht]

theorem step_logoutBtnClicked (ht : a.trapped = false) (now : Int) :
    (a.step (.logoutBtnClicked now)).session = (a.session.setLogout true).forget now := by simp [step, ht]

theorem step_reply (ht : a.trapped = false) (i : Nat) (r : Option Reply) (now : Int) :
    (a.requests[i]? = none ∧ a.step (.reply i r now) = a) ∨
      ∃ n q, a.requests[i]? = some (n, q) ∧ (a.step (.reply i r now)).session = (q.reply now a.session r).session ∧
        (a.step (.reply i r now)).trapped = (q.reply now a.session r).trapped := by
  cases hi : a.requests[i]? with
  | none => exact .inl ⟨rfl, by simp [step, handled, ht, hi]⟩
  | some nq => exact .inr ⟨nq.1, nq.2, rfl, by simp [step, handled, ht, hi], by simp [step, handled, ht, hi]⟩

theorem step_of_trapped (ht : a.trapped = true) {e : AppEvent} (he : ∀ now, e ≠ .launch now) : a.step e = a := by
  unfold step
  split
  · exact absurd rfl (he _)
  · rw [if_pos ht]

end App
end Traveller
