import Traveller.SessionLogout
/-!
# SessionLaunch — what a launch finds

A user is valid when his id is not -1.  Logging out stores that id, but a key that is not there is loaded as 0: on a fresh
install everybody is valid, and `SplashVC` signs nobody in with an empty e-mail.  `meets_iff_entered`: from the first
authentication, logout or guest entry on, and not before, a valid user is one who is logged in.

The automatic login of a user of a social network re-presents the stored password in the place of his id there
(`resumes_iff_password`).
-/
namespace Traveller

/-! ## Who is valid -/

/-- What is noted of a run: whether the session is authenticated, whether anybody ever logged in, and whether anybody ever
logged out or came as a guest. -/
structure Standing where
  authenticated : Bool := false
  loggedIn : Bool := false
  left : Bool := false
  deriving DecidableEq, Repr

/-- **The reply is a proper one**: a login that succeeds carries a user with a positive id, and no profile update succeeds. -/
def Request.Proper (r : Option Reply) : Request → Prop
  | signin .. | signup .. | socialLogin .. =>
    ∀ r', r = some r' → r'.message = "success" → ∃ user users, r'.userInfo = some (user :: users) ∧ 0 < user.id
  | updateProfile .. => ∀ r', r = some r' → r'.message ≠ "success"
  | _ => True

namespace Request
variable {s : Session} {r : Option Reply} {q : Request}

/-- **What a proper reply leaves**: no trap, and the user there was, or after a login that landed a user with a positive
id. -/
theorem reply_proper (now : Int) (h : s.Stored) (hp : q.Proper r) :
    (q.reply now s r).trapped = false ∧ (q.reply now s r).session.Stored ∧
      if q.logsIn && q.lands r then 0 < (q.reply now s r).session.thisuser.userId
      else (q.reply now s r).session.thisuser.userId = s.thisuser.userId := by
  cases r with
  | none => cases q <;> exact ⟨rfl, h, rfl⟩
  | some r =>
    by_cases hm : r.message = "success"
    case neg =>
      have hs : q.reply now s (some r) = { session := s, completion := some false } := by
        cases q <;>
          simp [reply, signinReply, socialReply, updateProfileReply, passwordReply, getReviewReply, answered, hm]
      have hl : (q.logsIn && q.lands (some r)) = false := by cases q <;> simp [lands, logsIn, hm]
      rw [hs, hl]
      exact ⟨rfl, h, rfl⟩
    cases q with
    | signin | signup =>
      obtain ⟨user, users, hu, hid⟩ := hp r rfl hm
      rw [if_pos (by simp [logsIn, lands, hm, hu])]
      simp only [reply, signinReply, answered, if_pos hm, takeUser, hu]
      exact ⟨trivial, rfl, hid⟩
    | socialLogin =>
      obtain ⟨user, users, hu, hid⟩ := hp r rfl hm
      rw [if_pos (by simp [logsIn, lands, hm, hu])]
      simp only [reply, socialReply, answered, if_pos hm, hu]
      exact ⟨trivial, rfl, hid⟩
    | updateProfile => exact absurd hm (hp r rfl)
    | changePassword | resetPassword =>
      simp only [reply, passwordReply, answered, if_pos hm]
      exact ⟨trivial, rfl, h.refresh_userId now _⟩
    | getReview =>
      simp only [reply, getReviewReply, answered, if_pos hm]
      exact ⟨trivial, rfl, h.refresh_userId now _⟩
    | createTravel | updateMyTrips | deleteMyTrips | giveReview | replyReview =>
      rw [if_neg (by simp [logsIn])]
      simp only [reply, answered, if_pos hm]
      exact ⟨trivial, h, trivial⟩

end Request

namespace App

def noteStanding (h : Standing) (a : App) : AppEvent → Standing
  | .loginWithGuest _ | .logoutBtnClicked _ => if a.trapped then h else { h with authenticated := false, left := true }
  | .reply i r _ =>
    if a.trapped then h
    else
      match a.requests[i]? with
      | none => h
      | some (_, q) => if q.logsIn && q.lands r then { h with authenticated := true, loggedIn := true } else h
  | _ => h

/-- Every reply of the step is a proper one. -/
def ProperReply (y : App × Standing) : AppEvent → Prop
  | .reply i r _ => ∀ n q, y.1.requests[i]? = some (n, q) → q.Proper r
  | _ => True

/-- The first launch of a fresh install. -/
def install (now : Int) : App × Standing := (({} : App).step (.launch now), {})

/-- **Valid means authenticated**: the user is valid exactly when a login has succeeded and no logout or guest entry has
happened since, and the splash screen signs nobody in as long as nobody has ever logged in. -/
def Meets (y : App × Standing) : Prop :=
  (y.1.session.thisuser.isValid = true ↔ y.2.authenticated = true) ∧
    (y.2.loggedIn = false → y.1.sends .checkBackgrouond = none)

/-- Somebody has logged in, logged out or come as a guest. -/
def Entered (y : App × Standing) : Prop := y.2.loggedIn = true ∨ y.2.left = true

/-- The invariant: once somebody has entered the id says who is valid, and before it is the default of a missing key. -/
structure StandingInv (y : App × Standing) : Prop where
  trapped : y.1.trapped = false
  stored : y.1.session.Stored
  loggedIn : y.2.authenticated = true → y.2.loggedIn = true
  valid : Entered y → (y.1.session.thisuser.isValid = true ↔ y.2.authenticated = true)
  fresh : ¬ Entered y → y.1.session.thisuser.userId = 0

theorem standingInv_install (now : Int) : StandingInv (install now) where
  trapped := rfl
  stored := rfl
  loggedIn h := by cases h
  valid h := by rcases h with h | h <;> cases h
  fresh _ := rfl

theorem trapped_of_keeps {a : App} (ht : a.trapped = false) {e : AppEvent} (he : e.keeps = true) :
    (a.step e).trapped = false := by
  unfold step
  split
  · rfl
  · rw [if_neg (by simp [ht])]
    split
    · exact ht
    · cases he
    · cases he
    · cases he
    · split <;> exact ht

theorem noteStanding_of_keeps (h : Standing) (a : App) {e : AppEvent} (he : e.keeps = true) : noteStanding h a e = h := by
  cases e with
  | loginWithGuest | logoutBtnClicked | reply => cases he
  | _ => rfl

theorem StandingInv.of_same {a a' : App} {h : Standing} (hinv : StandingInv (a, h)) (ht : a'.trapped = false)
    (hs : a'.session.Stored) (hu : a'.session.thisuser.userId = a.session.thisuser.userId) : StandingInv (a', h) where
  trapped := ht
  stored := hs
  loggedIn := hinv.loggedIn
  valid he := by
    rw [UserModel.isValid_iff, hu, ← UserModel.isValid_iff]
    exact hinv.valid he
  fresh he := hu.trans (hinv.fresh he)

/-- After a logout or a guest entry nobody is valid and nobody is authenticated. -/
theorem StandingInv.of_left {a' : App} (h : Standing) (ht : a'.trapped = false) {now : Int} {s : Session}
    (hs : a'.session = s.forget now) : StandingInv (a', { h with authenticated := false, left := true }) where
  trapped := ht
  stored := by
    rw [hs]
    exact Session.stored_forget s now
  loggedIn h := by cases h
  valid _ := by simp [hs, UserModel.isValid]
  fresh he := absurd (Or.inr rfl) he

theorem StandingInv.step {y : App × Standing} (h : StandingInv y) {e : AppEvent} (hok : ProperReply y e) :
    StandingInv (Runs.noting step noteStanding y e) := by
  obtain ⟨a, p⟩ := y
  have ht : a.trapped = false := h.trapped
  have hs : a.session.Stored := h.stored
  rw [Runs.noting]
  dsimp only
  have hrest : e.keeps = true → StandingInv (a.step e, noteStanding p a e) := by
    intro he
    rw [noteStanding_of_keeps p a he]
    refine h.of_same (trapped_of_keeps ht he) ?_ (userId_of_keeps hs he)
    rcases a.step_session he with hsame | ⟨now, hsame⟩ <;> rw [hsame]
    · exact hs
    · exact Session.stored_refresh _ now
  cases e with
  | loginWithGuest now =>
    have hnote : noteStanding p a (.loginWithGuest now) = { p with authenticated := false, left := true } := by
      simp [noteStanding, ht]
    rw [hnote]
    exact .of_left p (by simp [App.step, ht]) (step_loginWithGuest ht now)
  | logoutBtnClicked now =>
    have hnote : noteStanding p a (.logoutBtnClicked now) = { p with authenticated := false, left := true } := by
      simp [noteStanding, ht]
    rw [hnote]
    exact .of_left p (by simp [App.step, ht]) (step_logoutBtnClicked ht now)
  | reply i r now =>
    rcases step_reply ht i r now with ⟨hi, hstep⟩ | ⟨n, q, hi, hstep, htrap⟩
    · have hnote : noteStanding p a (.reply i r now) = p := by simp [noteStanding, ht, hi]
      rw [hnote, hstep]
      exact h
    · obtain ⟨hq, hstored, huser⟩ := Request.reply_proper now hs (hok n q hi)
      have hnote : noteStanding p a (.reply i r now) =
          if q.logsIn && q.lands r then { p with authenticated := true, loggedIn := true } else p := by
        simp [noteStanding, ht, hi]
      rw [hnote]
      rw [← hstep] at hstored huser
      rw [← htrap] at hq
      cases hl : q.logsIn && q.lands r with
      | false =>
        simp only [hl] at huser
        exact h.of_same hq hstored huser
      | true =>
        simp only [hl, if_true] at huser
        refine ⟨hq, hstored, fun _ => rfl, fun _ => ⟨fun _ => rfl, fun _ => ?_⟩, fun he => absurd (Or.inl rfl) he⟩
        rw [UserModel.isValid_iff]
        dsimp only
        omega
  | _ => exact hrest rfl

/-- **The user is valid exactly when he is authenticated once somebody has logged in, logged out or come as a guest, and
not before**, in every run of proper replies from a fresh install. -/
theorem meets_iff_entered (now : Int) (es : List AppEvent)
    (hes : Runs.AllSteps (Runs.noting step noteStanding) ProperReply (install now) es) :
    Meets (Runs.run (Runs.noting step noteStanding) (install now) es) ↔
      Entered (Runs.run (Runs.noting step noteStanding) (install now) es) := by
  have h : StandingInv (Runs.run (Runs.noting step noteStanding) (install now) es) :=
    Runs.run_invariant StandingInv (fun _ _ h hok => h.step hok) (standingInv_install now) hes
  generalize Runs.run (Runs.noting step noteStanding) (install now) es = y at h
  constructor
  · rintro ⟨hvalid, -⟩
    by_contra hn
    have hauth := hvalid.1 (UserModel.isValid_iff.2 (by rw [h.fresh hn]; decide))
    exact hn (.inl (h.loggedIn hauth))
  · intro he
    refine ⟨h.valid he, fun hnobody => ?_⟩
    have hout : y.1.session.thisuser.isValid = false := by
      cases hv : y.1.session.thisuser.isValid with
      | false => rfl
      | true =>
        have hin := h.loggedIn ((h.valid he).1 hv)
        rw [hnobody] at hin
        cases hin
    simp [sends, checkBackgrouond, hout]

theorem meets_iff_entered_retried :
    Meets (Runs.run (Runs.noting step noteStanding) (install 0)
      [.loginBtnClicked "ann@mail.io" "pw", .reply 0 none 1, .loginBtnClicked "ann@mail.io" "word",
        .reply 0 (some { message := "success", userInfo := some [{ id := 7 }] }) 2]) ↔
      Entered (Runs.run (Runs.noting step noteStanding) (install 0)
        [.loginBtnClicked "ann@mail.io" "pw", .reply 0 none 1, .loginBtnClicked "ann@mail.io" "word",
          .reply 0 (some { message := "success", userInfo := some [{ id := 7 }] }) 2]) := by
  refine meets_iff_entered 0 _ ⟨trivial, fun n q hq => ?_, trivial, fun n q hq => ?_, trivial⟩ <;>
    obtain ⟨-, rfl⟩ := Prod.mk.inj (Option.some.inj hq)
  · rintro r hr
    cases hr
  · rintro r hr -
    obtain rfl := Option.some.inj hr
    exact ⟨{ id := 7 }, [], rfl, by decide⟩

/-- On a fresh install nobody has logged in, and the splash screen signs him in. -/
theorem fresh_install_is_valid :
    ¬ Meets (install 0) ∧ (install 0).2 = {} ∧ (install 0).1.sends .checkBackgrouond = some (.signin "" "") := by
  refine ⟨fun h => ?_, rfl, by decide⟩
  exact absurd (h.2 rfl) (by decide)

/-! ## Who is logged in again -/

/-- **The automatic login is the user's**: what the splash screen sends, if anything, has the record's e-mail, its login
type and its id in the social network. -/
def Resumes (user : UserJson) (a : App) : Prop :=
  ∀ q, a.sends .checkBackgrouond = some q → ∃ firstName lastName userPhoto,
    q = .socialLogin user.userEmail firstName lastName userPhoto (.ofStored user.loginType) user.socialId

/-- `AppDelegate` and `SceneDelegate` load and save the session. -/
def Reloads (e : AppEvent) : Prop := ∃ now, e = .launch now ∨ e = .connect now

theorem reloads_eq {a : App} (ht : a.trapped = false) {user : UserJson} (h : a.session.Holds user) {e : AppEvent}
    (he : Reloads e) : (a.step e).trapped = false ∧ (a.step e).session = a.session := by
  obtain ⟨now, rfl | rfl⟩ := he
  · exact ⟨rfl, h.refresh now⟩
  · simp only [App.step, ht, Bool.false_eq_true, if_false, true_and]
    exact h.refresh now

/-- Any number of launches leave the session of a user as it is. -/
theorem run_reloads {a : App} (ht : a.trapped = false) {user : UserJson} (h : a.session.Holds user) {es : List AppEvent}
    (hes : ∀ e ∈ es, Reloads e) : (Runs.run step a es).session = a.session := by
  have hinv := Runs.run_invariant (fun b : App => b.trapped = false ∧ b.session = a.session)
    (fun b e hb he => by
      have hkept := reloads_eq hb.1 (hb.2 ▸ h) he
      exact ⟨hkept.1, hkept.2.trans hb.2⟩)
    ⟨ht, rfl⟩ (Runs.allSteps_of_forall step a hes)
  exact hinv.2

/-- What a social login that lands leaves. -/
theorem socialReply_session {a : App} (ht : a.trapped = false) {i n : Nat} {q : Request} (hi : a.requests[i]? = some (n, q))
    (hq : q matches .socialLogin ..) {r : Reply} (hm : r.message = "success") {user : UserJson} {others : List UserJson}
    (hu : r.userInfo = some (user :: others)) (now : Int) :
    (a.step (.reply i (some r) now)).trapped = false ∧
      (a.step (.reply i (some r) now)).session = (a.session.clearUserInfo.setLogout false).adopt now user := by
  cases q with
  | socialLogin =>
    simp [App.step, ht, handled, hi, Request.reply, Request.socialReply, answered, hm, hu]
  | _ => cases hq

/-- **The automatic login of a user of a social network is his own exactly when the stored password is his id there**,
however often the app is launched after the login. -/
theorem resumes_iff_password {a : App} (ht : a.trapped = false) {i n : Nat} {q : Request}
    (hi : a.requests[i]? = some (n, q)) (hq : q matches .socialLogin ..) {r : Reply} (hm : r.message = "success")
    {user : UserJson} {others : List UserJson} (hu : r.userInfo = some (user :: others))
    (hl : user.loginType = 0 ∨ user.loginType = 1 ∨ user.loginType = 2) (now : Int) {es : List AppEvent}
    (hes : ∀ e ∈ es, Reloads e) :
    Resumes user (Runs.run step (a.step (.reply i (some r) now)) es) ↔
      user.id = -1 ∨ a.session.defaults.password.getD "" = user.socialId := by
  obtain ⟨htrap, hsession⟩ := socialReply_session ht hi hq hm hu now
  have hholds := (a.session.clearUserInfo.setLogout false).holds_adopt now user
  rw [← hsession] at hholds
  have hrun := run_reloads htrap hholds hes
  generalize Runs.run step (a.step (.reply i (some r) now)) es = b at hrun
  rw [hsession] at hrun
  have hthis : b.session.thisuser = .ofJson (a.session.defaults.password.getD "") user := by
    rw [hrun, (Session.holds_adopt _ now user).thisuser]
    rfl
  have hlogout : b.session.defaults.logout = some false := by
    rw [hrun]
    rfl
  have htype : LoginType.ofStored user.loginType ≠ .email := by
    rcases hl with h | h | h <;> rw [h] <;> decide
  have hsent : b.sends .checkBackgrouond =
      if user.id = -1 then none
      else some (.socialLogin user.userEmail user.firstName user.lastName user.userPhoto (.ofStored user.loginType)
        (a.session.defaults.password.getD "")) := by
    simp only [sends, checkBackgrouond, hthis, hlogout, UserModel.isValid, UserModel.ofJson, Option.getD_some]
    by_cases hid : user.id = -1 <;> simp [hid, htype]
  rw [Resumes, hsent]
  by_cases hid : user.id = -1
  · simp [hid]
  · simp [hid]

theorem resumes_iff_password_ann :
    Resumes { id := 3, loginType := 1, socialId := "" } (Runs.run step
        ((Runs.run step {} [.launch 0, .socialLogin "" "" "" "" .google ""]).step
          (.reply 0 (some { message := "success", userInfo := some [{ id := 3, loginType := 1, socialId := "" }] }) 0))
        [.launch 1, .connect 1]) ↔ (3 : Int) = -1 ∨ "" = "" :=
  resumes_iff_password (n := 0) (q := .socialLogin "" "" "" "" .google "") rfl rfl rfl rfl rfl (by decide) 0
    (fun e he => by
      rcases List.mem_cons.1 he with rfl | he
      · exact ⟨1, .inl rfl⟩
      · exact ⟨1, .inr (List.mem_singleton.1 he)⟩)

/-- A user who came by his id at Apple, without an e-mail, is logged in again at the next launch with no id at all. -/
theorem apple_id_is_not_resumed :
    ¬ Resumes { id := 3, loginType := 2, socialId := "001.a" } (Runs.run step {}
      [.launch 0, .socialLogin "" "" "" "" .apple "001.a",
        .reply 0 (some { message := "success", userInfo := some [{ id := 3, loginType := 2, socialId := "001.a" }] }) 0,
        .launch 1]) := by
  intro h
  obtain ⟨firstName, lastName, userPhoto, hq⟩ := h (.socialLogin "" "" "" "" .apple "") (by decide)
  simp at hq

end App
end Traveller
