import Traveller.SessionApi
/-!
# SessionKept — what a launch keeps, and what a logout leaves

A user decoded from the server's JSON has every field, so what is saved of him is loaded again as it was.  A launch stores a
default for every key it does not find, and a second one finds them all (`session_survives`).

Logging out and entering as a guest clear the session and save what is left.  Clearing keeps the stored password and writes
zeros and texts of its own; saving writes every key over again from a user that has nothing, so what there was before shows
nowhere (`leaves_no_trace`).
-/
namespace Traveller

/-! ## Saving and loading -/

namespace Session

/-- **A user the server sent is loaded as he was saved**, whatever was stored and whatever the clock says. -/
theorem loadUserInfo_saveUserInfo (storedPassword : String) (json : UserJson) (defaults : UserDefaults) (now now' : Int) :
    (({ ({ thisuser := .ofJson storedPassword json, defaults := defaults } : Session).saveUserInfo now with
        thisuser := {} } : Session).loadUserInfo now').thisuser = .ofJson storedPassword json := by
  simp only [saveUserInfo, loadUserInfo, UserModel.ofJson, Option.map_some, Option.getD_some, LoginType.ofStored_rawValue]

/-- **A second launch changes nothing**: the first has stored a value for every key. -/
theorem refresh_refresh (s : Session) (now now' : Int) :
    ({ ({ s with thisuser := {} } : Session).refresh now with thisuser := {} } : Session).refresh now' =
      ({ s with thisuser := {} } : Session).refresh now := by
  simp only [refresh, saveUserInfo, loadUserInfo, Option.map_some, Option.getD_some, LoginType.ofStored_rawValue]

end Session

/-- **The session survives persistence.**  Every user decoded from JSON is loaded as he was saved, and from any stored keys the
launch of `AppDelegate` followed by another, or by that of `SceneDelegate`, leaves what the first left. -/
theorem session_survives :
    (∀ (storedPassword : String) (json : UserJson) (defaults : UserDefaults) (now now' : Int),
      (({ ({ thisuser := .ofJson storedPassword json, defaults := defaults } : Session).saveUserInfo now with
          thisuser := {} } : Session).loadUserInfo now').thisuser = .ofJson storedPassword json) ∧
    ∀ (a : App) (now now' : Int),
      ((a.step (.launch now)).step (.launch now')).session = (a.step (.launch now)).session ∧
        ((a.step (.launch now)).step (.connect now')).session = (a.step (.launch now)).session :=
  ⟨Session.loadUserInfo_saveUserInfo,
    fun a now now' => ⟨a.session.refresh_refresh now now', a.session.refresh_refresh now now'⟩⟩

/-! ## What is left after a logout -/

/-- The keys of the account: all but `LOGOUT`. -/
def UserDefaults.account (d : UserDefaults) : UserDefaults := { d with logout := none }

namespace Session

/-- Nobody's name is ever in `username`, which `clearUserInfo` forgets. -/
def Nameless (s : Session) : Prop := s.thisuser.username = none

/-- What clearing and saving leave of a session, key by key. -/
theorem forget_eq (now : Int) (s : Session) :
    s.forget now =
      { thisuser := { username := s.thisuser.username }
        defaults :=
          { userId := some (-1)
            rating := some 0
            birthday := some (now * 1000)
            loginType := some (-1)
            logout := s.defaults.logout } } := rfl

theorem Nameless.launch (s : Session) (now : Int) : (({ s with thisuser := {} } : Session).refresh now).Nameless := rfl

theorem Nameless.adopt (s : Session) (now : Int) (user : UserJson) : (s.adopt now user).Nameless := rfl

variable {s : Session}

theorem Nameless.refresh (h : s.Nameless) (now : Int) : (s.refresh now).Nameless := h

theorem Nameless.forget (h : s.Nameless) (now : Int) : (s.forget now).Nameless := h

end Session

/-- A user taken from a reply has no `username`, and the handlers that take none leave it alone. -/
theorem Request.nameless_reply {s : Session} (h : s.Nameless) (q : Request) (now : Int) (r : Option Reply) :
    (q.reply now s r).session.Nameless := by
  cases r with
  | none => cases q <;> exact h
  | some r =>
    by_cases hm : r.message = "success"
    case neg => cases q <;> simpa [reply, signinReply, socialReply, updateProfileReply, passwordReply, getReviewReply,
      answered, hm] using h
    cases q with
    | signin | signup | updateProfile =>
      simp only [reply, signinReply, updateProfileReply, answered, if_pos hm, takeUser]
      split
      · exact h
      · exact h
      · exact .adopt _ now _
    | socialLogin =>
      simp only [reply, socialReply, answered, if_pos hm]
      split
      · exact h
      · exact h
      · exact .adopt _ now _
    | changePassword | resetPassword | getReview =>
      simp only [reply, passwordReply, getReviewReply, answered, if_pos hm]
      exact Session.Nameless.refresh h now
    | createTravel | updateMyTrips | deleteMyTrips | giveReview | replyReview =>
      simp only [reply, answered, if_pos hm]
      exact h

namespace App

theorem nameless_step {a : App} (h : a.session.Nameless) (e : AppEvent) : (a.step e).session.Nameless := by
  cases ht : a.trapped with
  | true =>
    by_cases he : ∃ now, e = .launch now
    · obtain ⟨now, rfl⟩ := he
      exact .launch _ now
    · rw [step_of_trapped ht fun now hnow => he ⟨now, hnow⟩]
      exact h
  | false =>
    have hkeeps : e.keeps = true → (a.step e).session.Nameless := fun he => by
      rcases a.step_session he with hs | ⟨now, hs⟩ <;> rw [hs]
      · exact h
      · exact .launch _ now
    cases e with
    | loginWithGuest now =>
      rw [step_loginWithGuest ht]
      exact h.forget now
    | logoutBtnClicked now =>
      rw [step_logoutBtnClicked ht]
      exact Session.Nameless.forget h now
    | reply i r now =>
      rcases step_reply ht i r now with ⟨-, hstep⟩ | ⟨n, q, -, hstep, -⟩ <;> rw [hstep]
      · exact h
      · exact q.nameless_reply h now r
    | _ => exact hkeeps rfl

theorem nameless_run (es : List AppEvent) : (Runs.run step ({} : App) es).session.Nameless :=
  Runs.run_invariant (fun a : App => a.session.Nameless) (fun _ e h _ => nameless_step h e) rfl
    (Runs.allSteps_trivial step _ es)

/-- The events that end a session: `logoutBtnClicked` and `loginWithGuest`. -/
def Leaves (now : Int) (e : AppEvent) : Prop := e = .logoutBtnClicked now ∨ e = .loginWithGuest now

/-- **Nothing is left of the account**: the user has nothing, and the keys of the account say so. -/
theorem step_leaves {a : App} (ht : a.trapped = false) (h : a.session.Nameless) {now : Int} {e : AppEvent}
    (he : Leaves now e) :
    (a.step e).session.thisuser = {} ∧
      (a.step e).session.defaults.account =
        { userId := some (-1), rating := some 0, birthday := some (now * 1000), loginType := some (-1) } := by
  have hname : a.session.thisuser.username = none := h
  rcases he with rfl | rfl
  · rw [step_logoutBtnClicked ht, Session.forget_eq, Session.setLogout, hname]
    exact ⟨rfl, rfl⟩
  · rw [step_loginWithGuest ht, Session.forget_eq, hname]
    exact ⟨rfl, rfl⟩

/-- **Logout and guest entry leave no trace of the account**: after any two runs, by either of the two, the user and the keys
of the account are the same. -/
theorem leaves_no_trace (es es' : List AppEvent) (now : Int) (ht : (Runs.run step {} es).trapped = false)
    (ht' : (Runs.run step {} es').trapped = false) {e e' : AppEvent} (he : Leaves now e) (he' : Leaves now e') :
    ((Runs.run step {} es).step e).session.thisuser = ((Runs.run step {} es').step e').session.thisuser ∧
      ((Runs.run step {} es).step e).session.defaults.account =
        ((Runs.run step {} es').step e').session.defaults.account := by
  obtain ⟨huser, hkeys⟩ := step_leaves ht (nameless_run es) he
  obtain ⟨huser', hkeys'⟩ := step_leaves ht' (nameless_run es') he'
  exact ⟨huser.trans huser'.symm, hkeys.trans hkeys'.symm⟩

/-- A user who logged in by e-mail and a user of a social network leave the same. -/
theorem leaves_no_trace_bob :
    ((Runs.run step {} [.launch 0, .loginBtnClicked "bob@x.io" "pw", .reply 0 (some
        { message := "success", userInfo := some [{ id := 7, userEmail := "bob@x.io", loginType := 4 }] }) 1]).step
          (.logoutBtnClicked 5)).session.thisuser =
      ((Runs.run step {} [.launch 0, .socialLogin "" "Ann" "" "" .google "g1", .reply 0 (some
        { message := "success", userInfo := some [{ id := 9, firstName := "Ann", loginType := 1 }] }) 1]).step
          (.logoutBtnClicked 5)).session.thisuser :=
  (leaves_no_trace _ _ 5 (by decide) (by decide) (.inl rfl) (.inl rfl)).1

end App
end Traveller
