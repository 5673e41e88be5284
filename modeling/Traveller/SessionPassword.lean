import Traveller.SessionLogout
/-!
# SessionPassword — whose the stored password is

The password has a key of its own.  `clearUserInfo` leaves it, `UserModel.init(_ json:)` reads it again for whichever user
a reply describes, and the completions of a changed and of a reset password write it over whoever is stored.

`belongs_iff_keepsOwner`: the stored password is empty or the one the server last accepted for the stored e-mail exactly as
long as no reply puts a password and an e-mail together that do not belong together.
-/
namespace Traveller

/-- What the server accepted: the last password of each account, and the account each request was sent from. -/
structure Accepted where
  passwords : String → Option String := fun _ => none
  asked : Nat → String := fun _ => ""

namespace Accepted

def accept (h : Accepted) (email password : String) : Accepted :=
  { h with passwords := fun e => if e = email then some password else h.passwords e }

@[simp] theorem accept_self (h : Accepted) (email password : String) :
    (h.accept email password).passwords email = some password := if_pos rfl

theorem accept_of_ne (h : Accepted) {email e : String} (password : String) (he : e ≠ email) :
    (h.accept email password).passwords e = h.passwords e := if_neg he

/-- Empty, or the last password accepted for the account. -/
def Owns (h : Accepted) (email password : String) : Prop := password = "" ∨ h.passwords email = some password

/-- Another password accepted for the account disowns the old one, and for another account it does not. -/
theorem owns_accept_iff (h : Accepted) {e email p password : String} :
    (h.accept email password).Owns e p ↔ p = "" ∨ if e = email then password = p else h.passwords e = some p := by
  unfold Owns
  by_cases he : e = email
  · subst he
    simp
  · rw [accept_of_ne h password he, if_neg he]

end Accepted

/-- The e-mail of the stored account. -/
def Session.storedEmail (s : Session) : String := s.defaults.userEmail.getD ""

/-- `PARAMS.PASSWORD`, as it is loaded. -/
def Session.storedPassword (s : Session) : String := s.defaults.password.getD ""

/-- The account a login's reply is about: that of the first user, or the one typed where there is none. -/
def Reply.account (r : Reply) (typed : String) : String := (((r.userInfo.getD []).head?).map UserJson.userEmail).getD typed

namespace Request

/-- The account and the password a success accepts; `asked` is the account the request was sent from. -/
def accepts (asked : String) (r : Reply) : Request → Option (String × String)
  | signin userEmail password | signup userEmail _ _ _ _ _ _ password => some (r.account userEmail, password)
  | changePassword _ password => some (asked, password)
  | resetPassword reset => some (reset.email, reset.password)
  | _ => none

end Request

/-- What a success to a request sent from the account `asked` adds. -/
def Accepted.answered (h : Accepted) (asked : String) (q : Request) (r : Reply) : Accepted :=
  match q.accepts asked r with
  | none => h
  | some (email, password) => h.accept email password

/-- A login with a user stores the password and the e-mail at once.  One without `user_info` stores neither, and an empty
one leaves the password with no account. -/
def Accepted.LoginKeeps (h : Accepted) (s : Session) (userEmail password : String) : Option (List UserJson) → Prop
  | none => s.storedPassword = "" ∨ s.storedEmail ≠ userEmail ∨ s.storedPassword = password
  | some [] => password = "" ∨ userEmail = "" ∨ h.passwords "" = some password
  | some (_ :: _) => True

/-- **A success leaves a password with its account.**  A social login and a profile update take the stored password over for
another account, and a new password is stored whatever the account. -/
def Request.KeepsOwner (h : Accepted) (s : Session) (asked : String) (r : Reply) : Request → Prop
  | signin userEmail password | signup userEmail _ _ _ _ _ _ password => h.LoginKeeps s userEmail password r.userInfo
  | socialLogin .. | updateProfile .. =>
    ∀ users, r.userInfo = some users → h.Owns ((users.head?.map UserJson.userEmail).getD "") s.storedPassword
  | changePassword _ password => asked = s.storedEmail ∨ h.Owns s.storedEmail password
  | resetPassword reset => reset.email = s.storedEmail ∨ h.Owns s.storedEmail reset.password
  | _ => True

namespace App

def noteAccepted (h : Accepted) (a : App) : AppEvent → Accepted
  | .changeBtnClicked .. =>
    if a.trapped then h
    else { h with asked := fun n => if n = a.issued then a.session.thisuser.userEmail.getD "" else h.asked n }
  | .reply i r _ =>
    if a.trapped then h
    else
      match a.requests[i]?, r with
      | some (n, q), some r => if r.message = "success" then h.answered (h.asked n) q r else h
      | _, _ => h
  | _ => h

/-- **The password belongs to the stored account**: the stored one and the one in `thisuser` are empty or the last one the
server accepted for the stored e-mail. -/
def Belongs (y : App × Accepted) : Prop :=
  y.2.Owns y.1.session.storedEmail y.1.session.storedPassword ∧
    y.2.Owns y.1.session.storedEmail (y.1.session.thisuser.password.getD "")

/-- Every success of the step leaves a password with its account. -/
def KeepsOwner (y : App × Accepted) : AppEvent → Prop
  | .reply i r _ => y.1.trapped = false → ∀ n q r', y.1.requests[i]? = some (n, q) → r = some r' → r'.message = "success" →
      q.KeepsOwner y.2 y.1.session (y.2.asked n) r'
  | _ => True

end App

/-! ## What a reply does -/

namespace Session
variable (s : Session) (now : Int)

/-- The user's password, if he has one, is the stored one. -/
def Agrees : Prop := s.thisuser.password.getD "" = "" ∨ s.thisuser.password.getD "" = s.storedPassword

@[simp] theorem storedEmail_refresh (u : UserModel) :
    (({ s with thisuser := u } : Session).refresh now).storedEmail = s.storedEmail := rfl

@[simp] theorem storedPassword_refresh (u : UserModel) :
    (({ s with thisuser := u } : Session).refresh now).storedPassword = s.storedPassword := rfl

@[simp] theorem storedEmail_adopt (user : UserJson) : (s.adopt now user).storedEmail = user.userEmail := rfl

@[simp] theorem storedPassword_adopt (user : UserJson) : (s.adopt now user).storedPassword = s.storedPassword := rfl

theorem agrees_refresh : (s.refresh now).Agrees := .inr rfl

theorem agrees_adopt (user : UserJson) : (s.adopt now user).Agrees := .inr rfl

theorem agrees_forget : (s.forget now).Agrees := .inl rfl

end Session

namespace Request
variable {s : Session} {h : Accepted}

theorem reply_of_not_success {q : Request} {r : Option Reply} (hr : ∀ r', r = some r' → r'.message ≠ "success") (now : Int)
    (s : Session) : (q.reply now s r).session = s := by
  refine reply_of_not_lands ?_
  cases r with
  | none => cases q <;> rfl
  | some r' => cases q <;> simp [lands, hr r' rfl]

theorem agrees_reply (hs : s.Agrees) (q : Request) (r : Option Reply) (now : Int) : (q.reply now s r).session.Agrees := by
  by_cases hr : ∀ r', r = some r' → r'.message ≠ "success"
  · rw [reply_of_not_success hr]
    exact hs
  push Not at hr
  obtain ⟨r, rfl, hm⟩ := hr
  cases q with
  | signin userEmail password | signup _ _ _ _ _ _ _ password =>
    simp only [reply, signinReply, answered, if_pos hm, takeUser]
    rcases r.userInfo with _ | _ | ⟨user, users⟩
    · exact hs
    · exact .inl rfl
    · exact Session.agrees_adopt _ now user
  | socialLogin =>
    simp only [reply, socialReply, answered, if_pos hm]
    rcases r.userInfo with _ | _ | ⟨user, users⟩
    · exact hs
    · exact .inl rfl
    · exact Session.agrees_adopt _ now user
  | updateProfile =>
    simp only [reply, updateProfileReply, answered, if_pos hm, takeUser]
    rcases r.userInfo with _ | _ | ⟨user, users⟩
    · exact hs
    · exact .inl rfl
    · exact Session.agrees_adopt _ now user
  | changePassword | resetPassword =>
    rw [reply, passwordReply_session hm]
    exact Session.agrees_refresh _ now
  | getReview =>
    obtain ⟨u, hu⟩ := getReviewReply_session now s hm
    rw [reply, hu]
    exact Session.agrees_refresh _ now
  | createTravel | updateMyTrips | deleteMyTrips | giveReview | replyReview =>
    simp only [reply, answered, if_pos hm]
    exact hs

/-- A login's success: with a user both are stored, without one neither is or the e-mail alone is gone. -/
theorem owns_signin_iff (hs : h.Owns s.storedEmail s.storedPassword) (userEmail password : String) {r : Reply}
    (hm : r.message = "success") (now : Int) :
    (h.accept (r.account userEmail) password).Owns (signinReply now password s (some r)).session.storedEmail
        (signinReply now password s (some r)).session.storedPassword ↔
      h.LoginKeeps s userEmail password r.userInfo := by
  simp only [signinReply, answered, if_pos hm, takeUser, Reply.account]
  rcases r.userInfo with _ | _ | ⟨user, users⟩
  · dsimp only [Option.getD_none, List.head?_nil, Option.map_none]
    rw [Accepted.owns_accept_iff, Accepted.LoginKeeps]
    rcases hs with hs | hs
    · simp [hs]
    · by_cases he : s.storedEmail = userEmail
      · rw [if_pos he]
        simp only [he, ne_eq, not_true, false_or]
        exact or_congr_right eq_comm
      · simp [he, hs]
  · have hemail : ((s.clearUserInfo.setPassword password).setLogout false).storedEmail = "" := rfl
    have hpassword : ((s.clearUserInfo.setPassword password).setLogout false).storedPassword = password := rfl
    dsimp only [Option.getD_some, List.head?_nil, Option.map_none, Option.getD_none]
    rw [hemail, hpassword, Accepted.owns_accept_iff, Accepted.LoginKeeps]
    by_cases he : userEmail = ""
    · simp [he]
    · rw [if_neg (Ne.symm he)]
      simp only [he, false_or]
  · have hpassword : ((s.clearUserInfo.setPassword password).setLogout false).storedPassword = password := rfl
    dsimp only [Option.getD_some, List.head?_cons, Option.map_some]
    rw [Session.storedEmail_adopt, Session.storedPassword_adopt, hpassword, Accepted.owns_accept_iff]
    simp [Accepted.LoginKeeps]

/-- A social login's and a profile update's success: the password stays where another account comes in. -/
theorem owns_taken_iff (hs : h.Owns s.storedEmail s.storedPassword) {s' : Session} {r : Reply}
    (hnone : r.userInfo = none → s' = s)
    (hnil : r.userInfo = some [] → s' = s.clearUserInfo.setLogout false)
    (hcons : ∀ user users, r.userInfo = some (user :: users) → ∃ now, s' = (s.clearUserInfo.setLogout false).adopt now user) :
    h.Owns s'.storedEmail s'.storedPassword ↔
      ∀ users, r.userInfo = some users → h.Owns ((users.head?.map UserJson.userEmail).getD "") s.storedPassword := by
  have hpassword : (s.clearUserInfo.setLogout false).storedPassword = s.storedPassword := rfl
  rcases hu : r.userInfo with _ | _ | ⟨user, users⟩
  · rw [hnone hu]
    simp [hs]
  · have hemail : (s.clearUserInfo.setLogout false).storedEmail = "" := rfl
    rw [hnil hu, hemail, hpassword]
    simp
  · obtain ⟨now, hs'⟩ := hcons user users hu
    rw [hs', Session.storedEmail_adopt, Session.storedPassword_adopt, hpassword]
    simp

/-- A new password's success: it is stored for whoever is. -/
theorem owns_password_iff (email password : String) {r : Reply} (hm : r.message = "success") (now : Int) :
    (h.accept email password).Owns (passwordReply now password s (some r)).session.storedEmail
        (passwordReply now password s (some r)).session.storedPassword ↔
      email = s.storedEmail ∨ h.Owns s.storedEmail password := by
  have hemail : ((s.setPassword password).refresh now).storedEmail = s.storedEmail := rfl
  have hpassword : ((s.setPassword password).refresh now).storedPassword = password := rfl
  rw [passwordReply_session hm, hemail, hpassword, Accepted.owns_accept_iff]
  by_cases he : s.storedEmail = email
  · simp [he]
  · simp [he, Ne.symm he, Accepted.Owns]

/-- **A success leaves the password with its account exactly when it keeps its owner.** -/
theorem owns_reply_iff (hs : h.Owns s.storedEmail s.storedPassword) (q : Request) {r : Reply} (hm : r.message = "success")
    (asked : String) (now : Int) :
    (h.answered asked q r).Owns (q.reply now s (some r)).session.storedEmail (q.reply now s (some r)).session.storedPassword ↔
      q.KeepsOwner h s asked r := by
  cases q with
  | signin userEmail password => exact owns_signin_iff hs userEmail password hm now
  | signup userEmail _ _ _ _ _ _ password => exact owns_signin_iff hs userEmail password hm now
  | socialLogin =>
    refine owns_taken_iff hs (fun hu => ?_) (fun hu => ?_) (fun user users hu => ⟨now, ?_⟩) <;>
      simp [reply, socialReply, answered, hm, hu]
  | updateProfile =>
    refine owns_taken_iff hs (fun hu => ?_) (fun hu => ?_) (fun user users hu => ⟨now, ?_⟩) <;>
      simp [reply, updateProfileReply, answered, hm, hu, takeUser]
  | changePassword _ password => exact owns_password_iff asked password hm now
  | resetPassword reset => exact owns_password_iff reset.email reset.password hm now
  | getReview =>
    obtain ⟨u, hu⟩ := getReviewReply_session now s hm
    rw [reply, hu]
    exact iff_of_true hs trivial
  | createTravel | updateMyTrips | deleteMyTrips | giveReview | replyReview =>
    simp only [reply, answered, if_pos hm]
    exact iff_of_true hs trivial

end Request

/-! ## Runs -/

namespace App

/-- The invariant: what is stored belongs together, and the user's password is what is stored. -/
structure PasswordInv (y : App × Accepted) : Prop where
  owns : y.2.Owns y.1.session.storedEmail y.1.session.storedPassword
  agrees : y.1.session.Agrees

theorem PasswordInv.belongs {y : App × Accepted} (h : PasswordInv y) : Belongs y := by
  refine ⟨h.owns, ?_⟩
  rcases h.agrees with ha | ha
  · exact .inl ha
  · rw [ha]
    exact h.owns

theorem noteAccepted_of_keeps (h : Accepted) (a : App) {e : AppEvent} (he : e.keeps = true) :
    (noteAccepted h a e).passwords = h.passwords := by
  cases e with
  | loginWithGuest | logoutBtnClicked | reply => cases he
  | changeBtnClicked =>
    simp only [noteAccepted]
    split <;> rfl
  | _ => rfl

/-- The step of a reply, with what is noted of it. -/
theorem step_answer {a : App} (ht : a.trapped = false) (h : Accepted) (i : Nat) (r : Option Reply) (now : Int) :
    (Runs.noting step noteAccepted (a, h) (.reply i r now)).1.session = a.session ∧
        noteAccepted h a (.reply i r now) = h ∧
        (∀ n q r', a.requests[i]? = some (n, q) → r = some r' → r'.message ≠ "success") ∨
      ∃ n q r', a.requests[i]? = some (n, q) ∧ r = some r' ∧ r'.message = "success" ∧
        (a.step (.reply i r now)).session = (q.reply now a.session (some r')).session ∧
        noteAccepted h a (.reply i r now) = h.answered (h.asked n) q r' := by
  rcases step_reply ht i r now with ⟨hi, hstep⟩ | ⟨n, q, hi, hstep, -⟩
  · refine .inl ⟨by rw [Runs.noting_fst, hstep], by simp [noteAccepted, ht, hi], fun n q r' hn => ?_⟩
    rw [hi] at hn
    cases hn
  · by_cases hr : ∀ r', r = some r' → r'.message ≠ "success"
    · refine .inl ⟨by rw [Runs.noting_fst, hstep, Request.reply_of_not_success hr], ?_, fun _ _ r' _ => hr r'⟩
      cases r with
      | none => simp [noteAccepted, ht, hi]
      | some r' => simp [noteAccepted, ht, hi, hr r' rfl]
    · push Not at hr
      obtain ⟨r', rfl, hm⟩ := hr
      exact .inr ⟨n, q, r', hi, rfl, hm, hstep, by simp [noteAccepted, ht, hi, hm]⟩

theorem PasswordInv.step {y : App × Accepted} (h : PasswordInv y) {e : AppEvent} (hok : KeepsOwner y e) :
    PasswordInv (Runs.noting step noteAccepted y e) := by
  obtain ⟨a, p⟩ := y
  have howns : p.Owns a.session.storedEmail a.session.storedPassword := h.owns
  have hrest : e.keeps = true → PasswordInv (a.step e, noteAccepted p a e) := by
    intro he
    rcases a.step_session he with hs | ⟨now, hs⟩
    · refine ⟨?_, by simpa only [hs] using h.agrees⟩
      simpa only [hs, Accepted.Owns, noteAccepted_of_keeps p a he] using howns
    · refine ⟨?_, by simpa only [hs] using Session.agrees_refresh _ now⟩
      simpa only [hs, Session.storedEmail_refresh, Session.storedPassword_refresh, Accepted.Owns,
        noteAccepted_of_keeps p a he] using howns
  cases ht : a.trapped with
  | true =>
    by_cases he : ∃ now, e = .launch now
    · obtain ⟨now, rfl⟩ := he
      exact hrest rfl
    · cases e with
      | loginWithGuest | logoutBtnClicked | reply =>
        rw [Runs.noting]
        dsimp only
        rw [step_of_trapped ht fun now hl => he ⟨now, hl⟩]
        simpa [noteAccepted, ht] using h
      | _ => exact hrest rfl
  | false =>
    cases e with
    | loginWithGuest now =>
      rw [Runs.noting]
      refine ⟨.inl ?_, ?_⟩ <;> dsimp only <;> rw [step_loginWithGuest ht]
      · rfl
      · exact Session.agrees_forget _ now
    | logoutBtnClicked now =>
      rw [Runs.noting]
      refine ⟨.inl ?_, ?_⟩ <;> dsimp only <;> rw [step_logoutBtnClicked ht]
      · rfl
      · exact Session.agrees_forget _ now
    | reply i r now =>
      rcases step_answer ht p i r now with ⟨hs, hnote, -⟩ | ⟨n, q, r', hi, rfl, hm, hs, hnote⟩
      · exact ⟨by rw [Runs.noting_snd, hs, hnote]; exact howns, by rw [hs]; exact h.agrees⟩
      · refine ⟨?_, ?_⟩
        · rw [Runs.noting_fst, Runs.noting_snd, hs, hnote]
          exact (Request.owns_reply_iff howns q hm _ now).2 (hok ht n q r' hi rfl hm)
        · rw [Runs.noting_fst, hs]
          exact Request.agrees_reply h.agrees q _ now
    | _ => exact hrest rfl

theorem not_belongs_step {y : App × Accepted} (h : PasswordInv y) {e : AppEvent} (hok : ¬ KeepsOwner y e) :
    ¬ Belongs (Runs.noting step noteAccepted y e) := by
  obtain ⟨a, p⟩ := y
  cases e with
  | reply i r now =>
    simp only [KeepsOwner, not_forall] at hok
    obtain ⟨ht, n, q, r', hi, hr, hm, hq⟩ := hok
    rcases step_answer ht p i r now with ⟨-, -, hno⟩ | ⟨n', q', r'', hi', hr', -, hs, hnote⟩
    · exact absurd hm (hno n q r' hi hr)
    · cases hi.symm.trans hi'
      cases hr.symm.trans hr'
      intro hb
      have howns := hb.1
      rw [Runs.noting_fst, Runs.noting_snd, hs, hnote] at howns
      exact hq ((Request.owns_reply_iff h.owns q hm _ now).1 howns)
  | _ => exact absurd trivial hok

/-- **The stored password belongs to the stored account exactly as long as every success leaves a password with its
account**, in every run from a fresh install. -/
theorem belongs_iff_keepsOwner (es : List AppEvent) :
    Runs.AllStates (Runs.noting step noteAccepted) Belongs ({}, {}) es ↔
      Runs.AllSteps (Runs.noting step noteAccepted) KeepsOwner ({}, {}) es :=
  Runs.allStates_iff_allSteps PasswordInv (fun _ _ h _ hok => h.step hok) (fun _ h => h.belongs)
    (fun _ _ h _ hok => not_belongs_step h hok) ⟨.inl rfl, .inl rfl⟩ (Runs.allSteps_trivial _ _ es)

/-- Bob's automatic login fails, a reset for Ann succeeds on the same phone, and her password is stored with his e-mail. -/
theorem reset_stores_anothers_password :
    ¬ Runs.AllStates (Runs.noting step noteAccepted) Belongs ({}, {})
      [.launch 0, .loginBtnClicked "bob@x.io" "pw",
        .reply 0 (some { message := "success", userInfo := some [{ id := 7, userEmail := "bob@x.io", loginType := 4 }] }) 1,
        .launch 2, .checkBackgrouond, .reply 0 none 3,
        .sendNewPwd { email := "ann@x.io", uivDlg := true } "new" "new", .reply 0 (some { message := "success" }) 4] := by
  intro h
  rcases h.last.1 with h | h
  · exact absurd h (by decide)
  · exact absurd h (by decide)

end App
end Traveller
