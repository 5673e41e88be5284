import Traveller.Runs
import Traveller.SessionApi
/-!
# SessionLogout — logging out, and the replies that undo it

`logoutBtnClicked` sets the flag, clears the user and takes the password out of the store, but the requests under way stay
under way, and their completions write to whatever session there is.  `loggedOut_iff_staysOut`: the session stays logged
out exactly as long as no such reply lands.
-/
namespace Traveller

namespace Request

/-- **The reply changes the session**: a success, with a user where one is expected. -/
def lands (r : Option Reply) : Request → Bool
  | signin .. | signup .. | socialLogin .. | updateProfile .. =>
    r.any fun r => r.message = "success" && r.userInfo.isSome
  | _ => r.any (·.message = "success")

end Request

/-- The owner of a password: a changed one is that of a user id, one typed at a login or a reset that of an e-mail. -/
inductive Account where
  | id (userId : Int)
  | email (userEmail : String)
  deriving DecidableEq, Repr

def Account.Is (u : UserModel) : Account → Prop
  | id userId => u.userId = userId
  | email userEmail => u.userEmail = some userEmail

/-- The account whose password a request stores when it lands. -/
def Request.stores : Request → Option Account
  | signin userEmail _ | signup userEmail _ _ _ _ _ _ _ => some (.email userEmail)
  | changePassword userId _ => some (.id userId)
  | resetPassword reset => some (.email reset.email)
  | _ => none

/-- A logout: the number of the first request after it, and the users logged out since the last login. -/
structure Logout where
  since : Nat
  accounts : List UserModel
  deriving DecidableEq, Repr

/-- What is noted of a run: the logout the session is in, and whose the stored password is. -/
structure Past where
  out : Option Logout := none
  stored : Option Account := none
  deriving DecidableEq, Repr

/-- A login whose request is later than the logout ends it. -/
def Past.landed (h : Past) (n : Nat) (q : Request) : Past where
  out := if q.logsIn && h.out.all (fun o => o.since ≤ n) then none else h.out
  stored := q.stores.or h.stored

/-- **What undoes a logout when it lands**: a login from before it, an updated profile, a new password of the account. -/
def Request.Revives (o : Logout) (n : Nat) : Request → Prop
  | signin .. | signup .. | socialLogin .. => n < o.since
  | updateProfile .. => True
  | changePassword userId password => password ≠ "" ∧ ∃ u ∈ o.accounts, u.userId = userId
  | resetPassword reset => reset.password ≠ "" ∧ ∃ u ∈ o.accounts, u.userEmail = some reset.email
  | _ => False

namespace App

def note (h : Past) (a : App) : AppEvent → Past
  | .logoutBtnClicked _ =>
    if a.trapped then h
    else
      let earlier := (h.out.map Logout.accounts).getD []
      { h with out := some ⟨a.issued, if a.session.thisuser.isValid then a.session.thisuser :: earlier else earlier⟩ }
  | .reply i r _ =>
    if a.trapped then h
    else
      match a.requests[i]? with
      | none => h
      | some (n, q) => if q.lands r then h.landed n q else h
  | _ => h

/-- **Logged out**: no user, the flag set, and no password of an account that was logged out in the store. -/
def LoggedOut (y : App × Past) : Prop :=
  ∀ o, y.2.out = some o → y.1.session.thisuser.isValid = false ∧ y.1.session.defaults.logout = some true ∧
    ∀ account, y.2.stored = some account → (∃ u ∈ o.accounts, account.Is u) → y.1.session.defaults.password.getD "" = ""

/-- **No reply undoes the logout.** -/
def StaysOut (y : App × Past) : AppEvent → Prop
  | .reply i r _ => y.1.trapped = false → ∀ n q o, y.1.requests[i]? = some (n, q) → y.2.out = some o → q.lands r = true →
      ¬ q.Revives o n
  | _ => True

end App

/-! ## What a reply does -/

namespace Request
variable {now : Int} {s : Session} {r : Option Reply} {q : Request}

theorem reply_of_not_lands (h : q.lands r = false) : (q.reply now s r).session = s := by
  cases r with
  | none => cases q <;> rfl
  | some r =>
    by_cases hm : r.message = "success"
    · cases q <;>
        simp_all [lands, reply, signinReply, socialReply, updateProfileReply, answered, takeUser]
    · cases q <;>
        simp [reply, signinReply, socialReply, updateProfileReply, passwordReply, getReviewReply, answered, hm]

theorem message_of_lands (h : q.lands r = true) : ∃ r', r = some r' ∧ r'.message = "success" := by
  cases r with
  | none => cases q <;> cases h
  | some r' => exact ⟨r', rfl, by cases q <;> simp_all [lands]⟩

theorem reply_logout (hq : q.logsIn = true ∨ q matches .updateProfile ..) (h : q.lands r = true) :
    (q.reply now s r).session.defaults.logout = some false := by
  obtain ⟨r, rfl, hm⟩ := message_of_lands h
  obtain ⟨users, hu⟩ : ∃ users, r.userInfo = some users := by
    cases q <;> simp_all [lands, logsIn, Option.isSome_iff_exists]
  cases q <;> cases users <;>
    simp_all [reply, signinReply, socialReply, updateProfileReply, answered, takeUser, logsIn]

theorem passwordReply_session {password : String} {r' : Reply} (hm : r'.message = "success") :
    (passwordReply now password s (some r')).session = (s.setPassword password).refresh now := by
  simp [passwordReply, answered, hm]

theorem getReviewReply_session (now : Int) (s : Session) {r' : Reply} (hm : r'.message = "success") :
    ∃ u, (getReviewReply now s (some r')).session = ({ s with thisuser := u } : Session).refresh now := by
  simp only [getReviewReply, answered, if_pos hm]
  exact ⟨_, rfl⟩

end Request

/-! ## The invariant -/

namespace App

/-- The invariant: logged out, in the store as well. -/
structure Out (s : Session) (o : Logout) (stored : Option Account) : Prop where
  thisuser : s.thisuser.userId = -1
  userId : s.defaults.userId = some (-1)
  logout : s.defaults.logout = some true
  password : ∀ account, stored = some account → (∃ u ∈ o.accounts, account.Is u) → s.defaults.password.getD "" = ""

def Inv (y : App × Past) : Prop := ∀ o, y.2.out = some o → Out y.1.session o y.2.stored

theorem Inv.loggedOut {y : App × Past} (h : Inv y) : LoggedOut y := fun o ho =>
  ⟨by simp [UserModel.isValid, (h o ho).thisuser], (h o ho).logout, (h o ho).password⟩

theorem Out.refresh {s : Session} {o : Logout} {stored : Option Account} (h : Out s o stored) (now : Int) (u : UserModel) :
    Out (({ s with thisuser := u } : Session).refresh now) o stored where
  thisuser := by simp [h.userId]
  userId := by simp [h.userId]
  logout := h.logout
  password account ha hu := by simpa using h.password account ha hu

theorem out_forget {s : Session} (hs : s.defaults.logout = some true) (now : Int) (o : Logout) (stored : Option Account) :
    Out (s.forget now) o stored where
  thisuser := rfl
  userId := rfl
  logout := hs
  password _ _ _ := rfl

theorem Out.setPassword {s : Session} {o : Logout} {stored : Option Account} (h : Out s o stored) {account : Account}
    {password : String} (hp : password ≠ "" → ∀ u ∈ o.accounts, ¬ account.Is u) (now : Int) :
    Out ((s.setPassword password).refresh now) o (some account) where
  thisuser := by simp [h.userId]
  userId := by simp [h.userId]
  logout := h.logout
  password account' ha hu := by
    obtain rfl := Option.some.inj ha
    obtain ⟨u, hu, his⟩ := hu
    have : password = "" := by
      by_contra hne
      exact hp hne u hu his
    simp [this]

theorem out_landed {s : Session} {h : Past} {o : Logout} {n : Nat} {q : Request} {r : Option Reply} (now : Int)
    (hout : h.out = some o) (hinv : Out s o h.stored) (hl : q.lands r = true) (hok : ¬ q.Revives o n) {o' : Logout}
    (ho' : (h.landed n q).out = some o') : Out (q.reply now s r).session o' (h.landed n q).stored := by
  obtain ⟨r, rfl, hm⟩ := Request.message_of_lands hl
  have hlog : q.logsIn = false := by
    by_contra hlog
    have hsince : o.since ≤ n := by
      cases q <;> simp_all [Request.logsIn, Request.Revives]
    simp [Past.landed, hout, hsince, hlog] at ho'
  obtain rfl : o = o' := by simpa [Past.landed, hlog, hout] using ho'
  cases q with
  | signin | signup | socialLogin => cases hlog
  | updateProfile => exact absurd trivial hok
  | changePassword userId password =>
    have hp : password ≠ "" → ∀ u ∈ o.accounts, ¬ (Account.id userId).Is u :=
      fun hne u hu his => hok ⟨hne, u, hu, his⟩
    rw [Request.reply, Request.passwordReply_session hm]
    exact hinv.setPassword hp now
  | resetPassword reset =>
    have hp : reset.password ≠ "" → ∀ u ∈ o.accounts, ¬ (Account.email reset.email).Is u :=
      fun hne u hu his => hok ⟨hne, u, hu, his⟩
    rw [Request.reply, Request.passwordReply_session hm]
    exact hinv.setPassword hp now
  | getReview ownerId =>
    obtain ⟨u, hu⟩ := Request.getReviewReply_session now s hm
    rw [Request.reply, hu]
    exact hinv.refresh now u
  | createTravel | updateMyTrips | deleteMyTrips | giveReview | replyReview =>
    simp only [Request.reply, answered, if_pos hm]
    exact hinv

/-! ## Steps -/

theorem note_of_keeps (h : Past) (a : App) {e : AppEvent} (he : e.keeps = true) : note h a e = h := by
  cases e with
  | loginWithGuest | logoutBtnClicked | reply => cases he
  | _ => rfl

theorem note_reply {a : App} (ht : a.trapped = false) {i n : Nat} {q : Request} (hi : a.requests[i]? = some (n, q))
    (h : Past) (r : Option Reply) (now : Int) :
    note h a (.reply i r now) = if q.lands r then h.landed n q else h := by
  simp [note, ht, hi]

theorem inv_step {y : App × Past} {e : AppEvent} (h : Inv y) (hok : StaysOut y e) : Inv (Runs.noting step note y e) := by
  obtain ⟨a, p⟩ := y
  intro o ho
  rw [Runs.noting_snd] at ho ⊢
  rw [Runs.noting_fst]
  have hrest : e.keeps = true → Out (a.step e).session o (note p a e).stored := by
    intro he
    rw [note_of_keeps p a he] at ho ⊢
    rcases a.step_session he with hs | ⟨now, hs⟩ <;> rw [hs]
    · exact h o ho
    · exact (h o ho).refresh now {}
  cases ht : a.trapped with
  | true =>
    by_cases he : ∃ now, e = .launch now
    · obtain ⟨now, rfl⟩ := he
      exact hrest rfl
    · have hnote : note p a e = p := by cases e <;> simp [note, ht]
      rw [hnote] at ho ⊢
      rw [step_of_trapped ht fun now hl => he ⟨now, hl⟩]
      exact h o ho
  | false =>
    cases e with
    | loginWithGuest now =>
      rw [step_loginWithGuest ht]
      exact out_forget (h o ho).logout now o _
    | logoutBtnClicked now =>
      rw [step_logoutBtnClicked ht]
      exact out_forget rfl now o _
    | reply i r now =>
      rcases step_reply ht i r now with ⟨hi, hstep⟩ | ⟨n, q, hi, hstep, -⟩
      · have hnote : note p a (.reply i r now) = p := by simp [note, ht, hi]
        rw [hnote] at ho ⊢
        rw [hstep]
        exact h o ho
      · rw [note_reply ht hi] at ho ⊢
        rw [hstep]
        cases hl : q.lands r with
        | false =>
          simp only [hl] at ho ⊢
          rw [Request.reply_of_not_lands hl]
          exact h o ho
        | true =>
          simp only [hl, if_true] at ho ⊢
          obtain ⟨o', ho'⟩ : ∃ o', p.out = some o' := by
            cases hp : p.out with
            | none => simp [Past.landed, hp] at ho
            | some o' => exact ⟨o', rfl⟩
          exact out_landed now ho' (h o' ho') hl (hok ht n q o' hi ho' hl) ho
    | _ => exact hrest rfl

/-- A reply that undoes the logout leaves the flag, or a password of the account. -/
theorem not_loggedOut_step {y : App × Past} {e : AppEvent} (hok : ¬ StaysOut y e) :
    ¬ LoggedOut (Runs.noting step note y e) := by
  obtain ⟨a, p⟩ := y
  cases e with
  | reply i r now =>
    simp only [StaysOut, not_forall, Classical.not_not] at hok
    obtain ⟨ht, n, q, o, hi, ho, hl, hrev⟩ := hok
    obtain ⟨r', rfl, hm⟩ := Request.message_of_lands hl
    intro h
    rcases step_reply ht i (some r') now with ⟨hnone, -⟩ | ⟨n', q', hi', hstep, -⟩
    · rw [hi] at hnone
      cases hnone
    · cases hi.symm.trans hi'
      have hout : (p.landed n q).out = some o := by
        cases q <;> simp_all [Past.landed, Request.logsIn, Request.Revives]
      have hnote : note p a (.reply i (some r') now) = p.landed n q := by rw [note_reply ht hi, if_pos hl]
      obtain ⟨-, hlogout, hpassword⟩ := h o (by rw [Runs.noting_snd, hnote]; exact hout)
      simp only [Runs.noting_fst, Runs.noting_snd, hstep, hnote] at hlogout hpassword
      cases q with
      | signin | signup | socialLogin | updateProfile =>
        rw [Request.reply_logout (by simp [Request.logsIn]) hl] at hlogout
        cases hlogout
      | changePassword userId password =>
        obtain ⟨hne, u, hu, his⟩ := hrev
        have hp := hpassword (.id userId) rfl ⟨u, hu, his⟩
        rw [Request.reply, Request.passwordReply_session hm] at hp
        exact hne (by simpa using hp)
      | resetPassword reset =>
        obtain ⟨hne, u, hu, his⟩ := hrev
        have hp := hpassword (.email reset.email) rfl ⟨u, hu, his⟩
        rw [Request.reply, Request.passwordReply_session hm] at hp
        exact hne (by simpa using hp)
      | _ => exact hrev
  | _ => exact absurd trivial hok

/-- **Logging out lasts exactly as long as no reply undoes it**, from any store the app is started on. -/
theorem loggedOut_iff_staysOut (a : App) (es : List AppEvent) :
    Runs.AllStates (Runs.noting step note) LoggedOut (a, {}) es ↔ Runs.AllSteps (Runs.noting step note) StaysOut (a, {}) es :=
  Runs.allStates_iff_allSteps Inv (fun _ _ h _ hok => inv_step h hok) (fun _ h => h.loggedOut)
    (fun _ _ _ _ hok => not_loggedOut_step hok) (fun _ ho => by cases ho) (Runs.allSteps_trivial _ _ es)

/-- The reply to a profile update that was sent before the logout logs the user in again. -/
theorem late_profile_logs_in_again :
    ¬ Runs.AllStates (Runs.noting step note) LoggedOut ({}, {})
      [.launch 0, .loginBtnClicked "bob@x.io" "pw",
        .reply 0 (some { message := "success", userInfo := some [{ id := 7, userEmail := "bob@x.io", loginType := 4 }] }) 1,
        .updateBtnClicked "" "Bob" "Ray" "bob@x.io" "01/02/1990" 0, .logoutBtnClicked 2,
        .reply 0 (some { message := "success", userInfo := some [{ id := 7, userEmail := "bob@x.io", loginType := 4 }] }) 3] := by
  intro h
  exact absurd (h.last _ rfl).1 (by decide)

end App
end Traveller
