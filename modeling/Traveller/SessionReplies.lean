import Traveller.SessionApi
/-!
# SessionReplies — what an authentication's reply does, statement by statement

`signin`, `socialLogin`, `signup` and `updateProfile` handle their replies by near-copies of one handler: end the session,
take the first user of `user_info`, save and load it, and complete.  Here each is the list of its statements, so that what
`completion` finds when it is called can be said; `perform_actions` connects it with `Request.reply`.

`answersOnce_iff`: a reply is answered once, and commits all or nothing, exactly when a success comes with a user.  Without
`user_info` nobody is told; with an empty one three of the four trap, and the fourth completes without a user.
-/
namespace Traveller

/-! ## Handlers -/

/-- The statements of a handler. -/
inductive Action where
  | clearUserInfo
  | setPassword (password : String)
  | setLogout (logout : Bool)
  | userModel (user : UserJson)
  | saveUserInfo
  | loadUserInfo
  | completion (success : Bool)
  | trap
  deriving DecidableEq, Repr

/-- A handler under way: the session, and each call of `completion` with the session it was made in. -/
structure Performed where
  session : Session
  trapped : Bool := false
  completions : List (Bool × Session) := []
  deriving DecidableEq, Repr

namespace Performed

def act (now : Int) (p : Performed) (action : Action) : Performed :=
  if p.trapped then p
  else
    match action with
    | .clearUserInfo => { p with session := p.session.clearUserInfo }
    | .setPassword password => { p with session := p.session.setPassword password }
    | .setLogout logout => { p with session := p.session.setLogout logout }
    | .userModel user =>
      { p with session := { p.session with thisuser := .ofJson (p.session.defaults.password.getD "") user } }
    | .saveUserInfo => { p with session := p.session.saveUserInfo now }
    | .loadUserInfo => { p with session := p.session.loadUserInfo now }
    | .completion success => { p with completions := p.completions ++ [(success, p.session)] }
    | .trap => { p with trapped := true }

end Performed

def perform (now : Int) (s : Session) (actions : List Action) : Performed := actions.foldl (Performed.act now) { session := s }

/-- The outer cases of the four: a failure, another message and a success without `user_info`. -/
def handler (r : Option Reply) (success : List UserJson → List Action) : List Action :=
  match r with
  | none => [.completion false]
  | some r =>
    if r.message = "success" then
      match r.userInfo with
      | none => []
      | some users => success users
    else [.completion false]

/-- `UserModel(JSON(user_data.first!))`, saved and loaded. -/
def takeFirst : List UserJson → List Action
  | [] => [.trap]
  | user :: _ => [.userModel user, .saveUserInfo, .loadUserInfo, .completion true]

/-- The calls whose replies begin or renew a session, with the password each stores. -/
inductive AuthCall where
  | signin (password : String)
  | socialLogin
  | signup (password : String)
  | updateProfile
  deriving DecidableEq, Repr

namespace AuthCall

def actions (r : Option Reply) : AuthCall → List Action
  | signin password =>
    handler r fun users => [.clearUserInfo, .setPassword password, .setLogout false] ++ takeFirst users
  | socialLogin =>
    handler r fun users =>
      [.clearUserInfo, .setLogout false] ++
        (match users with
          | [] => []
          | user :: _ => [.userModel user, .saveUserInfo, .loadUserInfo]) ++
        [.completion true]
  | signup password =>
    handler r fun users => [.clearUserInfo, .setPassword password, .setLogout false] ++ takeFirst users
  | updateProfile => handler r fun users => [.clearUserInfo, .setLogout false] ++ takeFirst users

/-- The call a request makes, where it is one of the four. -/
def ofRequest? : Request → Option AuthCall
  | .signin _ password => some (signin password)
  | .socialLogin .. => some socialLogin
  | .signup _ _ _ _ _ _ _ password => some (signup password)
  | .updateProfile .. => some updateProfile
  | _ => none

/-- **The handlers are those of the app**: the same session, the same trap, the same completion. -/
theorem perform_actions {q : Request} {call : AuthCall} (hq : ofRequest? q = some call) (now : Int) (s : Session)
    (r : Option Reply) :
    { session := (perform now s (call.actions r)).session
      trapped := (perform now s (call.actions r)).trapped
      completion := ((perform now s (call.actions r)).completions.head?).map Prod.fst : Handled } = q.reply now s r := by
  cases r with
  | none => cases q <;> cases hq <;> rfl
  | some r =>
    by_cases hm : r.message = "success"
    case neg =>
      cases q <;> cases hq <;>
        simp [actions, handler, hm, perform, Performed.act, Request.reply, Request.signinReply, Request.socialReply,
          Request.updateProfileReply, answered]
    rcases hu : r.userInfo with _ | _ | ⟨user, users⟩
    · cases q <;> cases hq <;>
        simp [actions, handler, hm, hu, perform, Request.reply, Request.signinReply, Request.socialReply,
          Request.updateProfileReply, answered, takeUser]
    · cases q <;> cases hq <;>
        simp [actions, handler, takeFirst, hm, hu, perform, Performed.act, Request.reply, Request.signinReply,
          Request.socialReply, Request.updateProfileReply, answered, takeUser]
    · cases q <;> cases hq <;>
        simp [actions, handler, takeFirst, hm, hu, perform, Performed.act, Request.reply, Request.signinReply,
          Request.socialReply, Request.updateProfileReply, answered, takeUser, Session.adopt]

/-! ## The law -/

/-- **Answered once, all or nothing**: one call of `completion` and no trap; told false, the session is as it was; told true,
the session is already that of the first user of the reply. -/
structure AnswersOnce (s : Session) (r : Option Reply) (p : Performed) : Prop where
  trapped : p.trapped = false
  once : p.completions.length = 1
  failure : ∀ s', (false, s') ∈ p.completions → s' = s ∧ p.session = s
  success : ∀ s', (true, s') ∈ p.completions →
    ∃ r' user users, r = some r' ∧ r'.userInfo = some (user :: users) ∧ s'.Holds user ∧ p.session = s'

/-- A success comes with a user. -/
def Complete (r : Option Reply) : Prop :=
  ∀ r', r = some r' → r'.message = "success" → ∃ user users, r'.userInfo = some (user :: users)

theorem answersOnce_failed {now : Int} {s : Session} {r : Option Reply} {actions : List Action}
    (h : actions = [.completion false]) : AnswersOnce s r (perform now s actions) := by
  subst h
  refine ⟨rfl, rfl, fun s' hs => ?_, fun s' hs => ?_⟩
  · obtain rfl : s' = s := by simpa [perform, Performed.act] using hs
    exact ⟨rfl, rfl⟩
  · simp [perform, Performed.act] at hs

theorem answersOnce_adopted (now : Int) {s : Session} (begun : Session) {r' : Reply} {user : UserJson}
    {users : List UserJson} {p : Performed} (hu : r'.userInfo = some (user :: users))
    (hp : p = { session := begun.adopt now user, completions := [(true, begun.adopt now user)] }) :
    AnswersOnce s (some r') p := by
  subst hp
  refine ⟨rfl, rfl, fun s' hs => ?_, fun s' hs => ?_⟩
  · simp at hs
  · obtain rfl : s' = begun.adopt now user := by simpa using hs
    exact ⟨r', user, users, rfl, hu, begun.holds_adopt now user, rfl⟩

/-- **A reply is answered once and commits all or nothing exactly when a success comes with a user.** -/
theorem answersOnce_iff (call : AuthCall) (now : Int) (s : Session) (r : Option Reply) :
    AnswersOnce s r (perform now s (call.actions r)) ↔ Complete r := by
  constructor
  · rintro h r' rfl hm
    rcases hu : r'.userInfo with _ | _ | ⟨user, users⟩
    · have honce := h.once
      cases call <;> simp [actions, handler, hm, hu, perform] at honce
    · cases call with
      | socialLogin =>
        obtain ⟨r'', user, users, hr, hu', -⟩ :=
          h.success (s.clearUserInfo.setLogout false) (by simp [actions, handler, hm, hu, perform, Performed.act])
        cases hr
        rw [hu] at hu'
        cases hu'
      | _ =>
        have htrap := h.trapped
        simp [actions, handler, takeFirst, hm, hu, perform, Performed.act] at htrap
    · exact ⟨user, users, rfl⟩
  · intro h
    cases r with
    | none => exact answersOnce_failed (by cases call <;> rfl)
    | some r' =>
      by_cases hm : r'.message = "success"
      case neg => exact answersOnce_failed (by cases call <;> simp [actions, handler, hm])
      obtain ⟨user, users, hu⟩ := h r' rfl hm
      cases call with
      | signin password | signup password =>
        refine answersOnce_adopted now ((s.clearUserInfo.setPassword password).setLogout false) hu ?_
        simp [actions, handler, takeFirst, hm, hu, perform, Performed.act, Session.adopt]
      | socialLogin | updateProfile =>
        refine answersOnce_adopted now (s.clearUserInfo.setLogout false) hu ?_
        simp [actions, handler, takeFirst, hm, hu, perform, Performed.act, Session.adopt]

/-- A sign-in is answered with a success and an empty `user_info`: the session is gone, `first!` traps and nobody is told. -/
theorem signin_without_a_user :
    ¬ AnswersOnce { thisuser := { userId := 7 } } (some { message := "success", userInfo := some [] })
      (perform 0 { thisuser := { userId := 7 } }
        ((signin "pw").actions (some { message := "success", userInfo := some [] }))) :=
  fun h => absurd h.trapped (by decide)

end AuthCall
end Traveller
