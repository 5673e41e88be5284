import Traveller.Users
/-!
# SessionStore — the session and its stored copy

`thisuser` is the program's one global user, and `UserDefaults` holds a copy of it beside two keys of their own: `PASSWORD`,
which `saveUserInfo` writes but `clearUserInfo` leaves, and `LOGOUT`.
-/
namespace Traveller

/-- The keys of `UserDefaults` the session uses; `none` is a key that is not there. -/
structure UserDefaults where
  userId : Option Int := none
  firstName : Option String := none
  lastName : Option String := none
  userEmail : Option String := none
  userPhoto : Option String := none
  password : Option String := none
  rating : Option Rat := none
  birthday : Option Int := none
  phoneNumber : Option String := none
  loginType : Option Int := none
  socialId : Option String := none
  logout : Option Bool := none
  deriving DecidableEq, Repr

/-- `thisuser` and what is stored. -/
structure Session where
  thisuser : UserModel := {}
  defaults : UserDefaults := {}
  deriving DecidableEq, Repr

namespace Session

/-- `loadUserInfo`, the clock at `now` seconds. -/
def loadUserInfo (now : Int) (s : Session) : Session where
  thisuser :=
    { userId := s.defaults.userId.getD 0
      firstName := some (s.defaults.firstName.getD "")
      lastName := some (s.defaults.lastName.getD "")
      userPhoto := some (s.defaults.userPhoto.getD "")
      userEmail := some (s.defaults.userEmail.getD "")
      password := some (s.defaults.password.getD "")
      rating := some (s.defaults.rating.getD 0)
      birthday := some (s.defaults.birthday.getD (now * 1000))
      phoneNumber := some (s.defaults.phoneNumber.getD "")
      username := s.thisuser.username
      loginType := some (.ofStored (s.defaults.loginType.getD (-1)))
      socailId := some (s.defaults.socialId.getD "") }
  defaults := s.defaults

/-- `saveUserInfo`; `UserDefault.setString` removes the key when it is given nil. -/
def saveUserInfo (now : Int) (s : Session) : Session where
  thisuser := s.thisuser
  defaults :=
    { s.defaults with
      userId := some s.thisuser.userId
      firstName := s.thisuser.firstName
      lastName := s.thisuser.lastName
      userEmail := s.thisuser.userEmail
      userPhoto := s.thisuser.userPhoto
      password := s.thisuser.password
      rating := some (s.thisuser.rating.getD 0)
      birthday := some (s.thisuser.birthday.getD (now * 1000))
      phoneNumber := s.thisuser.phoneNumber
      loginType := some ((s.thisuser.loginType.map LoginType.rawValue).getD (-1))
      socialId := s.thisuser.socailId }

/-- `clearUserInfo`: the stored password stays, and so does `username`. -/
def clearUserInfo (s : Session) : Session where
  thisuser := { username := s.thisuser.username }
  defaults :=
    { s.defaults with
      userId := some (-1)
      firstName := none
      lastName := none
      userEmail := none
      userPhoto := none
      rating := some 0
      birthday := some 0
      phoneNumber := none
      loginType := some (-1)
      socialId := none }

def setPassword (password : String) (s : Session) : Session :=
  { s with defaults := { s.defaults with password := some password } }

def setLogout (logout : Bool) (s : Session) : Session :=
  { s with defaults := { s.defaults with logout := some logout } }

/-- `thisuser = UserModel(JSON(user))`, saved and loaded. -/
def adopt (now : Int) (user : UserJson) (s : Session) : Session :=
  ({ s with thisuser := .ofJson (s.defaults.password.getD "") user }.saveUserInfo now).loadUserInfo now

/-- `loadUserInfo` and `saveUserInfo`, as the launch and the completions of several requests call them. -/
def refresh (now : Int) (s : Session) : Session := (s.loadUserInfo now).saveUserInfo now

/-- `clearUserInfo` and `saveUserInfo`, as logging out and entering as a guest call them. -/
def forget (now : Int) (s : Session) : Session := s.clearUserInfo.saveUserInfo now

section
variable (now : Int) (s : Session)

@[simp] theorem clearUserInfo_logout : s.clearUserInfo.defaults.logout = s.defaults.logout := rfl
@[simp] theorem setPassword_userId (p : String) : (s.setPassword p).defaults.userId = s.defaults.userId := rfl
@[simp] theorem setPassword_password (p : String) : (s.setPassword p).defaults.password = some p := rfl
@[simp] theorem setPassword_logout (p : String) : (s.setPassword p).defaults.logout = s.defaults.logout := rfl
@[simp] theorem setLogout_logout (b : Bool) : (s.setLogout b).defaults.logout = some b := rfl

@[simp] theorem adopt_thisuser_userId (user : UserJson) : (s.adopt now user).thisuser.userId = user.id := rfl
@[simp] theorem adopt_userId (user : UserJson) : (s.adopt now user).defaults.userId = some user.id := rfl
@[simp] theorem adopt_logout (user : UserJson) : (s.adopt now user).defaults.logout = s.defaults.logout := rfl

@[simp] theorem refresh_thisuser_userId : (s.refresh now).thisuser.userId = s.defaults.userId.getD 0 := rfl
@[simp] theorem refresh_userId : (s.refresh now).defaults.userId = some (s.defaults.userId.getD 0) := rfl
@[simp] theorem refresh_password : (s.refresh now).defaults.password = some (s.defaults.password.getD "") := rfl
@[simp] theorem refresh_logout : (s.refresh now).defaults.logout = s.defaults.logout := rfl

@[simp] theorem forget_thisuser_userId : (s.forget now).thisuser.userId = -1 := rfl
@[simp] theorem forget_userId : (s.forget now).defaults.userId = some (-1) := rfl
@[simp] theorem forget_password : (s.forget now).defaults.password = none := rfl
@[simp] theorem forget_logout : (s.forget now).defaults.logout = s.defaults.logout := rfl

end

/-! ## What is stored of the user -/

/-- The stored id is that of the user. -/
def Stored (s : Session) : Prop := s.defaults.userId = some s.thisuser.userId

theorem stored_refresh (s : Session) (now : Int) : (s.refresh now).Stored := rfl

theorem stored_forget (s : Session) (now : Int) : (s.forget now).Stored := rfl

theorem Stored.refresh_userId {s : Session} (h : s.Stored) (now : Int) (u : UserModel) :
    (({ s with thisuser := u } : Session).refresh now).thisuser.userId = s.thisuser.userId := by
  have h : s.defaults.userId = some s.thisuser.userId := h
  simp [h]

/-- **The session is the user's**: `thisuser` is decoded from the record, and saving it would change nothing. -/
structure Holds (s : Session) (user : UserJson) : Prop where
  thisuser : s.thisuser = .ofJson (s.defaults.password.getD "") user
  saved : ∀ now, s.saveUserInfo now = s

theorem holds_adopt (s : Session) (now : Int) (user : UserJson) : (s.adopt now user).Holds user where
  thisuser := by simp [adopt, saveUserInfo, loadUserInfo, UserModel.ofJson, LoginType.ofStored_rawValue]
  saved now' := by simp [adopt, saveUserInfo, loadUserInfo, UserModel.ofJson, LoginType.ofStored_rawValue]

/-- **A session that is the user's survives a launch.** -/
theorem Holds.refresh {s : Session} {user : UserJson} (h : s.Holds user) (now : Int) :
    ({ s with thisuser := {} } : Session).refresh now = s := by
  have hthis : ((s.saveUserInfo now).loadUserInfo now).thisuser = s.thisuser := by
    simp only [saveUserInfo, loadUserInfo, h.thisuser, UserModel.ofJson, Option.map_some, Option.getD_some,
      LoginType.ofStored_rawValue]
  have hload : s.loadUserInfo now = s := by
    rw [h.saved now] at hthis
    calc s.loadUserInfo now = { thisuser := (s.loadUserInfo now).thisuser, defaults := s.defaults } := rfl
      _ = s := by rw [hthis]
  have hname : s.thisuser.username = none := by rw [h.thisuser, UserModel.ofJson]
  calc ({ s with thisuser := {} } : Session).refresh now = (s.loadUserInfo now).saveUserInfo now := by
        simp only [Session.refresh, loadUserInfo, hname]
    _ = s := by rw [hload, h.saved now]

end Session
end Traveller
