import Mathlib.Tactic.Common
/-!
# Users — the user record the screens share

`UserModel` is the program's class: what the server's JSON, the stored session and the chat list build.  `user_id` is
declared optional there but every initialiser sets it, so it is an `Int` here; the other fields keep their optionality,
because a field that is nil disappears from the records the chat writes.
-/
namespace Traveller

/-- `LoginType`, with the raw values the server and the defaults store. -/
inductive LoginType where
  | facebook | google | apple | phone | email
  deriving DecidableEq, Repr

namespace LoginType

def rawValue : LoginType → Int
  | facebook => 0
  | google => 1
  | apple => 2
  | phone => 3
  | email => 4

/-- The chain of comparisons in `UserModel.init(_ json:)` and `loadUserInfo`: anything else is `email`. -/
def ofStored (n : Int) : LoginType :=
  if n = 0 then facebook else if n = 1 then google else if n = 2 then apple else if n = 3 then phone else email

theorem ofStored_rawValue (t : LoginType) : ofStored t.rawValue = t := by cases t <;> rfl

end LoginType

/-- `UserModel`, as `init()` leaves it unless a field is given. -/
structure UserModel where
  userId : Int := -1
  firstName : Option String := none
  lastName : Option String := none
  userPhoto : Option String := none
  userEmail : Option String := none
  password : Option String := none
  rating : Option Rat := none
  birthday : Option Int := none
  phoneNumber : Option String := none
  username : Option String := none
  socailId : Option String := none
  loginType : Option LoginType := none
  deriving DecidableEq, Repr

/-- A user object of the server, field by field as SwiftyJSON's `intValue`, `stringValue` and `floatValue` read it. -/
structure UserJson where
  id : Int
  firstName : String := ""
  lastName : String := ""
  userPhoto : String := ""
  userEmail : String := ""
  rating : Rat := 0
  birthday : Int := 0
  phoneNumber : String := ""
  loginType : Int := 0
  socialId : String := ""
  deriving DecidableEq, Repr

namespace UserModel

def isValid (u : UserModel) : Bool := u.userId ≠ -1

theorem isValid_iff {u : UserModel} : u.isValid = true ↔ u.userId ≠ -1 := by simp [isValid]

/-- `init(_ json:)`; the password is not in the JSON, it is the stored one. -/
def ofJson (storedPassword : String) (json : UserJson) : UserModel where
  userId := json.id
  firstName := some json.firstName
  lastName := some json.lastName
  userPhoto := some json.userPhoto
  userEmail := some json.userEmail
  password := some storedPassword
  rating := some json.rating
  birthday := some json.birthday
  phoneNumber := some json.phoneNumber
  socailId := some json.socialId
  loginType := some (.ofStored json.loginType)

/-- `init(user_id:first_name:last_name:user_photo:user_birthday:)`, the partner a chat is opened with. -/
def ofPartner (userId : Int) (firstName lastName userPhoto : String) (birthday : Int) : UserModel where
  userId := userId
  firstName := some firstName
  lastName := some lastName
  userPhoto := some userPhoto
  birthday := some birthday

end UserModel

/-- A user whose names are there, so that the chat's `first_name!` and `last_name!` do not trap. -/
structure Profile extends UserModel where
  named : toUserModel.firstName.isSome ∧ toUserModel.lastName.isSome

namespace Profile

/-- `first_name! + " " + last_name!`. -/
def fullName (u : Profile) : String := u.firstName.get u.named.1 ++ " " ++ u.lastName.get u.named.2

def ofJson (storedPassword : String) (json : UserJson) : Profile where
  toUserModel := .ofJson storedPassword json
  named := ⟨rfl, rfl⟩

def ofPartner (userId : Int) (firstName lastName userPhoto : String) (birthday : Int) : Profile where
  toUserModel := .ofPartner userId firstName lastName userPhoto birthday
  named := ⟨rfl, rfl⟩

end Profile
end Traveller
