import Mathlib
import Traveller.PathTree
/-!
# ChatRooms — where the chat keeps its nodes

The chat of two users lives at four kinds of node of the shared database: the messages of their room, one entry in each
user's list, one status room per direction and one request node per direction.  Every one of these is named by the two
user ids, written in decimal and joined by an underscore or prefixed with a `u`.

Decimal text has no underscore, so a joined name gives both ids back (`joined_inj`); with it, nodes of different pairs
never meet (`SamePair`).
-/
namespace Traveller

/-- A key of the database: a name the program chose, or one `childByAutoId` made. -/
inductive Key where
  | child (name : String)
  | auto (n : Nat)
  deriving DecidableEq, Repr

abbrev Path := List Key
abbrev Database := PathTree.Tree Key String
abbrev DbWrite := PathTree.Write Key String

def messagePath (room : String) : Path := [.child "message", .child room]

def listPath (user partner : String) : Path := [.child "list", .child user, .child partner]

def statusPath (room : String) : Path := [.child "status", .child room]

def requestPath (user partner : String) : Path := [.child "request", .child user, .child partner]

/-! ## The names -/

/-- `chatroom_id` in `MessageSendVC.setParams`. -/
def setParamsRoom (user partner : Int) : String :=
  if user > partner then toString partner ++ "_" ++ toString user else toString user ++ "_" ++ toString partner

/-- `chatroom_id` in `TripDetailVC.sendBtnClicked`. -/
def sendBtnRoom (me partner : Int) : String :=
  if me > partner then toString partner ++ "_" ++ toString me else toString me ++ "_" ++ toString partner

/-- `chatting_room` in `ChatVC.deleteBtnClicked`. -/
def deleteRoom (me partner : Int) : String :=
  if me > partner then toString partner ++ "_" ++ toString me else toString me ++ "_" ++ toString partner

def mestatusroomID (user partner : Int) : String := toString partner ++ "_" ++ toString user

def partnerstatusroomID (user partner : Int) : String := toString user ++ "_" ++ toString partner

/-- `meListroomId` and `partnerListroomId` in `setParams`, `melist` and `partnerlist` in `deleteBtnClicked`. -/
def listroomId (user : Int) : String := "u" ++ toString user

/-! ## Reading the ids back -/

theorem underscore_notMem_toString (n : Int) : '_' ∉ (toString n).toList := by
  rw [Int.toString_eq_repr, Int.repr_eq_if]
  split
  · rw [Nat.toList_repr]
    exact Nat.underscore_not_in_toDigits
  · rw [String.toList_append, Nat.toList_repr, List.mem_append]
    rintro (h | h)
    · simp at h
    · exact Nat.underscore_not_in_toDigits h

theorem toString_inj {a b : Int} : toString a = toString b ↔ a = b := by
  rw [Int.toString_eq_repr, Int.toString_eq_repr, Int.repr_inj]

/-- **A joined name gives both ids back.** -/
theorem joined_inj {a b c d : Int} :
    toString a ++ "_" ++ toString b = toString c ++ "_" ++ toString d ↔ a = c ∧ b = d := by
  constructor
  · intro h
    have hl : (toString a).toList ++ '_' :: (toString b).toList = (toString c).toList ++ '_' :: (toString d).toList := by
      simpa [String.toList_append] using congrArg String.toList h
    obtain ⟨h1, -, h2⟩ := (List.append_cons_inj_of_notMem (underscore_notMem_toString a)
      (underscore_notMem_toString b)).1 hl
    exact ⟨toString_inj.1 (String.toList_inj.1 h1), toString_inj.1 (String.toList_inj.1 h2)⟩
  · rintro ⟨rfl, rfl⟩
    rfl

theorem listroomId_inj {a b : Int} : listroomId a = listroomId b ↔ a = b := by
  constructor
  · intro h
    have hl : (toString a).toList = (toString b).toList := by
      simpa [listroomId, String.toList_append] using congrArg String.toList h
    exact toString_inj.1 (String.toList_inj.1 hl)
  · rintro rfl
    rfl

/-! ## Pairs -/

def SamePair (a b c d : Int) : Prop := a = c ∧ b = d ∨ a = d ∧ b = c

instance (a b c d : Int) : Decidable (SamePair a b c d) := inferInstanceAs (Decidable (_ ∨ _))

theorem setParamsRoom_eq (a b : Int) : setParamsRoom a b = toString (min a b) ++ "_" ++ toString (max a b) := by
  unfold setParamsRoom
  split
  · rename_i h
    rw [min_eq_right (by omega), max_eq_left (by omega)]
  · rename_i h
    rw [min_eq_left (by omega), max_eq_right (by omega)]

theorem setParamsRoom_comm (a b : Int) : setParamsRoom a b = setParamsRoom b a := by
  rw [setParamsRoom_eq, setParamsRoom_eq, min_comm, max_comm]

theorem sendBtnRoom_eq_setParamsRoom (a b : Int) : sendBtnRoom a b = setParamsRoom a b := rfl

theorem deleteRoom_eq_setParamsRoom (a b : Int) : deleteRoom a b = setParamsRoom a b := rfl

theorem setParamsRoom_inj {a b c d : Int} : setParamsRoom a b = setParamsRoom c d ↔ SamePair a b c d := by
  rw [setParamsRoom_eq, setParamsRoom_eq, joined_inj, SamePair]
  omega

end Traveller
