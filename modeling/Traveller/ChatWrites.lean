import Traveller.ChatRecords
/-!
# ChatWrites — every operation of the chat, by the nodes it touches

The screens of the chat touch the database through eight operations.  `ChatOp.writes` is what each writes, `ChatOp.reads`
what it reads or listens to; both are at or below the seven nodes of the pair (`pairNodes`), and the nodes of two different
pairs never overlap, so no operation about one pair meets an operation about another.
-/
namespace Traveller

/-! ## The writes beside a send -/

section Writes
variable (me partner : Int)

/-- `setOnlinestatus4me` and `setOfflinestatus4me`, which differ in the word they write. -/
def setStatus4me (online : String) (timeNow : Int) (key : Key) : List DbWrite :=
  [.remove (statusPath (mestatusroomID me partner)),
   .set (statusPath (mestatusroomID me partner) ++ [key]) (Record.ofFields [
     ("online", some online),
     ("sender_id", some (toString me)),
     ("time", some (toString timeNow))])]

def setOnlinestatus4me (timeNow : Int) (key : Key) : List DbWrite := setStatus4me me partner "online" timeNow key

def setOfflinestatus4me (timeNow : Int) (key : Key) : List DbWrite := setStatus4me me partner "offline" timeNow key

def removeNode4me4finish : List DbWrite := [.remove (requestPath (listroomId me) (listroomId partner))]

/-- `ChatVC.deleteBtnClicked`. -/
def deleteBtnClicked : List DbWrite :=
  [.remove (listPath (listroomId me) (listroomId partner)),
   .remove (listPath (listroomId partner) (listroomId me)),
   .remove (messagePath (deleteRoom me partner))]

/-- `ChatVC.declineBtnClicked`. -/
def declineBtnClicked : List DbWrite :=
  [.put (listPath (listroomId me) (listroomId partner) ++ [.child "isBlock"]) "true"]

end Writes

/-- `chatObject` in the edit branch of `MessageSendVC.sendAction`: the text of the field, the time of the message. -/
def editObject (me : Profile) (text timestamp : String) : Record :=
  .ofFields [
    ("message", some text),
    ("image", some ""),
    ("photo", me.userPhoto),
    ("sender_id", some (toString me.userId)),
    ("time", some timestamp),
    ("name", some me.fullName)]

def editWrite (me : Profile) (room : String) (msgId : Key) (text timestamp : String) : DbWrite :=
  .set (messagePath room ++ [msgId]) (editObject me text timestamp)

def removeWrite (room : String) (msgId : Key) : DbWrite := .remove (messagePath room ++ [msgId])

/-! ## The operations -/

/-- What a user does about a partner. -/
inductive ChatOp where
  | setParams (timeNow : Int) (key : Key)
  | viewDidDisappear (timeNow : Int) (key : Key)
  | addTappedLeftBtn (timeNow : Int) (key : Key)
  | send (via : SendVia) (timeNow : Int) (key : Key)
  | edit (msgId : Key) (text timestamp : String)
  | remove (msgId : Key)
  | deleteBtnClicked
  | declineBtnClicked
  deriving DecidableEq, Repr

namespace ChatOp

def writes (me partner : Profile) : ChatOp → List DbWrite
  | setParams timeNow key => setOnlinestatus4me me.userId partner.userId timeNow key
  | viewDidDisappear timeNow key => setOfflinestatus4me me.userId partner.userId timeNow key
  | addTappedLeftBtn timeNow key =>
    setOfflinestatus4me me.userId partner.userId timeNow key ++ removeNode4me4finish me.userId partner.userId
  | send via timeNow key => (via.send me partner timeNow key).writes
  | edit msgId text timestamp => [editWrite me (setParamsRoom me.userId partner.userId) msgId text timestamp]
  | remove msgId => [removeWrite (setParamsRoom me.userId partner.userId) msgId]
  | deleteBtnClicked => Traveller.deleteBtnClicked me.userId partner.userId
  | declineBtnClicked => Traveller.declineBtnClicked me.userId partner.userId

/-- `setParams` starts the message listener, and a send by `MessageSendVC` asks for the partner's status. -/
def reads (me partner : Profile) : ChatOp → List Path
  | setParams _ _ => [messagePath (setParamsRoom me.userId partner.userId)]
  | send (.doSend _ _) _ _ => [statusPath (partnerstatusroomID me.userId partner.userId)]
  | _ => []

def touched (me partner : Profile) (op : ChatOp) : List Path :=
  (op.writes me partner).map PathTree.Write.path ++ op.reads me partner

end ChatOp

/-! ## The nodes of a pair -/

/-- Where the chat of two users lives. -/
def pairNodes (a b : Int) : List Path :=
  [messagePath (setParamsRoom a b),
   listPath (listroomId a) (listroomId b), listPath (listroomId b) (listroomId a),
   statusPath (mestatusroomID a b), statusPath (mestatusroomID b a),
   requestPath (listroomId a) (listroomId b), requestPath (listroomId b) (listroomId a)]

theorem partnerstatusroomID_eq (a b : Int) : partnerstatusroomID a b = mestatusroomID b a := rfl

theorem ChatOp.below_pairNodes {me partner : Profile} {op : ChatOp} {p : Path} (hp : p ∈ op.touched me partner) :
    ∃ n ∈ pairNodes me.userId partner.userId, ∃ r, p = n ++ r := by
  have hself : ∀ n ∈ pairNodes me.userId partner.userId, ∃ n' ∈ pairNodes me.userId partner.userId, ∃ r, n = n' ++ r :=
    fun n hn => ⟨n, hn, [], (List.append_nil n).symm⟩
  simp only [touched, List.mem_append, List.mem_map] at hp
  cases op with
  | setParams timeNow key =>
    simp only [writes, setOnlinestatus4me, setStatus4me, reads, List.mem_cons, List.not_mem_nil, or_false] at hp
    rcases hp with ⟨w, rfl | rfl, rfl⟩ | rfl
    · exact hself _ (by simp [pairNodes])
    · exact ⟨statusPath (mestatusroomID me.userId partner.userId), by simp [pairNodes], [key], rfl⟩
    · exact hself _ (by simp [pairNodes])
  | viewDidDisappear timeNow key =>
    simp only [writes, setOfflinestatus4me, setStatus4me, reads, List.mem_cons, List.not_mem_nil, or_false] at hp
    obtain ⟨w, rfl | rfl, rfl⟩ := hp
    · exact hself _ (by simp [pairNodes])
    · exact ⟨statusPath (mestatusroomID me.userId partner.userId), by simp [pairNodes], [key], rfl⟩
  | addTappedLeftBtn timeNow key =>
    simp only [writes, setOfflinestatus4me, setStatus4me, removeNode4me4finish, reads, List.mem_append, List.mem_cons,
      List.not_mem_nil, or_false] at hp
    obtain ⟨w, (rfl | rfl) | rfl, rfl⟩ := hp
    · exact hself _ (by simp [pairNodes])
    · exact ⟨statusPath (mestatusroomID me.userId partner.userId), by simp [pairNodes], [key], rfl⟩
    · exact hself _ (by simp [pairNodes])
  | send via timeNow key =>
    rcases hp with ⟨w, hw, rfl⟩ | hr
    · simp only [writes, Send.writes, List.mem_cons, List.not_mem_nil, or_false] at hw
      rcases hw with rfl | rfl | rfl
      · exact ⟨messagePath (setParamsRoom me.userId partner.userId), by simp [pairNodes], [key], by simp [Send.path]⟩
      · exact hself _ (by simp [Send.path, pairNodes])
      · exact hself _ (by simp [Send.path, pairNodes])
    · cases via with
      | doSend msgtype attachment =>
        rw [List.mem_singleton.1 hr]
        exact hself _ (by simp [pairNodes, partnerstatusroomID_eq])
      | sendBtnClicked msg => exact absurd hr List.not_mem_nil
  | edit msgId text timestamp =>
    simp only [writes, editWrite, reads, List.mem_singleton, List.not_mem_nil, or_false] at hp
    obtain ⟨w, rfl, rfl⟩ := hp
    exact ⟨messagePath (setParamsRoom me.userId partner.userId), by simp [pairNodes], [msgId], rfl⟩
  | remove msgId =>
    simp only [writes, removeWrite, reads, List.mem_singleton, List.not_mem_nil, or_false] at hp
    obtain ⟨w, rfl, rfl⟩ := hp
    exact ⟨messagePath (setParamsRoom me.userId partner.userId), by simp [pairNodes], [msgId], rfl⟩
  | deleteBtnClicked =>
    simp only [writes, Traveller.deleteBtnClicked, reads, List.mem_cons, List.not_mem_nil, or_false] at hp
    obtain ⟨w, rfl | rfl | rfl, rfl⟩ := hp <;> exact hself _ (by simp [pairNodes, deleteRoom_eq_setParamsRoom])
  | declineBtnClicked =>
    simp only [writes, Traveller.declineBtnClicked, reads, List.mem_singleton, List.not_mem_nil, or_false] at hp
    obtain ⟨w, rfl, rfl⟩ := hp
    exact ⟨listPath (listroomId me.userId) (listroomId partner.userId), by simp [pairNodes], [.child "isBlock"], rfl⟩

/-- **The nodes of two different pairs do not overlap.** -/
theorem not_overlap_pairNodes {a b c d : Int} (h : ¬ SamePair a b c d) {n m : Path} (hn : n ∈ pairNodes a b)
    (hm : m ∈ pairNodes c d) : ¬ PathTree.Overlap n m := by
  simp only [pairNodes, List.mem_cons, List.not_mem_nil, or_false] at hn hm
  rcases hn with rfl | rfl | rfl | rfl | rfl | rfl | rfl <;>
    rcases hm with rfl | rfl | rfl | rfl | rfl | rfl | rfl <;>
      simp only [messagePath, listPath, statusPath, requestPath, PathTree.overlap_cons, PathTree.overlap_nil,
        Key.child.injEq, listroomId_inj, setParamsRoom_inj, mestatusroomID, joined_inj, and_true, true_and,
        String.reduceEq, false_and, not_false_eq_true] <;>
      simp only [SamePair] at h ⊢ <;> omega

/-- **No operation about one pair touches a node that an operation about another pair touches.** -/
theorem ChatOp.not_overlap {a b c d : Profile} (h : ¬ SamePair a.userId b.userId c.userId d.userId) {op op' : ChatOp}
    {p q : Path} (hp : p ∈ op.touched a b) (hq : q ∈ op'.touched c d) : ¬ PathTree.Overlap p q := by
  obtain ⟨n, hn, r, rfl⟩ := below_pairNodes hp
  obtain ⟨m, hm, r', rfl⟩ := below_pairNodes hq
  exact PathTree.not_overlap_below (not_overlap_pairNodes h hn hm) r r'

theorem ChatOp.below_applyAll {a b c d : Profile} (h : ¬ SamePair a.userId b.userId c.userId d.userId) {op op' : ChatOp}
    {q : Path} (hq : q ∈ op'.touched c d) (db : Database) : (db.applyAll (op.writes a b)).below q = db.below q :=
  PathTree.Tree.below_applyAll_of_not_overlap fun _ hw =>
    not_overlap h (List.mem_append_left _ (List.mem_map_of_mem hw)) hq

/-- **Both sides meet in one room, and pairs are isolated.**  The three screens compute one room id, the same on either
device; different pairs have different rooms; and no operation of one pair touches, or changes anything below, a node that
an operation of another pair touches. -/
theorem chat_pairs_are_isolated :
    (∀ a b : Int, sendBtnRoom a b = setParamsRoom a b ∧ deleteRoom a b = setParamsRoom a b ∧
      setParamsRoom b a = setParamsRoom a b) ∧
    (∀ a b c d : Int, setParamsRoom a b = setParamsRoom c d → SamePair a b c d) ∧
    (∀ a b c d : Profile, ¬ SamePair a.userId b.userId c.userId d.userId → ∀ op op' : ChatOp,
      (∀ p ∈ op.touched a b, ∀ q ∈ op'.touched c d, ¬ PathTree.Overlap p q) ∧
      ∀ (db : Database), ∀ q ∈ op'.touched c d, (db.applyAll (op.writes a b)).below q = db.below q) :=
  ⟨fun a b => ⟨sendBtnRoom_eq_setParamsRoom a b, deleteRoom_eq_setParamsRoom a b, setParamsRoom_comm b a⟩,
    fun _ _ _ _ h => setParamsRoom_inj.1 h,
    fun _ _ _ _ h _ _ => ⟨fun _ hp _ hq => ChatOp.not_overlap h hp hq, fun db _ hq => ChatOp.below_applyAll h hq db⟩⟩

/-- Users 1 and 23 do not meet users 12 and 3, though the digits of their ids do. -/
theorem chat_pairs_are_isolated_1_23_12_3 :
    ((PathTree.Tree.empty : Database).applyAll
      (ChatOp.declineBtnClicked.writes (.ofPartner 1 "" "" "" 0) (.ofPartner 23 "" "" "" 0))).below
        (listPath "u12" "u3") = PathTree.Tree.empty.below (listPath "u12" "u3") :=
  (chat_pairs_are_isolated.2.2 (.ofPartner 1 "" "" "" 0) (.ofPartner 23 "" "" "" 0) (.ofPartner 12 "" "" "" 0)
    (.ofPartner 3 "" "" "" 0) (by decide) .declineBtnClicked .deleteBtnClicked).2 .empty _ (by decide)

end Traveller
