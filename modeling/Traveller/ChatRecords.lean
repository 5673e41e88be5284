import Traveller.ChatRooms
import Traveller.Users
/-!
# ChatRecords — what the chat writes, and how it is read back

A send makes three writes, one after the other: the message in the room, the entry of the partner in the sender's list and
the entry of the sender in the partner's list.  Two screens build the three records by hand (`MessageSendVC.doSend`,
`TripDetailVC.sendBtnClicked`), and two parsers read them (`parseMsg`, `parseUserList`).

A record is a Swift dictionary of strings: a field that is assigned nil is not in it, and `parseUserList` drops an entry
that misses one of seven fields.  `NumberFormatter().number(from:)` and the clock text of `getStrDateshort` are the
system's and stay parameters.
-/
namespace Traveller

abbrev Record := List (Key × String)

namespace Record

/-- A dictionary built by assignments: a field assigned nil is not there. -/
def ofFields (fields : List (String × Option String)) : Record :=
  fields.filterMap fun f => f.2.map fun v => (.child f.1, v)

/-- `snapshot[name] as? String`. -/
def field (r : Record) (name : String) : Option String := r.lookup (.child name)

@[simp] theorem field_ofFields_nil (name : String) : (ofFields []).field name = none := rfl

@[simp] theorem field_ofFields_cons (n : String) (v : Option String) (fs : List (String × Option String)) (name : String) :
    (ofFields ((n, v) :: fs)).field name =
      if name = n then v.or ((ofFields fs).field name) else (ofFields fs).field name := by
  cases v with
  | none => simp [ofFields, field]
  | some v =>
    by_cases h : name = n
    · simp [ofFields, field, h]
    · have hk : (Key.child name == Key.child n) = false := by simpa using h
      simp [ofFields, field, List.lookup_cons, hk, h]

end Record

/-! ## The two senders -/

inductive MsgType where
  | text | gif | image
  deriving DecidableEq, Repr

/-- The three writes of a send, and the ids and the key that say where they go. -/
structure Send where
  me : Int
  partner : Int
  room : String
  key : Key
  chatObject : Record
  listObject : Record
  listObject1 : Record
  deriving DecidableEq, Repr

/-- The write a send is at: `sendMessage`, then `sendListUpdate` for the own list, then for the partner's. -/
inductive Stage where
  | message | meList | partnerList
  deriving DecidableEq, Repr

def Stage.next : Stage → Option Stage
  | message => some meList
  | meList => some partnerList
  | partnerList => none

namespace Send

/-- The node the write of a stage replaces. -/
def path (s : Send) : Stage → Path
  | .message => messagePath s.room ++ [s.key]
  | .meList => listPath (listroomId s.me) (listroomId s.partner)
  | .partnerList => listPath (listroomId s.partner) (listroomId s.me)

def record (s : Send) : Stage → Record
  | .message => s.chatObject
  | .meList => s.listObject
  | .partnerList => s.listObject1

/-- `FirebaseAPI.sendMessage` and the two calls of `FirebaseAPI.sendListUpdate`. -/
def write (s : Send) (stage : Stage) : DbWrite := .set (s.path stage) (s.record stage)

@[simp] theorem write_path (s : Send) (stage : Stage) : (s.write stage).path = s.path stage := rfl

def writes (s : Send) : List DbWrite := [s.write .message, s.write .meList, s.write .partnerList]

end Send

/-- `listObject["message"]`, the text shown in the chat list. -/
def preview (msgtype : MsgType) (attachment : String) : String :=
  match msgtype with
  | .text => attachment
  | .image => "Sent image"
  | .gif => "Sent gif"

/-- The send `MessageSendVC.doSend` starts once it has the lock. -/
def MessageSendVC.send (me partner : Profile) (msgtype : MsgType) (attachment : String) (timeNow : Int) (key : Key) :
    Send where
  me := me.userId
  partner := partner.userId
  room := setParamsRoom me.userId partner.userId
  key := key
  chatObject := .ofFields [
    ("message", some (if msgtype = .text then attachment else "")),
    ("image", some (if msgtype = .image ∨ msgtype = .gif then attachment else "")),
    ("photo", me.userPhoto),
    ("sender_id", some (toString me.userId)),
    ("time", some (toString timeNow)),
    ("name", some me.fullName)]
  listObject := .ofFields [
    ("id", some (toString partner.userId)),
    ("message", some (preview msgtype attachment)),
    ("sender_id", some (toString partner.userId)),
    ("sender_first_name", partner.firstName),
    ("sender_last_name", partner.lastName),
    ("sender_photo", partner.userPhoto),
    ("sender_birthday", some (toString (partner.birthday.getD 0))),
    ("time", some (toString timeNow))]
  listObject1 := .ofFields [
    ("id", some (toString me.userId)),
    ("message", some (preview msgtype attachment)),
    ("sender_id", some (toString me.userId)),
    ("sender_first_name", me.firstName),
    ("sender_last_name", me.lastName),
    ("sender_photo", me.userPhoto),
    ("sender_birthday", some (toString (me.birthday.getD 0))),
    ("time", some (toString timeNow))]

/-- The send of `TripDetailVC.sendBtnClicked`; its list entries have no `sender_id`. -/
def TripDetailVC.send (me partner : Profile) (msg : String) (timeNow : Int) (key : Key) : Send where
  me := me.userId
  partner := partner.userId
  room := sendBtnRoom me.userId partner.userId
  key := key
  chatObject := .ofFields [
    ("message", some msg),
    ("photo", me.userPhoto),
    ("sender_id", some (toString me.userId)),
    ("time", some (toString timeNow)),
    ("name", some me.fullName),
    ("image", some "")]
  listObject := .ofFields [
    ("id", some (toString partner.userId)),
    ("message", some msg),
    ("sender_first_name", partner.firstName),
    ("sender_last_name", partner.lastName),
    ("sender_photo", partner.userPhoto),
    ("sender_birthday", some (toString (partner.birthday.getD 0))),
    ("time", some (toString timeNow))]
  listObject1 := .ofFields [
    ("id", some (toString me.userId)),
    ("message", some msg),
    ("sender_first_name", me.firstName),
    ("sender_last_name", me.lastName),
    ("sender_birthday", some (toString (me.birthday.getD 0))),
    ("sender_photo", me.userPhoto),
    ("time", some (toString timeNow))]

/-- The texts `TripDetailVC.sendBtnClicked` sends: not the placeholders. -/
def TripDetailVC.accepts (msg : String) : Bool :=
  msg ≠ "" && msg ≠ "Write a message to traveler to start chatting" &&
    msg ≠ "Напешите путешествнееику и начните с ними переписку"

/-- A send by either screen, and what the user gave it. -/
inductive SendVia where
  | doSend (msgtype : MsgType) (attachment : String)
  | sendBtnClicked (msg : String)
  deriving DecidableEq, Repr

namespace SendVia

def send (me partner : Profile) (timeNow : Int) (key : Key) : SendVia → Send
  | doSend msgtype attachment => MessageSendVC.send me partner msgtype attachment timeNow key
  | sendBtnClicked msg => TripDetailVC.send me partner msg timeNow key

def content : SendVia → String
  | doSend .text attachment => attachment
  | doSend _ _ => ""
  | sendBtnClicked msg => msg

/-- The address of the image the sender attached; a text has none. -/
def image : SendVia → String
  | doSend .text _ => ""
  | doSend _ attachment => attachment
  | sendBtnClicked _ => ""

def preview : SendVia → String
  | doSend msgtype attachment => Traveller.preview msgtype attachment
  | sendBtnClicked msg => msg

end SendVia

/-! ## The two parsers -/

/-- `ChatModel`, a message on the screen. -/
structure ChatModel where
  msgId : Key
  me : Bool := true
  timestamp : String := ""
  msgContent : String := ""
  image : String := ""
  photo : String := ""
  name : String := ""
  senderId : String := ""
  deriving DecidableEq, Repr

/-- `FirebaseAPI.parseMsg`, on the device of the user `user_id`. -/
def parseMsg (userId : Int) (key : Key) (snapshot : Record) : ChatModel where
  msgId := key
  image := (snapshot.field "image").getD ""
  msgContent := (snapshot.field "message").getD ""
  name := (snapshot.field "name").getD ""
  photo := (snapshot.field "photo").getD ""
  senderId := (snapshot.field "sender_id").getD ""
  me := toString userId = (snapshot.field "sender_id").getD ""
  timestamp := (snapshot.field "time").getD ""

/-- `AllChatModel`, a row of the chat list. -/
structure AllChatModel where
  id : Int
  firstName : String
  lastName : String
  userAvatar : String
  msgTime : String
  content : String
  birthday : Int
  deriving DecidableEq, Repr

section Parse
variable (number : String → Option Int) (getStrDateshort : String → String)

/-- `FirebaseAPI.parseUserList`: nothing is read unless all seven fields are there. -/
def parseUserList (snapshot : Record) : Option AllChatModel := do
  let id ← snapshot.field "id"
  let firstName ← snapshot.field "sender_first_name"
  let lastName ← snapshot.field "sender_last_name"
  let senderPhoto ← snapshot.field "sender_photo"
  let msgtime ← snapshot.field "time"
  let content ← snapshot.field "message"
  let birthday ← snapshot.field "sender_birthday"
  return {
    id := (number id).getD 0
    firstName := firstName
    lastName := lastName
    userAvatar := senderPhoto
    msgTime := getStrDateshort msgtime
    content := content
    birthday := (number birthday).getD 0 }

end Parse

/-- The partner `ChatVC.collectionView(_:didSelectItemAt:)` opens the chat with. -/
def didSelectItemAt (row : AllChatModel) : Profile :=
  .ofPartner row.id row.firstName row.lastName row.userAvatar row.birthday

/-! ## What is stored

Each of the three writes goes to a node of its own, so the later ones leave the earlier ones as written. -/

theorem not_overlap_messagePath_listPath (room user partner : String) (p : Path) :
    ¬ PathTree.Overlap (messagePath room ++ p) (listPath user partner) := by
  simp [messagePath, listPath, PathTree.overlap_cons]

theorem overlap_listPath {user partner user' partner' : String} :
    PathTree.Overlap (listPath user partner) (listPath user' partner') ↔ user = user' ∧ partner = partner' := by
  simp [listPath, PathTree.overlap_cons]

namespace Send

/-- Only the first write of a send is to a room. -/
theorem not_overlap_room {s : Send} {stage : Stage} (hstage : stage ≠ .message) (room : String) :
    ¬ PathTree.Overlap (s.path stage) (messagePath room) := by
  have h := fun user partner => not_overlap_messagePath_listPath room user partner []
  simp only [List.append_nil] at h
  cases stage with
  | message => exact absurd rfl hstage
  | meList => exact fun ho => h _ _ ho.symm
  | partnerList => exact fun ho => h _ _ ho.symm

theorem record_message (s : Send) (db : Database) :
    ((db.applyAll s.writes).below (messagePath s.room ++ [s.key])).record = s.chatObject := by
  rw [writes, PathTree.Tree.applyAll_cons, PathTree.Tree.below_applyAll_of_not_overlap]
  · exact PathTree.Tree.record_below_set _ _ _
  · intro w hw
    simp only [List.mem_cons, List.not_mem_nil, or_false] at hw
    rcases hw with rfl | rfl <;> exact fun h => not_overlap_messagePath_listPath _ _ _ _ h.symm

theorem record_meList {s : Send} (hne : s.me ≠ s.partner) (db : Database) :
    ((db.applyAll s.writes).below (listPath (listroomId s.me) (listroomId s.partner))).record = s.listObject := by
  rw [writes, PathTree.Tree.applyAll_cons, PathTree.Tree.applyAll_cons, PathTree.Tree.below_applyAll_of_not_overlap]
  · exact PathTree.Tree.record_below_set _ _ _
  · intro w hw h
    rw [List.mem_singleton.1 hw] at h
    exact hne (listroomId_inj.1 (overlap_listPath.1 h).2)

theorem record_partnerList (s : Send) (db : Database) :
    ((db.applyAll s.writes).below (listPath (listroomId s.partner) (listroomId s.me))).record = s.listObject1 :=
  PathTree.Tree.record_below_set _ _ _

end Send

/-! ## What is read back -/

@[simp] theorem SendVia.send_me (via : SendVia) (me partner : Profile) (timeNow : Int) (key : Key) :
    (via.send me partner timeNow key).me = me.userId := by cases via <;> rfl

@[simp] theorem SendVia.send_partner (via : SendVia) (me partner : Profile) (timeNow : Int) (key : Key) :
    (via.send me partner timeNow key).partner = partner.userId := by cases via <;> rfl

@[simp] theorem SendVia.send_key (via : SendVia) (me partner : Profile) (timeNow : Int) (key : Key) :
    (via.send me partner timeNow key).key = key := by cases via <;> rfl

@[simp] theorem SendVia.send_room (via : SendVia) (me partner : Profile) (timeNow : Int) (key : Key) :
    (via.send me partner timeNow key).room = setParamsRoom me.userId partner.userId := by cases via <;> rfl

/-- **A message reads back as it was sent**, on any device; it is the reader's own exactly on the sender's. -/
theorem parseMsg_chatObject (via : SendVia) (me partner : Profile) (timeNow : Int) (key : Key) (device : Int) :
    parseMsg device key (via.send me partner timeNow key).chatObject =
      { msgId := key
        me := device = me.userId
        timestamp := toString timeNow
        msgContent := via.content
        image := via.image
        photo := me.userPhoto.getD ""
        name := me.fullName
        senderId := toString me.userId } := by
  cases via with
  | doSend msgtype attachment =>
    cases msgtype <;>
      simp [parseMsg, SendVia.send, MessageSendVC.send, SendVia.content, SendVia.image]
  | sendBtnClicked msg =>
    simp [parseMsg, SendVia.send, TripDetailVC.send, SendVia.content, SendVia.image]

section Lists
variable (number : String → Option Int) (getStrDateshort : String → String)
  (hnumber : ∀ n : Int, number (toString n) = some n)

include hnumber in
theorem parseUserList_listObject (via : SendVia) (me : Profile) (storedPassword : String) (json : UserJson)
    (timeNow : Int) (key : Key) :
    parseUserList number getStrDateshort (via.send me (.ofJson storedPassword json) timeNow key).listObject =
      some { id := json.id, firstName := json.firstName, lastName := json.lastName, userAvatar := json.userPhoto
             msgTime := getStrDateshort (toString timeNow), content := via.preview, birthday := json.birthday } := by
  have hrepr (n : Int) : number n.repr = some n := hnumber n
  cases via <;>
    simp [parseUserList, SendVia.send, MessageSendVC.send, TripDetailVC.send, SendVia.preview, Profile.ofJson,
      UserModel.ofJson, hrepr]

include hnumber in
theorem parseUserList_listObject1 (via : SendVia) (partner : Profile) (storedPassword : String) (json : UserJson)
    (timeNow : Int) (key : Key) :
    parseUserList number getStrDateshort (via.send (.ofJson storedPassword json) partner timeNow key).listObject1 =
      some { id := json.id, firstName := json.firstName, lastName := json.lastName, userAvatar := json.userPhoto
             msgTime := getStrDateshort (toString timeNow), content := via.preview, birthday := json.birthday } := by
  have hrepr (n : Int) : number n.repr = some n := hnumber n
  cases via <;>
    simp [parseUserList, SendVia.send, MessageSendVC.send, TripDetailVC.send, SendVia.preview, Profile.ofJson,
      UserModel.ofJson, hrepr]

/-- **Writers and readers agree.**  Once the three writes of a send of `a` to `b` are stored, the message reads back as it
was sent on both devices and as the reader's own on `a`'s only, each list entry shows the other user and the preview, and
the chat opened from either entry is in the room the message was written to. -/
theorem written_records_read_back (hnumber : ∀ n : Int, number (toString n) = some n)
    (storedPassword : String) (ja jb : UserJson) (hne : ja.id ≠ jb.id) (via : SendVia) (timeNow : Int) (key : Key)
    (db : Database) :
    let a := Profile.ofJson storedPassword ja
    let b := Profile.ofJson storedPassword jb
    let s := via.send a b timeNow key
    let db' := db.applyAll s.writes
    let stored := (db'.below (messagePath s.room ++ [key])).record
    let listA := (db'.below (listPath (listroomId ja.id) (listroomId jb.id))).record
    let listB := (db'.below (listPath (listroomId jb.id) (listroomId ja.id))).record
    let row (j : UserJson) : AllChatModel :=
      { id := j.id, firstName := j.firstName, lastName := j.lastName, userAvatar := j.userPhoto
        msgTime := getStrDateshort (toString timeNow), content := via.preview, birthday := j.birthday }
    (∀ device : Int, parseMsg device key stored =
      { msgId := key, me := device = ja.id, timestamp := toString timeNow, msgContent := via.content
        image := via.image, photo := ja.userPhoto, name := ja.firstName ++ " " ++ ja.lastName
        senderId := toString ja.id }) ∧
    parseUserList number getStrDateshort listB = some (row ja) ∧
    parseUserList number getStrDateshort listA = some (row jb) ∧
    setParamsRoom jb.id (didSelectItemAt (row ja)).userId = s.room ∧
    setParamsRoom ja.id (didSelectItemAt (row jb)).userId = s.room := by
  intro a b s db' stored listA listB row
  have hme : s.me = ja.id := SendVia.send_me ..
  have hpartner : s.partner = jb.id := SendVia.send_partner ..
  have hkey : s.key = key := SendVia.send_key ..
  have hroom : s.room = setParamsRoom ja.id jb.id := SendVia.send_room ..
  have hstored : stored = s.chatObject := by
    rw [← Send.record_message s db, hkey]
  have hlistA : listA = s.listObject := by
    rw [← Send.record_meList (by rwa [hme, hpartner]) db, hme, hpartner]
  have hlistB : listB = s.listObject1 := by
    rw [← Send.record_partnerList s db, hme, hpartner]
  refine ⟨fun device => ?_, ?_, ?_, ?_, hroom.symm⟩
  · rw [hstored]
    exact parseMsg_chatObject via a b timeNow key device
  · rw [hlistB]
    exact parseUserList_listObject1 number getStrDateshort hnumber via b storedPassword ja timeNow key
  · rw [hlistA]
    exact parseUserList_listObject number getStrDateshort hnumber via a storedPassword jb timeNow key
  · rw [hroom]
    exact setParamsRoom_comm jb.id ja.id

/-- The rule at two users, with `String.toInt?` for the number formatter. -/
theorem written_records_read_back_7_9 :
    let via := SendVia.doSend .text "hi"
    let s := via.send (.ofJson "" { id := 9, firstName := "Ann" }) (.ofJson "" { id := 7 }) 5000 (.auto 0)
    parseUserList String.toInt? id
        (((PathTree.Tree.empty : Database).applyAll s.writes).below (listPath "u7" "u9")).record =
      some { id := 9, firstName := "Ann", lastName := "", userAvatar := "", msgTime := "5000", content := "hi"
             birthday := 0 } :=
  (written_records_read_back String.toInt? id (fun n => Int.toInt?_repr n) ""
    { id := 9, firstName := "Ann" } { id := 7 } (by decide) (.doSend .text "hi") 5000 (.auto 0) .empty).2.1

end Lists

end Traveller
