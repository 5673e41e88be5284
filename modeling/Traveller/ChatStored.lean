import Traveller.ChatSends
/-!
# ChatStored — what a chat record looks like

Any number of users, each with his chat screens and the sends of his trip screen, write to the rooms.  Three writers build a
chat record: `doSend`, `sendBtnClicked` and the edit branch of `sendAction`.  The first two refuse an empty text, the edit
does not look at the field.

`stored_iff_noEmptyEdit`: every record in every room is well formed, at any time, in exactly the runs in which no edit to an
empty text succeeds.
-/
namespace Traveller

/-- A chat screen of a user with a partner. -/
structure OpenChat where
  me : Profile
  partner : Profile
  vc : MessageSendVC := {}

/-- The database and all that writes to its rooms: chat screens, gone ones included, and sends from the trip screen. -/
structure Devices where
  fb : Firebase := {}
  chats : List OpenChat := []
  trips : List Flight := []

/-- What happens, on anybody's device.  The users are decoded from the server's JSON; a partner is anybody. -/
inductive DeviceEvent where
  | didSelectItemAt (storedPassword : String) (me : UserJson) (partner : Profile)
  | screen (i : Nat) (e : ScreenEvent)
  | childAdded (i : Nat) (key : Key)
  | sendBtnClicked (storedPassword : String) (me : UserJson) (partner : Profile) (msg : String) (now : Int)
  | tripSettle (i : Nat) (ok : Bool)

/-- Where a message of two users is. -/
def roomNode (a b : Int) (key : Key) : Path := messagePath (setParamsRoom a b) ++ [key]

namespace Devices

/-- The writes of a user that are outstanding. -/
def outstanding (y : Devices) (user : Int) : List DbWrite :=
  (y.chats.filter (·.me.userId = user)).flatMap (fun c => c.vc.outstanding.map Pending.dbWrite) ++
    (y.trips.filter (·.send.me = user)).map Flight.write

/-- The database as a user's device sees it. -/
def view (y : Devices) (user : Int) : Database := y.fb.db.applyAll (y.outstanding user)

def put (y : Devices) (i : Nat) (c : OpenChat) (x : Screen) : Devices :=
  { y with fb := x.1, chats := y.chats.set i { c with vc := x.2 } }

/-- One step.  A listener is told what its device sees in the room. -/
def step (y : Devices) : DeviceEvent → Devices
  | .didSelectItemAt storedPassword me partner => { y with chats := y.chats ++ [{ me := .ofJson storedPassword me, partner }] }
  | .screen _ (.childAdded _ _) => y
  | .screen i e =>
    match y.chats[i]? with
    | none => y
    | some c => y.put i c (MessageSendVC.step c.me c.partner (y.fb, c.vc) e)
  | .childAdded i key =>
    match y.chats[i]? with
    | none => y
    | some c =>
      let snapshot := (y.view c.me.userId).below (roomNode c.me.userId c.partner.userId key)
      if snapshot.leaves = [] then y
      else y.put i c (MessageSendVC.step c.me c.partner (y.fb, c.vc) (.childAdded key snapshot.record))
  | .sendBtnClicked storedPassword me partner msg now =>
    if !(Profile.ofJson storedPassword me).isValid || !TripDetailVC.accepts msg then y
    else
      { y with
        fb := { y.fb with nextKey := y.fb.nextKey + 1 }
        trips := y.trips ++
          [{ send := TripDetailVC.send (.ofJson storedPassword me) partner msg (now * 1000) (.auto y.fb.nextKey) }] }
  | .tripSettle i ok =>
    match y.trips[i]? with
    | none => y
    | some f =>
      { y with
        fb := if ok then y.fb.apply f.write else y.fb
        trips := y.trips.eraseIdx i ++ if ok then f.next.toList else [] }

end Devices

/-! ## The records -/

def chatKeys : List Key := ["message", "image", "photo", "sender_id", "time", "name"].map .child

/-- **A well-formed chat record** of the room of two users. -/
structure WellFormed (a b : Int) (r : Record) : Prop where
  keys : (r.map Prod.fst).Perm chatKeys
  sender : r.field "sender_id" = some (toString a) ∨ r.field "sender_id" = some (toString b)
  time : ∃ t : Int, r.field "time" = some (toString t)
  content : (∃ text, text ≠ "" ∧ r.field "message" = some text ∧ r.field "image" = some "") ∨
    ∃ url, url ≠ "" ∧ r.field "message" = some "" ∧ r.field "image" = some url

/-- What is stored in the rooms are records that meet `P`, and nothing below them. -/
def Rooms (P : Int → Int → Record → Prop) (db : Database) : Prop :=
  ∀ a b key, (db.below (roomNode a b key)).leaves ≠ [] →
    ∃ r, db.below (roomNode a b key) = PathTree.Tree.ofRecord r ∧ P a b r

/-- A record with a decimal time. -/
def Timed (_ _ : Int) (r : Record) : Prop := ∃ t : Int, r.field "time" = some (toString t)

/-- A property of the records of a room does not depend on which of its two users is named first. -/
def OfRoom (P : Int → Int → Record → Prop) : Prop := ∀ a b c d r, SamePair a b c d → P c d r → P a b r

theorem WellFormed.ofRoom : OfRoom WellFormed := by
  rintro a b c d r (⟨rfl, rfl⟩ | ⟨rfl, rfl⟩) h
  · exact h
  · exact ⟨h.keys, h.sender.symm, h.time, h.content⟩

theorem timed_ofRoom : OfRoom Timed := fun _ _ _ _ _ _ h => h

/-- What a write does to the rooms: nothing, or a record that meets `P` is written or a message removed. -/
inductive RoomWrite (P : Int → Int → Record → Prop) : DbWrite → Prop where
  | elsewhere {w : DbWrite} (h : ∀ room, ¬ PathTree.Overlap w.path (messagePath room)) : RoomWrite P w
  | record (a b : Int) (key : Key) (r : Record) (h : P a b r) : RoomWrite P (.set (roomNode a b key) r)
  | remove (a b : Int) (key : Key) : RoomWrite P (.remove (roomNode a b key))

section Rooms
variable {P : Int → Int → Record → Prop} {db : Database} {w : DbWrite}

theorem roomNode_cases (a b c d : Int) (key key' : Key) :
    (SamePair a b c d ∧ roomNode a b key = roomNode c d key') ∨
      ¬ PathTree.Overlap (roomNode c d key') (roomNode a b key) := by
  by_cases h : SamePair a b c d ∧ key = key'
  · obtain ⟨hpair, rfl⟩ := h
    exact .inl ⟨hpair, by rw [roomNode, setParamsRoom_inj.2 hpair, roomNode]⟩
  · refine .inr fun ho => h ?_
    simp only [roomNode, messagePath, List.cons_append, List.nil_append, PathTree.overlap_cons, true_and] at ho
    exact ⟨setParamsRoom_inj.1 (Key.child.inj ho.1).symm, ho.2.1.symm⟩

theorem Rooms.apply (hP : OfRoom P) (h : Rooms P db) (hw : RoomWrite P w) : Rooms P (db.apply w) := by
  intro a b key hpresent
  have hkeep : (db.apply w).below (roomNode a b key) = db.below (roomNode a b key) →
      ∃ r, (db.apply w).below (roomNode a b key) = PathTree.Tree.ofRecord r ∧ P a b r := fun hsame => by
    rw [hsame] at hpresent ⊢
    exact h a b key hpresent
  cases hw with
  | elsewhere hw => exact hkeep (PathTree.Tree.below_apply_of_not_overlap (PathTree.not_overlap_append (hw _) _))
  | record c d key' r hr =>
    rcases roomNode_cases a b c d key key' with ⟨hpair, hnode⟩ | hother
    · rw [hnode]
      exact ⟨r, PathTree.Tree.below_set _ _ _, hP a b c d r hpair hr⟩
    · exact hkeep (PathTree.Tree.below_apply_of_not_overlap hother)
  | remove c d key' =>
    rcases roomNode_cases a b c d key key' with ⟨-, hnode⟩ | hother
    · rw [hnode, PathTree.Tree.below_remove] at hpresent
      exact absurd rfl hpresent
    · exact hkeep (PathTree.Tree.below_apply_of_not_overlap hother)

theorem Rooms.applyAll (hP : OfRoom P) {ws : List DbWrite} : ∀ {db : Database}, Rooms P db → (∀ w ∈ ws, RoomWrite P w) →
    Rooms P (db.applyAll ws) := by
  induction ws with
  | nil => exact fun h _ => h
  | cons w ws ih =>
    intro db h hws
    exact ih (h.apply hP (hws w List.mem_cons_self)) fun w' hw' => hws w' (List.mem_cons_of_mem w hw')

theorem Rooms.mono {Q : Int → Int → Record → Prop} (h : Rooms P db) (hPQ : ∀ a b r, P a b r → Q a b r) : Rooms Q db := by
  intro a b key hpresent
  obtain ⟨r, hr, hp⟩ := h a b key hpresent
  exact ⟨r, hr, hPQ a b r hp⟩

theorem RoomWrite.mono {Q : Int → Int → Record → Prop} (h : RoomWrite P w) (hPQ : ∀ a b r, P a b r → Q a b r) :
    RoomWrite Q w := by
  cases h with
  | elsewhere h => exact .elsewhere h
  | record a b key r h => exact .record a b key r (hPQ a b r h)
  | remove a b key => exact .remove a b key

end Rooms

/-! ## The three writers -/

section Writers
variable {me partner : Profile}

/-- A send has something to say. -/
def SendVia.Filled (via : SendVia) : Prop := via.content ≠ "" ∨ via.image ≠ ""

/-- **What a send writes is well formed** if it has something to say and the sender a photo. -/
theorem wellFormed_chatObject {photo : String} (hphoto : me.userPhoto = some photo) {via : SendVia} (hfilled : via.Filled)
    (partner : Profile) (timeNow : Int) (key : Key) :
    WellFormed me.userId partner.userId (via.send me partner timeNow key).chatObject := by
  cases via with
  | doSend msgtype attachment =>
    refine ⟨?_, .inl ?_, ⟨timeNow, ?_⟩, ?_⟩
    · simp [SendVia.send, MessageSendVC.send, Record.ofFields, hphoto, chatKeys]
    · simp [SendVia.send, MessageSendVC.send]
    · simp [SendVia.send, MessageSendVC.send]
    · cases msgtype with
      | text =>
        refine .inl ⟨attachment, ?_, ?_, ?_⟩
        · simpa [SendVia.Filled, SendVia.content, SendVia.image] using hfilled
        · simp [SendVia.send, MessageSendVC.send]
        · simp [SendVia.send, MessageSendVC.send]
      | _ =>
        refine .inr ⟨attachment, ?_, ?_, ?_⟩
        · simpa [SendVia.Filled, SendVia.content, SendVia.image] using hfilled
        · simp [SendVia.send, MessageSendVC.send]
        · simp [SendVia.send, MessageSendVC.send]
  | sendBtnClicked msg =>
    refine ⟨?_, .inl ?_, ⟨timeNow, ?_⟩, .inl ⟨msg, ?_, ?_, ?_⟩⟩
    · simp only [SendVia.send, TripDetailVC.send, Record.ofFields, hphoto, List.filterMap_cons, Option.map_some,
        List.filterMap_nil, List.map_cons, List.map_nil, chatKeys]
      decide
    · simp [SendVia.send, TripDetailVC.send]
    · simp [SendVia.send, TripDetailVC.send]
    · simpa [SendVia.Filled, SendVia.content, SendVia.image] using hfilled
    · simp [SendVia.send, TripDetailVC.send]
    · simp [SendVia.send, TripDetailVC.send]

/-- **What an edit writes is well formed** exactly when the text is not empty. -/
theorem wellFormed_editObject {photo : String} (hphoto : me.userPhoto = some photo) (text : String) (b t : Int) :
    WellFormed me.userId b (editObject me text (toString t)) ↔ text ≠ "" := by
  constructor
  · rintro ⟨-, -, -, h⟩ rfl
    simp [editObject] at h
  · intro htext
    refine ⟨?_, .inl ?_, ⟨t, ?_⟩, .inl ⟨text, htext, ?_, ?_⟩⟩
    · simp [editObject, Record.ofFields, hphoto, chatKeys]
    · simp [editObject]
    · simp [editObject]
    · simp [editObject]
    · simp [editObject]

end Writers

/-! ## What is outstanding -/

/-- An edit to an empty text. -/
def EmptyEdit (w : DbWrite) : Prop := ∃ me room msgId timestamp, w = editWrite me room msgId "" timestamp

theorem EmptyEdit.text {me : Profile} {room : String} {msgId : Key} {text timestamp : String}
    (h : EmptyEdit (editWrite me room msgId text timestamp)) : text = "" := by
  obtain ⟨me', room', msgId', timestamp', h⟩ := h
  have hfield := congrArg (Record.field · "message") (PathTree.Write.set.inj h).2
  simpa [editObject] using hfield

/-- The writes nobody waits for: elsewhere, the removal of a message, or an edit by a user with a photo. -/
inductive PlainWrite : DbWrite → Prop where
  | elsewhere {w : DbWrite} (h : ∀ room, ¬ PathTree.Overlap w.path (messagePath room)) : PlainWrite w
  | remove (a b : Int) (key : Key) : PlainWrite (removeWrite (setParamsRoom a b) key)
  | edit (me : Profile) (photo : String) (hphoto : me.userPhoto = some photo) (b : Int) (key : Key) (text : String)
      (t : Int) : PlainWrite (editWrite me (setParamsRoom me.userId b) key text (toString t))

/-- A send by a user with a photo, with something to say. -/
def SendOk (s : Send) : Prop :=
  ∃ (me partner : Profile) (via : SendVia) (timeNow : Int) (key : Key) (photo : String),
    me.userPhoto = some photo ∧ via.Filled ∧ s = via.send me partner timeNow key

def PendingOk : Pending → Prop
  | .write w => PlainWrite w
  | .send f => SendOk f.send

theorem SendOk.roomWrite {f : Flight} (h : SendOk f.send) : RoomWrite WellFormed f.write := by
  obtain ⟨me, partner, via, timeNow, key, photo, hphoto, hfilled, hsend⟩ := h
  rw [Flight.write, Send.write]
  by_cases hstage : f.stage = .message
  · rw [hstage, Send.path, Send.record, hsend, SendVia.send_room, SendVia.send_key]
    exact .record _ _ key _ (wellFormed_chatObject hphoto hfilled partner timeNow key)
  · exact .elsewhere fun room => Send.not_overlap_room hstage room

theorem PlainWrite.timed {w : DbWrite} (h : PlainWrite w) : RoomWrite Timed w := by
  cases h with
  | elsewhere h => exact .elsewhere h
  | remove a b key => exact .remove a b key
  | edit me photo hphoto b key text t => exact .record me.userId b key _ ⟨t, by simp [editObject]⟩

theorem PlainWrite.wellFormed {w : DbWrite} (h : PlainWrite w) (hne : ¬ EmptyEdit w) : RoomWrite WellFormed w := by
  cases h with
  | elsewhere h => exact .elsewhere h
  | remove a b key => exact .remove a b key
  | edit me photo hphoto b key text t =>
    refine .record me.userId b key _ ((wellFormed_editObject hphoto text b t).2 ?_)
    rintro rfl
    exact hne ⟨me, _, key, _, rfl⟩

theorem WellFormed.timed {a b : Int} {r : Record} (h : WellFormed a b r) : Timed a b r := h.time

theorem PendingOk.timed {p : Pending} (h : PendingOk p) : RoomWrite Timed p.dbWrite := by
  cases p with
  | write w => exact PlainWrite.timed h
  | send f => exact (SendOk.roomWrite h).mono fun _ _ _ => WellFormed.timed

/-! ## A screen -/

namespace MessageSendVC

section Screen
variable (me partner : Profile)

theorem doSend_outstanding (online : Bool) (msgtype : MsgType) (attachment : String) (now : Int) (fb : Firebase)
    (s : MessageSendVC) :
    (doSend me partner online msgtype attachment now fb s).2.outstanding = s.outstanding ∨
      ¬ (msgtype = .text ∧ attachment = "") ∧ (doSend me partner online msgtype attachment now fb s).2.outstanding =
        s.outstanding ++ [.send { send := send me partner msgtype attachment (now * 1000) (.auto fb.nextKey) }] := by
  unfold doSend
  split
  · exact .inl rfl
  · split
    · exact .inl rfl
    · split
      · exact .inl rfl
      · rename_i hsend
        exact .inr ⟨hsend, rfl⟩

/-- **What an answer issues has something to say**, where no image without an address was attached. -/
theorem answer_filled {x : Screen} (hb : x.2.isBlock = "false") (hurl : ∀ url, x.2.downloadURL = some url → url ≠ "")
    {photo : String} (hphoto : me.userPhoto = some photo) (i : Nat) (snapshot : List String) (now : Int) :
    (statusReply me partner i snapshot now x.1 x.2).2.outstanding = x.2.outstanding ∨
      ∃ f, SendOk f.send ∧
        (statusReply me partner i snapshot now x.1 x.2).2.outstanding = x.2.outstanding ++ [.send f] := by
  have hdoSend : ∀ (msgtype : MsgType) (attachment : String) (s : MessageSendVC),
      (msgtype ≠ .text → attachment ≠ "") → s.outstanding = x.2.outstanding →
      (doSend me partner false msgtype attachment now x.1 s).2.outstanding = x.2.outstanding ∨
        ∃ f, SendOk f.send ∧
          (doSend me partner false msgtype attachment now x.1 s).2.outstanding = x.2.outstanding ++ [.send f] := by
    intro msgtype attachment s hattachment ho
    rcases doSend_outstanding me partner false msgtype attachment now x.1 s with h | ⟨hsend, h⟩
    · exact .inl (h.trans ho)
    · refine .inr ⟨_, ⟨me, partner, .doSend msgtype attachment, now * 1000, _, photo, hphoto, ?_, rfl⟩, h.trans (by rw [ho])⟩
      cases msgtype with
      | text => exact .inl fun h => hsend ⟨rfl, h⟩
      | _ => exact .inr (hattachment (by decide))
  cases hq : x.2.statusQueries[i]? with
  | none =>
    left
    simp only [statusReply, hq]
  | some msgtype =>
    rw [statusReply_eq me partner (by rw [hb]; decide) hq]
    cases msgtype with
    | text => exact hdoSend .text _ _ (fun h => absurd rfl h) rfl
    | _ =>
      simp only [statusCompletion]
      cases hdown : x.2.downloadURL with
      | none => exact .inl rfl
      | some url => exact hdoSend .image url _ (fun _ => hurl url hdown) rfl

/-- Only an upload changes the image that is attached. -/
theorem step_downloadURL {x : Screen} {e : ScreenEvent} (he : ∀ url, e ≠ .uploaded url) :
    (step me partner x e).2.downloadURL = x.2.downloadURL := by
  by_cases hreply : ∃ i snapshot now, e = .statusReply i snapshot now
  · obtain ⟨i, snapshot, now, rfl⟩ := hreply
    rw [step]
    split
    · exact (statusReply_samePost me partner i snapshot now x.1 x.2).downloadURL
    · rfl
  · obtain ⟨new, h⟩ := step_samePost me partner (fun i snapshot now h => hreply ⟨i, snapshot, now, h⟩) he
    exact h.downloadURL

end Screen
end MessageSendVC

/-- The invariant of a screen: what it waits for is in order, the rows have decimal times. -/
structure ScreenOk (c : OpenChat) : Prop where
  photo : ∃ photo, c.me.userPhoto = some photo
  isBlock : c.vc.isBlock = "false"
  url : ∀ url, c.vc.downloadURL = some url → url ≠ ""
  rows : ∀ row ∈ c.vc.msgdataSource, ∃ t : Int, row.timestamp = toString t
  pending : ∀ p ∈ c.vc.outstanding, PendingOk p

namespace ScreenOk
variable {c : OpenChat} {fb : Firebase} {e : ScreenEvent}

theorem step_url (h : ScreenOk c) (hurl : ∀ url, e = .uploaded url → url ≠ "") :
    ∀ url, (MessageSendVC.step c.me c.partner (fb, c.vc) e).2.downloadURL = some url → url ≠ "" := by
  by_cases he : ∃ url, e = .uploaded url
  · obtain ⟨url, rfl⟩ := he
    intro url' hurl'
    rw [MessageSendVC.step] at hurl'
    split at hurl'
    · obtain rfl := Option.some.inj hurl'
      exact hurl _ rfl
    · exact h.url url' hurl'
  · rw [MessageSendVC.step_downloadURL c.me c.partner (x := (fb, c.vc)) fun url hu => he ⟨url, hu⟩]
    exact h.url

theorem step_rows (h : ScreenOk c) (he : MessageSendVC.ofSends e = false) (ht : c.vc.takes e = true)
    (hadded : ∀ key snapshot, e ≠ .childAdded key snapshot) :
    ∀ row ∈ (MessageSendVC.step c.me c.partner (fb, c.vc) e).2.msgdataSource, ∃ t : Int, row.timestamp = toString t := by
  by_cases hopen : ∃ now, e = .viewWillAppear now
  · obtain ⟨now, rfl⟩ := hopen
    rw [MessageSendVC.step, if_pos ht]
    exact fun row hrow => absurd hrow List.not_mem_nil
  intro row hrow
  cases MessageSendVC.listMove c.me c.partner (x := (fb, c.vc)) he (fun now hn => hopen ⟨now, hn⟩) hadded ht with
  | kept hrows hws =>
    rw [hrows] at hrow
    exact h.rows row hrow
  | edited entry hsend hedit hentry hrows hws =>
    rw [hrows] at hrow
    rcases List.mem_or_eq_of_mem_set hrow with hrow | rfl
    · exact h.rows row hrow
    · exact h.rows entry (List.mem_of_getElem? hentry)
  | removed i entry hentry hrows hws =>
    rw [hrows] at hrow
    exact h.rows row (List.mem_of_mem_eraseIdx hrow)

theorem issued (h : ScreenOk c) : ∀ w ∈ MessageSendVC.issued c.me c.partner (fb, c.vc) e, PlainWrite w := by
  obtain ⟨photo, hphoto⟩ := h.photo
  intro w hw
  rcases MessageSendVC.issued_room hw with hroom | ⟨entry, -, -, hentry, rfl⟩ | ⟨entry, -, -, rfl⟩
  · exact .elsewhere hroom
  · obtain ⟨t, ht⟩ := h.rows entry (List.mem_of_getElem? hentry)
    rw [ht]
    exact .edit c.me photo hphoto _ _ _ t
  · exact .remove _ _ _

theorem step_quiet (h : ScreenOk c) (he : MessageSendVC.ofSends e = false) (ht : c.vc.takes e = true)
    (hadded : ∀ key snapshot, e ≠ .childAdded key snapshot) (hurl : ∀ url, e = .uploaded url → url ≠ "") :
    ScreenOk { c with vc := (MessageSendVC.step c.me c.partner (fb, c.vc) e).2 } := by
  have hq := MessageSendVC.step_quiet c.me c.partner (x := (fb, c.vc)) he ht
  refine ⟨h.photo, hq.isBlock.trans h.isBlock, h.step_url hurl, h.step_rows he ht hadded, fun p hp => ?_⟩
  rw [hq.outstanding] at hp
  rcases List.mem_append.1 hp with hp | hp
  · exact h.pending p hp
  · obtain ⟨w, hw, rfl⟩ := List.mem_map.1 hp
    exact h.issued w hw

/-- The sends of a screen leave its list alone. -/
theorem step_sends (h : ScreenOk c) (he : MessageSendVC.ofSends e = true) (ht : c.vc.takes e = true) :
    ScreenOk { c with vc := (MessageSendVC.step c.me c.partner (fb, c.vc) e).2 } := by
  have hsame := MessageSendVC.step_sameEdit c.me c.partner (fb, c.vc) he
  have hrows : ∀ row ∈ (MessageSendVC.step c.me c.partner (fb, c.vc) e).2.msgdataSource,
      ∃ t : Int, row.timestamp = toString t := by
    rw [hsame.msgdataSource]
    exact h.rows
  have hurl : ∀ url, (MessageSendVC.step c.me c.partner (fb, c.vc) e).2.downloadURL = some url → url ≠ "" :=
    h.step_url (by rintro url rfl; cases he)
  cases e with
  | statusReply i snapshot now =>
    obtain ⟨photo, hphoto⟩ := h.photo
    have hb : (MessageSendVC.step c.me c.partner (fb, c.vc) (.statusReply i snapshot now)).2.isBlock = "false" := by
      cases MessageSendVC.step_answer c.me c.partner (x := (fb, c.vc)) h.isBlock ht with
      | nothing hfb hb ho hl hidle => exact hb.trans h.isBlock
      | leak hfb hb ho hl hl' htext hempty => exact hb.trans h.isBlock
      | start msgtype attachment hdb hkey hb ho hl hl' hwhat hhas => exact hb.trans h.isBlock
    refine ⟨h.photo, hb, hurl, hrows, fun p hp => ?_⟩
    have hstep : MessageSendVC.step c.me c.partner (fb, c.vc) (.statusReply i snapshot now) =
        MessageSendVC.statusReply c.me c.partner i snapshot now fb c.vc := if_pos ht
    rw [hstep] at hp
    rcases MessageSendVC.answer_filled c.me c.partner (x := (fb, c.vc)) h.isBlock h.url hphoto i snapshot now with
      ho | ⟨f, hf, ho⟩
    · rw [ho] at hp
      exact h.pending p hp
    · rw [ho] at hp
      rcases List.mem_append.1 hp with hp | hp
      · exact h.pending p hp
      · rw [List.mem_singleton.1 hp]
        exact hf
  | settle i ok =>
    have hsub : ∀ p ∈ c.vc.outstanding.eraseIdx i, PendingOk p := fun p hp =>
      h.pending p (List.mem_of_mem_eraseIdx hp)
    cases MessageSendVC.step_completion c.me c.partner (x := (fb, c.vc)) ht with
    | nothing hi hx =>
      rw [hx]
      exact h
    | write w hi hfb hb hl hs ho =>
      refine ⟨h.photo, hb.trans h.isBlock, hurl, hrows, fun p hp => ?_⟩
      rw [ho] at hp
      exact hsub p hp
    | send f rest hi hfb hb hl hs hs' ho =>
      refine ⟨h.photo, hb.trans h.isBlock, hurl, hrows, fun p hp => ?_⟩
      rw [ho] at hp
      rcases List.mem_append.1 hp with hp | hp
      · exact hsub p hp
      · cases ok with
        | false => cases hp
        | true =>
          obtain ⟨f', hf', rfl⟩ := List.mem_map.1 hp
          have hsend : SendOk f.send := h.pending (.send f) (List.mem_of_getElem? hi)
          rw [PendingOk, (Flight.of_next (Option.mem_toList.1 hf')).1]
          exact hsend
  | _ => cases he

theorem step (h : ScreenOk c) (hadded : ∀ key snapshot, e ≠ .childAdded key snapshot)
    (hurl : ∀ url, e = .uploaded url → url ≠ "") :
    ScreenOk { c with vc := (MessageSendVC.step c.me c.partner (fb, c.vc) e).2 } := by
  by_cases ht : c.vc.takes e = true
  case neg =>
    rw [MessageSendVC.step_of_not_takes (x := (fb, c.vc)) _ _ ht]
    exact h
  cases he : MessageSendVC.ofSends e with
  | false => exact h.step_quiet he ht hadded hurl
  | true => exact h.step_sends he ht

/-- A message the listener is told of, with a decimal time. -/
theorem childAdded (h : ScreenOk c) (key : Key) {r : Record} (hr : ∃ t : Int, r.field "time" = some (toString t)) :
    ScreenOk { c with vc := (MessageSendVC.step c.me c.partner (fb, c.vc) (.childAdded key r)).2 } := by
  by_cases ht : c.vc.takes (.childAdded key r) = true
  case neg =>
    rw [MessageSendVC.step_of_not_takes (x := (fb, c.vc)) _ _ ht]
    exact h
  rw [MessageSendVC.step, if_pos ht]
  refine ⟨h.photo, h.isBlock, h.url, fun row hrow => ?_, h.pending⟩
  rcases List.mem_append.1 hrow with hrow | hrow
  · exact h.rows row hrow
  · obtain ⟨t, ht⟩ := hr
    refine ⟨t, ?_⟩
    rw [List.mem_singleton.1 hrow, parseMsg, ht]
    rfl

end ScreenOk

namespace Devices

/-! ## All devices -/

/-- **Every record in every room is well formed.** -/
def Stored (y : Devices) : Prop := Rooms WellFormed y.fb.db

/-- No edit to an empty text succeeds. -/
def NoEmptyEdit (y : Devices) : DeviceEvent → Prop
  | .screen i e => ∀ c w, y.chats[i]? = some c → c.vc.lands e = some (.write w) → ¬ EmptyEdit w
  | _ => True

/-- The address of an upload is not empty. -/
def UrlGiven : DeviceEvent → Prop
  | .screen _ (.uploaded url) => url ≠ ""
  | _ => True

structure Inv (y : Devices) : Prop where
  stored : Rooms WellFormed y.fb.db
  chats : ∀ c ∈ y.chats, ScreenOk c
  trips : ∀ f ∈ y.trips, SendOk f.send

section Step
variable {y : Devices} {i : Nat} {c : OpenChat}

theorem step_screen {e : ScreenEvent} (hadded : ∀ key snapshot, e ≠ .childAdded key snapshot) (hi : y.chats[i]? = some c) :
    y.step (.screen i e) = y.put i c (MessageSendVC.step c.me c.partner (y.fb, c.vc) e) := by
  cases e with
  | childAdded key snapshot => exact absurd rfl (hadded key snapshot)
  | _ => simp only [step, hi]

theorem Inv.put (h : Inv y) {x : Screen} (hdb : Rooms WellFormed x.1.db) (hc : ScreenOk { c with vc := x.2 }) :
    Inv (y.put i c x) := by
  refine ⟨hdb, fun c' hc' => ?_, h.trips⟩
  rcases List.mem_or_eq_of_mem_set hc' with hc' | rfl
  · exact h.chats c' hc'
  · exact hc

/-- What a user's device sees has decimal times. -/
theorem Inv.view (h : Inv y) (user : Int) : Rooms Timed (y.view user) := by
  refine (h.stored.mono fun _ _ _ => WellFormed.timed).applyAll timed_ofRoom fun w hw => ?_
  rcases List.mem_append.1 hw with hw | hw
  · obtain ⟨c, hc, hw⟩ := List.mem_flatMap.1 hw
    obtain ⟨p, hp, rfl⟩ := List.mem_map.1 hw
    exact ((h.chats c (List.mem_of_mem_filter hc)).pending p hp).timed
  · obtain ⟨f, hf, rfl⟩ := List.mem_map.1 hw
    exact (h.trips f (List.mem_of_mem_filter hf)).roomWrite.mono fun _ _ _ => WellFormed.timed

theorem lands_mem {s : MessageSendVC} {e : ScreenEvent} {p : Pending} (h : s.lands e = some p) : p ∈ s.outstanding := by
  unfold MessageSendVC.lands at h
  split at h
  · split at h
    · exact List.mem_of_getElem? h
    · cases h
  · cases h

/-- The rooms after a step of a screen, when no edit to an empty text lands. -/
theorem Inv.screen_db (h : Inv y) (hc : ScreenOk c) {e : ScreenEvent}
    (hok : ∀ w, c.vc.lands e = some (.write w) → ¬ EmptyEdit w) :
    Rooms WellFormed (MessageSendVC.step c.me c.partner (y.fb, c.vc) e).1.db := by
  cases screen_moved c.me c.partner y.fb hc.isBlock e with
  | quiet hdb hkey hf hl =>
    rw [hdb]
    exact h.stored
  | start f hstage hnew hdb hkey hf hl =>
    rw [hdb]
    exact h.stored
  | stop f hfb hf hl =>
    rw [hfb]
    exact h.stored
  | land p rest hl hfb hf hf' =>
    rw [hfb]
    refine h.stored.apply WellFormed.ofRoom ?_
    have hp := hc.pending p (lands_mem hl)
    cases p with
    | write w => exact PlainWrite.wellFormed hp (hok w hl)
    | send f => exact SendOk.roomWrite hp

/-- A chat that is opened begins empty. -/
theorem Inv.didSelectItemAt (h : Inv y) (storedPassword : String) (me : UserJson) (partner : Profile) :
    Inv (y.step (.didSelectItemAt storedPassword me partner)) := by
  refine ⟨h.stored, fun c hc => ?_, h.trips⟩
  rcases List.mem_append.1 hc with hc | hc
  · exact h.chats c hc
  · rw [List.mem_singleton.1 hc]
    exact ⟨⟨me.userPhoto, rfl⟩, rfl, fun _ hu => (by cases hu), fun _ hr => absurd hr List.not_mem_nil,
      fun _ hp => absurd hp List.not_mem_nil⟩

/-- A trip's screen sends no empty text. -/
theorem Inv.sendBtnClicked (h : Inv y) (storedPassword : String) (me : UserJson) (partner : Profile) (msg : String) (now : Int) :
    Inv (y.step (.sendBtnClicked storedPassword me partner msg now)) := by
  simp only [Devices.step]
  split
  · exact h
  · rename_i hsend
    refine ⟨h.stored, h.chats, fun f hf => ?_⟩
    rcases List.mem_append.1 hf with hf | hf
    · exact h.trips f hf
    · rw [List.mem_singleton.1 hf]
      refine ⟨.ofJson storedPassword me, partner, .sendBtnClicked msg, now * 1000, _, me.userPhoto, rfl, .inl ?_, rfl⟩
      intro hmsg
      have hmsg : msg = "" := hmsg
      exact hsend (by simp [TripDetailVC.accepts, hmsg])

/-- The next write of a send is of the same send. -/
theorem Inv.tripSettle (h : Inv y) (i : Nat) (ok : Bool) : Inv (y.step (.tripSettle i ok)) := by
  cases hi : y.trips[i]? with
  | none =>
    simp only [Devices.step, hi]
    exact h
  | some f =>
    simp only [Devices.step, hi]
    have hf : SendOk f.send := h.trips f (List.mem_of_getElem? hi)
    refine ⟨?_, h.chats, fun g hg => ?_⟩
    · cases ok with
      | true => exact h.stored.apply WellFormed.ofRoom hf.roomWrite
      | false => exact h.stored
    · rcases List.mem_append.1 hg with hg | hg
      · exact h.trips g (List.mem_of_mem_eraseIdx hg)
      · cases ok with
        | false => cases hg
        | true =>
          rw [(Flight.of_next (Option.mem_toList.1 hg)).1]
          exact hf

theorem Inv.step (h : Inv y) {e : DeviceEvent} (hurl : UrlGiven e) (hok : NoEmptyEdit y e) : Inv (y.step e) := by
  cases e with
  | didSelectItemAt storedPassword me partner => exact h.didSelectItemAt storedPassword me partner
  | screen i e =>
    by_cases hadded : ∃ key snapshot, e = .childAdded key snapshot
    · obtain ⟨key, snapshot, rfl⟩ := hadded
      exact h
    cases hi : y.chats[i]? with
    | none =>
      have hstay : y.step (.screen i e) = y := by cases e <;> simp only [Devices.step, hi]
      rw [hstay]
      exact h
    | some c =>
      have hc := h.chats c (List.mem_of_getElem? hi)
      rw [step_screen (fun key snapshot he => hadded ⟨key, snapshot, he⟩) hi]
      refine h.put (h.screen_db hc fun w hw => hok c w hi hw) (hc.step (fun key snapshot he => hadded ⟨key, snapshot, he⟩) ?_)
      rintro url rfl
      exact hurl
  | childAdded i key =>
    cases hi : y.chats[i]? with
    | none =>
      simp only [Devices.step, hi]
      exact h
    | some c =>
      simp only [Devices.step, hi]
      split
      · exact h
      · rename_i hpresent
        have hc := h.chats c (List.mem_of_getElem? hi)
        obtain ⟨r, hr, htimed⟩ := h.view c.me.userId c.me.userId c.partner.userId key hpresent
        rw [hr, PathTree.Tree.record_ofRecord]
        exact h.put (h.screen_db hc fun w hw => by cases hw) (hc.childAdded key htimed)
  | sendBtnClicked storedPassword me partner msg now => exact h.sendBtnClicked storedPassword me partner msg now
  | tripSettle i ok => exact h.tripSettle i ok

/-- **An edit to an empty text leaves a message without content.** -/
theorem Inv.emptyEdit (h : Inv y) {e : DeviceEvent} (hbad : ¬ NoEmptyEdit y e) : ¬ Stored (y.step e) := by
  cases e with
  | screen i e =>
    obtain ⟨c, w, hi, hl, hempty⟩ : ∃ c w, y.chats[i]? = some c ∧ c.vc.lands e = some (.write w) ∧ EmptyEdit w := by
      simpa only [NoEmptyEdit, not_forall, not_not, exists_prop] using hbad
    have hc := h.chats c (List.mem_of_getElem? hi)
    have hfb : (MessageSendVC.step c.me c.partner (y.fb, c.vc) e).1 = y.fb.apply w := by
      cases screen_moved c.me c.partner y.fb hc.isBlock e with
      | quiet hdb hkey hf hl' => cases hl'.symm.trans hl
      | start f hstage hnew hdb hkey hf hl' => cases hl'.symm.trans hl
      | stop f hfb hf hl' => cases hl'.symm.trans hl
      | land p rest hl' hfb hf hf' =>
        cases hl'.symm.trans hl
        exact hfb
    have hstep : y.step (.screen i e) = y.put i c (MessageSendVC.step c.me c.partner (y.fb, c.vc) e) :=
      step_screen (by rintro key snapshot rfl; cases hl) hi
    have hw : PlainWrite w := hc.pending (.write w) (lands_mem hl)
    obtain ⟨me, room, msgId, timestamp, rfl⟩ := hempty
    rw [hstep, Stored, Devices.put, hfb]
    generalize hw' : editWrite me room msgId "" timestamp = w at hw
    cases hw with
    | elsewhere hroom =>
      rw [← hw'] at hroom
      exact absurd (.inr (List.prefix_append _ _)) (hroom room)
    | remove a b key => cases hw'
    | edit me' photo hphoto b key text t =>
      intro hstored
      have htext : text = "" := EmptyEdit.text ⟨me, room, msgId, timestamp, hw'.symm⟩
      have hbelow : ((y.fb.db.apply (editWrite me' (setParamsRoom me'.userId b) key text (toString t))).below
          (roomNode me'.userId b key)) = PathTree.Tree.ofRecord (editObject me' text (toString t)) := PathTree.Tree.below_set _ _ _
      obtain ⟨r, hr, hwell⟩ := hstored me'.userId b key (by
        rw [Firebase.apply_db, hbelow]
        exact List.cons_ne_nil _ _)
      rw [Firebase.apply_db, hbelow] at hr
      have hrecord := congrArg PathTree.Tree.record hr
      rw [PathTree.Tree.record_ofRecord, PathTree.Tree.record_ofRecord] at hrecord
      rw [← hrecord] at hwell
      exact (wellFormed_editObject hphoto text b t).1 hwell htext
  | _ => exact absurd trivial hbad

end Step

/-- **Every stored record is well formed exactly when no edit to an empty text succeeds**, in every run from well-formed
rooms. -/
theorem stored_iff_noEmptyEdit (fb : Firebase) (hfb : Rooms WellFormed fb.db) (es : List DeviceEvent)
    (hes : ∀ e ∈ es, UrlGiven e) :
    Runs.AllStates step Stored { fb := fb } es ↔ Runs.AllSteps step NoEmptyEdit { fb := fb } es :=
  Runs.allStates_iff_allSteps Inv (fun _ _ h hurl hok => h.step hurl hok) (fun _ h => h.stored)
    (fun _ _ h _ hbad => h.emptyEdit hbad)
    ⟨hfb, fun _ hc => absurd hc List.not_mem_nil, fun _ hf => absurd hf List.not_mem_nil⟩
    (Runs.allSteps_of_forall step { fb := fb } hes)

set_option maxRecDepth 10000 in
/-- An uploaded image is sent, then a text, which is edited to another. -/
theorem stored_iff_noEmptyEdit_edited :
    Runs.AllStates step Stored {} [.didSelectItemAt "" { id := 7, firstName := "Bob" } (.ofPartner 9 "Ann" "" "" 0),
      .screen 0 (.uploaded "https://host/a.jpg"), .screen 0 .postImageBtnclicked, .screen 0 (.statusReply 0 [] 1),
      .screen 0 (.settle 0 true), .screen 0 (.settle 0 true), .screen 0 (.settle 0 true), .screen 0 (.type "hi"),
      .screen 0 .sendAction, .screen 0 (.statusReply 0 [] 2), .screen 0 (.settle 0 true), .childAdded 0 (.auto 1),
      .screen 0 (.longpress 0), .screen 0 .sheetEdit, .screen 0 (.type "hello"), .screen 0 .sendAction,
      .screen 0 (.settle 1 true)] := by
  refine (stored_iff_noEmptyEdit {} (fun _ _ _ hpresent => absurd rfl hpresent) _ (fun e he => ?_)).2
    ⟨trivial, ?_, ?_, ?_, ?_, ?_, ?_, ?_, ?_, ?_, ?_, trivial, ?_, ?_, ?_, ?_, ?_, trivial⟩
  · simp only [List.mem_cons, List.not_mem_nil, or_false] at he
    rcases he with rfl | rfl | rfl | rfl | rfl | rfl | rfl | rfl | rfl | rfl | rfl | rfl | rfl | rfl | rfl | rfl | rfl <;>
      first | trivial | exact (by decide : "https://host/a.jpg" ≠ "")
  all_goals
    rintro c w hc hl
    cases hc
    cases hl
  exact fun h => absurd h.text (by decide : ¬ "hello" = "")

/-- A text is sent, chosen for an edit, the field emptied and the edit committed. -/
theorem edit_empties_a_message :
    let bob : UserJson := { id := 7, firstName := "Bob" }
    let es : List DeviceEvent := [.didSelectItemAt "" bob (.ofPartner 9 "Ann" "" "" 0), .screen 0 (.type "hi"),
      .screen 0 .sendAction, .screen 0 (.statusReply 0 [] 1), .screen 0 (.settle 0 true), .childAdded 0 (.auto 0),
      .screen 0 (.longpress 0), .screen 0 .sheetEdit, .screen 0 (.type ""), .screen 0 .sendAction, .screen 0 (.settle 1 true)]
    (∀ e ∈ es, UrlGiven e) ∧ ¬ Stored (Runs.run step {} es) := by
  intro bob es
  have hstored : ((Runs.run step {} es).fb.db.below (roomNode 7 9 (.auto 0))) =
      PathTree.Tree.ofRecord (editObject (.ofJson "" bob) "" "1000") := by
    decide +kernel
  refine ⟨fun e he => ?_, fun h => ?_⟩
  · simp only [es, List.mem_cons, List.not_mem_nil, or_false] at he
    rcases he with rfl | rfl | rfl | rfl | rfl | rfl | rfl | rfl | rfl | rfl | rfl <;> trivial
  · obtain ⟨r, hr, hwell⟩ := h 7 9 (.auto 0) (by rw [hstored]; exact List.cons_ne_nil _ _)
    have hrecord : editObject (.ofJson "" bob) "" "1000" = r := by
      rw [← PathTree.Tree.record_ofRecord r, ← hr, hstored, PathTree.Tree.record_ofRecord]
    rw [← hrecord] at hwell
    exact (@wellFormed_editObject (.ofJson "" bob) "" rfl "" 9 1000).1 hwell rfl

end Devices
end Traveller
