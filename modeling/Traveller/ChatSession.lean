import Traveller.ChatScreen
import Traveller.SessionApi
/-!
# ChatSession — the chat screen over the session

`ChatScreen` is the screen of one user.  The code has no such user: it reads `thisuser` again wherever it needs him, at an
edit, at an answer, when the last write of a send begins, and only the names of the nodes are kept from the last `setParams`.
Here the session is beside the screen, and anything may happen to it.

`refines_chatScreen`: while the session shows one user where the screen looks, the screen is his `ChatScreen`.
`rooms_own_iff`: every send under way goes to a room of its own sender exactly if none starts under another user than the
room is named for.
-/
namespace Traveller

/-- `thisuser`, where the forced names are there. -/
def Profile.ofUser (u : UserModel) : Option Profile :=
  if h : u.firstName.isSome ∧ u.lastName.isSome then some { toUserModel := u, named := h } else none

/-- `listObject1` in `doSend`: the ids are those of the start, what is told of the user is read when the write begins. -/
def Send.sign (u : UserModel) (s : Send) : Send :=
  { s with
    listObject1 := .ofFields [
      ("id", some (toString s.me)),
      ("message", s.listObject.field "message"),
      ("sender_id", some (toString s.me)),
      ("sender_first_name", u.firstName),
      ("sender_last_name", u.lastName),
      ("sender_photo", u.userPhoto),
      ("sender_birthday", some (toString (u.birthday.getD 0))),
      ("time", s.listObject.field "time")] }

/-- The next write of a send. -/
def Flight.nextOf (u : UserModel) (f : Flight) : Option Flight :=
  f.next.map fun f' => if f'.stage = .partnerList then { f' with send := f'.send.sign u } else f'

/-- The statuses, under the room that is remembered. -/
def setStatus (room : String) (sender : Int) (online : String) (timeNow : Int) (key : Key) : List DbWrite :=
  [.remove (statusPath room),
   .set (statusPath room ++ [key]) (Record.ofFields [
     ("online", some online),
     ("sender_id", some (toString sender)),
     ("time", some (toString timeNow))])]

theorem setStatus_eq (me partner : Int) (online : String) (timeNow : Int) (key : Key) :
    setStatus (mestatusroomID me partner) me online timeNow key = setStatus4me me partner online timeNow key := rfl

/-- `MessageSendVC` in the app; `user` is the one its nodes are named for. -/
structure ChatSession where
  app : App := {}
  user : Int
  fb : Firebase := {}
  vc : MessageSendVC := {}

def AppEvent.startsProcess : AppEvent → Bool
  | .launch _ => true
  | _ => false

inductive SessionEvent where
  | app (e : AppEvent)
  | screen (e : ScreenEvent)

namespace ChatSession

def thisuser (x : ChatSession) : UserModel := x.app.session.thisuser

/-- The screen without the session. -/
def screen (x : ChatSession) : Screen := (x.fb, x.vc)

section
variable (partner : Profile)

/-- A forced unwrap. -/
def trap (x : ChatSession) : ChatSession := { x with vc := { x.vc with crashed := true } }

def issue (ws : List DbWrite) (x : ChatSession) : ChatSession :=
  { x with vc := { x.vc with outstanding := x.vc.outstanding ++ ws.map .write } }

/-- One status write, under a new key. -/
def setStatus4me (online : String) (now : Int) (x : ChatSession) : ChatSession :=
  { x with fb := { x.fb with nextKey := x.fb.nextKey + 1 } }.issue
    (setStatus (mestatusroomID x.user partner.userId) x.thisuser.userId online (now * 1000) (.auto x.fb.nextKey))

def setParams (now : Int) (x : ChatSession) : ChatSession :=
  { x with user := x.thisuser.userId, vc := { x.vc with msgdataSource := [] } }.setStatus4me partner "online" now

def addTappedLeftBtn (now : Int) (x : ChatSession) : ChatSession :=
  (x.setStatus4me partner "offline" now).issue (removeNode4me4finish x.thisuser.userId partner.userId)

def sendAction (x : ChatSession) : ChatSession :=
  if x.vc.isEdit then
    match x.vc.msgdataSource[x.vc.edtIndex]?, Profile.ofUser x.thisuser with
    | some entry, some me =>
      { x with vc :=
        { x.vc with
          outstanding := x.vc.outstanding ++
            [.write (editWrite me (setParamsRoom x.user partner.userId) entry.msgId x.vc.edtMsgSend entry.timestamp)]
          msgdataSource := x.vc.msgdataSource.set x.vc.edtIndex { entry with msgContent := x.vc.edtMsgSend }
          edtMsgSend := ""
          edtIndex := 0
          isEdit := false } }
    | _, _ => x.trap
  else if x.vc.edtMsgSend = "" then x
  else { x with vc := { x.vc with statusQueries := x.vc.statusQueries ++ [.text] } }

def doSend (msgtype : MsgType) (attachment : String) (now : Int) (x : ChatSession) : ChatSession :=
  if x.vc.isBlock = "true" then
    { x with vc :=
      { x.vc with edtMsgSend := if msgtype = .text then "" else x.vc.edtMsgSend, isdosending := false } }
  else if x.vc.isdosending then x
  else if msgtype = .text ∧ attachment = "" then { x with vc := { x.vc with isdosending := true } }
  else
    match Profile.ofUser x.thisuser with
    | none => x.trap
    | some me =>
      { x with
        fb := { x.fb with nextKey := x.fb.nextKey + 1 }
        vc :=
          { x.vc with
            isdosending := true
            outstanding := x.vc.outstanding ++
              [.send { send :=
                { MessageSendVC.send me partner msgtype attachment (now * 1000) (.auto x.fb.nextKey) with
                  room := setParamsRoom x.user partner.userId } }] } }

def statusCompletion (msgtype : MsgType) (now : Int) (x : ChatSession) (_online : Bool) : ChatSession :=
  if x.vc.crashed then x
  else
    match msgtype with
    | .text => { x with vc := { x.vc with edtMsgSend := "" } }.doSend partner .text x.vc.edtMsgSend now
    | _ =>
      match x.vc.downloadURL with
      | none => x
      | some url => x.doSend partner .image url now

def statusReply (i : Nat) (snapshot : List String) (now : Int) (x : ChatSession) : ChatSession :=
  match x.vc.statusQueries[i]? with
  | none => x
  | some msgtype =>
    (MessageSendVC.getPartnerOnlineStatus snapshot).foldl (statusCompletion partner msgtype now)
      { x with vc := { x.vc with statusQueries := x.vc.statusQueries.eraseIdx i } }

def settle (i : Nat) (ok : Bool) (x : ChatSession) : ChatSession :=
  match x.vc.outstanding[i]? with
  | none => x
  | some (.write w) =>
    { x with fb := if ok then x.fb.apply w else x.fb, vc := { x.vc with outstanding := x.vc.outstanding.eraseIdx i } }
  | some (.send f) =>
    if ok then
      match f.nextOf x.thisuser with
      | some f' =>
        { x with
          fb := x.fb.apply f.write
          vc := { x.vc with outstanding := x.vc.outstanding.eraseIdx i ++ [.send f'] } }
      | none =>
        { x with
          fb := x.fb.apply f.write
          vc := { x.vc with outstanding := x.vc.outstanding.eraseIdx i, isdosending := false } }
    else { x with vc := { x.vc with outstanding := x.vc.outstanding.eraseIdx i } }

def sheetRemove (x : ChatSession) : ChatSession :=
  match x.vc.sheet with
  | none => x
  | some sheet =>
    match x.vc.msgdataSource[sheet.indexPath]? with
    | none => { x with vc := { x.vc with sheet := none, crashed := true } }
    | some entry =>
      { x with vc :=
        { x.vc with
          sheet := none
          outstanding := x.vc.outstanding ++ [.write (removeWrite (setParamsRoom x.user partner.userId) entry.msgId)]
          msgdataSource := x.vc.msgdataSource.eraseIdx sheet.indexPath } }

def act (x : ChatSession) : ScreenEvent → ChatSession
  | .viewWillAppear now => x.setParams partner now
  | .viewDidDisappear now => x.setStatus4me partner "offline" now
  | .addTappedLeftBtn now => x.addTappedLeftBtn partner now
  | .type text => { x with vc := { x.vc with edtMsgSend := text } }
  | .sendAction => x.sendAction partner
  | .postImageBtnclicked => { x with vc := { x.vc with statusQueries := x.vc.statusQueries ++ [.image] } }
  | .uploaded url => { x with vc := { x.vc with downloadURL := some url } }
  | .statusReply i snapshot now => x.statusReply partner i snapshot now
  | .settle i ok => x.settle i ok
  | .childAdded key snapshot =>
    { x with vc :=
      { x.vc with msgdataSource := x.vc.msgdataSource ++ [parseMsg x.thisuser.userId key snapshot] } }
  | .longpress indexPath => { x with vc := MessageSendVC.longpress indexPath x.vc }
  | .sheetEdit => { x with vc := MessageSendVC.sheetEdit x.vc }
  | .sheetRemove => x.sheetRemove partner
  | .sheetCancel => { x with vc := { x.vc with sheet := none } }

/-- A trap on either side ends the process; with a new one the screen and what it asked for are gone. -/
def step (x : ChatSession) : SessionEvent → ChatSession
  | .app e =>
    if e.startsProcess then { x with app := x.app.step e, vc := {} }
    else if x.vc.crashed then x
    else { x with app := x.app.step e }
  | .screen e => if !x.app.trapped && x.vc.takes e then x.act partner e else x

end

/-! ## One user where the screen looks -/

/-- What the chat reads of a user is what it reads of `me`. -/
structure Same (me : Profile) (u : UserModel) : Prop where
  userId : u.userId = me.userId
  firstName : u.firstName = me.firstName
  lastName : u.lastName = me.lastName
  userPhoto : u.userPhoto = me.userPhoto
  birthday : u.birthday = me.birthday

/-- The write before the one that tells of the user. -/
def beforeLast : Pending → Bool
  | .send f => f.stage = .meList
  | .write _ => false

/-- The events at which the screen looks at `thisuser`. -/
def reads (s : MessageSendVC) : ScreenEvent → Bool
  | .viewWillAppear _ | .viewDidDisappear _ | .addTappedLeftBtn _ | .statusReply .. | .childAdded .. => true
  | .sendAction => s.isEdit
  | .settle i ok => ok && (s.outstanding[i]?).any beforeLast
  | .type _ | .postImageBtnclicked | .uploaded _ | .longpress _ | .sheetEdit | .sheetRemove | .sheetCancel => false

/-- **The process lives, and its session shows `me` where the screen looks.** -/
def Steady (me : Profile) (x : ChatSession) : SessionEvent → Prop
  | .app e => e.startsProcess = false
  | .screen e => x.vc.takes e = true → x.app.trapped = false ∧ (reads x.vc e = true → Same me x.thisuser)

instance (me : Profile) (u : UserModel) : Decidable (Same me u) :=
  decidable_of_iff
    (u.userId = me.userId ∧ u.firstName = me.firstName ∧ u.lastName = me.lastName ∧ u.userPhoto = me.userPhoto ∧
      u.birthday = me.birthday)
    ⟨fun ⟨hid, hfirst, hlast, hphoto, hbirthday⟩ => ⟨hid, hfirst, hlast, hphoto, hbirthday⟩,
      fun h => ⟨h.userId, h.firstName, h.lastName, h.userPhoto, h.birthday⟩⟩

instance (me : Profile) (x : ChatSession) : (e : SessionEvent) → Decidable (Steady me x e)
  | .app e => inferInstanceAs (Decidable (e.startsProcess = false))
  | .screen e => inferInstanceAs (Decidable (x.vc.takes e = true → _))

/-- The nodes are named for `me`, and what the sends under way tell of their user is `me`'s. -/
structure Sim (me : Profile) (x : ChatSession) : Prop where
  user : x.user = me.userId
  signs : ∀ f, .send f ∈ x.vc.outstanding → f.send.sign me.toUserModel = f.send

section Simulation
variable {me partner : Profile} {u : UserModel} {x : ChatSession}

theorem Same.sign (h : Same me u) (s : Send) : s.sign u = s.sign me.toUserModel := by
  simp only [Send.sign, h.firstName, h.lastName, h.userPhoto, h.birthday]

/-- The user the forced names are read of writes what `me` writes. -/
theorem Same.ofUser (h : Same me u) : ∃ me', Profile.ofUser u = some me' ∧
    (∀ msgtype attachment timeNow key,
      MessageSendVC.send me' partner msgtype attachment timeNow key =
        MessageSendVC.send me partner msgtype attachment timeNow key) ∧
    ∀ room msgId text timestamp, editWrite me' room msgId text timestamp = editWrite me room msgId text timestamp := by
  have hnamed : u.firstName.isSome ∧ u.lastName.isSome := by
    rw [h.firstName, h.lastName]
    exact me.named
  refine ⟨{ toUserModel := u, named := hnamed }, dif_pos hnamed, fun msgtype attachment timeNow key => ?_,
    fun room msgId text timestamp => ?_⟩
  · simp only [MessageSendVC.send, Profile.fullName, h.userId, h.firstName, h.lastName, h.userPhoto, h.birthday]
  · simp only [editWrite, editObject, Profile.fullName, h.userId, h.firstName, h.lastName, h.userPhoto]

theorem sign_send (msgtype : MsgType) (attachment : String) (timeNow : Int) (key : Key) :
    (MessageSendVC.send me partner msgtype attachment timeNow key).sign me.toUserModel =
      MessageSendVC.send me partner msgtype attachment timeNow key := by
  simp [Send.sign, MessageSendVC.send]

/-- The write that begins is the one `me` would begin. -/
theorem nextOf_eq {f : Flight} (hsign : f.send.sign me.toUserModel = f.send) (hsame : f.stage = .meList → Same me u) :
    f.nextOf u = f.next := by
  obtain ⟨send, stage⟩ := f
  cases stage with
  | message => rfl
  | meList =>
    have hsigned : send.sign u = send := by
      rw [(hsame rfl).sign]
      exact hsign
    simp [Flight.nextOf, Flight.next, Stage.next, hsigned]
  | partnerList => rfl

theorem screen_setStatus4me (huser : x.user = me.userId) (hid : x.thisuser.userId = me.userId) (online : String) (now : Int) :
    (x.setStatus4me partner online now).screen =
      ({ x.fb with nextKey := x.fb.nextKey + 1 },
        { x.vc with outstanding := x.vc.outstanding ++
          (Traveller.setStatus4me me.userId partner.userId online (now * 1000) (.auto x.fb.nextKey)).map .write }) := by
  simp only [setStatus4me, issue, screen, huser, hid, setStatus_eq]

/-- `doSend` of the user the session shows. -/
theorem screen_doSend (h : Sim me x) (hsame : Same me x.thisuser) (online : Bool) (msgtype : MsgType) (attachment : String)
    (now : Int) :
    (x.doSend partner msgtype attachment now).screen =
        MessageSendVC.doSend me partner online msgtype attachment now x.fb x.vc ∧
      Sim me (x.doSend partner msgtype attachment now) ∧ (x.doSend partner msgtype attachment now).app = x.app ∧
      (x.doSend partner msgtype attachment now).vc.crashed = x.vc.crashed := by
  unfold doSend MessageSendVC.doSend
  split
  · exact ⟨rfl, ⟨h.user, h.signs⟩, rfl, rfl⟩
  split
  · exact ⟨rfl, h, rfl, rfl⟩
  split
  · exact ⟨rfl, ⟨h.user, h.signs⟩, rfl, rfl⟩
  obtain ⟨me', hme, hsend, -⟩ := @Same.ofUser me partner _ hsame
  rw [hme]
  have hroom : ({ MessageSendVC.send me' partner msgtype attachment (now * 1000) (.auto x.fb.nextKey) with
      room := setParamsRoom x.user partner.userId } : Send) =
        MessageSendVC.send me partner msgtype attachment (now * 1000) (.auto x.fb.nextKey) := by
    rw [hsend, h.user]
    rfl
  simp only [hroom]
  refine ⟨rfl, ⟨h.user, fun f hf => ?_⟩, by trivial, by trivial⟩
  rcases List.mem_append.1 hf with hf | hf
  · exact h.signs f hf
  · obtain rfl := Pending.send.inj (List.mem_singleton.1 hf)
    exact sign_send msgtype attachment _ _

theorem screen_statusCompletion (h : Sim me x) (hsame : Same me x.thisuser) (hlive : x.vc.crashed = false) (msgtype : MsgType)
    (now : Int) (online : Bool) :
    (x.statusCompletion partner msgtype now online).screen =
        MessageSendVC.statusCompletion me partner msgtype now x.screen online ∧
      Sim me (x.statusCompletion partner msgtype now online) ∧
      (x.statusCompletion partner msgtype now online).app = x.app ∧
      (x.statusCompletion partner msgtype now online).vc.crashed = false := by
  have hfield : Sim me { x with vc := { x.vc with edtMsgSend := "" } } := ⟨h.user, h.signs⟩
  cases msgtype with
  | text =>
    rw [show x.statusCompletion partner .text now online = _ from if_neg (by simp [hlive])]
    obtain ⟨hscreen, hsim, happ, hcrashed⟩ := @screen_doSend me partner _ hfield hsame online .text x.vc.edtMsgSend now
    exact ⟨hscreen, hsim, happ, hcrashed.trans hlive⟩
  | _ =>
    rw [show x.statusCompletion partner _ now online = _ from if_neg (by simp [hlive])]
    simp only [MessageSendVC.statusCompletion, screen]
    cases x.vc.downloadURL with
    | none => exact ⟨rfl, h, rfl, hlive⟩
    | some url =>
      obtain ⟨hscreen, hsim, happ, hcrashed⟩ := @screen_doSend me partner _ h hsame online .image url now
      exact ⟨hscreen, hsim, happ, hcrashed.trans hlive⟩

/-- The completions, one after the other. -/
theorem screen_completions (msgtype : MsgType) (now : Int) (onlines : List Bool) :
    ∀ {x : ChatSession}, Sim me x → Same me x.thisuser → x.vc.crashed = false →
      (onlines.foldl (statusCompletion partner msgtype now) x).screen =
          onlines.foldl (MessageSendVC.statusCompletion me partner msgtype now) x.screen ∧
        Sim me (onlines.foldl (statusCompletion partner msgtype now) x) := by
  induction onlines with
  | nil => exact fun h _ _ => ⟨rfl, h⟩
  | cons online onlines ih =>
    intro x h hsame hlive
    obtain ⟨hscreen, hsim, happ, hlive'⟩ := @screen_statusCompletion me partner x h hsame hlive msgtype now online
    have hsame' : Same me (x.statusCompletion partner msgtype now online).thisuser := by
      rw [thisuser, happ]
      exact hsame
    have htail := ih hsim hsame' hlive'
    rw [hscreen] at htail
    exact htail

theorem screen_settle (h : Sim me x) (i : Nat) (ok : Bool)
    (hsame : reads x.vc (.settle i ok) = true → Same me x.thisuser) :
    (x.settle i ok).screen = MessageSendVC.settle i ok x.fb x.vc ∧ Sim me (x.settle i ok) := by
  have herase : ∀ f, .send f ∈ x.vc.outstanding.eraseIdx i → f.send.sign me.toUserModel = f.send :=
    fun f hf => h.signs f (List.mem_of_mem_eraseIdx hf)
  unfold settle MessageSendVC.settle
  cases hi : x.vc.outstanding[i]? with
  | none => exact ⟨rfl, h⟩
  | some p =>
    cases p with
    | write w => exact ⟨rfl, h.user, herase⟩
    | send f =>
      cases ok with
      | false => exact ⟨rfl, h.user, herase⟩
      | true =>
        have hsign := h.signs f (List.mem_of_getElem? hi)
        have hnext : f.nextOf x.thisuser = f.next :=
          nextOf_eq hsign fun hstage => hsame (by simp [reads, hi, beforeLast, hstage])
        simp only [hnext, if_true]
        cases hf' : f.next with
        | none => exact ⟨rfl, h.user, herase⟩
        | some f' =>
          refine ⟨rfl, h.user, fun g hg => ?_⟩
          rcases List.mem_append.1 hg with hg | hg
          · exact herase g hg
          · obtain rfl := Pending.send.inj (List.mem_singleton.1 hg)
            rw [(Flight.of_next hf').1]
            exact hsign

/-- An event that is no answer and no completion does to the screen what it does to `me`'s. -/
theorem screen_act (h : Sim me x) {e : ScreenEvent} (he : MessageSendVC.ofSends e = false)
    (hsame : reads x.vc e = true → Same me x.thisuser) :
    (x.act partner e).screen = MessageSendVC.act me partner x.fb x.vc e ∧ (x.act partner e).user = me.userId := by
  cases e with
  | viewWillAppear now =>
    have hid := (hsame rfl).userId
    exact ⟨@screen_setStatus4me me partner { x with user := _, vc := _ } hid hid "online" now, hid⟩
  | viewDidDisappear now => exact ⟨screen_setStatus4me h.user (hsame rfl).userId "offline" now, h.user⟩
  | addTappedLeftBtn now =>
    have hid := (hsame rfl).userId
    have hset := @screen_setStatus4me me partner x h.user hid "offline" now
    have hfb : (x.setStatus4me partner "offline" now).fb = _ := congrArg Prod.fst hset
    have hvc : (x.setStatus4me partner "offline" now).vc = _ := congrArg Prod.snd hset
    refine ⟨?_, h.user⟩
    simp only [act, addTappedLeftBtn, issue, screen, hfb, hvc, hid, MessageSendVC.act, MessageSendVC.addTappedLeftBtn,
      setOfflinestatus4me, List.map_append, List.append_assoc]
  | sendAction =>
    simp only [act, sendAction, MessageSendVC.act, MessageSendVC.sendAction]
    by_cases hedit : x.vc.isEdit = true
    · obtain ⟨me', hme, -, hwrite⟩ := @Same.ofUser me partner _ (hsame hedit)
      rw [if_pos hedit, if_pos hedit, hme]
      cases x.vc.msgdataSource[x.vc.edtIndex]? with
      | none => exact ⟨rfl, h.user⟩
      | some entry =>
        refine ⟨?_, h.user⟩
        simp only [hwrite, h.user]
        rfl
    · rw [if_neg hedit, if_neg hedit]
      split <;> exact ⟨rfl, h.user⟩
  | sheetRemove =>
    simp only [act, sheetRemove, MessageSendVC.act, MessageSendVC.sheetRemove]
    cases hsheet : x.vc.sheet with
    | none => exact ⟨rfl, h.user⟩
    | some sheet =>
      cases hentry : x.vc.msgdataSource[sheet.indexPath]? with
      | none =>
        simp only [hentry]
        exact ⟨rfl, h.user⟩
      | some entry =>
        refine ⟨?_, ?_⟩
        · simp only [hentry, h.user]
          rfl
        · simp only [hentry]
          exact h.user
  | childAdded key snapshot =>
    refine ⟨?_, h.user⟩
    simp only [act, MessageSendVC.act, screen, (hsame rfl).userId]
  | statusReply i snapshot now | settle i ok => cases he
  | type text | postImageBtnclicked | uploaded url | longpress indexPath | sheetEdit | sheetCancel => exact ⟨rfl, h.user⟩

/-- **A step of the screen is a step of `me`'s**, where the session shows `me`. -/
theorem screen_step (h : Sim me x) {e : ScreenEvent} (hok : Steady me x (.screen e)) :
    (x.step partner (.screen e)).screen = MessageSendVC.step me partner x.screen e ∧ Sim me (x.step partner (.screen e)) := by
  by_cases ht : x.vc.takes e = true
  case neg =>
    rw [show x.step partner (.screen e) = x from if_neg (by simp [ht])]
    exact ⟨(if_neg ht).symm, h⟩
  obtain ⟨htrapped, hsame⟩ := hok ht
  have hact : x.step partner (.screen e) = x.act partner e := if_pos (by simp [htrapped, ht])
  have hlive : x.vc.crashed = false := MessageSendVC.crashed_of_takes ht
  cases hof : MessageSendVC.ofSends e with
  | false =>
    -- what is issued is no send
    obtain ⟨hscreen, huser⟩ := @screen_act me partner x h e hof hsame
    have hquiet := MessageSendVC.step_quiet me partner (x := x.screen) hof ht
    rw [show MessageSendVC.step me partner x.screen e = MessageSendVC.act me partner x.fb x.vc e from if_pos ht] at hquiet ⊢
    rw [hact]
    refine ⟨hscreen, huser, fun f hf => ?_⟩
    rw [show (x.act partner e).vc = (MessageSendVC.act me partner x.fb x.vc e).2 from congrArg Prod.snd hscreen,
      hquiet.outstanding] at hf
    rcases List.mem_append.1 hf with hf | hf
    · exact h.signs f hf
    · simp at hf
  | true =>
    rw [hact, show MessageSendVC.step me partner x.screen e = MessageSendVC.act me partner x.fb x.vc e from if_pos ht]
    cases e with
    | statusReply i snapshot now =>
      simp only [act, statusReply, MessageSendVC.act, MessageSendVC.statusReply]
      cases x.vc.statusQueries[i]? with
      | none => exact ⟨rfl, h⟩
      | some msgtype =>
        exact screen_completions msgtype now _ ⟨h.user, h.signs⟩ (hsame rfl) hlive
    | settle i ok => exact screen_settle h i ok hsame
    | _ => cases hof

end Simulation

/-! ## The run -/

/-- The events of the screen. -/
def screenEvents : List SessionEvent → List ScreenEvent :=
  List.filterMap fun
    | .app _ => none
    | .screen e => some e

/-- **The screen over the session is `me`'s screen**: in every run in which the session shows `me` wherever the screen looks at
its user, whatever the session does besides. -/
theorem refines_chatScreen (me partner : Profile) (app : App) (fb : Firebase) (es : List SessionEvent)
    (hsteady : Runs.AllSteps (step partner) (Steady me) { app := app, user := me.userId, fb := fb } es) :
    (Runs.run (step partner) { app := app, user := me.userId, fb := fb } es).screen =
      Runs.run (MessageSendVC.step me partner) (fb, {}) (screenEvents es) := by
  have hsim : Sim me { app := app, user := me.userId, fb := fb } := ⟨rfl, fun f hf => absurd hf List.not_mem_nil⟩
  suffices h : ∀ x, Sim me x → Runs.AllSteps (step partner) (Steady me) x es →
      (Runs.run (step partner) x es).screen = Runs.run (MessageSendVC.step me partner) x.screen (screenEvents es) from
    h _ hsim hsteady
  clear hsteady hsim
  induction es with
  | nil => exact fun x _ _ => rfl
  | cons e es ih =>
    intro x hx hok
    cases e with
    | app e =>
      have hscreen : (x.step partner (.app e)).screen = x.screen ∧ Sim me (x.step partner (.app e)) := by
        rw [step, if_neg (Bool.eq_false_iff.1 hok.1)]
        split <;> exact ⟨rfl, hx.user, hx.signs⟩
      have hrun := ih _ hscreen.2 hok.2
      rw [hscreen.1] at hrun
      exact hrun
    | screen e =>
      obtain ⟨hscreen, hsim⟩ := @screen_step me partner x hx e hok.1
      have hrun := ih _ hsim hok.2
      rw [hscreen] at hrun
      exact hrun

/-- A text sent while the session stays, with a logout once the last write is under way. -/
theorem refines_chatScreen_sent :
    let ann := Profile.ofPartner 9 "Ann" "" "" 0
    let bob := Profile.ofPartner 7 "Bob" "" "" 0
    let app : App := { session := { thisuser := ann.toUserModel } }
    let es : List SessionEvent := [.screen (.viewWillAppear 1), .screen (.type "hi"), .app .checkBackgrouond,
      .screen .sendAction, .screen (.statusReply 0 [] 2), .screen (.settle 2 true), .screen (.settle 2 true),
      .app (.logoutBtnClicked 3), .screen (.settle 2 true)]
    (Runs.run (step bob) { app := app, user := 9 } es).screen =
        Runs.run (MessageSendVC.step ann bob) ({}, {}) (screenEvents es) ∧
      (Runs.run (step bob) { app := app, user := 9 } es).app.session.thisuser.userId = -1 :=
  ⟨refines_chatScreen (.ofPartner 9 "Ann" "" "" 0) (.ofPartner 7 "Bob" "" "" 0)
    { session := { thisuser := .ofPartner 9 "Ann" "" "" 0 } } {} _ (by decide +kernel), by decide +kernel⟩

/-! ## Whose room a send goes to -/

/-- What is to be sent is there. -/
def attached (s : MessageSendVC) : MsgType → Bool
  | .text => s.edtMsgSend ≠ ""
  | .gif | .image => s.downloadURL.isSome

/-- A completion called now starts a send. -/
structure Ready (x : ChatSession) (msgtype : MsgType) : Prop where
  crashed : x.vc.crashed = false
  isBlock : x.vc.isBlock ≠ "true"
  isdosending : x.vc.isdosending = false
  attached : attached x.vc msgtype = true
  named : (Profile.ofUser x.thisuser).isSome = true

/-- The event starts a send. -/
def Starts (x : ChatSession) : SessionEvent → Prop
  | .screen (.statusReply i _ _) =>
    x.app.trapped = false ∧ ∃ msgtype, x.vc.statusQueries[i]? = some msgtype ∧ Ready x msgtype
  | _ => False

/-- The room is one of the sender and the partner. -/
def OwnRoom (partner : Profile) (f : Flight) : Prop := f.send.room = setParamsRoom f.send.me partner.userId

/-- Every send under way goes to such a room. -/
def SendsOwn (partner : Profile) (x : ChatSession) : Prop := ∀ f, .send f ∈ x.vc.outstanding → OwnRoom partner f

/-- One send more, by the user of the moment into the room of the last `setParams`. -/
structure OneStarted (partner : Profile) (x x' : ChatSession) (f : Flight) : Prop where
  outstanding : x'.vc.outstanding = x.vc.outstanding ++ [.send f]
  me : f.send.me = x.thisuser.userId
  room : f.send.room = setParamsRoom x.user partner.userId

section Starts
variable {partner : Profile} {x : ChatSession}

theorem toUserModel_of_ofUser {u : UserModel} {me : Profile} (h : Profile.ofUser u = some me) : me.toUserModel = u := by
  simp only [Profile.ofUser, Option.dite_none_right_eq_some, Option.some.injEq] at h
  obtain ⟨-, rfl⟩ := h
  rfl

/-- `doSend` with something to send, under no lock and no block. -/
theorem doSend_starts {msgtype : MsgType} {attachment : String} (hblock : x.vc.isBlock ≠ "true")
    (hlock : x.vc.isdosending = false) (htext : ¬ (msgtype = .text ∧ attachment = ""))
    (hnamed : (Profile.ofUser x.thisuser).isSome = true) (now : Int) :
    (∃ f, OneStarted partner x (x.doSend partner msgtype attachment now) f) ∧
      (x.doSend partner msgtype attachment now).vc.isdosending = true := by
  obtain ⟨me, hme⟩ := Option.isSome_iff_exists.1 hnamed
  have hid : me.userId = x.thisuser.userId := congrArg UserModel.userId (toUserModel_of_ofUser hme)
  rw [doSend, if_neg hblock, if_neg (by simp [hlock]), if_neg htext]
  simp only [hme]
  exact ⟨⟨_, rfl, hid, rfl⟩, by trivial⟩

/-- Otherwise it issues nothing, and the next completion finds the block, the lock or the trap. -/
theorem doSend_idle {msgtype : MsgType} {attachment : String}
    (h : x.vc.isBlock = "true" ∨ x.vc.isdosending = true ∨ (msgtype = .text ∧ attachment = "") ∨
      Profile.ofUser x.thisuser = none) (now : Int) :
    (x.doSend partner msgtype attachment now).vc.outstanding = x.vc.outstanding ∧
      ∀ msgtype', ¬ Ready (x.doSend partner msgtype attachment now) msgtype' := by
  unfold doSend
  split
  · rename_i hblock
    exact ⟨rfl, fun _ hr => hr.isBlock hblock⟩
  split
  · rename_i hlock
    exact ⟨rfl, fun _ hr => absurd (hr.isdosending.symm.trans hlock) (by decide)⟩
  split
  · exact ⟨rfl, fun _ hr => absurd hr.isdosending (by simp)⟩
  · rename_i hblock hlock htext
    have hnone : Profile.ofUser x.thisuser = none := by simpa [hblock, hlock, htext] using h
    simp only [hnone]
    exact ⟨rfl, fun _ hr => absurd hr.crashed (by simp [trap])⟩

/-- What keeps a completion from starting a send. -/
theorem not_ready {msgtype : MsgType} (h : ¬ Ready x msgtype) (hlive : x.vc.crashed = false) :
    x.vc.isBlock = "true" ∨ x.vc.isdosending = true ∨ attached x.vc msgtype = false ∨ Profile.ofUser x.thisuser = none := by
  by_contra hcon
  simp only [not_or, Bool.not_eq_true, Bool.not_eq_false] at hcon
  obtain ⟨hblock, hlock, hattached, hnamed⟩ := hcon
  exact h ⟨hlive, hblock, hlock, hattached, Option.isSome_iff_ne_none.2 hnamed⟩

theorem statusCompletion_idle {msgtype : MsgType} (h : ¬ Ready x msgtype) (now : Int) (online : Bool) :
    (x.statusCompletion partner msgtype now online).vc.outstanding = x.vc.outstanding ∧
      ¬ Ready (x.statusCompletion partner msgtype now online) msgtype := by
  by_cases hcrashed : x.vc.crashed = true
  · rw [show x.statusCompletion partner msgtype now online = x from if_pos hcrashed]
    exact ⟨rfl, h⟩
  have hwhy := not_ready h (Bool.eq_false_iff.2 hcrashed)
  cases msgtype with
  | text =>
    have hidle := @doSend_idle partner { x with vc := { x.vc with edtMsgSend := "" } } .text x.vc.edtMsgSend
      (by simpa [attached, thisuser] using hwhy) now
    rw [show x.statusCompletion partner .text now online = _ from if_neg hcrashed]
    exact ⟨hidle.1, hidle.2 .text⟩
  | _ =>
    rw [show x.statusCompletion partner _ now online = _ from if_neg hcrashed]
    cases hurl : x.vc.downloadURL with
    | none => exact ⟨by trivial, h⟩
    | some url =>
      have hidle := @doSend_idle partner x .image url (by simpa [attached, hurl] using hwhy) now
      exact ⟨hidle.1, hidle.2 _⟩

theorem statusCompletion_starts {msgtype : MsgType} (h : Ready x msgtype) (now : Int) (online : Bool) :
    (∃ f, OneStarted partner x (x.statusCompletion partner msgtype now online) f) ∧
      ¬ Ready (x.statusCompletion partner msgtype now online) msgtype := by
  have hlive : ¬ x.vc.crashed = true := by simp [h.crashed]
  cases msgtype with
  | text =>
    have htext : ¬ (MsgType.text = .text ∧ x.vc.edtMsgSend = "") := by simpa [attached] using h.attached
    obtain ⟨⟨f, hf⟩, hlocked⟩ := @doSend_starts partner { x with vc := { x.vc with edtMsgSend := "" } } .text
      x.vc.edtMsgSend h.isBlock h.isdosending htext h.named now
    rw [show x.statusCompletion partner .text now online = _ from if_neg hlive]
    exact ⟨⟨f, hf.outstanding, hf.me, hf.room⟩, fun hr => absurd (hr.isdosending.symm.trans hlocked) (by simp)⟩
  | _ =>
    rw [show x.statusCompletion partner _ now online = _ from if_neg hlive]
    cases hurl : x.vc.downloadURL with
    | none => exact absurd h.attached (by simp [attached, hurl])
    | some url =>
      obtain ⟨hf, hlocked⟩ := @doSend_starts partner x .image url h.isBlock h.isdosending (by simp) h.named now
      exact ⟨hf, fun hr => absurd (hr.isdosending.symm.trans hlocked) (by simp)⟩

/-- The completions of one answer start one send at most. -/
theorem completions_idle (msgtype : MsgType) (now : Int) (onlines : List Bool) :
    ∀ {x : ChatSession}, ¬ Ready x msgtype →
      (onlines.foldl (statusCompletion partner msgtype now) x).vc.outstanding = x.vc.outstanding := by
  induction onlines with
  | nil => exact fun _ => rfl
  | cons online onlines ih =>
    intro x h
    obtain ⟨hsame, hidle⟩ := @statusCompletion_idle partner x msgtype h now online
    exact (ih hidle).trans hsame

theorem getPartnerOnlineStatus_ne_nil (snapshot : List String) :
    ∃ online onlines, MessageSendVC.getPartnerOnlineStatus snapshot = online :: onlines := by
  cases snapshot with
  | nil => exact ⟨false, [], rfl⟩
  | cons online snapshot => exact ⟨_, _, rfl⟩

/-- **A step that starts a send** issues one, by the user of the moment. -/
theorem oneStarted {e : SessionEvent} (h : Starts x e) : ∃ f, OneStarted partner x (x.step partner e) f := by
  match e with
  | .screen (.statusReply i snapshot now) =>
    obtain ⟨htrapped, msgtype, hquery, hready⟩ := h
    have htakes : x.vc.takes (.statusReply i snapshot now) = true := by simp [MessageSendVC.takes, hready.crashed]
    obtain ⟨online, onlines, honlines⟩ := getPartnerOnlineStatus_ne_nil snapshot
    rw [show x.step partner (.screen (.statusReply i snapshot now)) = _ from if_pos (by simp [htrapped, htakes])]
    simp only [act, statusReply, hquery, honlines, List.foldl_cons]
    obtain ⟨⟨f, hf⟩, hidle⟩ := @statusCompletion_starts partner
      { x with vc := { x.vc with statusQueries := x.vc.statusQueries.eraseIdx i } } msgtype
      ⟨hready.crashed, hready.isBlock, hready.isdosending, hready.attached, hready.named⟩ now online
    exact ⟨f, (completions_idle msgtype now onlines hidle).trans hf.outstanding, hf.me, hf.room⟩

theorem of_nextOf {u : UserModel} {f f' : Flight} (h : f.nextOf u = some f') :
    f'.send.me = f.send.me ∧ f'.send.room = f.send.room := by
  simp only [Flight.nextOf, Option.map_eq_some_iff] at h
  obtain ⟨g, hg, rfl⟩ := h
  obtain ⟨hsend, -⟩ := Flight.of_next hg
  split <;> exact ⟨by simp [Send.sign, hsend], by simp [Send.sign, hsend]⟩

/-- The other events issue writes of their own at most. -/
theorem act_outstanding {e : ScreenEvent} (he : MessageSendVC.ofSends e = false) :
    ∃ ws : List DbWrite, (x.act partner e).vc.outstanding = x.vc.outstanding ++ ws.map .write := by
  have hsame : ∀ {ps : List Pending}, ps = x.vc.outstanding → ∃ ws : List DbWrite, ps = x.vc.outstanding ++ ws.map .write :=
    fun h => ⟨[], by simp [h]⟩
  cases e with
  | viewWillAppear now | viewDidDisappear now => exact ⟨_, rfl⟩
  | addTappedLeftBtn now =>
    have hboth := fun ws ws' : List DbWrite =>
      (List.append_assoc x.vc.outstanding (ws.map .write) (ws'.map .write)).trans
        (congrArg (x.vc.outstanding ++ ·) List.map_append.symm)
    exact ⟨_, hboth _ _⟩
  | sendAction =>
    simp only [act, sendAction]
    split
    · split
      · exact ⟨[_], rfl⟩
      · exact hsame rfl
    · split <;> exact hsame rfl
  | longpress indexPath =>
    simp only [act, MessageSendVC.longpress]
    split
    · exact hsame rfl
    · split <;> exact hsame rfl
  | sheetEdit =>
    simp only [act, MessageSendVC.sheetEdit]
    split
    · exact hsame rfl
    · split <;> exact hsame rfl
  | sheetRemove =>
    simp only [act, sheetRemove]
    split
    · exact hsame rfl
    · split
      · exact hsame rfl
      · exact ⟨[_], rfl⟩
  | statusReply i snapshot now | settle i ok => cases he
  | type text | postImageBtnclicked | uploaded url | childAdded key snapshot | sheetCancel => exact hsame rfl

/-- A completion takes a send a write further, or drops it. -/
theorem mem_settle {i : Nat} {ok : Bool} {f : Flight} (hf : .send f ∈ (x.settle i ok).vc.outstanding) :
    ∃ g, .send g ∈ x.vc.outstanding ∧ f.send.me = g.send.me ∧ f.send.room = g.send.room := by
  have herase : .send f ∈ x.vc.outstanding.eraseIdx i →
      ∃ g, .send g ∈ x.vc.outstanding ∧ f.send.me = g.send.me ∧ f.send.room = g.send.room :=
    fun h => ⟨f, List.mem_of_mem_eraseIdx h, rfl, rfl⟩
  unfold settle at hf
  split at hf
  · exact ⟨f, hf, rfl, rfl⟩
  · exact herase hf
  · rename_i g hg
    split at hf
    · split at hf
      · rename_i f' hnext
        rcases List.mem_append.1 hf with hf | hf
        · exact herase hf
        · obtain rfl := Pending.send.inj (List.mem_singleton.1 hf)
          exact ⟨g, List.mem_of_getElem? hg, of_nextOf hnext⟩
      · exact herase hf
    · exact herase hf

/-- **A step that starts none** leaves the sends that were there, some a write further. -/
theorem noneStarted {e : SessionEvent} (h : ¬ Starts x e) {f : Flight} (hf : .send f ∈ (x.step partner e).vc.outstanding) :
    ∃ g, .send g ∈ x.vc.outstanding ∧ f.send.me = g.send.me ∧ f.send.room = g.send.room := by
  have hkept : .send f ∈ x.vc.outstanding →
      ∃ g, .send g ∈ x.vc.outstanding ∧ f.send.me = g.send.me ∧ f.send.room = g.send.room := fun h => ⟨f, h, rfl, rfl⟩
  unfold step at hf
  split at hf
  · split at hf
    · exact absurd hf List.not_mem_nil
    · split at hf <;> exact hkept hf
  rename_i e
  split at hf
  case isFalse => exact hkept hf
  rename_i htaken
  rw [Bool.and_eq_true, Bool.not_eq_true'] at htaken
  cases hof : MessageSendVC.ofSends e with
  | false =>
    obtain ⟨ws, hws⟩ := @act_outstanding partner x e hof
    rw [hws] at hf
    rcases List.mem_append.1 hf with hf | hf
    · exact hkept hf
    · simp at hf
  | true =>
    cases e with
    | statusReply i snapshot now =>
      simp only [act, statusReply] at hf
      split at hf
      · exact hkept hf
      · rename_i msgtype hquery
        have hidle : ¬ Ready { x with vc := { x.vc with statusQueries := x.vc.statusQueries.eraseIdx i } } msgtype :=
          fun hr => h ⟨htaken.1, msgtype, hquery, hr.crashed, hr.isBlock, hr.isdosending, hr.attached, hr.named⟩
        rw [completions_idle msgtype now _ hidle] at hf
        exact hkept hf
    | settle i ok => exact mem_settle hf
    | _ => cases hof

end Starts

/-- **Every send under way goes to a room of its own sender exactly if none starts under another user than the room is named
for**: the one `thisuser` was at the last `setParams`. -/
theorem rooms_own_iff (partner : Profile) (app : App) (user : Int) (fb : Firebase) (es : List SessionEvent) :
    Runs.AllStates (step partner) (SendsOwn partner) { app := app, user := user, fb := fb } es ↔
      Runs.AllSteps (step partner) (fun x e => Starts x e → x.thisuser.userId = x.user)
        { app := app, user := user, fb := fb } es := by
  have hnone : SendsOwn partner { app := app, user := user, fb := fb } := fun f hf => absurd hf List.not_mem_nil
  refine Runs.allStates_iff_allSteps (SendsOwn partner) ?_ (fun _ h => h) ?_ hnone (Runs.allSteps_trivial _ _ es)
  · intro x e hx _ hok f hf
    by_cases hstarts : Starts x e
    · obtain ⟨g, hg⟩ := @oneStarted partner x e hstarts
      rw [hg.outstanding] at hf
      rcases List.mem_append.1 hf with hf | hf
      · exact hx f hf
      · obtain rfl := Pending.send.inj (List.mem_singleton.1 hf)
        rw [OwnRoom, hg.room, hg.me, hok hstarts]
    · obtain ⟨g, hg, hme, hroom⟩ := noneStarted hstarts hf
      rw [OwnRoom, hme, hroom]
      exact hx g hg
  · intro x e _ _ hbad hall
    obtain ⟨hstarts, hother⟩ := Classical.not_imp.1 hbad
    obtain ⟨g, hg⟩ := @oneStarted partner x e hstarts
    have hown := hall g (hg.outstanding ▸ List.mem_append_right _ (List.mem_singleton_self _))
    rw [OwnRoom, hg.room, hg.me, setParamsRoom_inj] at hown
    rcases hown with ⟨h, -⟩ | ⟨h, h'⟩
    · exact hother h.symm
    · exact hother (h'.symm.trans h.symm)

/-- Another user logs in while the status is asked for: what was typed before goes out as his, to the old user's room. -/
example :
    let app : App := { session := { thisuser := .ofPartner 9 "Ann" "" "" 0 } }
    let es : List SessionEvent := [.screen (.viewWillAppear 1), .screen (.type "hi"), .screen .sendAction,
      .app (.logoutBtnClicked 2), .app (.loginBtnClicked "eve@aa.aa" "a"),
      .app (.reply 0 (some { message := "success", userInfo := some [{ id := 5, firstName := "Eve" }] }) 3),
      .screen (.statusReply 0 [] 4)]
    (Runs.run (step (.ofPartner 7 "Bob" "" "" 0)) { app := app, user := 9 } es).vc.outstanding.filterMap (fun
      | .send f => some (f.send.room, f.send.me, f.send.listObject.field "message")
      | .write _ => none) = [("7_9", 5, some "hi")] := by
  decide +kernel

end ChatSession
end Traveller
