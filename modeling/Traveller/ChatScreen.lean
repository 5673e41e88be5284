import Traveller.ChatWrites
import Traveller.Runs
/-!
# ChatScreen — `MessageSendVC`, event by event

A chat screen of the user `me` with `partner` beside the shared database.  What the user, the clock, the network and the
database decide is in the events; a request that has been made and not answered is in the state, so that answers may come
at any later point and in any order.

A send goes through three callbacks: the answer to the status query takes the text out of the field and calls `doSend`,
which takes the lock `isdosending` and starts the message write; each write that succeeds starts the next one, and the last
gives the lock back.  An edit and the long-press sheet remember a message by its position in the list.
-/
namespace Traveller

/-- The database all devices share, and the next key `childByAutoId` makes. -/
structure Firebase where
  db : Database := .empty
  nextKey : Nat := 0
  deriving DecidableEq, Repr

namespace Firebase

def apply (fb : Firebase) (w : DbWrite) : Firebase := { fb with db := fb.db.apply w }

@[simp] theorem apply_db (fb : Firebase) (w : DbWrite) : (fb.apply w).db = fb.db.apply w := rfl
@[simp] theorem apply_nextKey (fb : Firebase) (w : DbWrite) : (fb.apply w).nextKey = fb.nextKey := rfl

/-- No node below the path is named by a key that is still to be made. -/
def FreshBelow (fb : Firebase) (p : Path) : Prop :=
  ∀ l ∈ (fb.db.below p).leaves, ∀ n, fb.nextKey ≤ n → l.1.head? ≠ some (.auto n)

variable {fb fb' : Firebase} {p : Path}

theorem FreshBelow.mono (h : fb.FreshBelow p) (hdb : fb'.db.below p = fb.db.below p) (hkey : fb.nextKey ≤ fb'.nextKey) :
    fb'.FreshBelow p := by
  intro l hl n hn
  rw [hdb] at hl
  exact h l hl n (hkey.trans hn)

/-- A record written there under a key that was made before. -/
theorem FreshBelow.set (h : fb.FreshBelow p) {n : Nat} (hn : n < fb.nextKey) (r : Record) :
    (fb.apply (.set (p ++ [.auto n]) r)).FreshBelow p := by
  intro l hl m hm
  rw [apply_db] at hl
  rw [apply_nextKey] at hm
  have hbelow := PathTree.Tree.below_apply_under fb.db (.set [.auto n] r) p
  rw [PathTree.Write.under] at hbelow
  rw [hbelow] at hl
  rcases PathTree.Tree.mem_leaves_set hl with hold | ⟨k, hk⟩
  · exact h l hold m hm
  · rw [hk, List.singleton_append, List.head?_cons, ne_eq, Option.some.injEq, Key.auto.injEq]
    omega

end Firebase

/-- A send one of whose writes is outstanding. -/
structure Flight where
  send : Send
  stage : Stage := .message
  deriving DecidableEq, Repr

namespace Flight

def write (f : Flight) : DbWrite := f.send.write f.stage

def next (f : Flight) : Option Flight := f.stage.next.map fun stage => { f with stage := stage }

theorem of_next {f f' : Flight} (h : f.next = some f') : f'.send = f.send ∧ f'.stage ≠ .message := by
  cases hs : f.stage <;> simp only [next, hs, Stage.next, Option.map_some, Option.map_none, Option.some.injEq] at h
  · subst h
    exact ⟨rfl, by simp⟩
  · subst h
    exact ⟨rfl, by simp⟩
  · cases h

end Flight

/-- A write the screen has issued: one nobody waits for, or one of a send. -/
inductive Pending where
  | write (w : DbWrite)
  | send (f : Flight)
  deriving DecidableEq, Repr

/-- The sheet a long press opens: the row it was made on, and whether it offers `Edit`. -/
structure Sheet where
  indexPath : Nat
  edit : Bool
  deriving DecidableEq, Repr

/-- `MessageSendVC`, with what it has asked for and not been answered.  The names of its nodes are no part of the state:
every `setParams` computes the same ones. -/
structure MessageSendVC where
  msgdataSource : List ChatModel := []
  edtMsgSend : String := ""
  isEdit : Bool := false
  edtIndex : Nat := 0
  isBlock : String := "false"
  isdosending : Bool := false
  downloadURL : Option String := none
  sheet : Option Sheet := none
  statusQueries : List MsgType := []
  outstanding : List Pending := []
  crashed : Bool := false
  deriving DecidableEq, Repr

/-- What happens to a chat screen. -/
inductive ScreenEvent where
  | viewWillAppear (now : Int)
  | viewDidDisappear (now : Int)
  | addTappedLeftBtn (now : Int)
  | type (text : String)
  | sendAction
  | postImageBtnclicked
  | uploaded (url : String)
  | statusReply (i : Nat) (snapshot : List String) (now : Int)
  | settle (i : Nat) (ok : Bool)
  | childAdded (key : Key) (snapshot : Record)
  | longpress (indexPath : Nat)
  | sheetEdit
  | sheetRemove
  | sheetCancel
  deriving DecidableEq, Repr

abbrev Screen := Firebase × MessageSendVC

namespace MessageSendVC

section
variable (me partner : Profile)

/-- `setParams`: the list is emptied, the message listener will fill it again. -/
def setParams (now : Int) (fb : Firebase) (s : MessageSendVC) : Screen :=
  ({ fb with nextKey := fb.nextKey + 1 },
   { s with
     msgdataSource := []
     outstanding := s.outstanding ++
       (setOnlinestatus4me me.userId partner.userId (now * 1000) (.auto fb.nextKey)).map .write })

def viewDidDisappear (now : Int) (fb : Firebase) (s : MessageSendVC) : Screen :=
  ({ fb with nextKey := fb.nextKey + 1 },
   { s with outstanding := s.outstanding ++
       (setOfflinestatus4me me.userId partner.userId (now * 1000) (.auto fb.nextKey)).map .write })

/-- `addTappedLeftBtn`; the writes of a screen that is gone still go out. -/
def addTappedLeftBtn (now : Int) (fb : Firebase) (s : MessageSendVC) : Screen :=
  ({ fb with nextKey := fb.nextKey + 1 },
   { s with outstanding := s.outstanding ++
       (setOfflinestatus4me me.userId partner.userId (now * 1000) (.auto fb.nextKey) ++
         removeNode4me4finish me.userId partner.userId).map .write })

/-- `sendAction`: an edit is written at once, a new text waits for the partner's status. -/
def sendAction (s : MessageSendVC) : MessageSendVC :=
  if s.isEdit then
    match s.msgdataSource[s.edtIndex]? with
    | none => { s with crashed := true }
    | some entry =>
      { s with
        outstanding := s.outstanding ++
          [.write (editWrite me (setParamsRoom me.userId partner.userId) entry.msgId s.edtMsgSend entry.timestamp)]
        msgdataSource := s.msgdataSource.set s.edtIndex { entry with msgContent := s.edtMsgSend }
        edtMsgSend := ""
        edtIndex := 0
        isEdit := false }
  else if s.edtMsgSend = "" then s
  else { s with statusQueries := s.statusQueries ++ [.text] }

/-- `doSend`.  The lock is taken before the attachment is looked at, and kept on the empty one. -/
def doSend (_online : Bool) (msgtype : MsgType) (attachment : String) (now : Int) (fb : Firebase) (s : MessageSendVC) :
    Screen :=
  if s.isBlock = "true" then
    (fb, { s with edtMsgSend := if msgtype = .text then "" else s.edtMsgSend, isdosending := false })
  else if s.isdosending then (fb, s)
  else if msgtype = .text ∧ attachment = "" then (fb, { s with isdosending := true })
  else
    ({ fb with nextKey := fb.nextKey + 1 },
     { s with
       isdosending := true
       outstanding := s.outstanding ++
         [.send { send := send me partner msgtype attachment (now * 1000) (.auto fb.nextKey) }] })

/-- The completion `sendAction` and `postImageBtnclicked` pass to `getPartnerOnlineStatus`. -/
def statusCompletion (msgtype : MsgType) (now : Int) (x : Screen) (online : Bool) : Screen :=
  match msgtype with
  | .text => doSend me partner online .text x.2.edtMsgSend now x.1 { x.2 with edtMsgSend := "" }
  | _ =>
    match x.2.downloadURL with
    | none => x
    | some url => doSend me partner online .image url now x.1 x.2

/-- The calls `getPartnerOnlineStatus` makes of its completion: one for each record found, one where there is none. -/
def getPartnerOnlineStatus (snapshot : List String) : List Bool :=
  if snapshot = [] then [false] else snapshot.map fun online => online = "online"

/-- The answer to the `i`-th status query. -/
def statusReply (i : Nat) (snapshot : List String) (now : Int) (fb : Firebase) (s : MessageSendVC) : Screen :=
  match s.statusQueries[i]? with
  | none => (fb, s)
  | some msgtype =>
    (getPartnerOnlineStatus snapshot).foldl (statusCompletion me partner msgtype now)
      (fb, { s with statusQueries := s.statusQueries.eraseIdx i })

def settle (i : Nat) (ok : Bool) (fb : Firebase) (s : MessageSendVC) : Screen :=
  match s.outstanding[i]? with
  | none => (fb, s)
  | some (.write w) =>
    (if ok then fb.apply w else fb, { s with outstanding := s.outstanding.eraseIdx i })
  | some (.send f) =>
    if ok then
      match f.next with
      | some f' => (fb.apply f.write, { s with outstanding := s.outstanding.eraseIdx i ++ [.send f'] })
      | none => (fb.apply f.write, { s with outstanding := s.outstanding.eraseIdx i, isdosending := false })
    else (fb, { s with outstanding := s.outstanding.eraseIdx i })

/-- `longpress`: only an own message opens the sheet, and only one without an image offers `Edit`. -/
def longpress (indexPath : Nat) (s : MessageSendVC) : MessageSendVC :=
  match s.msgdataSource[indexPath]? with
  | none => s
  | some entry => if entry.me then { s with sheet := some ⟨indexPath, entry.image = ""⟩ } else s

def sheetEdit (s : MessageSendVC) : MessageSendVC :=
  match s.sheet with
  | none => s
  | some sheet =>
    match s.msgdataSource[sheet.indexPath]? with
    | none => { s with sheet := none, crashed := true }
    | some entry =>
      { s with sheet := none, edtMsgSend := entry.msgContent, isEdit := true, edtIndex := sheet.indexPath }

def sheetRemove (s : MessageSendVC) : MessageSendVC :=
  match s.sheet with
  | none => s
  | some sheet =>
    match s.msgdataSource[sheet.indexPath]? with
    | none => { s with sheet := none, crashed := true }
    | some entry =>
      { s with
        sheet := none
        outstanding := s.outstanding ++
          [.write (removeWrite (setParamsRoom me.userId partner.userId) entry.msgId)]
        msgdataSource := s.msgdataSource.eraseIdx sheet.indexPath }

def act (fb : Firebase) (s : MessageSendVC) : ScreenEvent → Screen
  | .viewWillAppear now => setParams me partner now fb s
  | .viewDidDisappear now => viewDidDisappear me partner now fb s
  | .addTappedLeftBtn now => addTappedLeftBtn me partner now fb s
  | .type text => (fb, { s with edtMsgSend := text })
  | .sendAction => (fb, sendAction me partner s)
  | .postImageBtnclicked => (fb, { s with statusQueries := s.statusQueries ++ [.image] })
  | .uploaded url => (fb, { s with downloadURL := some url })
  | .statusReply i snapshot now => statusReply me partner i snapshot now fb s
  | .settle i ok => settle i ok fb s
  | .childAdded key snapshot => (fb, { s with msgdataSource := s.msgdataSource ++ [parseMsg me.userId key snapshot] })
  | .longpress indexPath => (fb, longpress indexPath s)
  | .sheetEdit => (fb, sheetEdit s)
  | .sheetRemove => (fb, sheetRemove me partner s)
  | .sheetCancel => (fb, { s with sheet := none })

end

/-- Whether the screen takes the event: nothing happens after a trap, and under the sheet the user reaches only the sheet. -/
def takes (s : MessageSendVC) (e : ScreenEvent) : Bool :=
  !s.crashed && match e with
    | .type _ | .sendAction | .postImageBtnclicked | .longpress _ | .addTappedLeftBtn _ => s.sheet.isNone
    | .sheetEdit => s.sheet.any Sheet.edit
    | .sheetRemove | .sheetCancel => s.sheet.isSome
    | _ => true

theorem crashed_of_takes {s : MessageSendVC} {e : ScreenEvent} (ht : s.takes e = true) : s.crashed = false := by
  simp only [takes, Bool.and_eq_true, Bool.not_eq_true'] at ht
  exact ht.1

/-- One step of a screen beside the database. -/
def step (me partner : Profile) (x : Screen) (e : ScreenEvent) : Screen :=
  if x.2.takes e then act me partner x.1 x.2 e else x

/-! ## What a step can do to the sends

Only the answer to a status query and the completion of a write reach the lock, the sends or the database.  Every other
event issues writes of its own at most (`Quiet`). -/

/-- The step leaves the database and the lock alone and issues the writes `ws`. -/
structure Quiet (x x' : Screen) (ws : List DbWrite) : Prop where
  db : x'.1.db = x.1.db
  nextKey : x.1.nextKey ≤ x'.1.nextKey
  isdosending : x'.2.isdosending = x.2.isdosending
  isBlock : x'.2.isBlock = x.2.isBlock
  outstanding : x'.2.outstanding = x.2.outstanding ++ ws.map .write

/-- The events that can reach the lock. -/
def ofSends : ScreenEvent → Bool
  | .statusReply .. | .settle .. => true
  | _ => false

/-- The writes an event other than an answer or a completion issues. -/
def issued (me partner : Profile) (x : Screen) : ScreenEvent → List DbWrite
  | .viewWillAppear now => setOnlinestatus4me me.userId partner.userId (now * 1000) (.auto x.1.nextKey)
  | .viewDidDisappear now => setOfflinestatus4me me.userId partner.userId (now * 1000) (.auto x.1.nextKey)
  | .addTappedLeftBtn now => setOfflinestatus4me me.userId partner.userId (now * 1000) (.auto x.1.nextKey) ++
      removeNode4me4finish me.userId partner.userId
  | .sendAction =>
    if x.2.isEdit then
      (x.2.msgdataSource[x.2.edtIndex]?).toList.map fun entry =>
        editWrite me (setParamsRoom me.userId partner.userId) entry.msgId x.2.edtMsgSend entry.timestamp
    else []
  | .sheetRemove =>
    (x.2.sheet.bind fun sheet => x.2.msgdataSource[sheet.indexPath]?).toList.map fun entry =>
      removeWrite (setParamsRoom me.userId partner.userId) entry.msgId
  | _ => []

theorem Quiet.nothing {x x' : Screen} (hfb : x'.1 = x.1) (hl : x'.2.isdosending = x.2.isdosending)
    (hb : x'.2.isBlock = x.2.isBlock) (ho : x'.2.outstanding = x.2.outstanding) : Quiet x x' [] where
  db := by rw [hfb]
  nextKey := by rw [hfb]
  isdosending := hl
  isBlock := hb
  outstanding := by rw [ho, List.map_nil, List.append_nil]

theorem step_quiet (me partner : Profile) {x : Screen} {e : ScreenEvent} (he : ofSends e = false)
    (ht : x.2.takes e = true) : Quiet x (step me partner x e) (issued me partner x e) := by
  rw [step, if_pos ht]
  cases e with
  | statusReply i snapshot now => exact absurd he (by simp [ofSends])
  | settle i ok => exact absurd he (by simp [ofSends])
  | viewWillAppear now => exact ⟨rfl, Nat.le_succ _, rfl, rfl, rfl⟩
  | viewDidDisappear now => exact ⟨rfl, Nat.le_succ _, rfl, rfl, rfl⟩
  | addTappedLeftBtn now => exact ⟨rfl, Nat.le_succ _, rfl, rfl, rfl⟩
  | sendAction =>
    simp only [act, sendAction, issued]
    split
    · cases hx : x.2.msgdataSource[x.2.edtIndex]? with
      | none => exact .nothing rfl rfl rfl rfl
      | some entry => exact ⟨rfl, Nat.le_refl _, rfl, rfl, rfl⟩
    · split <;> exact .nothing rfl rfl rfl rfl
  | sheetRemove =>
    simp only [act, sheetRemove, issued]
    cases hs : x.2.sheet with
    | none => exact .nothing rfl rfl rfl rfl
    | some sheet =>
      cases hx : x.2.msgdataSource[sheet.indexPath]? with
      | none =>
        simp only [hx, Option.bind_some]
        exact .nothing rfl rfl rfl rfl
      | some entry =>
        simp only [hx, Option.bind_some]
        exact ⟨rfl, Nat.le_refl _, rfl, rfl, rfl⟩
  | sheetEdit =>
    simp only [act, sheetEdit, issued]
    split
    · exact .nothing rfl rfl rfl rfl
    · split <;> exact .nothing rfl rfl rfl rfl
  | longpress indexPath =>
    simp only [act, longpress, issued]
    split
    · exact .nothing rfl rfl rfl rfl
    · split <;> exact .nothing rfl rfl rfl rfl
  | _ => exact .nothing rfl rfl rfl rfl

/-- Nothing but an edit or a removal that an event issues touches a room. -/
theorem issued_room {me partner : Profile} {x : Screen} {e : ScreenEvent} {w : DbWrite} (hw : w ∈ issued me partner x e) :
    (∀ room, ¬ PathTree.Overlap w.path (messagePath room)) ∨
      (∃ entry, e = .sendAction ∧ x.2.isEdit = true ∧ x.2.msgdataSource[x.2.edtIndex]? = some entry ∧
        w = editWrite me (setParamsRoom me.userId partner.userId) entry.msgId x.2.edtMsgSend entry.timestamp) ∨
      ∃ entry, e = .sheetRemove ∧ x.2.sheet.bind (fun sheet => x.2.msgdataSource[sheet.indexPath]?) = some entry ∧
        w = removeWrite (setParamsRoom me.userId partner.userId) entry.msgId := by
  have hstatus : ∀ online timeNow key, ∀ w ∈ setStatus4me me.userId partner.userId online timeNow key,
      ∀ room, ¬ PathTree.Overlap w.path (messagePath room) := fun online timeNow key w hw room => by
    simp only [setStatus4me, List.mem_cons, List.not_mem_nil, or_false] at hw
    rcases hw with rfl | rfl <;> simp [statusPath, messagePath, PathTree.overlap_cons]
  cases e with
  | viewWillAppear now => exact .inl (hstatus _ _ _ w hw)
  | viewDidDisappear now => exact .inl (hstatus _ _ _ w hw)
  | addTappedLeftBtn now =>
    rcases List.mem_append.1 hw with hw | hw
    · exact .inl (hstatus _ _ _ w hw)
    · rw [List.mem_singleton.1 hw]
      exact .inl fun room => by simp [requestPath, messagePath, PathTree.overlap_cons]
  | sendAction =>
    simp only [issued] at hw
    split at hw
    · rename_i hedit
      obtain ⟨entry, hentry, rfl⟩ := List.mem_map.1 hw
      exact .inr (.inl ⟨entry, rfl, hedit, Option.mem_toList.1 hentry, rfl⟩)
    · cases hw
  | sheetRemove =>
    obtain ⟨entry, hentry, rfl⟩ := List.mem_map.1 hw
    exact .inr (.inr ⟨entry, rfl, Option.mem_toList.1 hentry, rfl⟩)
  | _ => cases hw

theorem step_of_not_takes (me partner : Profile) {x : Screen} {e : ScreenEvent} (ht : ¬ x.2.takes e = true) :
    step me partner x e = x := if_neg ht

/-! ### What a step does to the list -/

/-- **What an event other than an answer or a completion does to the list** of a screen that stays open: nothing, or the row
at the remembered position is edited, or a row is removed. -/
inductive ListMove (me partner : Profile) (x : Screen) (e : ScreenEvent) (x' : Screen) (ws : List DbWrite) : Prop where
  | kept (hrows : x'.2.msgdataSource = x.2.msgdataSource)
      (hws : ∀ w ∈ ws, ∀ room, ¬ PathTree.Overlap w.path (messagePath room))
  | edited (entry : ChatModel) (he : e = .sendAction) (hedit : x.2.isEdit = true)
      (hentry : x.2.msgdataSource[x.2.edtIndex]? = some entry)
      (hrows : x'.2.msgdataSource = x.2.msgdataSource.set x.2.edtIndex { entry with msgContent := x.2.edtMsgSend })
      (hws : ws = [editWrite me (setParamsRoom me.userId partner.userId) entry.msgId x.2.edtMsgSend entry.timestamp])
  | removed (i : Nat) (entry : ChatModel) (hentry : x.2.msgdataSource[i]? = some entry)
      (hrows : x'.2.msgdataSource = x.2.msgdataSource.eraseIdx i)
      (hws : ws = [removeWrite (setParamsRoom me.userId partner.userId) entry.msgId])

theorem listMove (me partner : Profile) {x : Screen} {e : ScreenEvent} (he : ofSends e = false)
    (hopen : ∀ now, e ≠ .viewWillAppear now) (hadded : ∀ key snapshot, e ≠ .childAdded key snapshot)
    (ht : x.2.takes e = true) :
    ListMove me partner x e (step me partner x e) (issued me partner x e) := by
  have hroom : ∀ w ∈ issued me partner x e, e ≠ .sendAction → e ≠ .sheetRemove →
      ∀ room, ¬ PathTree.Overlap w.path (messagePath room) := by
    intro w hw hedit hremove
    rcases issued_room hw with h | ⟨_, h, -⟩ | ⟨_, h, -⟩
    · exact h
    · exact absurd h hedit
    · exact absurd h hremove
  rw [step, if_pos ht]
  cases e with
  | statusReply => cases he
  | settle => cases he
  | viewWillAppear now => exact absurd rfl (hopen now)
  | childAdded key snapshot => exact absurd rfl (hadded key snapshot)
  | sendAction =>
    simp only [act, sendAction, issued]
    by_cases hedit : x.2.isEdit = true
    · rw [if_pos hedit, if_pos hedit]
      cases hentry : x.2.msgdataSource[x.2.edtIndex]? with
      | none => exact .kept rfl fun _ hw => absurd hw List.not_mem_nil
      | some entry => exact .edited entry rfl hedit hentry rfl rfl
    · rw [if_neg hedit, if_neg hedit]
      split <;> exact .kept rfl fun _ hw => absurd hw List.not_mem_nil
  | sheetRemove =>
    simp only [act, sheetRemove, issued]
    cases hs : x.2.sheet with
    | none => exact .kept rfl fun _ hw => absurd hw List.not_mem_nil
    | some sheet =>
      rw [Option.bind_some]
      cases hentry : x.2.msgdataSource[sheet.indexPath]? with
      | none =>
        simp only [hentry]
        exact .kept rfl fun _ hw => absurd hw List.not_mem_nil
      | some entry =>
        simp only [hentry]
        exact .removed sheet.indexPath entry hentry rfl rfl
  | longpress indexPath =>
    refine .kept ?_ fun w hw => hroom w hw (by simp) (by simp)
    simp only [act, longpress]
    split
    · rfl
    · split <;> rfl
  | sheetEdit =>
    refine .kept ?_ fun w hw => hroom w hw (by simp) (by simp)
    simp only [act, sheetEdit]
    split
    · rfl
    · split <;> rfl
  | _ => exact .kept rfl fun w hw => hroom w hw (by simp) (by simp)

/-! ### `doSend` -/

section DoSend
variable (me partner : Profile) (online : Bool) {msgtype : MsgType} {attachment : String} (now : Int) (fb : Firebase)
  {s : MessageSendVC}

theorem doSend_locked (hb : s.isBlock ≠ "true") (hl : s.isdosending = true) :
    doSend me partner online msgtype attachment now fb s = (fb, s) := by
  rw [doSend, if_neg hb, if_pos hl]

theorem doSend_empty (hb : s.isBlock ≠ "true") (hl : s.isdosending = false) :
    doSend me partner online .text "" now fb s = (fb, { s with isdosending := true }) := by
  rw [doSend, if_neg hb, if_neg (by simp [hl]), if_pos ⟨rfl, rfl⟩]

theorem doSend_start (hb : s.isBlock ≠ "true") (hl : s.isdosending = false)
    (ha : ¬ (msgtype = .text ∧ attachment = "")) :
    doSend me partner online msgtype attachment now fb s =
      ({ fb with nextKey := fb.nextKey + 1 },
       { s with
         isdosending := true
         outstanding := s.outstanding ++
           [.send { send := send me partner msgtype attachment (now * 1000) (.auto fb.nextKey) }] }) := by
  rw [doSend, if_neg hb, if_neg (by simp [hl]), if_neg ha]

/-- Whatever it is given, `doSend` ends with the lock taken, and touches neither the field nor the block state. -/
theorem doSend_lock (msgtype : MsgType) (attachment : String) (hb : s.isBlock ≠ "true") :
    (doSend me partner online msgtype attachment now fb s).2.isdosending = true ∧
    (doSend me partner online msgtype attachment now fb s).2.isBlock = s.isBlock ∧
    (doSend me partner online msgtype attachment now fb s).2.edtMsgSend = s.edtMsgSend ∧
    (doSend me partner online msgtype attachment now fb s).2.downloadURL = s.downloadURL := by
  cases hl : s.isdosending with
  | true => rw [doSend_locked _ _ _ _ _ hb hl]; exact ⟨hl, rfl, rfl, rfl⟩
  | false =>
    by_cases ha : msgtype = .text ∧ attachment = ""
    · obtain ⟨rfl, rfl⟩ := ha
      rw [doSend_empty _ _ _ _ _ hb hl]
      exact ⟨rfl, rfl, rfl, rfl⟩
    · rw [doSend_start _ _ _ _ _ hb hl ha]
      exact ⟨rfl, rfl, rfl, rfl⟩

end DoSend

/-! ### The answer to a status query -/

section StatusReply
variable (me partner : Profile)

/-- A completion that finds the field empty and the lock taken does nothing. -/
theorem statusCompletion_of_locked (msgtype : MsgType) (now : Int) {x : Screen} (hb : x.2.isBlock ≠ "true")
    (hl : x.2.isdosending = true) (ht : x.2.edtMsgSend = "") (online : Bool) :
    statusCompletion me partner msgtype now x online = x := by
  obtain ⟨fb, s⟩ := x
  have hs : { s with edtMsgSend := "" } = s := by rw [← ht]
  cases msgtype with
  | text =>
    simp only [statusCompletion, hs]
    exact doSend_locked _ _ _ _ _ hb hl
  | _ =>
    simp only [statusCompletion]
    cases s.downloadURL with
    | none => rfl
    | some url => exact doSend_locked _ _ _ _ _ hb hl

theorem statusCompletion_twice (msgtype : MsgType) (now : Int) {x : Screen} (hb : x.2.isBlock ≠ "true")
    (online online' : Bool) :
    statusCompletion me partner msgtype now (statusCompletion me partner msgtype now x online) online' =
      statusCompletion me partner msgtype now x online := by
  obtain ⟨fb, s⟩ := x
  have himage : ∀ url, s.downloadURL = some url →
      (match (doSend me partner online .image url now fb s).2.downloadURL with
        | none => doSend me partner online .image url now fb s
        | some url' => doSend me partner online' .image url' now (doSend me partner online .image url now fb s).1
            (doSend me partner online .image url now fb s).2) = doSend me partner online .image url now fb s := by
    intro url hu
    obtain ⟨hl, hb', -, hu'⟩ := doSend_lock me partner online now fb .image url hb
    rw [hu', hu]
    exact doSend_locked _ _ _ _ _ (by rwa [hb']) hl
  cases msgtype with
  | text =>
    have hb0 : ({ s with edtMsgSend := "" } : MessageSendVC).isBlock ≠ "true" := hb
    obtain ⟨hl, hb', ht, -⟩ := doSend_lock me partner online now fb .text s.edtMsgSend hb0
    exact statusCompletion_of_locked me partner .text now (x := statusCompletion me partner .text now (fb, s) online)
      (by rw [statusCompletion]; rwa [hb']) hl ht online'
  | image =>
    simp only [statusCompletion]
    cases hu : s.downloadURL with
    | none => simp only [hu]
    | some url => exact himage url hu
  | gif =>
    simp only [statusCompletion]
    cases hu : s.downloadURL with
    | none => simp only [hu]
    | some url => exact himage url hu

private theorem foldl_statusCompletion (msgtype : MsgType) (now : Int) (online : Bool) :
    ∀ (onlines : List Bool) {x : Screen}, x.2.isBlock ≠ "true" →
      onlines.foldl (statusCompletion me partner msgtype now) (statusCompletion me partner msgtype now x online) =
        statusCompletion me partner msgtype now x online
  | [], _, _ => rfl
  | o :: onlines, x, hb => by
    rw [List.foldl_cons, statusCompletion_twice me partner msgtype now hb]
    exact foldl_statusCompletion msgtype now online onlines hb

/-- **An answer acts once**, however many records it found. -/
theorem statusReply_eq {i : Nat} {snapshot : List String} {now : Int} {fb : Firebase} {s : MessageSendVC}
    (hb : s.isBlock ≠ "true") {msgtype : MsgType} (hq : s.statusQueries[i]? = some msgtype) :
    statusReply me partner i snapshot now fb s =
      statusCompletion me partner msgtype now (fb, { s with statusQueries := s.statusQueries.eraseIdx i }) false := by
  simp only [statusReply, hq]
  cases hs : getPartnerOnlineStatus snapshot with
  | nil =>
    simp only [getPartnerOnlineStatus] at hs
    split at hs
    · cases hs
    · rename_i h
      exact absurd (List.map_eq_nil_iff.1 hs) h
  | cons online onlines =>
    rw [List.foldl_cons]
    have hb' : (fb, { s with statusQueries := s.statusQueries.eraseIdx i }).2.isBlock ≠ "true" := hb
    exact foldl_statusCompletion me partner msgtype now online onlines hb'

/-- What each completion keeps, the completions of an answer keep. -/
theorem foldl_statusCompletion_of {R : MessageSendVC → MessageSendVC → Prop} (hrefl : ∀ s, R s s)
    (htrans : ∀ s s' s'', R s s' → R s' s'' → R s s'') {msgtype : MsgType} {now : Int}
    (hstep : ∀ x online, R x.2 (statusCompletion me partner msgtype now x online).2) :
    ∀ (onlines : List Bool) (x : Screen), R x.2 (onlines.foldl (statusCompletion me partner msgtype now) x).2
  | [], x => hrefl x.2
  | online :: onlines, x =>
    htrans _ _ _ (hstep x online) (foldl_statusCompletion_of hrefl htrans hstep onlines _)

end StatusReply

/-! ### The sends leave the list alone -/

/-- The list, the edit and the sheet are the same. -/
structure SameEdit (s s' : MessageSendVC) : Prop where
  msgdataSource : s'.msgdataSource = s.msgdataSource
  isEdit : s'.isEdit = s.isEdit
  edtIndex : s'.edtIndex = s.edtIndex
  sheet : s'.sheet = s.sheet
  crashed : s'.crashed = s.crashed

theorem SameEdit.refl (s : MessageSendVC) : SameEdit s s := ⟨rfl, rfl, rfl, rfl, rfl⟩

theorem SameEdit.trans {s s' s'' : MessageSendVC} (h : SameEdit s s') (h' : SameEdit s' s'') : SameEdit s s'' :=
  ⟨h'.msgdataSource.trans h.msgdataSource, h'.isEdit.trans h.isEdit, h'.edtIndex.trans h.edtIndex,
    h'.sheet.trans h.sheet, h'.crashed.trans h.crashed⟩

section SameEdit
variable (me partner : Profile)

theorem doSend_sameEdit (online : Bool) (msgtype : MsgType) (attachment : String) (now : Int) (fb : Firebase)
    (s : MessageSendVC) : SameEdit s (doSend me partner online msgtype attachment now fb s).2 := by
  unfold doSend
  split
  · exact ⟨rfl, rfl, rfl, rfl, rfl⟩
  · split
    · exact .refl s
    · split <;> exact ⟨rfl, rfl, rfl, rfl, rfl⟩

theorem statusCompletion_sameEdit (msgtype : MsgType) (now : Int) (x : Screen) (online : Bool) :
    SameEdit x.2 (statusCompletion me partner msgtype now x online).2 := by
  cases msgtype with
  | text =>
    have h := doSend_sameEdit me partner online .text x.2.edtMsgSend now x.1 { x.2 with edtMsgSend := "" }
    exact ⟨h.msgdataSource, h.isEdit, h.edtIndex, h.sheet, h.crashed⟩
  | _ =>
    simp only [statusCompletion]
    cases x.2.downloadURL with
    | none => exact .refl _
    | some url => exact doSend_sameEdit me partner online .image url now x.1 x.2

theorem step_sameEdit (x : Screen) {e : ScreenEvent} (he : ofSends e = true) :
    SameEdit x.2 (step me partner x e).2 := by
  by_cases ht : x.2.takes e = true
  case neg => rw [step_of_not_takes me partner ht]; exact .refl x.2
  rw [step, if_pos ht]
  cases e with
  | statusReply i snapshot now =>
    simp only [act, statusReply]
    split
    · exact .refl x.2
    · rename_i msgtype _
      have h := foldl_statusCompletion_of me partner .refl (fun _ _ _ => .trans)
        (statusCompletion_sameEdit me partner msgtype now) (getPartnerOnlineStatus snapshot)
        (x.1, { x.2 with statusQueries := x.2.statusQueries.eraseIdx i })
      exact ⟨h.msgdataSource, h.isEdit, h.edtIndex, h.sheet, h.crashed⟩
  | settle i ok =>
    simp only [act, settle]
    split
    · exact .refl x.2
    · exact ⟨rfl, rfl, rfl, rfl, rfl⟩
    · split
      · split <;> exact ⟨rfl, rfl, rfl, rfl, rfl⟩
      · exact ⟨rfl, rfl, rfl, rfl, rfl⟩
  | _ => cases he

end SameEdit

/-! ### The address remembered and the status queries -/

/-- The address, the queries and the block state are the same. -/
structure SamePost (s s' : MessageSendVC) : Prop where
  downloadURL : s'.downloadURL = s.downloadURL
  statusQueries : s'.statusQueries = s.statusQueries
  isBlock : s.isBlock = "false" → s'.isBlock = "false"

theorem SamePost.refl (s : MessageSendVC) : SamePost s s := ⟨rfl, rfl, id⟩

theorem SamePost.trans {s s' s'' : MessageSendVC} (h : SamePost s s') (h' : SamePost s' s'') : SamePost s s'' :=
  ⟨h'.downloadURL.trans h.downloadURL, h'.statusQueries.trans h.statusQueries, h'.isBlock ∘ h.isBlock⟩

section SamePost
variable (me partner : Profile)

theorem doSend_samePost (online : Bool) (msgtype : MsgType) (attachment : String) (now : Int) (fb : Firebase)
    (s : MessageSendVC) : SamePost s (doSend me partner online msgtype attachment now fb s).2 := by
  unfold doSend
  split_ifs <;> exact ⟨rfl, rfl, id⟩

theorem statusCompletion_samePost (msgtype : MsgType) (now : Int) (x : Screen) (online : Bool) :
    SamePost x.2 (statusCompletion me partner msgtype now x online).2 := by
  cases msgtype with
  | text =>
    have h := doSend_samePost me partner online .text x.2.edtMsgSend now x.1 { x.2 with edtMsgSend := "" }
    exact ⟨h.downloadURL, h.statusQueries, h.isBlock⟩
  | _ =>
    simp only [statusCompletion]
    split
    · exact .refl x.2
    · exact doSend_samePost me partner online .image _ now x.1 x.2

/-- **An answer takes its query off the list**, and leaves the address alone. -/
theorem statusReply_samePost (i : Nat) (snapshot : List String) (now : Int) (fb : Firebase) (s : MessageSendVC) :
    SamePost { s with statusQueries := s.statusQueries.eraseIdx i }
      (statusReply me partner i snapshot now fb s).2 := by
  simp only [statusReply]
  split
  · rename_i hq
    rw [List.eraseIdx_of_length_le (List.getElem?_eq_none_iff.1 hq)]
    exact .refl s
  · rename_i msgtype hq
    exact foldl_statusCompletion_of me partner .refl (fun _ _ _ => .trans)
      (statusCompletion_samePost me partner msgtype now) (getPartnerOnlineStatus snapshot)
      (fb, { s with statusQueries := s.statusQueries.eraseIdx i })

/-- Every other event of the screen leaves the address and the queries alone, or adds a query. -/
theorem step_samePost {x : Screen} {e : ScreenEvent} (hreply : ∀ i snapshot now, e ≠ .statusReply i snapshot now)
    (huploaded : ∀ url, e ≠ .uploaded url) :
    ∃ new, SamePost { x.2 with statusQueries := x.2.statusQueries ++ new } (step me partner x e).2 := by
  have hnil := (List.append_nil x.2.statusQueries).symm
  by_cases ht : x.2.takes e = true
  case neg => exact ⟨[], by rw [step_of_not_takes me partner ht]; exact ⟨rfl, hnil, id⟩⟩
  rw [step, if_pos ht]
  cases e with
  | statusReply i snapshot now => exact absurd rfl (hreply i snapshot now)
  | uploaded url => exact absurd rfl (huploaded url)
  | postImageBtnclicked => exact ⟨[.image], rfl, rfl, id⟩
  | sendAction =>
    simp only [act, sendAction]
    split
    · split <;> exact ⟨[], rfl, hnil, id⟩
    · split
      · exact ⟨[], rfl, hnil, id⟩
      · exact ⟨[.text], rfl, rfl, id⟩
  | settle i ok =>
    refine ⟨[], ?_⟩
    simp only [act, settle]
    split
    · exact ⟨rfl, hnil, id⟩
    · exact ⟨rfl, hnil, id⟩
    · split
      · split <;> exact ⟨rfl, hnil, id⟩
      · exact ⟨rfl, hnil, id⟩
  | longpress indexPath =>
    refine ⟨[], ?_⟩
    simp only [act, longpress]
    split
    · exact ⟨rfl, hnil, id⟩
    · split <;> exact ⟨rfl, hnil, id⟩
  | sheetEdit =>
    refine ⟨[], ?_⟩
    simp only [act, sheetEdit]
    split
    · exact ⟨rfl, hnil, id⟩
    · split <;> exact ⟨rfl, hnil, id⟩
  | sheetRemove =>
    refine ⟨[], ?_⟩
    simp only [act, sheetRemove]
    split
    · exact ⟨rfl, hnil, id⟩
    · split <;> exact ⟨rfl, hnil, id⟩
  | _ => exact ⟨[], rfl, hnil, id⟩

end SamePost

end MessageSendVC
end Traveller
