import Traveller.ChatSends
/-!
# OpenRoom — two participants in one room

Both have the chat open and listen to `.childAdded` of its room; nothing listens to a change or a removal, though both are
made.  A device sees the database with its own outstanding writes already in it (`OpenRoom.view`), and its listener is told
of every message once, as it is seen then; what becomes of the message later reaches the list only by the own edits and
removals of the screen.

`Shows` says what a list shows: the messages its listener was told of that are still there, as the device sees them.  It is
kept by what leaves those messages alone, by an edit or a removal of a row and of its message, and by a message that is told
of after all others.
-/
namespace Traveller

/-- The database, the two screens, and of which messages each listener was told. -/
structure OpenRoom where
  fb : Firebase := {}
  screen : Side → MessageSendVC := fun _ => {}
  told : Side → List Nat := fun _ => []

/-- What happens: an event of a screen that stays open, and the listener's event for a message that has appeared.
`childRemoved` is the database's own event for one that has gone, which no handler takes. -/
inductive RoomEvent where
  | act (who : Side) (e : ScreenEvent)
  | childAdded (who : Side) (n : Nat)
  | childRemoved (who : Side) (n : Nat)
  deriving DecidableEq, Repr

namespace OpenRoom

/-- The database as a device sees it. -/
def view (y : OpenRoom) (who : Side) : Database := y.fb.db.applyAll ((y.screen who).outstanding.map Pending.dbWrite)

def put (y : OpenRoom) (who : Side) (x : Screen) (told : List Nat) : OpenRoom where
  fb := x.1
  screen := Function.update y.screen who x.2
  told := Function.update y.told who told

section
variable (users : Side → Profile)

/-- Where the message of a key is. -/
def messageNode (key : Key) : Path := messagePath (pairRoom users) ++ [key]

def Present (db : Database) (key : Key) : Prop := (db.below (messageNode users key)).leaves ≠ []

instance (db : Database) (key : Key) : Decidable (Present users db key) := inferInstanceAs (Decidable (_ ≠ _))

/-- The `n`-th message of the room, as the device of a participant reads it. -/
def message (who : Side) (db : Database) (n : Nat) : Option ChatModel :=
  if Present users db (.auto n) then
    some (parseMsg (users who).userId (.auto n) (db.below (messageNode users (.auto n))).record)
  else none

def step (y : OpenRoom) : RoomEvent → OpenRoom
  | .act _ (.viewWillAppear _) | .act _ (.childAdded _ _) => y
  | .act who e => y.put who (MessageSendVC.step (users who) (users who.other) (y.fb, y.screen who) e) (y.told who)
  | .childAdded who n =>
    if Present users (y.view who) (.auto n) ∧ n ∉ y.told who then
      y.put who (MessageSendVC.step (users who) (users who.other) (y.fb, y.screen who)
        (.childAdded (.auto n) ((y.view who).below (messageNode users (.auto n))).record)) (n :: y.told who)
    else y
  | .childRemoved who n =>
    if Present users (y.view who) (.auto n) then y
    else y.put who (y.fb, y.screen who) ((y.told who).filter (· ≠ n))

/-- **Everything is delivered**: no write to the room is outstanding, and the listeners were told of what is there. -/
def Delivered (y : OpenRoom) : Prop :=
  ∀ who, (∀ p ∈ (y.screen who).outstanding, ¬ PathTree.Overlap p.dbWrite.path (messagePath (pairRoom users))) ∧
    ∀ n, n ∈ y.told who ↔ Present users y.fb.db (.auto n)

/-- **Both lists are the room**: each message there is once, in key order, as it is stored. -/
def Mirrors (y : OpenRoom) : Prop :=
  ∀ who, (y.screen who).crashed = false →
    ∃ ns : List Nat, ns.Pairwise (· < ·) ∧ (∀ key, Present users y.fb.db key ↔ ∃ n ∈ ns, key = .auto n) ∧
      (y.screen who).msgdataSource.map some = ns.map (message users who y.fb.db)

/-- A text of the user's own, under his present name and photo. -/
def OwnText (me : Profile) (entry : ChatModel) : Prop :=
  entry.me = true ∧ entry.image = "" ∧ entry.name = me.fullName ∧ entry.photo = me.userPhoto.getD ""

/-- **Nothing changes behind a listener**: a write that succeeds is the first of its message and the other listener was not
told of it, one that fails is to a message the own listener was not told of, an edit is of a text of the user's own, and a
new message comes after those that are there. -/
def KeepsMirror (y : OpenRoom) : RoomEvent → Prop
  | .act who (.settle i ok) => ∀ p n, (y.screen who).outstanding[i]? = some p → p.dbWrite.path = messageNode users (.auto n) →
      if ok then n ∉ y.told who.other ∧
        ∀ q ∈ (y.screen who).outstanding.take i, q.dbWrite.path ≠ messageNode users (.auto n)
      else n ∉ y.told who
  | .act who .sendAction => (y.screen who).takes .sendAction = true → (y.screen who).isEdit = true →
      ∀ entry, (y.screen who).msgdataSource[(y.screen who).edtIndex]? = some entry → OwnText (users who) entry
  | .childAdded who n => Present users (y.view who) (.auto n) → n ∉ y.told who →
      ∀ m ∈ y.told who, Present users (y.view who) (.auto m) → m < n
  | _ => True

/-- The messages of the room are named by keys that were made. -/
def KeyedRoom (fb : Firebase) : Prop := ∀ key, Present users fb.db key → ∃ n < fb.nextKey, key = .auto n

end

section Put
variable (y : OpenRoom) (who : Side) (x : Screen) (told : List Nat)

@[simp] theorem put_fb : (y.put who x told).fb = x.1 := rfl
@[simp] theorem put_screen : (y.put who x told).screen who = x.2 := Function.update_self ..
@[simp] theorem put_told : (y.put who x told).told who = told := Function.update_self ..
@[simp] theorem put_screen_other : (y.put who x told).screen who.other = y.screen who.other :=
  Function.update_of_ne who.ne_other.symm ..
@[simp] theorem put_told_other : (y.put who x told).told who.other = y.told who.other :=
  Function.update_of_ne who.ne_other.symm ..

theorem view_put : (y.put who x told).view who = x.1.db.applyAll (x.2.outstanding.map Pending.dbWrite) := by
  rw [view, put_fb, put_screen]

theorem view_put_other :
    (y.put who x told).view who.other = x.1.db.applyAll ((y.screen who.other).outstanding.map Pending.dbWrite) := by
  rw [view, put_fb, put_screen_other]

end Put

/-! ## Writes to the room -/

section Room
variable (users : Side → Profile)

/-- A write to no message, or to one that was made before `bound`. -/
def Keyed (bound : Nat) (w : DbWrite) : Prop :=
  ¬ PathTree.Overlap w.path (messagePath (pairRoom users)) ∨ ∃ n < bound, w.path = messageNode users (.auto n)

/-- The writes to one message. -/
def toNode (key : Key) (w : DbWrite) : Bool := w.path = messageNode users key

variable {users} {bound : Nat} {w : DbWrite}

theorem Keyed.mono {bound' : Nat} (h : bound ≤ bound') (hw : Keyed users bound w) : Keyed users bound' w := by
  rcases hw with hw | ⟨n, hn, hw⟩
  · exact .inl hw
  · exact .inr ⟨n, Nat.lt_of_lt_of_le hn h, hw⟩

theorem pairRoom_eq (users : Side → Profile) (who : Side) :
    setParamsRoom (users who).userId (users who.other).userId = pairRoom users := by
  cases who with
  | a => rfl
  | b => exact setParamsRoom_comm _ _

theorem not_overlap_messageNode {key key' : Key} (h : key ≠ key') :
    ¬ PathTree.Overlap (messageNode users key) (messageNode users key') := by
  rw [messageNode, messageNode, PathTree.overlap_append, PathTree.overlap_cons]
  exact fun ho => h ho.1

/-- A write is to a message or leaves it as it is. -/
theorem Keyed.toNode (hw : Keyed users bound w) {key : Key} (hto : ¬ toNode users key w = true) :
    ¬ PathTree.Overlap w.path (messageNode users key) := by
  rcases hw with hw | ⟨n, -, hw⟩
  · exact PathTree.not_overlap_append hw _
  · rw [hw]
    refine not_overlap_messageNode fun hkey => hto ?_
    rw [OpenRoom.toNode, hw, hkey]
    exact decide_eq_true rfl

theorem below_apply_of_not_toNode (hw : Keyed users bound w) {key : Key} (hto : w.path ≠ messageNode users key)
    (db : Database) : (db.apply w).below (messageNode users key) = db.below (messageNode users key) :=
  PathTree.Tree.below_apply_of_not_overlap (hw.toNode (by simpa [toNode] using hto))

/-- A message is as the writes to it leave it. -/
theorem below_applyAll_toNode {ws : List DbWrite} (hws : ∀ w ∈ ws, Keyed users bound w) (db : Database) (key : Key) :
    (db.applyAll ws).below (messageNode users key) =
      (db.applyAll (ws.filter (OpenRoom.toNode users key))).below (messageNode users key) :=
  PathTree.Tree.below_applyAll_filter fun w hw => (hws w hw).toNode

theorem below_applyAll_room {ws : List DbWrite}
    (hws : ∀ w ∈ ws, ¬ PathTree.Overlap w.path (messagePath (pairRoom users))) (db : Database) (key : Key) :
    (db.applyAll ws).below (messageNode users key) = db.below (messageNode users key) :=
  PathTree.Tree.below_applyAll_of_not_overlap fun w hw => PathTree.not_overlap_append (hws w hw) _

theorem KeyedRoom.apply {fb : Firebase} (h : KeyedRoom users fb) (hw : Keyed users fb.nextKey w) :
    KeyedRoom users (fb.apply w) := by
  intro key hkey
  by_cases hto : w.path = messageNode users key
  · rcases hw with hw | ⟨n, hn, hw⟩
    · refine absurd (.inr ?_) hw
      rw [hto]
      exact List.prefix_append _ _
    · refine ⟨n, hn, ?_⟩
      rw [hto, messageNode, messageNode] at hw
      exact (List.cons.inj (List.append_cancel_left hw)).1
  · rw [Present, Firebase.apply_db, below_apply_of_not_toNode hw hto] at hkey
    exact h key hkey

theorem message_congr {db db' : Database} {n : Nat}
    (h : db'.below (messageNode users (.auto n)) = db.below (messageNode users (.auto n))) (who : Side) :
    message users who db' n = message users who db n := by
  have hiff : Present users db' (.auto n) ↔ Present users db (.auto n) := by rw [Present, h, Present]
  by_cases hp : Present users db (.auto n)
  · rw [message, message, if_pos (hiff.2 hp), if_pos hp, h]
  · rw [message, message, if_neg (mt hiff.1 hp), if_neg hp]

theorem message_ne_none {db : Database} {n : Nat} (who : Side) :
    message users who db n ≠ none ↔ Present users db (.auto n) := by
  rw [message]
  split
  · exact iff_of_true (by simp) (by assumption)
  · exact iff_of_false (by simp) (by assumption)

theorem eq_of_message {db : Database} {who : Side} {n : Nat} {entry : ChatModel}
    (h : message users who db n = some entry) :
    entry = parseMsg (users who).userId (.auto n) (db.below (messageNode users (.auto n))).record := by
  rw [message] at h
  split at h
  · exact (Option.some.inj h).symm
  · cases h

end Room

/-! ## What a list shows -/

section Shows
variable (users : Side → Profile)

/-- The list is the messages `ns`, as the device sees them: those its listener was told of that are still there. -/
structure Shows (y : OpenRoom) (who : Side) (ns : List Nat) : Prop where
  sorted : ns.Pairwise (· < ·)
  mem : ∀ n, n ∈ ns ↔ n ∈ y.told who ∧ Present users (y.view who) (.auto n)
  rows : (y.screen who).msgdataSource.map some = ns.map (message users who (y.view who))

variable {users} {y y' : OpenRoom} {who : Side} {ns : List Nat}

/-- What leaves the messages a listener was told of as they are leaves what a list shows. -/
theorem Shows.congr (h : Shows users y who ns) (htold : y'.told who = y.told who)
    (hrows : (y'.screen who).msgdataSource = (y.screen who).msgdataSource)
    (hsame : ∀ n ∈ y.told who, message users who (y'.view who) n = message users who (y.view who) n) :
    Shows users y' who ns where
  sorted := h.sorted
  mem n := by
    rw [h.mem, htold]
    refine and_congr_right fun hn => ?_
    rw [← message_ne_none who, ← message_ne_none who, hsame n hn]
  rows := by
    rw [hrows, h.rows]
    exact List.map_congr_left fun n hn => (hsame n ((h.mem n).1 hn).1).symm

theorem Shows.nodup (h : Shows users y who ns) : ns.Nodup := h.sorted.imp Nat.ne_of_lt

theorem Shows.row (h : Shows users y who ns) {i : Nat} {entry : ChatModel}
    (hi : (y.screen who).msgdataSource[i]? = some entry) :
    ∃ n, ns[i]? = some n ∧ message users who (y.view who) n = some entry := by
  have hmap := congrArg (·[i]?) h.rows
  simp only [List.getElem?_map, hi, Option.map_some] at hmap
  obtain ⟨n, hn, hmessage⟩ := Option.map_eq_some_iff.1 hmap.symm
  exact ⟨n, hn, hmessage⟩

section Row
variable {i n : Nat} {entry : ChatModel}

/-- An edit of a row that is made of its message too. -/
theorem Shows.edited (h : Shows users y who ns) (hn : ns[i]? = some n)
    (hrows : (y'.screen who).msgdataSource = (y.screen who).msgdataSource.set i entry)
    (htold : y'.told who = y.told who)
    (hsame : ∀ m ≠ n, message users who (y'.view who) m = message users who (y.view who) m)
    (hnew : message users who (y'.view who) n = some entry) : Shows users y' who ns where
  sorted := h.sorted
  mem m := by
    rw [h.mem, htold]
    refine and_congr_right fun hm => ?_
    rw [← message_ne_none who, ← message_ne_none who]
    by_cases hmn : m = n
    · rw [hmn, hnew, message_ne_none]
      exact iff_of_true ((h.mem n).1 (List.mem_of_getElem? hn)).2 (by simp)
    · rw [hsame m hmn]
  rows := by
    obtain ⟨hi, rfl⟩ := List.getElem?_eq_some_iff.1 hn
    rw [hrows, List.map_set, h.rows]
    refine List.ext_getElem (by simp) fun j hj _ => ?_
    rw [List.getElem_set]
    split
    · rename_i hij
      subst hij
      rw [List.getElem_map, hnew]
    · rename_i hij
      rw [List.getElem_map, List.getElem_map, hsame]
      intro heq
      exact hij ((List.Nodup.getElem_inj_iff h.nodup).1 heq).symm

/-- The removal of a row whose message is removed too. -/
theorem Shows.removed (h : Shows users y who ns) (hn : ns[i]? = some n)
    (hrows : (y'.screen who).msgdataSource = (y.screen who).msgdataSource.eraseIdx i)
    (htold : y'.told who = y.told who)
    (hsame : ∀ m ≠ n, message users who (y'.view who) m = message users who (y.view who) m)
    (hgone : message users who (y'.view who) n = none) : Shows users y' who (ns.eraseIdx i) := by
  obtain ⟨hi, rfl⟩ := List.getElem?_eq_some_iff.1 hn
  have hmem : ∀ m, m ∈ ns.eraseIdx i ↔ m ≠ ns[i] ∧ m ∈ ns := fun m => by
    rw [← h.nodup.erase_getElem i hi, h.nodup.mem_erase_iff]
  refine ⟨h.sorted.sublist (List.eraseIdx_sublist ns i), fun m => ?_, ?_⟩
  · rw [hmem, h.mem, htold, ← message_ne_none who, ← message_ne_none who]
    by_cases hmn : m = ns[i]
    · subst hmn
      exact iff_of_false (fun hm => hm.1 rfl) fun hm => hm.2 hgone
    · rw [hsame m hmn]
      exact and_iff_right hmn
  · rw [hrows, ← List.eraseIdx_map, h.rows, List.eraseIdx_map]
    exact List.map_congr_left fun m hm => (hsame m ((hmem m).1 hm).1).symm

/-- A message the listener is told of, after all that are there. -/
theorem Shows.added (h : Shows users y who ns) (hn : n ∉ y.told who) (hlast : ∀ m ∈ ns, m < n)
    (hrows : (y'.screen who).msgdataSource = (y.screen who).msgdataSource ++ [entry])
    (htold : y'.told who = n :: y.told who) (hview : y'.view who = y.view who)
    (hentry : message users who (y.view who) n = some entry) : Shows users y' who (ns ++ [n]) where
  sorted := List.pairwise_append.2 ⟨h.sorted, List.pairwise_singleton _ _, fun m hm k hk => by
    rw [List.mem_singleton.1 hk]
    exact hlast m hm⟩
  mem m := by
    have hpresent : Present users (y.view who) (.auto n) := (message_ne_none who).1 (by rw [hentry]; simp)
    rw [List.mem_append, List.mem_singleton, h.mem, htold, hview, List.mem_cons]
    constructor
    · rintro (⟨hm, hp⟩ | rfl)
      · exact ⟨.inr hm, hp⟩
      · exact ⟨.inl rfl, hpresent⟩
    · rintro ⟨rfl | hm, hp⟩
      · exact .inr rfl
      · exact .inl ⟨hm, hp⟩
  rows := by
    rw [hrows, hview, List.map_append, List.map_append, h.rows]
    simp [hentry]

/-- A message that has gone is told of again if it comes back. -/
theorem Shows.untold (h : Shows users y who ns) (hn : ¬ Present users (y.view who) (.auto n))
    (hrows : (y'.screen who).msgdataSource = (y.screen who).msgdataSource)
    (htold : y'.told who = (y.told who).filter (· ≠ n)) (hview : y'.view who = y.view who) : Shows users y' who ns where
  sorted := h.sorted
  mem m := by
    rw [h.mem, htold, hview, List.mem_filter, decide_eq_true_eq, and_assoc]
    refine and_congr_right fun _ => ⟨fun hp => ⟨?_, hp⟩, fun hp => hp.2⟩
    rintro rfl
    exact hn hp
  rows := by rw [hrows, hview, h.rows]

end Row

/-- An edited text reads back as the row that was edited. -/
theorem parseMsg_editObject {me : Profile} {entry : ChatModel} {snapshot : Record} {key : Key}
    (hentry : entry = parseMsg me.userId key snapshot) (hown : OwnText me entry) (text : String) :
    parseMsg me.userId key (editObject me text entry.timestamp) = { entry with msgContent := text } := by
  obtain ⟨hme, himage, hname, hphoto⟩ := hown
  have hid : toString me.userId = (snapshot.field "sender_id").getD "" := by
    rw [hentry] at hme
    simpa [parseMsg] using hme
  rw [hentry] at himage hname hphoto ⊢
  simp only [parseMsg] at himage hname hphoto
  simp [parseMsg, editObject, himage, hname, hphoto, ← hid]

end Shows

end OpenRoom
end Traveller
