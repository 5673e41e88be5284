import Traveller.ChatSystem
import Traveller.Conversations
/-!
# ChatRefines — the chat is what it is for

The database's rooms are the conversations of their pairs of users (`Represents`): each message node holds a record whose
sender is the author.  Beside the system we keep who made each key and for what time (`Origin`); from it every outstanding
write is about its user's own messages (`WriteBy`), and so is what a listener is told of.

`chat_refines`: in every run of all devices in which edits and removals are made on own rows, each step is a step of the
conversations by the user of the device it is on.
-/
namespace Traveller

open Conversations

/-- The room of two users, in whatever order they are named. -/
def room : Sym2 Int → String := Sym2.lift ⟨setParamsRoom, setParamsRoom_comm⟩

/-- Where a message is. -/
def node (i : Sym2 Int × Key) : Path := messagePath (room i.1) ++ [i.2]

structure Content where
  text : String
  image : String
  deriving DecidableEq, Repr

abbrev ChatMessage := Message Int Int Content
abbrev ChatMessages := Messages Int Key Int Content

/-- A stored record is a message. -/
structure Holds (r : Record) (m : ChatMessage) : Prop where
  author : r.field "sender_id" = some (toString m.author)
  time : r.field "time" = some (toString m.time)
  text : r.field "message" = some m.content.text
  image : r.field "image" = some m.content.image

/-- **The rooms are the conversations.** -/
def Represents (db : Database) (R : ChatMessages) : Prop :=
  ∀ i, (db.table node i = none ∧ R i = none) ∨
    ∃ t m, db.table node i = some t ∧ R i = some m ∧ Holds t.record m

theorem room_inj {z z' : Sym2 Int} : room z = room z' ↔ z = z' := by
  induction z, z' using Sym2.inductionOn₂ with
  | _ a b c d =>
    rw [Sym2.eq_iff]
    exact setParamsRoom_inj

theorem node_mk (a b : Int) (key : Key) : node (s(a, b), key) = roomNode a b key := rfl

theorem node_apart : PathTree.Apart node := by
  rintro ⟨z, key⟩ ⟨z', key'⟩ ho
  simp only [node, messagePath, List.cons_append, List.nil_append, PathTree.overlap_cons, true_and] at ho
  rw [room_inj.1 (Key.child.inj ho.1), ho.2.1]

/-- A room removed takes its own messages and no others. -/
theorem table_clear (db : Database) (z : Sym2 Int) (i : Sym2 Int × Key) :
    (db.apply (.remove (messagePath (room z)))).table node i = if i.1 = z then none else db.table node i := by
  by_cases hi : i.1 = z
  · have hpre : messagePath (room z) <+: node i := by
      rw [← hi]
      exact List.prefix_append _ _
    rw [PathTree.Tree.table_remove_above (.inl hpre), if_pos hpre, if_pos hi]
  · have hne : ¬ PathTree.Overlap (messagePath (room z)) (node i) := by
      simp only [node, messagePath, List.cons_append, List.nil_append, PathTree.overlap_cons, true_and]
      exact fun ho => hi (room_inj.1 (Key.child.inj ho.1)).symm
    rw [PathTree.Tree.table_remove_above (.inr hne), if_neg fun h => hne (.inl h), if_neg hi]

theorem Holds.inj {r : Record} {m m' : ChatMessage} (h : Holds r m) (h' : Holds r m') : m = m' := by
  obtain ⟨author, time, ⟨text, image⟩⟩ := m
  obtain ⟨author', time', ⟨text', image'⟩⟩ := m'
  obtain rfl := toString_inj.1 (Option.some.inj (h.author.symm.trans h'.author))
  obtain rfl := toString_inj.1 (Option.some.inj (h.time.symm.trans h'.time))
  obtain rfl := Option.some.inj (h.text.symm.trans h'.text)
  obtain rfl := Option.some.inj (h.image.symm.trans h'.image)
  rfl

/-- **The database tells what the conversations are.** -/
theorem Represents.unique {db : Database} {R R' : ChatMessages} (h : Represents db R) (h' : Represents db R') : R = R' := by
  funext i
  rcases h i with ⟨hi, hR⟩ | ⟨t, m, hi, hR, hm⟩
  · rcases h' i with ⟨-, hR'⟩ | ⟨t', m', hi', -, -⟩
    · rw [hR, hR']
    · rw [hi] at hi'
      cases hi'
  · rcases h' i with ⟨hi', -⟩ | ⟨t', m', hi', hR', hm'⟩
    · rw [hi] at hi'
      cases hi'
    · rw [hi] at hi'
      obtain rfl := Option.some.inj hi'
      rw [hR, hR', hm.inj hm']

/-! ## Who made a key -/

/-- The user who made the key of a number, and the time of the message he made it for. -/
abbrev Origin := Nat → Int × Int

/-- **A write of the user `u`**: it touches no message, or one of his own, or it clears a room of his. -/
inductive WriteBy (g : Origin) (bound : Nat) (u : Int) : DbWrite → Prop where
  | elsewhere {w : DbWrite} (h : ∀ i, ¬ PathTree.Overlap w.path (node i)) : WriteBy g bound u w
  | record (z : Sym2 Int) (hz : u ∈ z) (n : Nat) (hn : n < bound) (r : Record) (m : ChatMessage) (hm : Holds r m)
      (hu : m.author = u) (hg : g n = (m.author, m.time)) : WriteBy g bound u (.set (node (z, .auto n)) r)
  | remove (z : Sym2 Int) (hz : u ∈ z) (n : Nat) (hn : n < bound) (hg : (g n).1 = u) :
      WriteBy g bound u (.remove (node (z, .auto n)))
  | clear (z : Sym2 Int) (hz : u ∈ z) : WriteBy g bound u (.remove (messagePath (room z)))

/-- Every stored message is its key's. -/
def RoomsBy (g : Origin) (bound : Nat) (db : Database) : Prop :=
  ∀ i t, db.table node i = some t →
    ∃ n < bound, i.2 = .auto n ∧ ∃ m : ChatMessage, Holds t.record m ∧ g n = (m.author, m.time)

section Writes
variable {g g' : Origin} {bound bound' : Nat} {u : Int} {w : DbWrite} {db : Database}

theorem WriteBy.mono (h : WriteBy g bound u w) (hle : bound ≤ bound') (hg : ∀ n < bound, g' n = g n) :
    WriteBy g' bound' u w := by
  cases h with
  | elsewhere h => exact .elsewhere h
  | record z hz n hn r m hm hu hn' => exact .record z hz n (Nat.lt_of_lt_of_le hn hle) r m hm hu ((hg n hn).trans hn')
  | remove z hz n hn hu => exact .remove z hz n (Nat.lt_of_lt_of_le hn hle) (by rw [hg n hn]; exact hu)
  | clear z hz => exact .clear z hz

theorem RoomsBy.mono (h : RoomsBy g bound db) (hle : bound ≤ bound') (hg : ∀ n < bound, g' n = g n) :
    RoomsBy g' bound' db := by
  intro i t ht
  obtain ⟨n, hn, hkey, m, hm, horigin⟩ := h i t ht
  exact ⟨n, Nat.lt_of_lt_of_le hn hle, hkey, m, hm, (hg n hn).trans horigin⟩

theorem Holds.ne_nil {r : Record} {m : ChatMessage} (h : Holds r m) : r ≠ [] := by
  rintro rfl
  have hauthor := h.author
  cases hauthor

/-- A write of one of the users leaves every message its key's. -/
theorem RoomsBy.apply (h : RoomsBy g bound db) (hw : WriteBy g bound u w) : RoomsBy g bound (db.apply w) := by
  intro i t ht
  cases hw with
  | elsewhere hw =>
    rw [PathTree.Tree.table_elsewhere hw] at ht
    exact h i t ht
  | record z hz n hn r m hm hu hg =>
    rw [PathTree.Tree.table_set node_apart _ hm.ne_nil] at ht
    by_cases hi : i = (z, .auto n)
    · subst hi
      rw [Function.update_self] at ht
      obtain rfl := Option.some.inj ht
      exact ⟨n, hn, rfl, m, by rw [PathTree.Tree.record_ofRecord]; exact hm, hg⟩
    · rw [Function.update_of_ne hi] at ht
      exact h i t ht
  | remove z hz n hn hg =>
    rw [PathTree.Tree.table_remove node_apart] at ht
    by_cases hi : i = (z, .auto n)
    · subst hi
      rw [Function.update_self] at ht
      cases ht
    · rw [Function.update_of_ne hi] at ht
      exact h i t ht
  | clear z hz =>
    rw [table_clear] at ht
    by_cases hi : i.1 = z
    · rw [if_pos hi] at ht
      cases ht
    · rw [if_neg hi] at ht
      exact h i t ht

theorem RoomsBy.applyAll {ws : List DbWrite} :
    ∀ {db : Database}, RoomsBy g bound db → (∀ w ∈ ws, WriteBy g bound u w) → RoomsBy g bound (db.applyAll ws) := by
  induction ws with
  | nil => exact fun h _ => h
  | cons w ws ih =>
    intro db h hws
    exact ih (h.apply (hws w List.mem_cons_self)) fun w' hw' => hws w' (List.mem_cons_of_mem w hw')

/-- **A write of a user is a step of the conversations by him.** -/
theorem Represents.apply {R : ChatMessages} (h : Represents db R) (hrooms : RoomsBy g bound db) (hw : WriteBy g bound u w) :
    ∃ R', Represents (db.apply w) R' ∧ Step (some u) (fun z => w = .remove (messagePath (room z))) R R' := by
  cases hw with
  | elsewhere hw =>
    refine ⟨R, fun i => ?_, .inl rfl⟩
    rw [PathTree.Tree.table_elsewhere hw]
    exact h i
  | record z hz n hn r m hm hu hg =>
    refine ⟨Function.update R (z, .auto n) (some m), fun i => ?_, .inr ⟨u, z, rfl, hz, ?_⟩⟩
    · rw [PathTree.Tree.table_set node_apart _ hm.ne_nil]
      by_cases hi : i = (z, .auto n)
      · subst hi
        rw [Function.update_self, Function.update_self]
        exact .inr ⟨_, m, rfl, rfl, by rw [PathTree.Tree.record_ofRecord]; exact hm⟩
      · rw [Function.update_of_ne hi, Function.update_of_ne hi]
        exact h i
    · rcases h (z, .auto n) with ⟨-, hfree⟩ | ⟨t, m', ht, hR, hm'⟩
      · exact .post _ m hu hfree
      · obtain ⟨n', -, hkey, m'', hm'', hg'⟩ := hrooms _ t ht
        obtain rfl := Key.auto.inj hkey
        obtain rfl := hm'.inj hm''
        obtain ⟨author, time, content⟩ := m
        obtain ⟨rfl, rfl⟩ := Prod.mk.inj (hg'.symm.trans hg)
        exact .edit _ m' content hR hu
  | remove z hz n hn hg =>
    refine ⟨Function.update R (z, .auto n) none, fun i => ?_, .inr ⟨u, z, rfl, hz, .remove _ fun m hR => ?_⟩⟩
    · rw [PathTree.Tree.table_remove node_apart]
      by_cases hi : i = (z, .auto n)
      · subst hi
        rw [Function.update_self, Function.update_self]
        exact .inl ⟨rfl, rfl⟩
      · rw [Function.update_of_ne hi, Function.update_of_ne hi]
        exact h i
    · rcases h (z, .auto n) with ⟨-, hfree⟩ | ⟨t, m', ht, hR', hm'⟩
      · rw [hfree] at hR
        cases hR
      · obtain ⟨n', -, hkey, m'', hm'', hg'⟩ := hrooms _ t ht
        obtain rfl := Key.auto.inj hkey
        obtain rfl := hm'.inj hm''
        rw [hR'] at hR
        obtain rfl := Option.some.inj hR
        rw [hg'] at hg
        exact hg
  | clear z hz =>
    refine ⟨fun i => if i.1 = z then none else R i, fun i => ?_, .inr ⟨u, z, rfl, hz, .clear rfl⟩⟩
    rw [table_clear]
    by_cases hi : i.1 = z
    · exact .inl ⟨if_pos hi, if_pos hi⟩
    · simp only [if_neg hi]
      exact h i

end Writes

/-! ## What the devices write -/

/-- The write that is outstanding, and those that wait for it. -/
def Pending.all : Pending → List DbWrite
  | write w => [w]
  | send f => f.send.writes

/-- A row on the screen of the user `u`: its key's time, and an own row is of an own key. -/
def RowBy (g : Origin) (bound : Nat) (u : Int) (row : ChatModel) : Prop :=
  ∃ n < bound, row.msgId = .auto n ∧ (row.me = true → (g n).1 = u) ∧ row.timestamp = toString (g n).2

section Writers
variable {g g' : Origin} {bound bound' : Nat} {u : Int} {row : ChatModel}

theorem RowBy.mono (h : RowBy g bound u row) (hle : bound ≤ bound') (hg : ∀ n < bound, g' n = g n) :
    RowBy g' bound' u row := by
  obtain ⟨n, hn, hkey, hme, htime⟩ := h
  exact ⟨n, Nat.lt_of_lt_of_le hn hle, hkey, by rw [hg n hn]; exact hme, by rw [hg n hn]; exact htime⟩

/-- What touches no room touches no message. -/
theorem WriteBy.of_rooms {w : DbWrite} (h : ∀ room, ¬ PathTree.Overlap w.path (messagePath room)) : WriteBy g bound u w :=
  .elsewhere fun _ => PathTree.not_overlap_append (h _) _

/-- The writes of a send are its sender's. -/
theorem send_by {me : Profile} {n : Nat} {timeNow : Int} (hn : n < bound) (hg : g n = (me.userId, timeNow)) (partner : Profile)
    (via : SendVia) : ∀ w ∈ (via.send me partner timeNow (.auto n)).writes, WriteBy g bound me.userId w := by
  intro w hw
  simp only [Send.writes, List.mem_cons, List.not_mem_nil, or_false] at hw
  rcases hw with rfl | rfl | rfl
  · rw [Send.write, Send.path, SendVia.send_room, SendVia.send_key]
    refine .record s(me.userId, partner.userId) (Sym2.mem_mk_left _ _) n hn _
      ⟨me.userId, timeNow, via.content, via.image⟩ ?_ rfl hg
    cases via with
    | doSend msgtype attachment =>
      constructor <;> cases msgtype <;> simp [SendVia.send, MessageSendVC.send, Send.record, SendVia.content, SendVia.image]
    | sendBtnClicked msg =>
      constructor <;> simp [SendVia.send, TripDetailVC.send, Send.record, SendVia.content, SendVia.image]
  · exact .of_rooms (@Send.not_overlap_room _ .meList (by decide))
  · exact .of_rooms (@Send.not_overlap_room _ .partnerList (by decide))

theorem edit_by {me : Profile} (hrow : RowBy g bound me.userId row) (hown : row.me = true) (b : Int) (text : String) :
    WriteBy g bound me.userId (editWrite me (setParamsRoom me.userId b) row.msgId text row.timestamp) := by
  obtain ⟨n, hn, hkey, hme, htime⟩ := hrow
  rw [hkey, htime]
  refine .record s(me.userId, b) (Sym2.mem_mk_left _ _) n hn _ ⟨me.userId, (g n).2, text, ""⟩ ?_ rfl
    (Prod.ext (hme hown) rfl)
  constructor <;> simp [editObject]

theorem remove_by {me : Profile} (hrow : RowBy g bound me.userId row) (hown : row.me = true) (b : Int) :
    WriteBy g bound me.userId (removeWrite (setParamsRoom me.userId b) row.msgId) := by
  obtain ⟨n, hn, hkey, hme, -⟩ := hrow
  rw [hkey]
  exact .remove s(me.userId, b) (Sym2.mem_mk_left _ _) n hn (hme hown)

theorem deleteBtnClicked_by (me partner : Int) : ∀ w ∈ Traveller.deleteBtnClicked me partner, WriteBy g bound me w := by
  intro w hw
  simp only [Traveller.deleteBtnClicked, List.mem_cons, List.not_mem_nil, or_false] at hw
  rcases hw with rfl | rfl | rfl
  · exact .of_rooms fun room => by simp [listPath, messagePath, PathTree.overlap_cons]
  · exact .of_rooms fun room => by simp [listPath, messagePath, PathTree.overlap_cons]
  · exact .clear s(me, partner) (Sym2.mem_mk_left _ _)

theorem declineBtnClicked_by (me partner : Int) : ∀ w ∈ Traveller.declineBtnClicked me partner, WriteBy g bound me w := by
  intro w hw
  rw [List.mem_singleton.1 hw]
  exact .of_rooms fun room => by simp [listPath, messagePath, PathTree.overlap_cons]

end Writers

/-! ## A screen -/

namespace MessageSendVC

/-- The row that is edited or removed is an own one. -/
def ActsOnOwn (s : MessageSendVC) : ScreenEvent → Prop
  | .sendAction => s.isEdit = true → ∀ entry, s.msgdataSource[s.edtIndex]? = some entry → entry.me = true
  | .sheetRemove => ∀ entry, s.sheet.bind (fun sheet => s.msgdataSource[sheet.indexPath]?) = some entry → entry.me = true
  | _ => True

/-- An answer may make a key, for the time it carries. -/
def origin (g : Origin) (n : Nat) (u : Int) : ScreenEvent → Origin
  | .statusReply _ _ now => Function.update g n (u, now * 1000)
  | _ => g

theorem origin_of_lt (g : Origin) {n m : Nat} (u : Int) (e : ScreenEvent) (h : m < n) : origin g n u e m = g m := by
  cases e with
  | statusReply i snapshot now => exact Function.update_of_ne (Nat.ne_of_lt h) _ _
  | _ => rfl

section Step
variable {me partner : Profile} {fb : Firebase} {s : MessageSendVC} {g : Origin} {e : ScreenEvent}

theorem issued_by (hrows : ∀ row ∈ s.msgdataSource, RowBy g fb.nextKey me.userId row) (hown : s.ActsOnOwn e) :
    ∀ w ∈ issued me partner (fb, s) e, WriteBy g fb.nextKey me.userId w := by
  intro w hw
  rcases issued_room hw with hroom | ⟨entry, rfl, hedit, hentry, rfl⟩ | ⟨entry, rfl, hentry, rfl⟩
  · exact .of_rooms hroom
  · exact edit_by (hrows entry (List.mem_of_getElem? hentry)) (hown hedit entry hentry) _ _
  · obtain ⟨sheet, -, hget⟩ := Option.bind_eq_some_iff.1 hentry
    exact remove_by (hrows entry (List.mem_of_getElem? hget)) (hown entry hentry) _

/-- **What a screen waits for stays its user's.** -/
theorem step_pending_by (hb : s.isBlock = "false") (hrows : ∀ row ∈ s.msgdataSource, RowBy g fb.nextKey me.userId row)
    (hpending : ∀ p ∈ s.outstanding, ∀ w ∈ p.all, WriteBy g fb.nextKey me.userId w) (hown : s.takes e = true → s.ActsOnOwn e) :
    ∀ p ∈ (step me partner (fb, s) e).2.outstanding, ∀ w ∈ p.all,
      WriteBy (origin g fb.nextKey me.userId e) (step me partner (fb, s) e).1.nextKey me.userId w := by
  have hle := (step_fb me partner fb hb e).2
  have hsame : ∀ n < fb.nextKey, origin g fb.nextKey me.userId e n = g n := fun n => origin_of_lt g me.userId e
  intro p hp w hw
  by_cases ht : s.takes e = true
  case neg =>
    rw [step_of_not_takes (x := (fb, s)) me partner ht] at hp
    exact (hpending p hp w hw).mono hle hsame
  cases step_pending me partner (x := (fb, s)) hb e p hp with
  | kept h => exact (hpending p h w hw).mono hle hsame
  | issued h =>
    rw [List.mem_singleton.1 hw]
    exact (issued_by hrows (hown ht) _ h).mono hle hsame
  | started i snapshot now he msgtype attachment hkey =>
    subst he
    refine send_by (by rw [hkey]; exact Nat.lt_succ_self _) ?_ partner (.doSend msgtype attachment) w hw
    exact Function.update_self _ _ _
  | next h hn =>
    have hsend : ∀ w ∈ Send.writes _, WriteBy g fb.nextKey me.userId w := hpending _ (Devices.lands_mem h)
    have hw : w ∈ Send.writes _ := hw
    rw [(Flight.of_next hn).1] at hw
    exact (hsend w hw).mono hle hsame

/-- **The rows of a screen stay their keys'**, where the listener is told of what is stored. -/
theorem step_rows_by (hb : s.isBlock = "false") (hrows : ∀ row ∈ s.msgdataSource, RowBy g fb.nextKey me.userId row)
    (htold : ∀ key r, e = .childAdded key r → RowBy g fb.nextKey me.userId (parseMsg me.userId key r)) :
    ∀ row ∈ (step me partner (fb, s) e).2.msgdataSource,
      RowBy (origin g fb.nextKey me.userId e) (step me partner (fb, s) e).1.nextKey me.userId row := by
  have hle := (step_fb me partner fb hb e).2
  have hsame : ∀ n < fb.nextKey, origin g fb.nextKey me.userId e n = g n := fun n => origin_of_lt g me.userId e
  suffices h : ∀ row ∈ (step me partner (fb, s) e).2.msgdataSource, RowBy g fb.nextKey me.userId row by
    exact fun row hrow => (h row hrow).mono hle hsame
  intro row hrow
  by_cases ht : s.takes e = true
  case neg =>
    rw [step_of_not_takes (x := (fb, s)) me partner ht] at hrow
    exact hrows row hrow
  by_cases hadded : ∃ key r, e = .childAdded key r
  · obtain ⟨key, r, rfl⟩ := hadded
    rw [step, if_pos ht] at hrow
    rcases List.mem_append.1 hrow with hrow | hrow
    · exact hrows row hrow
    · rw [List.mem_singleton.1 hrow]
      exact htold key r rfl
  by_cases hopen : ∃ now, e = .viewWillAppear now
  · obtain ⟨now, rfl⟩ := hopen
    rw [step, if_pos ht] at hrow
    exact absurd hrow List.not_mem_nil
  cases hof : ofSends e with
  | true =>
    rw [(step_sameEdit me partner (fb, s) hof).msgdataSource] at hrow
    exact hrows row hrow
  | false =>
    cases listMove me partner (x := (fb, s)) hof (fun now h => hopen ⟨now, h⟩) (fun key r h => hadded ⟨key, r, h⟩) ht with
    | kept hkept hws =>
      rw [hkept] at hrow
      exact hrows row hrow
    | edited entry he hedit hentry hset hws =>
      rw [hset] at hrow
      rcases List.mem_or_eq_of_mem_set hrow with hrow | rfl
      · exact hrows row hrow
      · exact hrows entry (List.mem_of_getElem? hentry)
    | removed i entry hentry herase hws =>
      rw [herase] at hrow
      exact hrows row (List.mem_of_mem_eraseIdx hrow)

end Step
end MessageSendVC

/-- What is stored is read as a row of its key. -/
theorem RoomsBy.row {g : Origin} {bound : Nat} {db : Database} (h : RoomsBy g bound db) (u b : Int) (key : Key)
    (hpresent : (db.below (roomNode u b key)).leaves ≠ []) :
    RowBy g bound u (parseMsg u key (db.below (roomNode u b key)).record) := by
  obtain ⟨n, hn, hkey, m, hm, hg⟩ := h (s(u, b), key) _ (if_neg hpresent)
  obtain rfl : key = .auto n := hkey
  rw [node_mk] at hm
  refine ⟨n, hn, rfl, fun hme => ?_, ?_⟩
  · have hread : toString u = (Record.field (db.below (roomNode u b (.auto n))).record "sender_id").getD "" :=
      of_decide_eq_true hme
    rw [hm.author] at hread
    rw [hg]
    exact (toString_inj.1 hread).symm
  · rw [hg]
    simp only [parseMsg, hm.time, Option.getD_some]

/-! ## All devices -/

namespace Chats

/-- **Edits and removals are made on own rows.** -/
def ActsOnOwn (y : Chats) : ChatsEvent → Prop
  | .device (.screen i e) => ∀ c, y.devices.chats[i]? = some c → c.vc.takes e = true → c.vc.ActsOnOwn e
  | _ => True

/-- **A step is a step of the conversations** by the user of the device it is on, and clears a conversation only where it
removes the room. -/
def Refines (y : Chats) (e : ChatsEvent) : Prop :=
  ∃ R R', Represents y.db R ∧ Represents (y.step e).db R' ∧
    Step (y.actor e) (fun z => y.lands e = some (.remove (messagePath (room z)))) R R'

/-- Everything that is stored, shown or under way is its key's user's. -/
structure Inv (g : Origin) (y : Chats) : Prop where
  unblocked : y.Unblocked
  pending : ∀ c ∈ y.devices.chats, ∀ p ∈ c.vc.outstanding, ∀ w ∈ p.all,
    WriteBy g y.devices.fb.nextKey c.me.userId w
  rows : ∀ c ∈ y.devices.chats, ∀ row ∈ c.vc.msgdataSource, RowBy g y.devices.fb.nextKey c.me.userId row
  trips : ∀ f ∈ y.devices.trips, ∀ w ∈ f.send.writes, WriteBy g y.devices.fb.nextKey f.send.me w
  lists : ∀ l ∈ y.lists, WriteBy g y.devices.fb.nextKey l.1 l.2
  rooms : RoomsBy g y.devices.fb.nextKey y.db

section Step
variable {g : Origin} {y : Chats} {e : ChatsEvent}

theorem Pending.dbWrite_mem_all (p : Pending) : p.dbWrite ∈ p.all := by
  cases p with
  | write w => exact List.mem_singleton_self w
  | send f => cases h : f.stage <;> simp [Pending.dbWrite, Flight.write, h, Pending.all, Send.writes]

theorem Flight.write_mem_writes (f : Flight) : f.write ∈ f.send.writes := Pending.dbWrite_mem_all (.send f)

/-- **The write that lands is the actor's.** -/
theorem Inv.lands (h : Inv g y) {w : DbWrite} (hl : y.lands e = some w) :
    ∃ u, y.actor e = some u ∧ WriteBy g y.devices.fb.nextKey u w := by
  have hstep := y.step_stepped e
  generalize y.step e = y' at hstep
  cases hstep with
  | screen i c se hi hactor hl' hse =>
    rw [hl'] at hl
    obtain ⟨p, hp, rfl⟩ := Option.map_eq_some_iff.1 hl
    exact ⟨_, hactor, h.pending c (List.mem_of_getElem? hi) p (Devices.lands_mem hp) _ (Pending.dbWrite_mem_all p)⟩
  | tripSettle i ok f hi hactor hl' =>
    rw [hl'] at hl
    split at hl
    · obtain rfl := Option.some.inj hl
      exact ⟨_, hactor, h.trips f (List.mem_of_getElem? hi) _ (Flight.write_mem_writes f)⟩
    · cases hl
  | listSettle i ok user w' hi hactor hl' =>
    rw [hl'] at hl
    split at hl
    · obtain rfl := Option.some.inj hl
      exact ⟨_, hactor, h.lists _ (List.mem_of_getElem? hi)⟩
    · cases hl
  | idle hl' => rw [hl'] at hl; cases hl
  | opened _ _ _ hl' => rw [hl'] at hl; cases hl
  | tripSend _ _ _ _ _ hl' => rw [hl'] at hl; cases hl
  | issued _ _ _ hl' => rw [hl'] at hl; cases hl

/-- The rooms after a step are their keys'. -/
theorem Inv.rooms_step (h : Inv g y) (e : ChatsEvent) : RoomsBy g y.devices.fb.nextKey (y.step e).db := by
  rw [(step_db h.unblocked e).1]
  cases hl : y.lands e with
  | none => exact h.rooms
  | some w =>
    obtain ⟨u, -, hw⟩ := h.lands hl
    exact h.rooms.apply hw

/-- What a device shows is its keys'. -/
theorem Inv.shown (h : Inv g y) {user : Int} {shown : List DbWrite} (hshown : ∀ w ∈ shown, w ∈ y.outstanding user) :
    RoomsBy g y.devices.fb.nextKey (y.db.applyAll shown) := by
  refine h.rooms.applyAll (u := user) fun w hw => ?_
  rcases List.mem_append.1 (hshown w hw) with hw | hw
  · rcases List.mem_append.1 hw with hw | hw
    · obtain ⟨c, hc, hw⟩ := List.mem_flatMap.1 hw
      obtain ⟨p, hp, rfl⟩ := List.mem_map.1 hw
      obtain ⟨hc, hme⟩ := List.mem_filter.1 hc
      rw [← of_decide_eq_true hme]
      exact h.pending c hc p hp _ (Pending.dbWrite_mem_all p)
    · obtain ⟨f, hf, rfl⟩ := List.mem_map.1 hw
      obtain ⟨hf, hme⟩ := List.mem_filter.1 hf
      rw [← of_decide_eq_true hme]
      exact h.trips f hf _ (Flight.write_mem_writes f)
  · obtain ⟨l, hl, rfl⟩ := List.mem_map.1 hw
    obtain ⟨hl, hme⟩ := List.mem_filter.1 hl
    rw [← of_decide_eq_true hme]
    exact h.lists l hl

/-- What the invariant says of the devices a step does not reach is kept. -/
theorem Inv.of_step (h : Inv g y) (hunblocked : (y.step e).Unblocked) {g' : Origin}
    (hg : ∀ n < y.devices.fb.nextKey, g' n = g n)
    (hpending : ∀ c ∈ (y.step e).devices.chats, c ∈ y.devices.chats ∨
      (∀ p ∈ c.vc.outstanding, ∀ w ∈ p.all, WriteBy g' (y.step e).devices.fb.nextKey c.me.userId w) ∧
        ∀ row ∈ c.vc.msgdataSource, RowBy g' (y.step e).devices.fb.nextKey c.me.userId row)
    (htrips : ∀ f ∈ (y.step e).devices.trips, (∃ f' ∈ y.devices.trips, f.send = f'.send) ∨
      ∀ w ∈ f.send.writes, WriteBy g' (y.step e).devices.fb.nextKey f.send.me w)
    (hlists : ∀ l ∈ (y.step e).lists, l ∈ y.lists ∨ WriteBy g' (y.step e).devices.fb.nextKey l.1 l.2) :
    Inv g' (y.step e) := by
  have hle := (step_db h.unblocked e).2
  refine ⟨hunblocked, fun c hc => ?_, fun c hc => ?_, fun f hf => ?_, fun l hl => ?_, (h.rooms_step e).mono hle hg⟩
  · rcases hpending c hc with hc | hc
    · exact fun p hp w hw => (h.pending c hc p hp w hw).mono hle hg
    · exact hc.1
  · rcases hpending c hc with hc | hc
    · exact fun row hrow => (h.rows c hc row hrow).mono hle hg
    · exact hc.2
  · rcases htrips f hf with ⟨f', hf', hsend⟩ | hf
    · rw [hsend]
      exact fun w hw => (h.trips f' hf' w hw).mono hle hg
    · exact hf
  · rcases hlists l hl with hl | hl
    · exact (h.lists l hl).mono hle hg
    · exact hl

/-- **A step keeps everything its key's user's**; a key it makes it makes for the user of the device. -/
theorem Inv.step (h : Inv g y) (hown : y.ActsOnOwn e) :
    ∃ g' : Origin, (∀ n < y.devices.fb.nextKey, g' n = g n) ∧ Inv g' (y.step e) := by
  have hunblocked := h.unblocked.step e
  have hframe := @Inv.of_step g y e h hunblocked
  have hstep := y.step_stepped e
  generalize y.step e = y' at hstep hframe ⊢
  cases hstep with
  | idle hl => exact ⟨g, fun _ _ => rfl, h⟩
  | opened storedPassword me partner hl =>
    refine ⟨g, fun _ _ => rfl, hframe (fun _ _ => rfl) (fun c hc => ?_) (fun f hf => .inl ⟨f, hf, rfl⟩) fun l hl => .inl hl⟩
    rcases List.mem_append.1 hc with hc | hc
    · exact .inl hc
    · rw [List.mem_singleton.1 hc]
      exact .inr ⟨fun _ hp => absurd hp List.not_mem_nil, fun _ hrow => absurd hrow List.not_mem_nil⟩
  | screen i c se hi hactor hl hse =>
    have hc := List.mem_of_getElem? hi
    have hown' : c.vc.takes se = true → c.vc.ActsOnOwn se := by
      rcases hse with ⟨rfl, -⟩ | ⟨key, snapshot, rfl, -⟩
      · exact hown c hi
      · exact fun _ => trivial
    have htold : ∀ key r, se = .childAdded key r →
        RowBy g y.devices.fb.nextKey c.me.userId (parseMsg c.me.userId key r) := by
      rintro key r rfl
      rcases hse with ⟨-, hne⟩ | ⟨key', r', heq, shown, hshown, hpresent, hr⟩
      · exact absurd rfl (hne key r)
      · obtain ⟨rfl, rfl⟩ := ScreenEvent.childAdded.inj heq
        rw [hr]
        exact (h.shown hshown).row _ _ _ hpresent
    refine ⟨MessageSendVC.origin g y.devices.fb.nextKey c.me.userId se,
      fun n => MessageSendVC.origin_of_lt g c.me.userId se,
      hframe (fun n => MessageSendVC.origin_of_lt g c.me.userId se) (fun c' hc' => ?_) (fun f hf => .inl ⟨f, hf, rfl⟩)
        fun l hl => .inl hl⟩
    rcases mem_put hc' with hc' | rfl
    · exact .inl hc'
    · exact .inr ⟨MessageSendVC.step_pending_by (h.unblocked c hc) (h.rows c hc) (h.pending c hc) hown',
        MessageSendVC.step_rows_by (h.unblocked c hc) (h.rows c hc) htold⟩
  | tripSend storedPassword me partner msg now hl =>
    have hsame : ∀ n < y.devices.fb.nextKey,
        Function.update g y.devices.fb.nextKey ((me.id, now * 1000) : Int × Int) n = g n := fun n hn =>
      Function.update_of_ne (Nat.ne_of_lt hn) _ _
    refine ⟨_, hsame, hframe hsame (fun c hc => .inl hc) (fun f hf => ?_) fun l hl => .inl hl⟩
    rcases List.mem_append.1 hf with hf | hf
    · exact .inl ⟨f, hf, rfl⟩
    · rw [List.mem_singleton.1 hf]
      exact .inr (send_by (Nat.lt_succ_self _) (Function.update_self _ _ _) partner (.sendBtnClicked msg))
  | tripSettle i ok f hi hactor hl =>
    refine ⟨g, fun _ _ => rfl, hframe (fun _ _ => rfl) (fun c hc => .inl hc) (fun f' hf' => .inl ?_) fun l hl => .inl hl⟩
    rcases List.mem_append.1 hf' with hf' | hf'
    · exact ⟨f', List.mem_of_mem_eraseIdx hf', rfl⟩
    · cases ok with
      | false => cases hf'
      | true => exact ⟨f, List.mem_of_getElem? hi, (Flight.of_next (Option.mem_toList.1 hf')).1⟩
  | issued me partner ws hl hws =>
    refine ⟨g, fun _ _ => rfl, hframe (fun _ _ => rfl) (fun c hc => .inl hc) (fun f hf => .inl ⟨f, hf, rfl⟩) fun l hl => ?_⟩
    rcases List.mem_append.1 hl with hl | hl
    · exact .inl hl
    · obtain ⟨w, hw, rfl⟩ := List.mem_map.1 hl
      rcases hws with rfl | rfl
      · exact .inr (deleteBtnClicked_by me partner w hw)
      · exact .inr (declineBtnClicked_by me partner w hw)
  | listSettle i ok user w hi hactor hl =>
    exact ⟨g, fun _ _ => rfl, hframe (fun _ _ => rfl) (fun c hc => .inl hc) (fun f hf => .inl ⟨f, hf, rfl⟩) fun l hl =>
      .inl (List.mem_of_mem_eraseIdx hl)⟩

theorem Inv.refines (h : Inv g y) {R : ChatMessages} (hR : Represents y.db R) (e : ChatsEvent) : y.Refines e := by
  cases hl : y.lands e with
  | none => exact ⟨R, R, hR, by rw [(step_db h.unblocked e).1, hl]; exact hR, .inl rfl⟩
  | some w =>
    obtain ⟨u, hactor, hw⟩ := h.lands hl
    obtain ⟨R', hR', hstep⟩ := hR.apply h.rooms hw
    refine ⟨R, R', hR, by rw [(step_db h.unblocked e).1, hl]; exact hR', ?_⟩
    rw [hactor, hl]
    simpa only [Option.some.injEq] using hstep

end Step

theorem inv_init : Inv (fun _ => (0, 0)) {} :=
  ⟨fun _ hc => absurd hc List.not_mem_nil, fun _ hc => absurd hc List.not_mem_nil, fun _ hc => absurd hc List.not_mem_nil,
    fun _ hf => absurd hf List.not_mem_nil, fun _ hl => absurd hl List.not_mem_nil, fun _ _ ht => by cases ht⟩

/-- The conversations a state stands for. -/
def Simulated (y : Chats) : Prop := ∃ g R, Inv g y ∧ Represents y.db R

theorem Simulated.step {y : Chats} (h : y.Simulated) {e : ChatsEvent} (hown : y.ActsOnOwn e) : (y.step e).Simulated := by
  obtain ⟨g, R, h, hR⟩ := h
  obtain ⟨g', -, h'⟩ := h.step hown
  obtain ⟨-, R', -, hR', -⟩ := h.refines hR e
  exact ⟨g', R', h', hR'⟩

theorem simulated_init : Simulated {} := ⟨_, fun _ => none, inv_init, fun _ => .inl ⟨rfl, rfl⟩⟩

/-- **The chat is what it is for**: in every run of all devices in which edits and removals are made on own rows, each step is
a step of the conversations by the user of the device it is on. -/
theorem chat_refines (es : List ChatsEvent) (hown : Runs.AllSteps step ActsOnOwn {} es) :
    Runs.AllSteps step Refines {} es :=
  Runs.allSteps_of_invariant Simulated (fun _ _ h hok => h.step hok) (fun _ e ⟨_, _, h, hR⟩ _ => h.refines hR e)
    simulated_init hown

set_option maxRecDepth 10000 in
theorem chat_refines_an_edit :
    Runs.AllSteps step Refines {} [.device (.sendBtnClicked "" { id := 7, firstName := "Bob" } (.ofPartner 9 "Ann" "" "" 0) "hi" 1),
      .device (.tripSettle 0 true), .device (.didSelectItemAt "" { id := 7, firstName := "Bob" } (.ofPartner 9 "Ann" "" "" 0)),
      .childAdded 0 (.auto 0) [], .device (.screen 0 (.longpress 0)), .device (.screen 0 .sheetEdit),
      .device (.screen 0 (.type "hello")), .device (.screen 0 .sendAction), .device (.screen 0 (.settle 0 true)),
      .deleteBtnClicked 9 7, .listSettle 2 true] :=
  chat_refines _ ⟨trivial, trivial, trivial, trivial, fun _ _ _ => trivial, fun _ _ _ => trivial, fun _ _ _ => trivial,
    fun c hc _ _ entry hentry => by cases hc; cases hentry; decide, fun _ _ _ => trivial, trivial, trivial, trivial⟩

/-! ## What it gives the two of a chat -/

/-- The message is stored. -/
def HasMessage (db : Database) (i : Sym2 Int × Key) (m : ChatMessage) : Prop :=
  ∃ t, db.table node i = some t ∧ Holds t.record m

theorem hasMessage_iff {db : Database} {R : ChatMessages} (hR : Represents db R) (i : Sym2 Int × Key) (m : ChatMessage) :
    HasMessage db i m ↔ R i = some m := by
  rcases hR i with ⟨hi, hnone⟩ | ⟨t, m', hi, hsome, hm'⟩
  · rw [hnone]
    exact ⟨fun ⟨t, ht, _⟩ => (by rw [hi] at ht; cases ht), fun h => (by cases h)⟩
  · rw [hsome]
    constructor
    · rintro ⟨t', ht', hm⟩
      rw [hi] at ht'
      obtain rfl := Option.some.inj ht'
      rw [hm'.inj hm]
    · intro h
      obtain rfl := Option.some.inj h
      exact ⟨t, hi, hm'⟩

/-- A stored message is its key's. -/
theorem Inv.origin {g : Origin} {y : Chats} (h : Inv g y) {z : Sym2 Int} {key : Key} {m : ChatMessage}
    (hm : HasMessage y.db (z, key) m) : ∃ n < y.devices.fb.nextKey, key = .auto n ∧ g n = (m.author, m.time) := by
  obtain ⟨t, ht, hm⟩ := hm
  obtain ⟨n, hn, hkey, m', hm', hg⟩ := h.rooms _ t ht
  obtain rfl := hm.inj hm'
  exact ⟨n, hn, hkey, hg⟩

/-- **Who made a key is settled for good.** -/
theorem Inv.run {g : Origin} {y : Chats} (h : Inv g y) {es : List ChatsEvent}
    (hown : Runs.AllSteps Chats.step ActsOnOwn y es) :
    ∃ g' : Origin, (∀ n < y.devices.fb.nextKey, g' n = g n) ∧ Inv g' (Runs.run Chats.step y es) := by
  obtain ⟨g', hg', -, h'⟩ := Runs.run_invariant
    (fun y' => ∃ g' : Origin, (∀ n < y.devices.fb.nextKey, g' n = g n) ∧
      y.devices.fb.nextKey ≤ y'.devices.fb.nextKey ∧ Inv g' y')
    (fun y' e ⟨g', hg', hle, h'⟩ hok => by
      obtain ⟨g'', hg'', h''⟩ := h'.step hok
      exact ⟨g'', fun n hn => (hg'' n (Nat.lt_of_lt_of_le hn hle)).trans (hg' n hn),
        Nat.le_trans hle (step_db h'.unblocked e).2, h''⟩)
    ⟨g, fun _ _ => rfl, Nat.le_refl _, h⟩ hown
  exact ⟨g', hg', h'⟩

/-- **A message keeps its author and its time**: whatever is stored under its key at any later time, in whatever room and
however often it was taken away, names the same author and the same time. -/
theorem message_keeps_author_and_time (es es' : List ChatsEvent) (hown : Runs.AllSteps step ActsOnOwn {} es)
    (hown' : Runs.AllSteps step ActsOnOwn (Runs.run step {} es) es') (z z' : Sym2 Int) (key : Key) (m m' : ChatMessage)
    (hm : HasMessage (Runs.run step {} es).db (z, key) m)
    (hm' : HasMessage (Runs.run step (Runs.run step {} es) es').db (z', key) m') :
    m'.author = m.author ∧ m'.time = m.time := by
  obtain ⟨g, -, h⟩ := inv_init.run hown
  obtain ⟨g', hg', h'⟩ := h.run hown'
  obtain ⟨n, hn, rfl, horigin⟩ := h.origin hm
  obtain ⟨n', -, hkey, horigin'⟩ := h'.origin hm'
  obtain rfl := Key.auto.inj hkey
  rw [hg' n hn, horigin] at horigin'
  obtain ⟨hauthor, htime⟩ := Prod.mk.inj horigin'
  exact ⟨hauthor.symm, htime.symm⟩

/-- A message to 9. -/
def sent : List ChatsEvent :=
  [.device (.sendBtnClicked "" { id := 7, firstName := "Bob" } (.ofPartner 9 "Ann" "" "" 0) "hi" 1), .device (.tripSettle 0 true)]

/-- Its author opens the chat and edits it. -/
def edited : List ChatsEvent :=
  [.device (.didSelectItemAt "" { id := 7, firstName := "Bob" } (.ofPartner 9 "Ann" "" "" 0)), .childAdded 0 (.auto 0) [],
    .device (.screen 0 (.longpress 0)), .device (.screen 0 .sheetEdit), .device (.screen 0 (.type "hello")),
    .device (.screen 0 .sendAction), .device (.screen 0 (.settle 0 true))]

def hi : ChatMessage := ⟨7, 1000, "hi", ""⟩

def hello : ChatMessage := ⟨7, 1000, "hello", ""⟩

set_option maxRecDepth 10000 in
theorem message_keeps_author_and_time_edited :
    HasMessage (Runs.run step {} sent).db (s(7, 9), .auto 0) hi ∧
      HasMessage (Runs.run step (Runs.run step {} sent) edited).db (s(7, 9), .auto 0) hello ∧
      hello.author = hi.author ∧ hello.time = hi.time := by
  have hsent : HasMessage (Runs.run step {} sent).db (s(7, 9), .auto 0) hi := ⟨_, rfl, rfl, rfl, rfl, rfl⟩
  have hedited : HasMessage (Runs.run step (Runs.run step {} sent) edited).db (s(7, 9), .auto 0) hello :=
    ⟨_, rfl, rfl, rfl, rfl, rfl⟩
  refine ⟨hsent, hedited, message_keeps_author_and_time sent edited ⟨trivial, trivial, trivial⟩ ?_ s(7, 9) s(7, 9) (.auto 0) _ _
    hsent hedited⟩
  exact ⟨trivial, trivial, fun _ _ _ => trivial, fun _ _ _ => trivial, fun _ _ _ => trivial,
    fun c hc _ _ entry hentry => by cases hc; cases hentry; decide, fun _ _ _ => trivial, trivial⟩

/-- The author does nothing, and nobody removes the room. -/
def LeavesAlone (z : Sym2 Int) (author : Int) (y : Chats) (e : ChatsEvent) : Prop :=
  y.actor e ≠ some author ∧ y.lands e ≠ some (.remove (messagePath (room z)))

/-- **A message is only its author's to change**: as long as he does nothing and neither of the two deletes the chat, it stays
as it is, whatever all the others do. -/
theorem message_stays (es es' : List ChatsEvent) (hown : Runs.AllSteps step ActsOnOwn {} es) (z : Sym2 Int) (key : Key)
    (m : ChatMessage) (hm : HasMessage (Runs.run step {} es).db (z, key) m)
    (hes' : Runs.AllSteps step (fun y e => y.ActsOnOwn e ∧ y.LeavesAlone z m.author e) (Runs.run step {} es) es') :
    HasMessage (Runs.run step (Runs.run step {} es) es').db (z, key) m := by
  obtain ⟨g, R, h, hR⟩ := Runs.run_invariant Simulated (fun _ _ h hok => h.step hok) simulated_init hown
  obtain ⟨g', R', h', hR', hm'⟩ := Runs.run_invariant
    (fun y => ∃ g R, Inv g y ∧ Represents y.db R ∧ R (z, key) = some m)
    (fun y e ⟨g, R, h, hR, hm⟩ ⟨hok, hactor, hroom⟩ => by
      obtain ⟨g', -, h'⟩ := h.step hok
      obtain ⟨R₀, R', hR₀, hR', hstep⟩ := h.refines hR e
      obtain rfl := hR.unique hR₀
      refine ⟨g', R', h', hR', ?_⟩
      rcases hstep.message hm with hsame | ⟨hauthor, -⟩ | ⟨hremoved, -⟩
      · exact hsame
      · exact absurd hauthor hactor
      · exact absurd hremoved hroom)
    ⟨g, R, h, hR, (hasMessage_iff hR _ _).1 hm⟩ hes'
  exact (hasMessage_iff hR' _ _).2 hm'

set_option maxRecDepth 10000 in
theorem message_stays_beside_another :
    HasMessage (Runs.run step (Runs.run step {}
      [.device (.sendBtnClicked "" { id := 7 } (.ofPartner 9 "Ann" "" "" 0) "hi" 1), .device (.tripSettle 0 true)])
      [.device (.sendBtnClicked "" { id := 9 } (.ofPartner 7 "Bob" "" "" 0) "hello" 2), .device (.tripSettle 1 true)]).db
      (s(7, 9), .auto 0) ⟨7, 1000, "hi", ""⟩ :=
  message_stays
    [.device (.sendBtnClicked "" { id := 7 } (.ofPartner 9 "Ann" "" "" 0) "hi" 1), .device (.tripSettle 0 true)]
    [.device (.sendBtnClicked "" { id := 9 } (.ofPartner 7 "Bob" "" "" 0) "hello" 2), .device (.tripSettle 1 true)]
    ⟨trivial, trivial, trivial⟩ s(7, 9) (.auto 0) ⟨7, 1000, "hi", ""⟩ ⟨_, rfl, rfl, rfl, rfl, rfl⟩
    ⟨⟨trivial, by decide, by decide⟩, ⟨trivial, by decide, by decide⟩, trivial⟩

end Chats
end Traveller
