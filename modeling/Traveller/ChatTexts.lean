import Traveller.ChatLock
/-!
# ChatTexts — the texts the send path takes out of the field

The answer to a status query empties the field before `doSend` decides whether to send.  `Kept` counts: of every text, what
is stored in the room and what is on the way there is what was stored at the start and what has been taken since.  It holds
exactly in the runs in which every answer that finds a text finds the lock free (`kept_iff_meetsFreeLock`); on a taken lock
the text is dropped and nobody is told.
-/
namespace Traveller
namespace MessageSendVC

section
variable (me partner : Profile)

abbrev roomPath : Path := messagePath (setParamsRoom me.userId partner.userId)

/-- The texts stored in the room that are `text`. -/
def storedCount (fb : Firebase) (text : String) : Nat :=
  ((fb.db.below (roomPath me partner)).column (.child "message")).count text

end

def carries (text : String) (f : Flight) : Bool :=
  f.stage = .message ∧ f.send.chatObject.field "message" = some text

/-- The outstanding message writes of `text`. -/
def onTheWay (s : MessageSendVC) (text : String) : Nat := (sends s).countP (carries text)

/-- The non-empty text the step takes out of the field on the send path. -/
def took (x : Screen) (e : ScreenEvent) : List String :=
  match e with
  | .statusReply i _ _ =>
    if x.2.takes e ∧ x.2.statusQueries[i]? = some .text ∧ x.2.edtMsgSend ≠ "" then [x.2.edtMsgSend] else []
  | _ => []

def textStep (me partner : Profile) : Screen × List String → ScreenEvent → Screen × List String :=
  Runs.noting (step me partner) fun taken x e => taken ++ took x e

/-- **No text is lost or doubled**: every text taken is stored once or on its way there. -/
def Kept (me partner : Profile) (start : Firebase) (x : Screen × List String) : Prop :=
  ∀ text, text ≠ "" →
    storedCount me partner x.1.1 text + onTheWay x.1.2 text = storedCount me partner start text + x.2.count text

/-- Outside edit mode, and no write fails. -/
def outsideEdit : ScreenEvent → Bool
  | .longpress _ | .sheetEdit | .sheetRemove | .sheetCancel => false
  | .settle _ ok => ok
  | _ => true

/-- An answer that finds a text finds the lock free. -/
def meetsFreeLock (x : Screen) (e : ScreenEvent) : Prop :=
  match e with
  | .statusReply i _ _ =>
    x.2.takes e = true → x.2.statusQueries[i]? = some .text → x.2.edtMsgSend ≠ "" → x.2.isdosending = false
  | _ => True

/-- A send of this screen; while its message is on the way, the key of the message is not in the room. -/
def FreshFlight (me partner : Profile) (fb : Firebase) (f : Flight) : Prop :=
  ∃ msgtype attachment timeNow n, f.send = send me partner msgtype attachment timeNow (.auto n) ∧
    (f.stage = .message → n < fb.nextKey ∧
      ∀ l ∈ (fb.db.below (roomPath me partner)).leaves, l.1.head? ≠ some (.auto n))

/-- What every step outside edit mode keeps. -/
structure TextInv (me partner : Profile) (start : Firebase) (x : Screen × List String) : Prop where
  isBlock : x.1.2.isBlock = "false"
  isEdit : x.1.2.isEdit = false
  crashed : x.1.2.crashed = false
  count : (sends x.1.2).length ≤ if x.1.2.isdosending then 1 else 0
  plain : ∀ w, .write w ∈ x.1.2.outstanding → ¬ PathTree.Overlap w.path (roomPath me partner)
  flights : ∀ f ∈ sends x.1.2, FreshFlight me partner x.1.1 f
  fresh : x.1.1.FreshBelow (roomPath me partner)
  kept : Kept me partner start x

/-! ## What a message write stores -/

section Room
variable (me partner : Profile) {fb : Firebase} {w : DbWrite}

theorem message_of_chatObject (msgtype : MsgType) (attachment : String) (timeNow : Int) (key : Key) :
    ((send me partner msgtype attachment timeNow key).chatObject.filter
      (fun kv => decide (kv.1 = .child "message"))).map Prod.snd = [if msgtype = .text then attachment else ""] := by
  cases hp : me.userPhoto <;> simp [send, Record.ofFields, hp]

theorem carries_send (msgtype : MsgType) (attachment : String) (timeNow : Int) (key : Key) (text : String) :
    carries text { send := send me partner msgtype attachment timeNow key } =
      decide ((if msgtype = .text then attachment else "") = text) := by
  simp [carries, send]

theorem below_room_apply (h : ¬ PathTree.Overlap w.path (roomPath me partner)) :
    (fb.apply w).db.below (roomPath me partner) = fb.db.below (roomPath me partner) :=
  PathTree.Tree.below_apply_of_not_overlap h

theorem below_room_message (msgtype : MsgType) (attachment : String) (timeNow : Int) (key : Key) :
    (fb.apply ((send me partner msgtype attachment timeNow key).write .message)).db.below (roomPath me partner) =
      (fb.db.below (roomPath me partner)).apply
        (.set [key] (send me partner msgtype attachment timeNow key).chatObject) :=
  PathTree.Tree.below_apply_under fb.db (.set [key] _) (roomPath me partner)

theorem storedCount_message (msgtype : MsgType) (attachment : String) (timeNow : Int) {key : Key}
    (hkey : ∀ l ∈ (fb.db.below (roomPath me partner)).leaves, l.1.head? ≠ some key) (text : String) :
    storedCount me partner (fb.apply ((send me partner msgtype attachment timeNow key).write .message)) text =
      storedCount me partner fb text + if (if msgtype = .text then attachment else "") = text then 1 else 0 := by
  rw [storedCount, below_room_message, PathTree.Tree.column_set_fresh hkey, message_of_chatObject, List.count_append,
    storedCount, List.count_singleton]
  simp

end Room

theorem carries_of_stage {f : Flight} (h : f.stage ≠ .message) (text : String) : carries text f = false := by
  simp [carries, h]

/-! ## Outside edit mode -/

section Mode
variable (me partner : Profile)

theorem step_mode {x : Screen} {e : ScreenEvent} (he : outsideEdit e = true) (hedit : x.2.isEdit = false)
    (hcrash : x.2.crashed = false) :
    (step me partner x e).2.isEdit = false ∧ (step me partner x e).2.crashed = false := by
  cases hs : ofSends e with
  | true =>
    have hsame := step_sameEdit me partner x hs
    exact ⟨hsame.isEdit.trans hedit, hsame.crashed.trans hcrash⟩
  | false =>
    by_cases ht : x.2.takes e = true
    case neg => rw [step_of_not_takes me partner ht]; exact ⟨hedit, hcrash⟩
    rw [step, if_pos ht]
    cases e with
    | sendAction =>
      have hnot : ¬ x.2.isEdit = true := by simp [hedit]
      simp only [act, sendAction, if_neg hnot]
      split <;> exact ⟨hedit, hcrash⟩
    | statusReply _ _ _ => cases hs
    | settle _ _ => cases hs
    | longpress _ => cases he
    | sheetEdit => cases he
    | sheetRemove => cases he
    | sheetCancel => cases he
    | _ => exact ⟨hedit, hcrash⟩

theorem issued_not_room {x : Screen} {e : ScreenEvent} (he : outsideEdit e = true) (hedit : x.2.isEdit = false)
    {w : DbWrite} (hw : w ∈ issued me partner x e) : ¬ PathTree.Overlap w.path (roomPath me partner) := by
  rcases issued_room hw with h | ⟨entry, rfl, hon, -, -⟩ | ⟨entry, rfl, -, -⟩
  · exact h _
  · rw [hedit] at hon
    cases hon
  · cases he

end Mode

/-! ## The count is kept -/

section Step
variable {me partner : Profile} {start : Firebase} {x : Screen × List String}

theorem FreshFlight.mono {fb fb' : Firebase} {f : Flight} (h : FreshFlight me partner fb f)
    (hdb : fb'.db.below (roomPath me partner) = fb.db.below (roomPath me partner)) (hkey : fb.nextKey ≤ fb'.nextKey) :
    FreshFlight me partner fb' f := by
  obtain ⟨msgtype, attachment, timeNow, n, hf, hmsg⟩ := h
  exact ⟨msgtype, attachment, timeNow, n, hf, fun hs => ⟨(hmsg hs).1.trans_le hkey, by rw [hdb]; exact (hmsg hs).2⟩⟩

theorem storedCount_congr {fb fb' : Firebase}
    (hdb : fb'.db.below (roomPath me partner) = fb.db.below (roomPath me partner)) (text : String) :
    storedCount me partner fb' text = storedCount me partner fb text := by
  rw [storedCount, hdb, storedCount]

theorem took_statusReply (y : Screen) (i : Nat) (snapshot : List String) (now : Int) :
    took y (.statusReply i snapshot now) = [] ∨
      (y.2.takes (.statusReply i snapshot now) = true ∧ y.2.statusQueries[i]? = some .text ∧ y.2.edtMsgSend ≠ "" ∧
        took y (.statusReply i snapshot now) = [y.2.edtMsgSend]) := by
  simp only [took]
  split
  · rename_i h
    exact .inr ⟨h.1, h.2.1, h.2.2, rfl⟩
  · exact .inl rfl

theorem took_of_not_takes {y : Screen} {e : ScreenEvent} (ht : ¬ y.2.takes e = true) : took y e = [] := by
  cases e with
  | statusReply i snapshot now =>
    rcases took_statusReply y i snapshot now with h | ⟨h, -⟩
    · exact h
    · exact absurd h ht
  | _ => rfl

theorem took_of_quiet {y : Screen} {e : ScreenEvent} (he : ofSends e = false) : took y e = [] := by
  cases e with
  | statusReply i snapshot now => cases he
  | _ => rfl

theorem TextInv.of_quiet (h : TextInv me partner start x) {y : Screen} {taken : List String}
    (hmode : y.2.isEdit = false ∧ y.2.crashed = false)
    (hb : y.2.isBlock = x.1.2.isBlock) (hs : (sends y.2).Perm (sends x.1.2))
    (hl : y.2.isdosending = x.1.2.isdosending ∨ sends x.1.2 = [])
    (hroom : y.1.db.below (roomPath me partner) = x.1.1.db.below (roomPath me partner))
    (hkey : x.1.1.nextKey ≤ y.1.nextKey)
    (hplain : ∀ w, .write w ∈ y.2.outstanding → ¬ PathTree.Overlap w.path (roomPath me partner))
    (htaken : taken = x.2) : TextInv me partner start (y, taken) where
  isBlock := hb.trans h.isBlock
  isEdit := hmode.1
  crashed := hmode.2
  count := by
    rw [hs.length_eq]
    rcases hl with hl | hnone
    · rw [hl]
      exact h.count
    · rw [hnone]
      exact Nat.zero_le _
  plain := hplain
  flights := fun f hf => (h.flights f (hs.mem_iff.1 hf)).mono hroom hkey
  fresh := h.fresh.mono hroom hkey
  kept := fun text ht => by
    rw [htaken, storedCount_congr hroom, onTheWay, hs.countP_eq]
    exact h.kept text ht

theorem TextInv.of_start (h : TextInv me partner start x) {y : Screen} {taken : List String}
    (hmode : y.2.isEdit = false ∧ y.2.crashed = false) {msgtype : MsgType} {attachment : String} {timeNow : Int}
    (hb : y.2.isBlock = x.1.2.isBlock) (hdb : y.1.db = x.1.1.db) (hkey : y.1.nextKey = x.1.1.nextKey + 1)
    (ho : y.2.outstanding = x.1.2.outstanding ++
      [.send { send := send me partner msgtype attachment timeNow (.auto x.1.1.nextKey) }])
    (hl : x.1.2.isdosending = false) (hl' : y.2.isdosending = true)
    (htaken : taken = x.2 ++ if msgtype = .text then [attachment] else []) : TextInv me partner start (y, taken) where
  isBlock := hb.trans h.isBlock
  isEdit := hmode.1
  crashed := hmode.2
  count := by
    have hcount := h.count
    rw [hl] at hcount
    rw [sends_start ho, List.length_append, hl']
    simpa using hcount
  plain := fun w hw => by
    rw [ho, List.mem_append, List.mem_singleton] at hw
    rcases hw with hw | hw
    · exact h.plain w hw
    · cases hw
  flights := fun f hf => by
    have hle : x.1.1.nextKey ≤ y.1.nextKey := by omega
    rw [sends_start ho, List.mem_append, List.mem_singleton] at hf
    rcases hf with hf | rfl
    · exact (h.flights f hf).mono (by rw [hdb]) hle
    · refine ⟨msgtype, attachment, timeNow, x.1.1.nextKey, rfl, fun _ => ⟨Nat.lt_of_lt_of_eq (Nat.lt_succ_self _) hkey.symm,
        fun l hl => ?_⟩⟩
      rw [hdb] at hl
      exact h.fresh l hl _ (Nat.le_refl _)
  fresh := h.fresh.mono (by rw [hdb]) (hkey ▸ Nat.le_succ _)
  kept := fun text ht => by
    have hkept := h.kept text ht
    have hstored : storedCount me partner y.1 text = storedCount me partner x.1.1 text :=
      storedCount_congr (by rw [hdb]) text
    rw [hstored, onTheWay, sends_start ho, List.countP_append, List.countP_singleton, htaken, List.count_append,
      carries_send, ← onTheWay]
    by_cases hm : msgtype = .text
    · simp only [hm, if_true, List.count_singleton, beq_iff_eq, decide_eq_true_eq]
      omega
    · have hne : ¬ "" = text := fun he => ht he.symm
      simp only [hm, if_false, List.count_nil, hne, decide_false, Bool.false_eq_true]
      omega

/-- What a fresh write puts into the room has its own key. -/
theorem FreshFlight.freshBelow {fb : Firebase} {f : Flight} (hf : FreshFlight me partner fb f)
    (h : fb.FreshBelow (roomPath me partner)) : (fb.apply f.write).FreshBelow (roomPath me partner) := by
  obtain ⟨msgtype, attachment, timeNow, n, hsend, hmsg⟩ := hf
  by_cases hst : f.stage = .message
  · rw [Flight.write, hst, hsend]
    exact h.set (hmsg hst).1 _
  · exact h.mono (below_room_apply me partner (Send.not_overlap_room hst _)) (by rw [Firebase.apply_nextKey])

/-- **A fresh write stores the text it carries, and no other.** -/
theorem FreshFlight.storedCount_apply {fb : Firebase} {f : Flight} (hf : FreshFlight me partner fb f) (text : String) :
    storedCount me partner (fb.apply f.write) text =
      storedCount me partner fb text + if carries text f then 1 else 0 := by
  obtain ⟨msgtype, attachment, timeNow, n, hsend, hmsg⟩ := hf
  by_cases hst : f.stage = .message
  · have hcarries : carries text f = decide ((if msgtype = .text then attachment else "") = text) := by
      rw [← carries_send me partner msgtype attachment timeNow (.auto n)]
      simp only [carries, hst, hsend]
    rw [Flight.write, hst, hsend, storedCount_message me partner msgtype attachment timeNow (hmsg hst).2, hcarries]
    simp only [decide_eq_true_eq]
  · have hroom : (fb.apply f.write).db.below (roomPath me partner) = fb.db.below (roomPath me partner) :=
      below_room_apply me partner (Send.not_overlap_room hst _)
    rw [storedCount_congr hroom, carries_of_stage hst]
    rfl

/-- A send on the way holds the lock, and is the only one. -/
theorem TextInv.alone (h : TextInv me partner start x) {f : Flight} {rest : List Flight}
    (hs : (f :: rest).Perm (sends x.1.2)) : x.1.2.isdosending = true ∧ rest = [] := by
  have hcount := h.count
  rw [← hs.length_eq, List.length_cons] at hcount
  cases hlock : x.1.2.isdosending with
  | false =>
    rw [hlock] at hcount
    exact absurd hcount (Nat.not_succ_le_zero _)
  | true =>
    rw [hlock] at hcount
    exact ⟨rfl, List.length_eq_zero_iff.1 (Nat.le_zero.1 (Nat.le_of_succ_le_succ hcount))⟩

/-- The completion of a send's write moves the text from the way into the room, and no other write moves a text. -/
theorem TextInv.of_send (h : TextInv me partner start x) {y : Screen} {f : Flight} {rest : List Flight}
    (hmode : y.2.isEdit = false ∧ y.2.crashed = false) (hb : y.2.isBlock = x.1.2.isBlock)
    (hfb : y.1 = x.1.1.apply f.write) (hs : (f :: rest).Perm (sends x.1.2))
    (hl : y.2.isdosending = if f.next = none then false else x.1.2.isdosending)
    (hs' : (sends y.2).Perm (f.next.toList ++ rest))
    (hplain : ∀ w, .write w ∈ y.2.outstanding → ¬ PathTree.Overlap w.path (roomPath me partner)) :
    TextInv me partner start (y, x.2) := by
  obtain ⟨hlock, rfl⟩ := h.alone hs
  rw [List.append_nil] at hs'
  have hsends : sends x.1.2 = [f] := hs.symm.eq_singleton
  have hfresh : FreshFlight me partner x.1.1 f := h.flights f (by rw [hsends]; exact List.mem_singleton_self f)
  have hon : ∀ text, onTheWay x.1.2 text = if carries text f then 1 else 0 := fun text => by
    rw [onTheWay, hsends, List.countP_singleton]
  -- what follows the write of the message carries no text
  have hon' : ∀ text, onTheWay y.2 text = 0 := fun text => by
    rw [onTheWay, hs'.countP_eq, List.countP_eq_zero]
    intro f' hf'
    rw [Option.mem_toList] at hf'
    simp [carries_of_stage (Flight.of_next hf').2]
  refine ⟨hb.trans h.isBlock, hmode.1, hmode.2, ?_, hplain, ?_, hfb ▸ hfresh.freshBelow h.fresh, ?_⟩
  · rw [hs'.length_eq, hl, hlock]
    cases f.next <;> simp
  · intro f' hf'
    have hf' := hs'.mem_iff.1 hf'
    rw [Option.mem_toList] at hf'
    obtain ⟨hsame, hst⟩ := Flight.of_next hf'
    obtain ⟨msgtype, attachment, timeNow, n, hsend, -⟩ := hfresh
    exact ⟨msgtype, attachment, timeNow, n, hsame.trans hsend, fun h => absurd h hst⟩
  · intro text ht
    have hkept := h.kept text ht
    rw [hon] at hkept
    rw [hfb, hon', Nat.add_zero, hfresh.storedCount_apply, hkept]

/-- A reply to a status query starts the send it was asked for, or none. -/
theorem TextInv.statusReply (h : TextInv me partner start x) {i : Nat} {snapshot : List String} {now : Int}
    (ht : x.1.2.takes (.statusReply i snapshot now) = true) (hok : meetsFreeLock x.1 (.statusReply i snapshot now)) :
    TextInv me partner start (textStep me partner x (.statusReply i snapshot now)) := by
  have hmode := step_mode me partner (e := .statusReply i snapshot now) rfl h.isEdit h.crashed
  have htook := took_statusReply x.1 i snapshot now
  rw [textStep, Runs.noting]
  cases step_answer me partner h.isBlock ht with
  | nothing hfb hb ho hl hidle =>
    refine h.of_quiet hmode hb (.of_eq (sends_congr ho)) (.inl hl) (by rw [hfb]) (by rw [hfb]) (fun w hw => ?_) ?_
    · exact h.plain w (by rwa [ho] at hw)
    · rcases htook with htook | ⟨-, hq, hne, -⟩
      · rw [htook, List.append_nil]
      · rcases hidle with hidle | ⟨hnot, -⟩
        · have hfree := hok ht hq hne
          rw [hidle] at hfree
          cases hfree
        · exact absurd hq hnot
  | leak hfb hb ho hl hl' htext hempty =>
    have hnone : sends x.1.2 = [] := by
      have hcount := h.count
      rw [hl] at hcount
      exact List.length_eq_zero_iff.1 (by simpa using hcount)
    refine h.of_quiet hmode hb (.of_eq (sends_congr ho)) (.inr hnone) (by rw [hfb]) (by rw [hfb]) (fun w hw => ?_) ?_
    · exact h.plain w (by rwa [ho] at hw)
    · rcases htook with htook | ⟨-, -, hne, -⟩
      · rw [htook, List.append_nil]
      · exact absurd hempty hne
  | start msgtype attachment hdb hkey hb ho hl hl' hwhat hhas =>
    refine h.of_start hmode hb hdb hkey ho hl hl' ?_
    rcases hwhat with ⟨hq, rfl, rfl, hne⟩ | ⟨hq, rfl⟩
    · rcases htook with htook | ⟨-, -, -, htook⟩
      · simp [took, ht, hq, hne] at htook
      · rw [htook]
        rfl
    · rcases htook with htook | ⟨-, hq', -⟩
      · rw [htook]
        rfl
      · exact absurd hq' hq

/-- A completion takes one request off, and of a send starts the next. -/
theorem TextInv.completion (h : TextInv me partner start x) {i : Nat} (ht : x.1.2.takes (.settle i true) = true) :
    TextInv me partner start (textStep me partner x (.settle i true)) := by
  have hmode := step_mode me partner (e := .settle i true) rfl h.isEdit h.crashed
  have htaken : x.2 ++ took x.1 (.settle i true) = x.2 := List.append_nil _
  rw [textStep, Runs.noting, htaken]
  cases step_completion me partner ht with
  | nothing hi hx =>
    rw [hx]
    exact h
  | write w hi hfb hb hl hs ho =>
    have hw : ¬ PathTree.Overlap w.path (roomPath me partner) := h.plain w (List.mem_of_getElem? hi)
    have hroom : (MessageSendVC.step me partner x.1 (.settle i true)).1.db.below (roomPath me partner) =
        x.1.1.db.below (roomPath me partner) := by
      rw [hfb]
      exact below_room_apply me partner hw
    have hkey : x.1.1.nextKey ≤ (MessageSendVC.step me partner x.1 (.settle i true)).1.nextKey := by
      rw [hfb]
      exact Nat.le_refl _
    refine h.of_quiet hmode hb hs (.inl hl) hroom hkey (fun w' hw' => ?_) rfl
    rw [ho] at hw'
    exact h.plain w' (List.mem_of_mem_eraseIdx hw')
  | send f rest hi hfb hb hl hs hs' ho =>
    refine h.of_send hmode hb hfb hs (by simpa using hl) hs' (fun w hw => ?_)
    rw [ho, List.mem_append] at hw
    rcases hw with hw | hw
    · exact h.plain w (List.mem_of_mem_eraseIdx hw)
    · simp at hw

theorem TextInv.step (h : TextInv me partner start x) {e : ScreenEvent} (he : outsideEdit e = true)
    (hok : meetsFreeLock x.1 e) : TextInv me partner start (textStep me partner x e) := by
  by_cases ht : x.1.2.takes e = true
  case neg =>
    have hx : textStep me partner x e = x := by
      rw [textStep, Runs.noting, step_of_not_takes me partner ht, took_of_not_takes ht, List.append_nil]
    rwa [hx]
  cases hs : ofSends e with
  | false =>
    have hmode := step_mode me partner he h.isEdit h.crashed
    have hq := step_quiet me partner hs ht
    refine h.of_quiet hmode hq.isBlock (.of_eq hq.sends) (.inl hq.isdosending) (by rw [hq.db]) hq.nextKey (fun w hw => ?_)
      (by simp only [took_of_quiet hs, List.append_nil])
    rw [hq.outstanding, List.mem_append, List.mem_map] at hw
    rcases hw with hw | ⟨w', hw', heq⟩
    · exact h.plain w hw
    · cases heq
      exact issued_not_room me partner he h.isEdit hw'
  | true =>
    cases e with
    | statusReply i snapshot now => exact h.statusReply ht hok
    | settle i ok =>
      obtain rfl : ok = true := he
      exact h.completion ht
    | _ => cases hs

/-- A step outside the condition takes a text that is then nowhere. -/
theorem TextInv.lost (h : TextInv me partner start x) {e : ScreenEvent} (hbad : ¬ meetsFreeLock x.1 e) :
    ¬ Kept me partner start (textStep me partner x e) := by
  cases e with
  | statusReply i snapshot now =>
    simp only [meetsFreeLock, Classical.not_imp, Bool.not_eq_false] at hbad
    obtain ⟨ht, hq, hne, hlock⟩ := hbad
    have htook : took x.1 (.statusReply i snapshot now) = [x.1.2.edtMsgSend] := if_pos ⟨ht, hq, hne⟩
    intro hkept
    have hkept := hkept _ hne
    have hbefore := h.kept _ hne
    rw [textStep, Runs.noting, htook, List.count_append, List.count_singleton_self] at hkept
    cases step_answer me partner h.isBlock ht with
    | nothing hfb hb ho hl hidle =>
      rw [hfb, onTheWay, sends_congr ho, ← onTheWay] at hkept
      omega
    | leak hfb hb ho hl hl' htext hempty => exact hne hempty
    | start msgtype attachment hdb hkey hb ho hl hl' hwhat hhas => rw [hlock] at hl; cases hl
  | _ => exact absurd trivial hbad

end Step

/-- **No text is lost or doubled exactly in the runs in which every answer that finds a text finds the lock free.** -/
theorem kept_iff_meetsFreeLock (me partner : Profile) (fb : Firebase) (hfresh : fb.FreshBelow (roomPath me partner))
    (es : List ScreenEvent) (hes : ∀ e ∈ es, outsideEdit e = true) :
    Runs.AllStates (textStep me partner) (Kept me partner fb) ((fb, {}), []) es ↔
      Runs.AllSteps (textStep me partner) (fun x e => meetsFreeLock x.1 e) ((fb, {}), []) es := by
  refine Runs.allStates_iff_allSteps (TextInv me partner fb) (fun _ _ h he hok => h.step he hok) (fun _ h => h.kept)
    (fun _ _ h _ hbad => h.lost hbad) ?_ (Runs.allSteps_of_forall _ _ hes)
  exact
    { isBlock := rfl
      isEdit := rfl
      crashed := rfl
      count := Nat.le_refl _
      plain := fun _ hw => absurd hw List.not_mem_nil
      flights := fun _ hf => absurd hf List.not_mem_nil
      fresh := hfresh
      kept := fun _ _ => rfl }

theorem kept_iff_meetsFreeLock_one :
    Runs.AllStates (textStep (.ofPartner 9 "Ann" "" "" 0) (.ofPartner 7 "Bob" "" "" 0))
      (Kept (.ofPartner 9 "Ann" "" "" 0) (.ofPartner 7 "Bob" "" "" 0) {}) (({}, {}), [])
      [.type "one", .sendAction, .statusReply 0 [] 2, .settle 0 true] :=
  (kept_iff_meetsFreeLock (.ofPartner 9 "Ann" "" "" 0) (.ofPartner 7 "Bob" "" "" 0) {}
    (fun _ hl => absurd hl List.not_mem_nil) _ (by decide)).2 ⟨trivial, trivial, fun _ _ _ => rfl, trivial, trivial⟩

/-- The text `two` is taken while the send of `one` has the lock; when every write has settled it is nowhere. -/
theorem second_text_is_lost :
    ¬ Runs.AllStates (textStep (.ofPartner 9 "Ann" "" "" 0) (.ofPartner 7 "Bob" "" "" 0))
      (Kept (.ofPartner 9 "Ann" "" "" 0) (.ofPartner 7 "Bob" "" "" 0) {}) (({}, {}), [])
      [.viewWillAppear 1, .settle 0 true, .settle 0 true, .type "one", .sendAction, .statusReply 0 [] 2, .type "two",
        .sendAction, .statusReply 0 [] 3, .settle 0 true, .settle 0 true, .settle 0 true] :=
  fun h => absurd (h.last "two" (by decide)) (by decide)

end MessageSendVC
end Traveller
