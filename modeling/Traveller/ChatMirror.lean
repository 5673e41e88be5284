import Traveller.OpenRoom
/-!
# ChatMirror — the lists and the room

`mirrors_of_keepsMirror`: once everything is delivered the lists of both participants are the room, in every run in which no
write lands on a message the other listener was told of and new messages come in the order of their keys.
-/
namespace Traveller
namespace OpenRoom

/-! ## The invariant -/

section Inv
variable (users : Side → Profile)

structure Inv (y : OpenRoom) : Prop where
  isBlock : ∀ who, (y.screen who).isBlock = "false"
  pending : ∀ who, ∀ p ∈ (y.screen who).outstanding, Keyed users y.fb.nextKey p.dbWrite
  keyed : KeyedRoom users y.fb
  told : ∀ who, ∀ n ∈ y.told who, n < y.fb.nextKey
  shows : ∀ who, (y.screen who).crashed = false → ∃ ns, Shows users y who ns

variable {users} {y : OpenRoom} {who : Side} {x : Screen} {told : List Nat}

/-- What one screen does, where it leaves what the other was told of as it is. -/
theorem Inv.put (h : Inv users y) (hb : x.2.isBlock = "false") (hkey : y.fb.nextKey ≤ x.1.nextKey)
    (hpending : ∀ p ∈ x.2.outstanding, Keyed users x.1.nextKey p.dbWrite) (hkeyed : KeyedRoom users x.1)
    (htold : ∀ n ∈ told, n < x.1.nextKey)
    (hother : ∀ n ∈ y.told who.other, message users who.other ((y.put who x told).view who.other) n =
      message users who.other (y.view who.other) n)
    (hshows : x.2.crashed = false → ∃ ns, Shows users (y.put who x told) who ns) : Inv users (y.put who x told) where
  isBlock side := by
    rcases who.eq_or_other side with rfl | rfl
    · rw [put_screen]
      exact hb
    · rw [put_screen_other]
      exact h.isBlock _
  pending side p hp := by
    rcases who.eq_or_other side with rfl | rfl
    · rw [put_screen] at hp
      exact hpending p hp
    · rw [put_screen_other] at hp
      exact (h.pending _ p hp).mono hkey
  keyed := hkeyed
  told side n hn := by
    rcases who.eq_or_other side with rfl | rfl
    · rw [put_told] at hn
      exact htold n hn
    · rw [put_told_other] at hn
      exact Nat.lt_of_lt_of_le (h.told _ n hn) hkey
  shows side hc := by
    rcases who.eq_or_other side with rfl | rfl
    · rw [put_screen] at hc
      exact hshows hc
    · rw [put_screen_other] at hc
      obtain ⟨ns, hns⟩ := h.shows _ hc
      exact ⟨ns, hns.congr (put_told_other ..) (by rw [put_screen_other]) hother⟩

/-- The step leaves the database alone and issues the writes `ps`. -/
structure Issues (y : OpenRoom) (who : Side) (x : Screen) (ps : List Pending) : Prop where
  db : x.1.db = y.fb.db
  nextKey : y.fb.nextKey ≤ x.1.nextKey
  isBlock : x.2.isBlock = (y.screen who).isBlock
  outstanding : x.2.outstanding = (y.screen who).outstanding ++ ps

theorem Issues.nothing (y : OpenRoom) (who : Side) : Issues y who (y.fb, y.screen who) [] :=
  ⟨rfl, Nat.le_refl _, rfl, (List.append_nil _).symm⟩

theorem Issues.view {ps : List Pending} (hi : Issues y who x ps) :
    (y.put who x told).view who = (y.view who).applyAll (ps.map Pending.dbWrite) := by
  rw [view_put, hi.db, hi.outstanding, List.map_append, PathTree.Tree.applyAll_append, OpenRoom.view]

theorem Inv.of_issues (h : Inv users y) {ps : List Pending} (hi : Issues y who x ps)
    (hps : ∀ p ∈ ps, Keyed users x.1.nextKey p.dbWrite) (htold : ∀ n ∈ told, n < x.1.nextKey)
    (hshows : x.2.crashed = false → ∃ ns, Shows users (y.put who x told) who ns) : Inv users (y.put who x told) := by
  refine h.put (hi.isBlock.trans (h.isBlock who)) hi.nextKey (fun p hp => ?_) (fun key hkey => ?_) htold (fun n _ => ?_)
    hshows
  · rw [hi.outstanding] at hp
    rcases List.mem_append.1 hp with hp | hp
    · exact (h.pending who p hp).mono hi.nextKey
    · exact hps p hp
  · rw [hi.db] at hkey
    obtain ⟨n, hn, hkey⟩ := h.keyed key hkey
    exact ⟨n, Nat.lt_of_lt_of_le hn hi.nextKey, hkey⟩
  · rw [view_put_other, hi.db, OpenRoom.view]

end Inv

/-! ## Steps -/

section Steps
variable {users : Side → Profile} {y : OpenRoom} {who : Side}

theorem editObject_ne_nil (me : Profile) (text timestamp : String) : editObject me text timestamp ≠ [] :=
  List.cons_ne_nil _ _

theorem message_apply_set (db : Database) (who : Side) (n : Nat) {r : Record} (hr : r ≠ []) :
    message users who (db.apply (.set (messageNode users (.auto n)) r)) n =
      some (parseMsg (users who).userId (.auto n) r) := by
  have hpresent : Present users (db.apply (.set (messageNode users (.auto n)) r)) (.auto n) := by
    rw [Present, PathTree.Tree.below_set]
    exact mt List.map_eq_nil_iff.1 hr
  rw [message, if_pos hpresent, PathTree.Tree.record_below_set]

theorem message_apply_remove (db : Database) (who : Side) (n : Nat) :
    message users who (db.apply (.remove (messageNode users (.auto n)))) n = none := by
  rw [message, if_neg]
  rw [Present, PathTree.Tree.below_remove]
  exact fun h => h rfl

theorem message_apply_other (db : Database) (who : Side) {n m : Nat} {w : DbWrite}
    (hw : w.path = messageNode users (.auto n)) (hne : m ≠ n) :
    message users who (db.apply w) m = message users who db m := by
  refine message_congr (PathTree.Tree.below_apply_of_not_overlap ?_) who
  rw [hw]
  exact not_overlap_messageNode fun h => hne (Key.auto.inj h).symm

theorem Inv.quiet (h : Inv users y) {e : ScreenEvent} (he : MessageSendVC.ofSends e = false)
    (hopen : ∀ now, e ≠ .viewWillAppear now) (hadded : ∀ key snapshot, e ≠ .childAdded key snapshot)
    (ht : (y.screen who).takes e = true) (hok : KeepsMirror users y (.act who e)) :
    Inv users (y.put who (MessageSendVC.step (users who) (users who.other) (y.fb, y.screen who) e) (y.told who)) := by
  have hq := MessageSendVC.step_quiet (users who) (users who.other) (x := (y.fb, y.screen who)) he ht
  have hmove := MessageSendVC.listMove (users who) (users who.other) (x := (y.fb, y.screen who)) he hopen hadded ht
  generalize MessageSendVC.step (users who) (users who.other) (y.fb, y.screen who) e = x at hq hmove ⊢
  generalize MessageSendVC.issued (users who) (users who.other) (y.fb, y.screen who) e = ws at hq hmove
  have hi : Issues y who x (ws.map .write) := ⟨hq.db, hq.nextKey, hq.isBlock, hq.outstanding⟩
  have hview : (y.put who x (y.told who)).view who = (y.view who).applyAll ws := by
    rw [hi.view, List.map_map]
    exact congrArg _ (List.map_id ws)
  have htold : ∀ n ∈ y.told who, n < x.1.nextKey := fun n hn => Nat.lt_of_lt_of_le (h.told who n hn) hi.nextKey
  obtain ⟨ns, hns⟩ := h.shows who (MessageSendVC.crashed_of_takes ht)
  have hkeyed : (∀ w ∈ ws, Keyed users x.1.nextKey w) → ∀ p ∈ ws.map Pending.write, Keyed users x.1.nextKey p.dbWrite :=
    fun hws p hp => by
      obtain ⟨w, hw, rfl⟩ := List.mem_map.1 hp
      exact hws w hw
  cases hmove with
  | kept hrows hws =>
    refine h.of_issues hi (hkeyed fun w hw => .inl (hws w hw _)) htold fun _ => ⟨ns, hns.congr (put_told ..) ?_ fun n _ => ?_⟩
    · rw [put_screen]
      exact hrows
    · rw [hview]
      exact message_congr (below_applyAll_room (fun w hw => hws w hw _) _ _) who
  | edited entry hsend hedit hentry hrows hws =>
    subst hsend
    obtain ⟨n, hn, hmessage⟩ := hns.row hentry
    have hparse := eq_of_message hmessage
    have hw : ws = [.set (messageNode users (.auto n)) (editObject (users who) (y.screen who).edtMsgSend entry.timestamp)] := by
      rw [hws, editWrite, pairRoom_eq users who, hparse]
      rfl
    have hfresh : n < x.1.nextKey := htold n ((hns.mem n).1 (List.mem_of_getElem? hn)).1
    have hshows : Shows users (y.put who x (y.told who)) who ns := by
      refine hns.edited hn (by rw [put_screen]; exact hrows) (put_told ..) (fun m hm => ?_) ?_
      · rw [hview, hw, PathTree.Tree.applyAll_cons, PathTree.Tree.applyAll_nil, message_apply_other _ who rfl hm]
      · rw [hview, hw, PathTree.Tree.applyAll_cons, PathTree.Tree.applyAll_nil,
          message_apply_set _ who n (editObject_ne_nil _ _ _)]
        exact congrArg some (parseMsg_editObject hparse (hok ht hedit entry hentry) _)
    refine h.of_issues hi (hkeyed fun w hmem => ?_) htold fun _ => ⟨ns, hshows⟩
    rw [hw] at hmem
    rw [List.mem_singleton.1 hmem]
    exact .inr ⟨n, hfresh, rfl⟩
  | removed i entry hentry hrows hws =>
    obtain ⟨n, hn, hmessage⟩ := hns.row hentry
    have hw : ws = [.remove (messageNode users (.auto n))] := by
      rw [hws, removeWrite, pairRoom_eq users who, eq_of_message hmessage]
      rfl
    have hfresh : n < x.1.nextKey := htold n ((hns.mem n).1 (List.mem_of_getElem? hn)).1
    have hshows : Shows users (y.put who x (y.told who)) who (ns.eraseIdx i) := by
      refine hns.removed hn (by rw [put_screen]; exact hrows) (put_told ..) (fun m hm => ?_) ?_
      · rw [hview, hw, PathTree.Tree.applyAll_cons, PathTree.Tree.applyAll_nil, message_apply_other _ who rfl hm]
      · rw [hview, hw, PathTree.Tree.applyAll_cons, PathTree.Tree.applyAll_nil, message_apply_remove]
    refine h.of_issues hi (hkeyed fun w hmem => ?_) htold fun _ => ⟨_, hshows⟩
    rw [hw] at hmem
    rw [List.mem_singleton.1 hmem]
    exact .inr ⟨n, hfresh, rfl⟩

theorem Inv.answer (h : Inv users y) {i : Nat} {snapshot : List String} {now : Int}
    (ht : (y.screen who).takes (.statusReply i snapshot now) = true) :
    Inv users (y.put who (MessageSendVC.step (users who) (users who.other) (y.fb, y.screen who)
      (.statusReply i snapshot now)) (y.told who)) := by
  have hanswer := MessageSendVC.step_answer (users who) (users who.other) (x := (y.fb, y.screen who)) (h.isBlock who) ht
  have hsame := MessageSendVC.step_sameEdit (users who) (users who.other) (y.fb, y.screen who)
    (e := .statusReply i snapshot now) rfl
  generalize MessageSendVC.step (users who) (users who.other) (y.fb, y.screen who) (.statusReply i snapshot now) = x
    at hanswer hsame ⊢
  obtain ⟨ns, hns⟩ := h.shows who (MessageSendVC.crashed_of_takes ht)
  have hrows : ((y.put who x (y.told who)).screen who).msgdataSource = (y.screen who).msgdataSource := by
    rw [put_screen]
    exact hsame.msgdataSource
  have hidle : x.1 = y.fb → x.2.isBlock = (y.screen who).isBlock → x.2.outstanding = (y.screen who).outstanding →
      Inv users (y.put who x (y.told who)) := fun hfb hb ho => by
    have hi : Issues y who x [] := ⟨by rw [hfb], by rw [hfb], hb, by rw [ho, List.append_nil]⟩
    refine h.of_issues hi (fun p hp => absurd hp List.not_mem_nil) ?_ fun _ => ⟨ns, hns.congr (put_told ..) hrows ?_⟩
    · rw [hfb]
      exact h.told who
    · intro n _
      rw [hi.view]
      rfl
  cases hanswer with
  | nothing hfb hb ho hl hidle' => exact hidle hfb hb ho
  | leak hfb hb ho hl hl' htext hempty => exact hidle hfb hb ho
  | start msgtype attachment hdb hkey hb ho hl hl' hwhat hhas =>
    have hi : Issues y who x _ := ⟨hdb, by rw [hkey]; exact Nat.le_succ _, hb, ho⟩
    have hpath : (Pending.dbWrite (.send ⟨MessageSendVC.send (users who) (users who.other) msgtype attachment (now * 1000)
        (.auto y.fb.nextKey), .message⟩)).path = messageNode users (.auto y.fb.nextKey) := by
      rw [messageNode, ← pairRoom_eq users who]
      rfl
    refine h.of_issues hi (fun p hp => ?_) (fun n hn => ?_) fun _ => ⟨ns, hns.congr (put_told ..) hrows fun n hn => ?_⟩
    · rw [List.mem_singleton.1 hp, hkey]
      exact .inr ⟨_, Nat.lt_succ_self _, hpath⟩
    · rw [hkey]
      exact Nat.lt_succ_of_lt (h.told who n hn)
    · rw [hi.view]
      exact message_apply_other _ who hpath (Nat.ne_of_lt (h.told who n hn))

/-! ### Completions -/

section Settle
variable {bound : Nat} {pre post extra : List DbWrite} {w : DbWrite}

/-- The write to a message that was made first lands: its device sees the message as before. -/
theorem below_landed (hws : ∀ u ∈ pre ++ w :: post, Keyed users bound u)
    (hextra : ∀ u ∈ extra, ¬ PathTree.Overlap u.path (messagePath (pairRoom users))) {key : Key}
    (hfirst : w.path = messageNode users key → ∀ u ∈ pre, u.path ≠ messageNode users key) (db : Database) :
    ((db.apply w).applyAll (pre ++ post ++ extra)).below (messageNode users key) =
      (db.applyAll (pre ++ w :: post)).below (messageNode users key) := by
  have hrest : ∀ u ∈ pre ++ post, Keyed users bound u := fun u hu =>
    hws u (((List.sublist_cons_self w post).append_left pre).subset hu)
  rw [PathTree.Tree.applyAll_append, below_applyAll_room hextra, below_applyAll_toNode hrest, below_applyAll_toNode hws,
    List.filter_append, List.filter_append]
  by_cases hto : w.path = messageNode users key
  · have hpre : pre.filter (OpenRoom.toNode users key) = [] :=
      List.filter_eq_nil_iff.2 fun u hu => by simpa [OpenRoom.toNode] using hfirst hto u hu
    rw [hpre, List.filter_cons_of_pos (by simpa [OpenRoom.toNode] using hto)]
    rfl
  · rw [List.filter_cons_of_neg (by simpa [OpenRoom.toNode] using hto), ← List.filter_append]
    exact PathTree.Tree.below_applyAll_congr (below_apply_of_not_toNode (hws w (by simp)) hto db)

/-- A write to another message fails. -/
theorem below_failed (hws : ∀ u ∈ pre ++ w :: post, Keyed users bound u) {key : Key}
    (hto : w.path ≠ messageNode users key) (db : Database) :
    (db.applyAll (pre ++ post)).below (messageNode users key) =
      (db.applyAll (pre ++ w :: post)).below (messageNode users key) := by
  have hrest : ∀ u ∈ pre ++ post, Keyed users bound u := fun u hu =>
    hws u (((List.sublist_cons_self w post).append_left pre).subset hu)
  rw [below_applyAll_toNode hrest, below_applyAll_toNode hws, List.filter_append, List.filter_append,
    List.filter_cons_of_neg (by simpa [OpenRoom.toNode] using hto)]

end Settle

/-- **What a completion does**: nothing, or one outstanding write is over, with the next one of its send after it. -/
theorem settle_cases (users : Side → Profile) {i : Nat} {ok : Bool} {x : Screen}
    (hx : MessageSendVC.Completion i ok (y.fb, y.screen who) x) :
    x = (y.fb, y.screen who) ∨ ∃ p extra, (y.screen who).outstanding[i]? = some p ∧
      x.1 = (if ok then y.fb.apply p.dbWrite else y.fb) ∧ x.2.isBlock = (y.screen who).isBlock ∧
      x.2.outstanding = (y.screen who).outstanding.eraseIdx i ++ extra ∧
      ∀ q ∈ extra, ¬ PathTree.Overlap q.dbWrite.path (messagePath (pairRoom users)) := by
  cases hx with
  | nothing hi hx => exact .inl hx
  | write w hi hfb hb hl hs ho =>
    exact .inr ⟨.write w, [], hi, hfb, hb, by rw [ho, List.append_nil], fun q hq => absurd hq List.not_mem_nil⟩
  | send f rest hi hfb hb hl hs hs' ho =>
    refine .inr ⟨.send f, _, hi, hfb, hb, ho, fun q hq => ?_⟩
    cases ok with
    | false => cases hq
    | true =>
      obtain ⟨f', hf', rfl⟩ := List.mem_map.1 hq
      exact Send.not_overlap_room (Flight.of_next (Option.mem_toList.1 hf')).2 _

theorem Inv.settle (h : Inv users y) {i : Nat} {ok : Bool} (ht : (y.screen who).takes (.settle i ok) = true)
    (hok : KeepsMirror users y (.act who (.settle i ok))) :
    Inv users (y.put who (MessageSendVC.step (users who) (users who.other) (y.fb, y.screen who) (.settle i ok))
      (y.told who)) := by
  have hcompletion := MessageSendVC.step_completion (users who) (users who.other) (x := (y.fb, y.screen who)) ht
  have hsame := MessageSendVC.step_sameEdit (users who) (users who.other) (y.fb, y.screen who) (e := .settle i ok) rfl
  generalize MessageSendVC.step (users who) (users who.other) (y.fb, y.screen who) (.settle i ok) = x
    at hcompletion hsame ⊢
  obtain ⟨ns, hns⟩ := h.shows who (MessageSendVC.crashed_of_takes ht)
  rcases settle_cases users hcompletion with rfl | ⟨p, extra, hp, hfb, hb, ho, hextra⟩
  · refine h.of_issues (Issues.nothing y who) (fun q hq => absurd hq List.not_mem_nil) (h.told who) fun _ => ⟨ns, ?_⟩
    exact hns.congr (put_told ..) (by rw [put_screen]) fun n _ => by rw [view_put, view]
  have hkey : x.1.nextKey = y.fb.nextKey := by
    rw [hfb]
    split <;> rfl
  have hw : Keyed users y.fb.nextKey p.dbWrite := h.pending who p (List.mem_of_getElem? hp)
  obtain ⟨hi, hpi⟩ := List.getElem?_eq_some_iff.1 hp
  have hsplit : (y.screen who).outstanding.map Pending.dbWrite =
      ((y.screen who).outstanding.take i).map Pending.dbWrite ++
        p.dbWrite :: ((y.screen who).outstanding.drop (i + 1)).map Pending.dbWrite := by
    rw [← List.map_cons, ← List.map_append, ← hpi, List.cons_getElem_drop_succ, List.take_append_drop]
  have hall : ∀ u ∈ (y.screen who).outstanding.map Pending.dbWrite, Keyed users y.fb.nextKey u := fun u hu => by
    obtain ⟨q, hq, rfl⟩ := List.mem_map.1 hu
    exact h.pending who q hq
  have hview : (y.put who x (y.told who)).view who = x.1.db.applyAll (((y.screen who).outstanding.take i).map Pending.dbWrite
      ++ ((y.screen who).outstanding.drop (i + 1)).map Pending.dbWrite ++ extra.map Pending.dbWrite) := by
    rw [view_put, ho, List.eraseIdx_eq_take_drop_succ, List.map_append, List.map_append]
  have hextra' : ∀ u ∈ extra.map Pending.dbWrite, ¬ PathTree.Overlap u.path (messagePath (pairRoom users)) := fun u hu => by
    obtain ⟨q, hq, rfl⟩ := List.mem_map.1 hu
    exact hextra q hq
  refine h.put (hb.trans (h.isBlock who)) hkey.ge (fun q hq => ?_) ?_ (fun n hn => hkey ▸ h.told who n hn) (fun n hn => ?_)
    fun _ => ⟨ns, hns.congr (put_told ..) (by rw [put_screen]; exact hsame.msgdataSource) fun n hn => ?_⟩
  · rw [ho] at hq
    rw [hkey]
    rcases List.mem_append.1 hq with hq | hq
    · exact h.pending who q (List.mem_of_mem_eraseIdx hq)
    · exact .inl (hextra q hq)
  · rw [hfb]
    split
    · exact h.keyed.apply hw
    · exact h.keyed
  · rw [view_put_other, view, hfb]
    cases ok with
    | false => rfl
    | true =>
      have hto : p.dbWrite.path ≠ messageNode users (.auto n) := fun hto => (hok p n hp hto).1 hn
      exact message_congr (PathTree.Tree.below_applyAll_congr (below_apply_of_not_toNode hw hto _)) _
  · rw [hview, view, hsplit, hfb]
    rw [hsplit] at hall
    refine message_congr ?_ who
    cases ok with
    | true =>
      refine below_landed hall hextra' (fun hto u hu => ?_) _
      obtain ⟨q, hq, rfl⟩ := List.mem_map.1 hu
      exact (hok p n hp hto).2 q hq
    | false =>
      rw [PathTree.Tree.applyAll_append, below_applyAll_room hextra']
      exact below_failed hall (fun hto => hok p n hp hto hn) _

theorem put_self (y : OpenRoom) (who : Side) : y.put who (y.fb, y.screen who) (y.told who) = y := by
  simp only [put, Function.update_eq_self]

/-- An event of a screen. -/
theorem Inv.act (h : Inv users y) {e : ScreenEvent} (hopen : ∀ now, e ≠ .viewWillAppear now)
    (hadded : ∀ key snapshot, e ≠ .childAdded key snapshot) (hok : KeepsMirror users y (.act who e)) :
    Inv users (y.put who (MessageSendVC.step (users who) (users who.other) (y.fb, y.screen who) e) (y.told who)) := by
  by_cases ht : (y.screen who).takes e = true
  case neg =>
    rw [MessageSendVC.step_of_not_takes (x := (y.fb, y.screen who)) _ _ ht, put_self]
    exact h
  cases hof : MessageSendVC.ofSends e with
  | false => exact h.quiet hof hopen hadded ht hok
  | true =>
    cases e with
    | statusReply i snapshot now => exact h.answer ht
    | settle i ok => exact h.settle ht hok
    | _ => cases hof

theorem KeyedRoom.applyAll {ws : List DbWrite} : ∀ {fb : Firebase}, KeyedRoom users fb →
    (∀ w ∈ ws, Keyed users fb.nextKey w) → KeyedRoom users { fb with db := fb.db.applyAll ws } := by
  induction ws with
  | nil => exact fun h _ => h
  | cons w ws ih =>
    intro fb h hws
    exact ih (h.apply (hws w List.mem_cons_self)) fun w' hw' => hws w' (List.mem_cons_of_mem w hw')

theorem Inv.viewKeyed (h : Inv users y) (who : Side) {n : Nat} (hn : Present users (y.view who) (.auto n)) :
    n < y.fb.nextKey := by
  have hws : ∀ w ∈ (y.screen who).outstanding.map Pending.dbWrite, Keyed users y.fb.nextKey w := fun w hw => by
    obtain ⟨p, hp, rfl⟩ := List.mem_map.1 hw
    exact h.pending who p hp
  obtain ⟨m, hm, hkey⟩ := h.keyed.applyAll hws (.auto n) hn
  rwa [Key.auto.inj hkey]

/-- The listener is told of a message. -/
theorem Inv.childAdded (h : Inv users y) {n : Nat} (hpresent : Present users (y.view who) (.auto n)) (hn : n ∉ y.told who)
    (hlast : ∀ m ∈ y.told who, Present users (y.view who) (.auto m) → m < n) :
    Inv users (y.put who (MessageSendVC.step (users who) (users who.other) (y.fb, y.screen who)
      (.childAdded (.auto n) ((y.view who).below (messageNode users (.auto n))).record)) (n :: y.told who)) := by
  have htold : ∀ m ∈ n :: y.told who, m < y.fb.nextKey := fun m hm => by
    rcases List.mem_cons.1 hm with rfl | hm
    · exact h.viewKeyed who hpresent
    · exact h.told who m hm
  cases hc : (y.screen who).crashed with
  | true =>
    rw [MessageSendVC.step_of_not_takes (x := (y.fb, y.screen who)) _ _ (by simp [MessageSendVC.takes, hc])]
    refine h.of_issues (Issues.nothing y who) (fun p hp => absurd hp List.not_mem_nil) htold fun hc' => ?_
    exact absurd (hc.symm.trans hc') (by decide)
  | false =>
    obtain ⟨ns, hns⟩ := h.shows who hc
    rw [MessageSendVC.step, if_pos (by simp [MessageSendVC.takes, hc])]
    have hi : Issues y who (MessageSendVC.act (users who) (users who.other) y.fb (y.screen who)
        (.childAdded (.auto n) ((y.view who).below (messageNode users (.auto n))).record)) [] :=
      ⟨rfl, Nat.le_refl _, rfl, (List.append_nil _).symm⟩
    refine h.of_issues hi (fun p hp => absurd hp List.not_mem_nil) htold fun _ => ⟨ns ++ [n], ?_⟩
    refine hns.added hn (fun m hm => ?_) (by rw [put_screen]; rfl) (put_told ..) (by rw [hi.view]; rfl) (if_pos hpresent)
    exact hlast m ((hns.mem m).1 hm).1 ((hns.mem m).1 hm).2

/-- The listener is told that a message has gone, and takes no notice. -/
theorem Inv.childRemoved (h : Inv users y) {n : Nat} (hn : ¬ Present users (y.view who) (.auto n)) :
    Inv users (y.put who (y.fb, y.screen who) ((y.told who).filter (· ≠ n))) := by
  have hi := Issues.nothing y who
  refine h.of_issues hi (fun p hp => absurd hp List.not_mem_nil) (fun m hm => ?_) fun hc => ?_
  · exact h.told who m (List.mem_of_mem_filter hm)
  · obtain ⟨ns, hns⟩ := h.shows who hc
    exact ⟨ns, hns.untold hn (by rw [put_screen]) (put_told ..) (by rw [hi.view]; rfl)⟩

theorem Inv.step (h : Inv users y) {e : RoomEvent} (hok : KeepsMirror users y e) : Inv users (y.step users e) := by
  cases e with
  | act who e =>
    cases e with
    | viewWillAppear now => exact h
    | childAdded key snapshot => exact h
    | _ => exact h.act (by simp) (by simp) hok
  | childAdded who n =>
    rw [OpenRoom.step]
    split
    · rename_i hnew
      exact h.childAdded hnew.1 hnew.2 (hok hnew.1 hnew.2)
    · exact h
  | childRemoved who n =>
    rw [OpenRoom.step]
    split
    · exact h
    · rename_i hgone
      exact h.childRemoved hgone

theorem Inv.init {fb : Firebase} (hfb : KeyedRoom users fb) : Inv users { fb := fb } where
  isBlock _ := rfl
  pending _ _ hp := absurd hp List.not_mem_nil
  keyed := hfb
  told _ _ hn := absurd hn List.not_mem_nil
  shows _ _ := ⟨[], List.Pairwise.nil, fun _ => iff_of_false List.not_mem_nil fun h => absurd h.1 List.not_mem_nil, rfl⟩

/-- Once everything is delivered, what the lists show is the room. -/
theorem Inv.mirrors (h : Inv users y) (hd : Delivered users y) : Mirrors users y := by
  intro who hc
  obtain ⟨ns, hns⟩ := h.shows who hc
  obtain ⟨hquiet, htold⟩ := hd who
  have hview : ∀ key, (y.view who).below (messageNode users key) = y.fb.db.below (messageNode users key) := fun key => by
    refine below_applyAll_room (fun w hw => ?_) _ key
    obtain ⟨p, hp, rfl⟩ := List.mem_map.1 hw
    exact hquiet p hp
  have hmem : ∀ n, n ∈ ns ↔ Present users y.fb.db (.auto n) := fun n => by
    rw [hns.mem, htold, Present, Present, hview, and_self]
  refine ⟨ns, hns.sorted, fun key => ⟨fun hkey => ?_, ?_⟩, ?_⟩
  · obtain ⟨n, -, rfl⟩ := h.keyed key hkey
    exact ⟨n, (hmem n).2 hkey, rfl⟩
  · rintro ⟨n, hn, rfl⟩
    exact (hmem n).1 hn
  · rw [hns.rows]
    exact List.map_congr_left fun n _ => message_congr (hview _) who

end Steps

/-! ## The theorem -/

/-- **Both lists are the room once everything is delivered**, in every run in which nothing changes behind a listener. -/
theorem mirrors_of_keepsMirror (users : Side → Profile) (fb : Firebase) (hfb : KeyedRoom users fb) (es : List RoomEvent)
    (hes : Runs.AllSteps (step users) (KeepsMirror users) { fb := fb } es)
    (hd : Delivered users (Runs.run (step users) { fb := fb } es)) : Mirrors users (Runs.run (step users) { fb := fb } es) :=
  (Runs.run_invariant (Inv users) (fun _ _ h hok => h.step hok) (Inv.init hfb) hes).mirrors hd

theorem mirrors_of_keepsMirror_one :
    let users : Side → Profile := fun who => if who = .a then .ofPartner 7 "Bob" "" "" 0 else .ofPartner 9 "Ann" "" "" 0
    Mirrors users (Runs.run (step users) {} [.act .a (.type "hi"), .act .a .sendAction, .act .a (.statusReply 0 [] 1),
      .childAdded .a 0, .act .a (.settle 0 true), .childAdded .b 0]) := by
  intro users
  have hkeyed : KeyedRoom users (({ nextKey := 1 } : Firebase).apply
      ((MessageSendVC.send (users .a) (users .b) .text "hi" 1000 (.auto 0)).write .message)) := by
    refine KeyedRoom.apply (fun key hkey => absurd rfl hkey) (.inr ⟨0, Nat.zero_lt_one, ?_⟩)
    decide
  refine mirrors_of_keepsMirror users {} (fun key hkey => absurd rfl hkey) _ ?_ fun who => ?_
  · refine ⟨trivial, fun _ hedit => ?_, trivial, fun _ _ m hm => absurd hm List.not_mem_nil, fun p n _ _ => ?_,
      fun _ _ m hm => absurd hm List.not_mem_nil, trivial⟩
    · cases hedit
    · exact ⟨List.not_mem_nil, fun q hq => absurd hq List.not_mem_nil⟩
  · generalize hy : Runs.run (step users) _ _ = y
    have hfb : y.fb = ({ nextKey := 1 } : Firebase).apply
        ((MessageSendVC.send (users .a) (users .b) .text "hi" 1000 (.auto 0)).write .message) := by
      rw [← hy]
      decide +kernel
    have htold : y.told who = [0] := by
      rw [← hy]
      cases who <;> decide +kernel
    have hquiet : ∀ p ∈ (y.screen who).outstanding, ¬ PathTree.Overlap p.dbWrite.path (messagePath (pairRoom users)) := by
      rw [← hy]
      cases who <;> decide +kernel
    refine ⟨hquiet, fun n => ?_⟩
    rw [htold, hfb, List.mem_singleton]
    constructor
    · rintro rfl
      decide +kernel
    · intro hn
      obtain ⟨m, hm, hkey⟩ := hkeyed _ hn
      rw [Key.auto.inj hkey]
      exact Nat.lt_one_iff.1 hm

/-- Both have seen the message when its sender removes it; it stays in the other list, and nothing more will come. -/
theorem removed_message_stays_in_the_other_list :
    let users : Side → Profile := fun who => if who = .a then .ofPartner 7 "Bob" "" "" 0 else .ofPartner 9 "Ann" "" "" 0
    let y := Runs.run (step users) {} [.act .a (.type "hi"), .act .a .sendAction, .act .a (.statusReply 0 [] 1),
      .childAdded .a 0, .act .a (.settle 0 true), .childAdded .b 0, .act .a (.longpress 0), .act .a .sheetRemove,
      .childRemoved .a 0, .act .a (.settle 1 true), .childRemoved .b 0]
    Delivered users y ∧ ¬ Mirrors users y := by
  intro users y
  have hdb : y.fb.db = .empty := by decide +kernel
  have hgone : ∀ key, ¬ Present users y.fb.db key := fun key hkey => hkey (by rw [hdb]; rfl)
  refine ⟨fun who => ⟨?_, fun n => ?_⟩, fun h => ?_⟩
  · cases who <;> decide +kernel
  · have htold : y.told who = [] := by cases who <;> decide +kernel
    rw [htold]
    exact iff_of_false List.not_mem_nil (hgone _)
  · obtain ⟨ns, -, hmem, hrows⟩ := h .b (by decide +kernel)
    cases ns with
    | nil => exact absurd (congrArg List.length hrows) (by decide +kernel)
    | cons n ns => exact hgone _ ((hmem (.auto n)).2 ⟨n, List.mem_cons_self, rfl⟩)

end OpenRoom
end Traveller
