import Traveller.ChatLock
/-!
# ChatPreviews — two clients sending to each other

Each client sends one text at a time, as three writes one after the other, and the writes of the two clients interleave
freely.  Both clients write both list entries, the own one second and the partner's third, so the two entries can end up
with the messages of different users.  What holds in every state with no write outstanding: an entry shows the last send of
one of the two, and both show the last message of the room when the send started last was started while the other client
had nothing outstanding (`previews_at_rest`).
-/
namespace Traveller

inductive Side where
  | a | b
  deriving DecidableEq, Repr

def Side.other : Side → Side
  | a => b
  | b => a

@[simp] theorem Side.other_other (who : Side) : who.other.other = who := by cases who <;> rfl

theorem Side.ne_other (who : Side) : who ≠ who.other := by cases who <;> decide

theorem Side.eq_or_other (who side : Side) : side = who ∨ side = who.other := by cases who <;> cases side <;> decide

/-- The text and the time a record carries. -/
def shown (r : Record) : Option String × Option String := (r.field "message", r.field "time")

def preview? (db : Database) (p : Path) : Option String × Option String :=
  (db.get (p ++ [.child "message"]), db.get (p ++ [.child "time"]))

theorem preview?_set (db : Database) (p : Path) (r : Record) : preview? (db.apply (.set p r)) p = shown r := by
  rw [preview?, PathTree.Tree.get_set, PathTree.Tree.get_set]
  rfl

theorem preview?_apply {db : Database} {w : DbWrite} {p : Path} (h : ¬ PathTree.Overlap w.path p) :
    preview? (db.apply w) p = preview? db p := by
  rw [preview?, PathTree.Tree.get_apply_of_not_overlap (PathTree.not_overlap_append h _),
    PathTree.Tree.get_apply_of_not_overlap (PathTree.not_overlap_append h _), preview?]

/-- The greatest key `childByAutoId` made among the nodes of a tree. -/
def lastKey (room : Database) : Option Nat :=
  (room.leaves.filterMap fun l => match l.1.head? with | some (.auto n) => some n | _ => none).max?

/-- The text and the time of the last message of a room. -/
def lastMessage (db : Database) (room : String) : Option (Option String × Option String) :=
  (lastKey (db.below (messagePath room))).map fun n => preview? db (messagePath room ++ [.auto n])

/-! ## The two clients -/

/-- The database and the send each client has in flight, if any. -/
structure Pair where
  fb : Firebase := {}
  flight : Side → Option Flight := fun _ => none

/-- What happens: a client sends a text by one of the two screens, or its outstanding write succeeds. -/
inductive PairEvent where
  | send (who : Side) (trip : Bool) (text : String) (now : Int)
  | land (who : Side)
  deriving DecidableEq, Repr

def textVia (trip : Bool) (text : String) : SendVia := if trip then .sendBtnClicked text else .doSend .text text

section Step
variable (users : Side → Profile)

def newSend (fb : Firebase) (who : Side) (trip : Bool) (text : String) (now : Int) : Send :=
  (textVia trip text).send (users who) (users who.other) (now * 1000) (.auto fb.nextKey)

/-- Whether the client may start a send: it has none in flight, and neither screen sends an empty text. -/
def maySend (s : Pair) (who : Side) (text : String) : Bool := (s.flight who).isNone && decide (text ≠ "")

def pairStep (s : Pair) : PairEvent → Pair
  | .send who trip text now =>
    if maySend s who text then
      { fb := { s.fb with nextKey := s.fb.nextKey + 1 }
        flight := Function.update s.flight who (some { send := newSend users s.fb who trip text now }) }
    else s
  | .land who =>
    match s.flight who with
    | none => s
    | some f => { fb := s.fb.apply f.write, flight := Function.update s.flight who f.next }

/-- Nobody has a write outstanding. -/
def Pair.AtRest (s : Pair) : Prop := ∀ who, s.flight who = none

def entryPath (who : Side) : Path :=
  listPath (listroomId (users who).userId) (listroomId (users who.other).userId)

def pairRoom : String := setParamsRoom (users .a).userId (users .b).userId

/-- **Both entries show the last message of the room**, unless there is none. -/
def Converged (s : Pair) : Prop :=
  ∀ m, lastMessage s.fb.db (pairRoom users) = some m →
    preview? s.fb.db (entryPath users .a) = m ∧ preview? s.fb.db (entryPath users .b) = m

/-! ## What has been sent -/

/-- Beside a run: each client's last send and the one before it, the send started last, and whether the other client had
nothing outstanding then. -/
structure Sent where
  last : Side → Option Send := fun _ => none
  prev : Side → Option Send := fun _ => none
  latest : Option (Side × Send) := none
  alone : Bool := true

def noteSent (g : Sent) (s : Pair) : PairEvent → Sent
  | .send who trip text now =>
    if maySend s who text then
      { last := Function.update g.last who (some (newSend users s.fb who trip text now))
        prev := Function.update g.prev who (g.last who)
        latest := some (who, newSend users s.fb who trip text now)
        alone := (s.flight who.other).isNone }
    else g
  | .land _ => g

def sentStep : Pair × Sent → PairEvent → Pair × Sent := Runs.noting (pairStep users) (noteSent users)

end Step

/-! ## Where the writes go -/

def Stage.rank : Stage → Nat
  | message => 0
  | meList => 1
  | partnerList => 2

section Target
variable (users : Side → Profile)

/-- A text send of the user, made before the key `bound`. -/
def OfUser (bound : Nat) (who : Side) (s : Send) : Prop :=
  ∃ trip text timeNow n, s = (textVia trip text).send (users who) (users who.other) timeNow (.auto n) ∧ n < bound

def target (who : Side) (key : Key) : Stage → Path
  | .message => messagePath (pairRoom users) ++ [key]
  | .meList => entryPath users who
  | .partnerList => entryPath users who.other

variable {users} {who : Side} {s : Send} {bound : Nat}

theorem OfUser.mono {bound' : Nat} (h : OfUser users bound who s) (hle : bound ≤ bound') : OfUser users bound' who s := by
  obtain ⟨trip, text, timeNow, n, hs, hn⟩ := h
  exact ⟨trip, text, timeNow, n, hs, hn.trans_le hle⟩

theorem send_path (who : Side) (via : SendVia) (timeNow : Int) (key : Key) (stage : Stage) :
    (via.send (users who) (users who.other) timeNow key).path stage = target users who key stage := by
  have hroom : setParamsRoom (users who).userId (users who.other).userId = pairRoom users := by
    cases who with
    | a => rfl
    | b => exact setParamsRoom_comm _ _
  cases stage with
  | message => rw [Send.path, SendVia.send_room, SendVia.send_key, hroom, target]
  | meList => rw [Send.path, SendVia.send_me, SendVia.send_partner, target, entryPath]
  | partnerList => rw [Send.path, SendVia.send_me, SendVia.send_partner, target, entryPath, Side.other_other]

theorem OfUser.write_eq (h : OfUser users bound who s) (stage : Stage) :
    ∃ r, s.write stage = .set (target users who s.key stage) r ∧ shown r = shown s.chatObject := by
  obtain ⟨trip, text, timeNow, n, rfl, -⟩ := h
  refine ⟨_, by rw [Send.write, send_path, SendVia.send_key], ?_⟩
  cases stage <;> cases trip <;>
    simp [shown, textVia, Send.record, SendVia.send, MessageSendVC.send, TripDetailVC.send, preview]

theorem OfUser.preview_target (h : OfUser users bound who s) (stage : Stage) (db : Database) :
    preview? (db.apply (s.write stage)) (target users who s.key stage) = shown s.chatObject := by
  obtain ⟨r, hw, hr⟩ := h.write_eq stage
  rw [hw, preview?_set, hr]

theorem OfUser.preview_other (h : OfUser users bound who s) {stage : Stage} {p : Path}
    (hp : ¬ PathTree.Overlap (target users who s.key stage) p) (db : Database) :
    preview? (db.apply (s.write stage)) p = preview? db p := by
  obtain ⟨r, hw, -⟩ := h.write_eq stage
  rw [hw]
  exact preview?_apply hp

theorem not_overlap_room_entry (users : Side → Profile) (p : Path) (who : Side) :
    ¬ PathTree.Overlap (messagePath (pairRoom users) ++ p) (entryPath users who) :=
  not_overlap_messagePath_listPath _ _ _ _

theorem overlap_entryPath (hne : (users .a).userId ≠ (users .b).userId) {who side : Side} :
    PathTree.Overlap (entryPath users who) (entryPath users side) ↔ who = side := by
  rw [entryPath, entryPath, overlap_listPath, listroomId_inj, listroomId_inj]
  cases who <;> cases side <;> simp [Side.other, hne, Ne.symm hne]

theorem target_inj (hne : (users .a).userId ≠ (users .b).userId) {who : Side} {key : Key} {stage stage' : Stage}
    (h : PathTree.Overlap (target users who key stage) (target users who key stage')) : stage = stage' := by
  have hroom := fun side => not_overlap_room_entry users [key] side
  cases stage <;> cases stage' <;> try rfl
  · exact absurd h (hroom _)
  · exact absurd h (hroom _)
  · exact absurd h.symm (hroom _)
  · exact absurd ((overlap_entryPath hne).1 h) (Side.ne_other who)
  · exact absurd h.symm (hroom _)
  · exact absurd ((overlap_entryPath hne).1 h) (Side.ne_other who).symm

end Target

/-! ## The invariant -/

section Invariant
variable (users : Side → Profile)

/-- The last send of the client whose write of this stage has landed. -/
def passed (y : Pair × Sent) (who : Side) (stage : Stage) : Option Send :=
  match y.1.flight who with
  | some f => if f.stage.rank ≤ stage.rank then y.2.prev who else y.2.last who
  | none => y.2.last who

/-- The write of this stage of the client's last send has landed. -/
def Landed (y : Pair × Sent) (who : Side) (stage : Stage) : Prop :=
  ∀ f, y.1.flight who = some f → stage.rank < f.stage.rank

/-- An entry shows the send of either client that last reached it, or what it showed at the start. -/
def EntryShows (start : Database) (y : Pair × Sent) (who : Side) : Prop :=
  (passed y who .meList = none ∧ passed y who.other .partnerList = none ∧
    preview? y.1.fb.db (entryPath users who) = preview? start (entryPath users who)) ∨
  (∃ s, passed y who .meList = some s ∧ preview? y.1.fb.db (entryPath users who) = shown s.chatObject) ∨
  ∃ s, passed y who.other .partnerList = some s ∧ preview? y.1.fb.db (entryPath users who) = shown s.chatObject

structure PairInv (start : Database) (y : Pair × Sent) : Prop where
  current : ∀ who f, y.1.flight who = some f → y.2.last who = some f.send
  ours : ∀ who s, y.2.last who = some s ∨ y.2.prev who = some s → OfUser users y.1.fb.nextKey who s
  entry : ∀ who, EntryShows users start y who
  fresh : y.1.fb.FreshBelow (messagePath (pairRoom users))
  latest : ∀ who s, y.2.latest = some (who, s) → y.2.last who = some s ∧
    ∃ n, s.key = .auto n ∧ n + 1 = y.1.fb.nextKey
  alone : ∀ who s, y.2.latest = some (who, s) → y.2.alone = true → y.1.flight who.other = none ∧
    ∀ stage, Landed y who stage → preview? y.1.fb.db (target users who s.key stage) = shown s.chatObject

variable {users} {start : Database} {y : Pair × Sent}

theorem EntryShows.congr {y' : Pair × Sent} {who : Side} (h : EntryShows users start y who)
    (hme : passed y' who .meList = passed y who .meList)
    (hpartner : passed y' who.other .partnerList = passed y who.other .partnerList)
    (hdb : preview? y'.1.fb.db (entryPath users who) = preview? y.1.fb.db (entryPath users who)) :
    EntryShows users start y' who := by
  unfold EntryShows
  rw [hme, hpartner, hdb]
  exact h

theorem PairInv.send (h : PairInv users start y) {who : Side} {trip : Bool} {text : String} {now : Int}
    (hmay : maySend y.1 who text = true) :
    PairInv users start (sentStep users y (.send who trip text now)) := by
  have hnone : y.1.flight who = none := by
    simp only [maySend, Bool.and_eq_true, Option.isNone_iff_eq_none] at hmay
    exact hmay.1
  have hnew : OfUser users (y.1.fb.nextKey + 1) who (newSend users y.1.fb who trip text now) :=
    ⟨trip, text, now * 1000, y.1.fb.nextKey, rfl, Nat.lt_succ_self _⟩
  have hstep : sentStep users y (.send who trip text now) =
      ({ fb := { y.1.fb with nextKey := y.1.fb.nextKey + 1 }
         flight := Function.update y.1.flight who (some { send := newSend users y.1.fb who trip text now }) },
       { last := Function.update y.2.last who (some (newSend users y.1.fb who trip text now))
         prev := Function.update y.2.prev who (y.2.last who)
         latest := some (who, newSend users y.1.fb who trip text now)
         alone := (y.1.flight who.other).isNone }) := by
    rw [sentStep, Runs.noting, pairStep, noteSent, if_pos hmay, if_pos hmay]
  have hpassed : ∀ side stage, passed (sentStep users y (.send who trip text now)) side stage = passed y side stage := by
    intro side stage
    rw [hstep]
    by_cases hs : side = who
    · subst hs
      simp only [passed, Function.update_self, hnone, Stage.rank, Nat.zero_le, if_true]
    · simp only [passed, Function.update_of_ne hs]
  refine ⟨?_, ?_, fun side => (h.entry side).congr (hpassed _ _) (hpassed _ _) (by rw [hstep]), ?_, ?_, ?_⟩
  · rw [hstep]
    intro side f hf
    by_cases hs : side = who
    · subst hs
      simp only [Function.update_self, Option.some.injEq] at hf ⊢
      rw [← hf]
    · simp only [Function.update_of_ne hs] at hf ⊢
      exact h.current side f hf
  · rw [hstep]
    intro side s hs
    by_cases hside : side = who
    · subst hside
      simp only [Function.update_self, Option.some.injEq] at hs
      rcases hs with rfl | hs
      · exact hnew
      · exact (h.ours _ _ (.inl hs)).mono (Nat.le_succ _)
    · simp only [Function.update_of_ne hside] at hs
      exact (h.ours side s hs).mono (Nat.le_succ _)
  · rw [hstep]
    exact fun l hl n hn => h.fresh l hl n (Nat.le_of_succ_le hn)
  · rw [hstep]
    intro side s hs
    simp only [Option.some.injEq, Prod.mk.injEq] at hs
    obtain ⟨rfl, rfl⟩ := hs
    exact ⟨Function.update_self .., y.1.fb.nextKey, SendVia.send_key .., rfl⟩
  · rw [hstep]
    intro side s hs halone
    simp only [Option.some.injEq, Prod.mk.injEq] at hs
    obtain ⟨rfl, rfl⟩ := hs
    refine ⟨?_, fun stage hl => ?_⟩
    · simp only [Function.update_of_ne (Side.ne_other who).symm]
      exact Option.isNone_iff_eq_none.1 halone
    · exact absurd (hl _ (Function.update_self ..)) (Nat.not_lt_zero _)

theorem next_cases (f : Flight) :
    (f.stage = .partnerList ∧ f.next = none) ∨
      ∃ f', f.next = some f' ∧ f'.send = f.send ∧ f'.stage.rank = f.stage.rank + 1 := by
  cases hs : f.stage with
  | partnerList => exact .inl ⟨rfl, by simp [Flight.next, hs, Stage.next]⟩
  | message => exact .inr ⟨{ f with stage := .meList }, by simp [Flight.next, hs, Stage.next], rfl, rfl⟩
  | meList => exact .inr ⟨{ f with stage := .partnerList }, by simp [Flight.next, hs, Stage.next], rfl, rfl⟩

theorem rank_inj {stage stage' : Stage} (h : stage.rank = stage'.rank) : stage = stage' := by
  cases stage <;> cases stage' <;> first | rfl | cases h

theorem rank_le_partnerList (stage : Stage) : stage.rank ≤ Stage.partnerList.rank := by cases stage <;> decide

section Land
variable {who : Side} {f : Flight}

theorem sentStep_land (users : Side → Profile) (hf : y.1.flight who = some f) :
    sentStep users y (.land who) =
      ({ fb := y.1.fb.apply f.write, flight := Function.update y.1.flight who f.next }, y.2) := by
  simp only [sentStep, Runs.noting, pairStep, hf, noteSent]

theorem passed_land (h : PairInv users start y) (hf : y.1.flight who = some f) (side : Side) (stage : Stage) :
    passed (sentStep users y (.land who)) side stage =
      if side = who ∧ stage = f.stage then some f.send else passed y side stage := by
  rw [sentStep_land _ hf]
  by_cases hs : side = who
  case neg => simp only [passed, Function.update_of_ne hs, hs, false_and, if_false]
  subst hs
  have hlast := h.current side f hf
  by_cases hst : stage = f.stage
  · rw [if_pos ⟨rfl, hst⟩, ← hlast]
    simp only [passed, Function.update_self]
    rcases next_cases f with ⟨-, hn⟩ | ⟨f', hn, -, hr⟩
    · rw [hn]
    · rw [hn]
      simp only
      rw [if_neg (by rw [hr, hst]; omega)]
  · rw [if_neg (fun h => hst h.2)]
    have hne : stage.rank ≠ f.stage.rank := fun h => hst (rank_inj h)
    simp only [passed, Function.update_self, hf]
    rcases next_cases f with ⟨hp, hn⟩ | ⟨f', hn, -, hr⟩
    · have hle := rank_le_partnerList stage
      rw [hn, if_neg (by rw [hp] at hne ⊢; omega)]
    · rw [hn]
      simp only [hr]
      by_cases hle : f.stage.rank ≤ stage.rank
      · rw [if_pos hle, if_pos (by omega)]
      · rw [if_neg hle, if_neg (by omega)]

theorem landed_land (hf : y.1.flight who = some f) {side : Side} {stage : Stage}
    (hl : Landed (sentStep users y (.land who)) side stage) :
    Landed y side stage ∨ side = who ∧ stage = f.stage := by
  rw [sentStep_land _ hf] at hl
  by_cases hs : side = who
  case neg =>
    refine .inl fun g hg => hl g ?_
    simpa only [Function.update_of_ne hs] using hg
  subst hs
  by_cases hst : stage = f.stage
  · exact .inr ⟨rfl, hst⟩
  · refine .inl fun g hg => ?_
    rw [hf] at hg
    obtain rfl := Option.some.inj hg
    have hne : stage.rank ≠ f.stage.rank := fun h => hst (rank_inj h)
    rcases next_cases f with ⟨hp, -⟩ | ⟨f', hn, -, hr⟩
    · have hle := rank_le_partnerList stage
      rw [hp] at hne ⊢
      omega
    · have hlt := hl f' (by simp only [Function.update_self, hn])
      omega

theorem sentStep_land_db (hf : y.1.flight who = some f) :
    (sentStep users y (.land who)).1.fb.db = y.1.fb.db.apply (f.send.write f.stage) := by
  rw [sentStep_land users hf]
  rfl

/-- The landed write is what its node shows. -/
theorem PairInv.landed_shown (h : PairInv users start y) (hf : y.1.flight who = some f) :
    preview? (sentStep users y (.land who)).1.fb.db (target users who f.send.key f.stage) = shown f.send.chatObject := by
  rw [sentStep_land_db hf]
  exact (h.ours who f.send (.inl (h.current who f hf))).preview_target _ _

/-- What the landed write does not reach shows what it showed. -/
theorem PairInv.preview_land_other (h : PairInv users start y) (hf : y.1.flight who = some f) {p : List Key}
    (hp : ¬ PathTree.Overlap (target users who f.send.key f.stage) p) :
    preview? (sentStep users y (.land who)).1.fb.db p = preview? y.1.fb.db p := by
  rw [sentStep_land_db hf]
  exact (h.ours who f.send (.inl (h.current who f hf))).preview_other hp _

/-- An entry shows the landed write, or what it showed. -/
theorem PairInv.land_entry (hne : (users .a).userId ≠ (users .b).userId) (h : PairInv users start y)
    (hf : y.1.flight who = some f) (side : Side) : EntryShows users start (sentStep users y (.land who)) side := by
  have htarget := h.landed_shown hf
  by_cases hthis : PathTree.Overlap (target users who f.send.key f.stage) (entryPath users side)
  · cases hst : f.stage with
    | message =>
      rw [hst] at hthis
      exact absurd hthis (not_overlap_room_entry _ _ _)
    | meList =>
      rw [hst] at hthis htarget
      obtain rfl := (overlap_entryPath hne).1 hthis
      exact .inr (.inl ⟨f.send, by rw [passed_land h hf, if_pos ⟨rfl, hst.symm⟩], htarget⟩)
    | partnerList =>
      rw [hst] at hthis htarget
      obtain rfl := (overlap_entryPath hne).1 hthis
      refine .inr (.inr ⟨f.send, ?_, htarget⟩)
      rw [Side.other_other, passed_land h hf, if_pos ⟨rfl, hst.symm⟩]
  · have hmiss : ∀ side' stage, target users who f.send.key stage = entryPath users side →
        passed (sentStep users y (.land who)) side' stage = passed y side' stage := fun side' stage ht => by
      rw [passed_land h hf, if_neg]
      rintro ⟨-, rfl⟩
      exact hthis (ht ▸ PathTree.Overlap.refl _)
    refine (h.entry side).congr ?_ ?_ (h.preview_land_other hf hthis)
    · by_cases hs : side = who
      · exact hmiss _ _ (by rw [hs]; rfl)
      · rw [passed_land h hf, if_neg (fun hx => hs hx.1)]
    · by_cases hs : side.other = who
      · exact hmiss _ _ (by rw [← hs]; simp [target])
      · rw [passed_land h hf, if_neg (fun hx => hs hx.1)]

/-- A landed message has a key given out before; the other writes are not under the room. -/
theorem PairInv.land_fresh (h : PairInv users start y) (hf : y.1.flight who = some f) :
    (sentStep users y (.land who)).1.fb.FreshBelow (messagePath (pairRoom users)) := by
  have hours := h.ours who f.send (.inl (h.current who f hf))
  rw [sentStep_land users hf, Flight.write]
  obtain ⟨r, hw, -⟩ := hours.write_eq f.stage
  rw [hw]
  by_cases hst : f.stage = .message
  · obtain ⟨trip, text, timeNow, m, hsend, hm⟩ := hours
    have hkey : f.send.key = .auto m := by
      rw [hsend]
      exact SendVia.send_key ..
    rw [hst, target, hkey]
    exact h.fresh.set hm r
  · have hmiss : ¬ PathTree.Overlap (target users who f.send.key f.stage) (messagePath (pairRoom users)) := by
      have hroom := fun side => not_overlap_room_entry users [] side
      simp only [List.append_nil] at hroom
      cases hs : f.stage with
      | message => exact absurd hs hst
      | meList => exact fun ho => hroom _ ho.symm
      | partnerList => exact fun ho => hroom _ ho.symm
    exact h.fresh.mono (PathTree.Tree.below_apply_of_not_overlap hmiss) (Nat.le_refl _)

/-- A send that is alone stays so, and shows in one node more. -/
theorem PairInv.land_alone (hne : (users .a).userId ≠ (users .b).userId) (h : PairInv users start y)
    (hf : y.1.flight who = some f) {side : Side} {s : Send} (hs : y.2.latest = some (side, s)) (halone : y.2.alone = true) :
    (sentStep users y (.land who)).1.flight side.other = none ∧
      ∀ stage, Landed (sentStep users y (.land who)) side stage →
        preview? (sentStep users y (.land who)).1.fb.db (target users side s.key stage) = shown s.chatObject := by
  obtain ⟨hnone, hshown⟩ := h.alone side s hs halone
  have hside : side = who := by
    rcases Side.eq_or_other who side with hx | hx
    · exact hx
    · rw [hx, Side.other_other, hf] at hnone
      cases hnone
  subst hside
  obtain rfl : s = f.send := Option.some.inj ((h.latest side s hs).1.symm.trans (h.current side f hf))
  refine ⟨?_, fun stage hl => ?_⟩
  · rw [sentStep_land users hf]
    simpa only [Function.update_of_ne (Side.ne_other side).symm] using hnone
  · by_cases hst : stage = f.stage
    · rw [hst]
      exact h.landed_shown hf
    · rw [h.preview_land_other hf (fun ho => hst (target_inj hne ho).symm)]
      rcases landed_land hf hl with hl | ⟨-, hl⟩
      · exact hshown stage hl
      · exact absurd hl hst

theorem PairInv.land (hne : (users .a).userId ≠ (users .b).userId) (h : PairInv users start y)
    (hf : y.1.flight who = some f) : PairInv users start (sentStep users y (.land who)) := by
  have hstep := sentStep_land users hf
  refine ⟨?_, ?_, h.land_entry hne hf, h.land_fresh hf, ?_, ?_⟩
  · rw [hstep]
    intro side g hg
    by_cases hs : side = who
    · subst hs
      simp only [Function.update_self] at hg
      rcases next_cases f with ⟨-, hn⟩ | ⟨f', hn, hsend, -⟩
      · rw [hn] at hg
        cases hg
      · rw [hn] at hg
        obtain rfl := Option.some.inj hg
        rw [hsend]
        exact h.current side f hf
    · simp only [Function.update_of_ne hs] at hg
      exact h.current side g hg
  · rw [hstep]
    exact h.ours
  · rw [hstep]
    exact h.latest
  · intro side s hs halone
    exact h.land_alone hne hf (by rwa [hstep] at hs) (by rwa [hstep] at halone)

end Land

theorem PairInv.init (fb : Firebase) (hfresh : fb.FreshBelow (messagePath (pairRoom users))) : PairInv users fb.db ({ fb := fb }, {}) where
  current := fun _ _ hf => by cases hf
  ours := fun _ _ hs => by rcases hs with hs | hs <;> cases hs
  entry := fun _ => .inl ⟨rfl, rfl, rfl⟩
  fresh := hfresh
  latest := fun _ _ hs => by cases hs
  alone := fun _ _ hs => by cases hs

theorem PairInv.step (hne : (users .a).userId ≠ (users .b).userId) (h : PairInv users start y) (e : PairEvent) :
    PairInv users start (sentStep users y e) := by
  cases e with
  | send who trip text now =>
    cases hmay : maySend y.1 who text with
    | true => exact h.send hmay
    | false =>
      have hsame : sentStep users y (.send who trip text now) = y := by
        simp only [sentStep, Runs.noting, pairStep, noteSent, hmay, Bool.false_eq_true, if_false]
      rwa [hsame]
  | land who =>
    cases hf : y.1.flight who with
    | some f => exact h.land hne hf
    | none =>
      have hsame : sentStep users y (.land who) = y := by
        simp only [sentStep, Runs.noting, pairStep, hf, noteSent]
      rwa [hsame]

/-- The send started last is the last message of the room. -/
theorem PairInv.lastMessage (h : PairInv users start y) {who : Side} {s : Send} (hs : y.2.latest = some (who, s))
    (hroom : preview? y.1.fb.db (messagePath (pairRoom users) ++ [s.key]) = shown s.chatObject) :
    lastMessage y.1.fb.db (pairRoom users) = some (shown s.chatObject) := by
  obtain ⟨hlast, n, hkey, hn⟩ := h.latest who s hs
  obtain ⟨trip, text, timeNow, _, hsend, -⟩ := h.ours who s (.inl hlast)
  have hmsg : s.chatObject.field "message" = some text := by
    rw [hsend]
    cases trip <;> simp [textVia, SendVia.send, MessageSendVC.send, TripDetailVC.send]
  have hget : y.1.fb.db.get (messagePath (pairRoom users) ++ [s.key] ++ [.child "message"]) = some text := by
    rw [← hmsg]
    exact congrArg Prod.fst hroom
  rw [List.append_assoc, ← PathTree.Tree.get_below] at hget
  have hmem := PathTree.Tree.mem_of_get hget
  have hkeyLast : lastKey (y.1.fb.db.below (messagePath (pairRoom users))) = some n := by
    rw [lastKey, List.max?_eq_some_iff]
    refine ⟨List.mem_filterMap.2 ⟨_, hmem, by simp [hkey]⟩, fun m hm => ?_⟩
    obtain ⟨l, hl, hlm⟩ := List.mem_filterMap.1 hm
    have hhead : l.1.head? = some (.auto m) := by
      split at hlm
      · rename_i k hk
        rw [hk, Option.some.inj hlm]
      · cases hlm
    have hfresh := h.fresh l hl m
    by_contra hlt
    exact hfresh (by omega) hhead
  rw [Traveller.lastMessage, hkeyLast, Option.map_some, ← hkey, hroom]

end Invariant

/-! ## The chat screen takes these steps -/

section Screen
variable {users : Side → Profile} {who : Side} {s : Pair} {v : MessageSendVC}

/-- A text that `doSend` accepts on the screen of `who` is a send of the pair. -/
theorem doSend_pairStep (online : Bool) (text : String) (now : Int) (hflight : MessageSendVC.sends v = [])
    (hnone : s.flight who = none) (hb : v.isBlock ≠ "true") (hl : v.isdosending = false) (htext : text ≠ "") :
    let x := MessageSendVC.doSend (users who) (users who.other) online .text text now s.fb v
    let s' := pairStep users s (.send who false text now)
    x.1 = s'.fb ∧ MessageSendVC.sends x.2 = (s'.flight who).toList := by
  have hmay : maySend s who text = true := by simp [maySend, hnone, htext]
  intro x s'
  have hx : x = _ := MessageSendVC.doSend_start _ _ _ _ _ hb hl (fun h => htext h.2)
  have hs' : s' = _ := if_pos hmay
  have hflight' : s'.flight who = some { send := newSend users s.fb who false text now } := by
    rw [hs']
    exact Function.update_self ..
  rw [hflight', hx, hs']
  refine ⟨rfl, ?_⟩
  rw [MessageSendVC.sends_start rfl, hflight]
  rfl

/-- The success of the outstanding write of a send on the screen is a landing of the pair. -/
theorem settle_pairStep {i : Nat} {f : Flight} (hi : v.outstanding[i]? = some (.send f))
    (hflight : MessageSendVC.sends v = [f]) (hf : s.flight who = some f) :
    let x := MessageSendVC.settle i true s.fb v
    let s' := pairStep users s (.land who)
    x.1 = s'.fb ∧ MessageSendVC.sends x.2 = (s'.flight who).toList := by
  intro x s'
  have hs' : s' = { fb := s.fb.apply f.write, flight := Function.update s.flight who f.next } := by
    simp only [s', pairStep, hf]
  have hflight' : s'.flight who = f.next := by
    rw [hs']
    exact Function.update_self ..
  rw [hflight', hs']
  cases MessageSendVC.settle_completion i true (s.fb, v) with
  | nothing hi' hx => rw [hi] at hi'; cases hi'
  | write w hi' hfb hb hl hs ho => rw [hi] at hi'; cases hi'
  | send g rest hi' hfb hb hl hs hsends ho =>
    rw [hi] at hi'
    cases hi'
    rw [hflight] at hs
    have hrest : rest = [] := List.length_eq_zero_iff.1 (by simpa using hs.length_eq)
    rw [hrest, if_pos rfl, List.append_nil] at hsends
    refine ⟨hfb, ?_⟩
    cases hn : f.next with
    | none =>
      rw [hn] at hsends
      exact hsends.eq_nil
    | some f' =>
      rw [hn] at hsends
      exact hsends.eq_singleton

end Screen

/-! ## At rest -/

/-- **The previews in a state with no write outstanding.**  Each entry shows the last send of one of the two clients, or what
it showed at the start when neither has sent; and both show the last message of the room when the send started last was
started while the other client had no write outstanding. -/
theorem previews_at_rest (users : Side → Profile) (hne : (users .a).userId ≠ (users .b).userId) (fb : Firebase)
    (hfresh : fb.FreshBelow (messagePath (pairRoom users))) (es : List PairEvent) :
    let y := Runs.run (sentStep users) ({ fb := fb }, {}) es
    y.1.AtRest →
      (∀ who, (y.2.last who = none ∧ y.2.last who.other = none ∧
          preview? y.1.fb.db (entryPath users who) = preview? fb.db (entryPath users who)) ∨
        ∃ side s, y.2.last side = some s ∧ preview? y.1.fb.db (entryPath users who) = shown s.chatObject) ∧
      (∀ side s, y.2.latest = some (side, s) → y.2.alone = true →
        lastMessage y.1.fb.db (pairRoom users) = some (shown s.chatObject) ∧
        ∀ who, preview? y.1.fb.db (entryPath users who) = shown s.chatObject) := by
  intro y hrest
  have h : PairInv users fb.db y :=
    Runs.run_invariant (PairInv users fb.db) (fun _ e h _ => h.step hne e) (.init fb hfresh) (Runs.allSteps_trivial _ _ _)
  have hpassed : ∀ who stage, passed y who stage = y.2.last who := fun who stage => by simp only [passed, hrest who]
  have hlanded : ∀ who stage, Landed y who stage := fun who stage f hf => by
    rw [hrest who] at hf
    cases hf
  refine ⟨fun who => ?_, fun side s hs halone => ?_⟩
  · have hentry := h.entry who
    simp only [EntryShows, hpassed] at hentry
    rcases hentry with hnone | ⟨s, hs, hshown⟩ | ⟨s, hs, hshown⟩
    · exact .inl hnone
    · exact .inr ⟨who, s, hs, hshown⟩
    · exact .inr ⟨who.other, s, hs, hshown⟩
  · obtain ⟨-, hshown⟩ := h.alone side s hs halone
    refine ⟨h.lastMessage hs (hshown .message (hlanded _ _)), fun who => ?_⟩
    rcases Side.eq_or_other side who with hwho | hwho
    · rw [hwho]
      exact hshown .meList (hlanded _ _)
    · rw [hwho]
      exact hshown .partnerList (hlanded _ _)

/-- One text after the other. -/
theorem previews_at_rest_in_turn :
    let users : Side → Profile := fun who => if who = .a then .ofPartner 7 "Bob" "" "" 0 else .ofPartner 9 "Ann" "" "" 0
    lastMessage (Runs.run (sentStep users) ({ fb := {} }, {})
      [.send .a false "one" 1, .land .a, .land .a, .land .a, .send .b true "two" 2, .land .b, .land .b, .land .b]).1.fb.db
        "7_9" = some (some "two", some "2000") :=
  ((previews_at_rest (fun who => if who = .a then .ofPartner 7 "Bob" "" "" 0 else .ofPartner 9 "Ann" "" "" 0) (by decide) {}
    (fun _ hl => absurd hl List.not_mem_nil)
    [.send .a false "one" 1, .land .a, .land .a, .land .a, .send .b true "two" 2, .land .b, .land .b, .land .b]
    (fun who => by cases who <;> rfl)).2 .b _ rfl rfl).1

/-- Two texts that cross, each write of one before the same write of the other: the entries show one text each. -/
theorem crossed_sends_disagree :
    let users : Side → Profile := fun who => if who = .a then .ofPartner 7 "Bob" "" "" 0 else .ofPartner 9 "Ann" "" "" 0
    let s := Runs.run (pairStep users) {}
      [.send .a false "one" 1, .send .b false "two" 2, .land .a, .land .b, .land .a, .land .b, .land .a, .land .b]
    s.AtRest ∧ ¬ Converged users s :=
  ⟨fun who => by cases who <;> rfl, fun h => absurd (h (some "two", some "2000") (by decide)).2 (by decide)⟩

end Traveller
