import Traveller.ChatScreen
/-!
# Presence — who is on his chat screen

Each user has one phone, and a phone has one chat screen at most: `ChatVC` presents it over everything, and presents nothing
while it is there.  Appearing writes `online` into the user's status room for the partner, the back button and every
disappearance write `offline`, each by emptying the room and pushing a record; the phone's writes are applied in the order it
issued them, and what other phones do comes between any two of them.

The invariant (`Inv`) is about a room and the writes its owner has outstanding: however many of them have been applied, the
room has one record at most, and when all have, the record says whether the screen is showing.
-/
namespace Traveller

/-- Where a chat screen is: showing, gone from the screen but not left, or left by the back button. -/
inductive Phase where
  | appeared | disappeared | left
  deriving DecidableEq, Repr

/-- The `MessageSendVC` a phone has presented last. -/
structure ChatScreen where
  partner : Int
  phase : Phase
  deriving DecidableEq, Repr

/-- A phone, with the writes it has issued and that have not been applied, the first one first. -/
structure Phone where
  chat : Option ChatScreen := none
  outstanding : List DbWrite := []
  deriving DecidableEq, Repr

/-- A query of `getPartnerOnlineStatus` that has not been answered. -/
structure StatusQuery where
  number : Nat
  user : Int
  partner : Int
  deriving DecidableEq, Repr

/-- The database and the phones of all users, the queries under way, and what their completions were called with. -/
structure Presence where
  fb : Firebase := {}
  phone : Int → Phone := fun _ => {}
  queries : List StatusQuery := []
  issued : Nat := 0
  completions : List (Nat × Bool) := []

inductive PresenceEvent where
  | didSelectItemAt (user partner now : Int)
  | viewWillAppear (user now : Int)
  | addTappedLeftBtn (user now : Int)
  | viewDidDisappear (user now : Int)
  | getPartnerOnlineStatus (user : Int)
  | answer (i : Nat)
  | land (user : Int)
  deriving DecidableEq, Repr

namespace Presence

/-- `statusObject` of `setOnlinestatus4me` and `setOfflinestatus4me`. -/
def statusObject (me : Int) (online : String) (timeNow : Int) : Record :=
  .ofFields [("online", some online), ("sender_id", some (toString me)), ("time", some (toString timeNow))]

/-- The records a status room holds. -/
def records (db : Database) (room : String) : List Record :=
  (db.below (statusPath room)).children.map fun key => ((db.below (statusPath room)).below [key]).record

/-- What the snapshot of a status room says, record by record. -/
def snapshot (db : Database) (room : String) : List String := (records db room).filterMap (·.field "online")

/-- What the completion of the `i`-th query under way is called with if it is answered now. -/
def answered (w : Presence) (i : Nat) : Option (StatusQuery × List Bool) :=
  w.queries[i]?.map fun q =>
    (q, MessageSendVC.getPartnerOnlineStatus (snapshot w.fb.db (partnerstatusroomID q.user q.partner)))

/-- The user's phone shows `chat` and issues writes, one of them under a new key. -/
def issue (user : Int) (chat : ChatScreen) (writes : Key → List DbWrite) (w : Presence) : Presence :=
  { w with
    fb := { w.fb with nextKey := w.fb.nextKey + 1 }
    phone := Function.update w.phone user
      { chat := some chat, outstanding := (w.phone user).outstanding ++ writes (.auto w.fb.nextKey) } }

/-- The write of the user's phone that is first is applied, and the rest stays. -/
def landed (user : Int) (wr : DbWrite) (rest : List DbWrite) (w : Presence) : Presence :=
  { w with
    fb := w.fb.apply wr
    phone := Function.update w.phone user { w.phone user with outstanding := rest } }

def step (w : Presence) : PresenceEvent → Presence
  | .didSelectItemAt user partner now =>
    -- nothing is presented over a screen that is showing
    if (w.phone user).chat.any (·.phase = .appeared) then w
    else w.issue user ⟨partner, .appeared⟩ (setOnlinestatus4me user partner (now * 1000))
  | .viewWillAppear user now =>
    match (w.phone user).chat with
    | some ⟨partner, .appeared⟩ | some ⟨partner, .disappeared⟩ =>
      w.issue user ⟨partner, .appeared⟩ (setOnlinestatus4me user partner (now * 1000))
    | _ => w
  | .addTappedLeftBtn user now =>
    match (w.phone user).chat with
    | some ⟨partner, .appeared⟩ =>
      w.issue user ⟨partner, .left⟩ fun key =>
        setOfflinestatus4me user partner (now * 1000) key ++ removeNode4me4finish user partner
    | _ => w
  | .viewDidDisappear user now =>
    match (w.phone user).chat with
    | some ⟨partner, .appeared⟩ =>
      w.issue user ⟨partner, .disappeared⟩ (setOfflinestatus4me user partner (now * 1000))
    -- the back button has replaced the root, and the screen it leaves disappears
    | some ⟨partner, .left⟩ => w.issue user ⟨partner, .left⟩ (setOfflinestatus4me user partner (now * 1000))
    | _ => w
  | .getPartnerOnlineStatus user =>
    match (w.phone user).chat with
    | some chat =>
      { w with queries := w.queries ++ [⟨w.issued, user, chat.partner⟩], issued := w.issued + 1 }
    | none => w
  | .answer i =>
    match w.answered i with
    | some (q, onlines) =>
      { w with
        queries := w.queries.eraseIdx i
        completions := w.completions ++ onlines.map fun online => (q.number, online) }
    | none => w
  | .land user =>
    match (w.phone user).outstanding with
    | wr :: rest => w.landed user wr rest
    | [] => w

/-- The chat screen of `user` with `partner` is showing. -/
def Showing (w : Presence) (user partner : Int) : Prop := (w.phone user).chat = some ⟨partner, .appeared⟩

instance (w : Presence) (user partner : Int) : Decidable (w.Showing user partner) := inferInstanceAs (Decidable (_ = _))

/-! ## A room, and the writes to it -/

/-- **What a status room holds**: nothing, or one record of its owner. -/
def Holds (user : Int) (t : Database) : Option String → Prop
  | none => t = .empty
  | some online =>
    ∃ key timeNow, t = PathTree.Tree.empty.apply (.set [key] (statusObject user online timeNow))

/-- A write a phone makes: to a status room of its user, or to a request. -/
def OwnWrite (user : Int) (wr : DbWrite) : Prop :=
  (∃ partner r, wr.path = statusPath (mestatusroomID user partner) ++ r) ∨
    ∃ partner, wr.path = requestPath (listroomId user) (listroomId partner)

theorem overlap_statusPath {room room' : String} (r : Path) :
    PathTree.Overlap (statusPath room ++ r) (statusPath room') ↔ room = room' := by
  simp [statusPath, PathTree.overlap_cons, PathTree.Overlap.symm (PathTree.overlap_nil r)]

/-- **A write of a phone is in the room it overlaps, and the room is its user's.** -/
theorem OwnWrite.in_room {user : Int} {wr : DbWrite} (h : OwnWrite user wr) {owner partner : Int}
    (ho : PathTree.Overlap wr.path (statusPath (mestatusroomID owner partner))) :
    user = owner ∧ statusPath (mestatusroomID owner partner) <+: wr.path := by
  rcases h with ⟨partner', r, hp⟩ | ⟨partner', hp⟩ <;> rw [hp] at ho ⊢
  · have hroom := (overlap_statusPath r).1 ho
    exact ⟨(joined_inj.1 hroom).2, by rw [hroom]; exact List.prefix_append ..⟩
  · simp [requestPath, statusPath, PathTree.overlap_cons] at ho

theorem path_setStatus4me {user partner timeNow : Int} {online : String} {key : Key} {wr : DbWrite}
    (h : wr ∈ setStatus4me user partner online timeNow key) :
    ∃ r, wr.path = statusPath (mestatusroomID user partner) ++ r := by
  simp only [setStatus4me, List.mem_cons, List.not_mem_nil, or_false] at h
  rcases h with rfl | rfl
  · exact ⟨[], (List.append_nil _).symm⟩
  · exact ⟨[key], rfl⟩

/-- What is in a room after the owner's status has been set: the record, once it is pushed. -/
theorem holds_setStatus4me (user partner timeNow : Int) (online : String) (key : Key) (db : Database) :
    Holds user ((db.apply (.remove (statusPath (mestatusroomID user partner)))).below
        (statusPath (mestatusroomID user partner))) none ∧
      Holds user ((db.applyAll (setStatus4me user partner online timeNow key)).below
        (statusPath (mestatusroomID user partner))) (some online) := by
  have hremove := PathTree.Tree.below_remove db (statusPath (mestatusroomID user partner))
  refine ⟨hremove, key, timeNow, ?_⟩
  have hset := PathTree.Tree.below_apply_under (db.apply (.remove (statusPath (mestatusroomID user partner))))
    (.set [key] (statusObject user online timeNow)) (statusPath (mestatusroomID user partner))
  rw [hremove] at hset
  exact hset

/-- **A room has one record at most**, and what its snapshot says is what it holds. -/
theorem Holds.records {user : Int} {db : Database} {room : String} {online : Option String}
    (h : Holds user (db.below (statusPath room)) online) :
    (Presence.records db room).length ≤ 1 ∧ snapshot db room = online.toList := by
  cases online with
  | none =>
    have h : db.below (statusPath room) = .empty := h
    simp [snapshot, Presence.records, h, PathTree.Tree.children, PathTree.Tree.empty]
  | some online =>
    obtain ⟨key, timeNow, h⟩ := h
    have hrecords : Presence.records db room = [statusObject user online timeNow] := by
      rw [Presence.records, h, show (statusObject user online timeNow) = _ :: _ from rfl, PathTree.Tree.children_set_empty,
        List.map_singleton, PathTree.Tree.record_below_set]
    rw [snapshot, hrecords]
    simp [statusObject]

/-! ## The invariant -/

/-- A status room of `owner` holds nothing or one record of his. -/
def One (owner partner : Int) (db : Database) : Prop :=
  ∃ online, Holds owner (db.below (statusPath (mestatusroomID owner partner))) online

/-- **The invariant**: a phone writes to its user's rooms only, a room has one record at most however many of the outstanding
writes are applied, and says whether the screen is showing once all are; and each query is under way or has been answered
once. -/
structure Inv (w : Presence) : Prop where
  own : ∀ user, ∀ wr ∈ (w.phone user).outstanding, OwnWrite user wr
  one : ∀ user partner, Runs.AllStates PathTree.Tree.apply (One user partner) w.fb.db (w.phone user).outstanding
  last : ∀ user partner, ∃ online,
    Holds user ((w.fb.db.applyAll (w.phone user).outstanding).below (statusPath (mestatusroomID user partner))) online ∧
      (online = some "online" ↔ w.Showing user partner)
  once : ∀ n, (w.completions.map Prod.fst).count n + (w.queries.map StatusQuery.number).count n =
    if n < w.issued then 1 else 0

theorem inv_empty : Inv {} where
  own _ _ hwr := absurd hwr List.not_mem_nil
  one _ _ := ⟨none, rfl⟩
  last user partner := ⟨none, rfl, ⟨fun h => (by cases h), fun h => (by cases h)⟩⟩
  once _ := rfl

/-- Writes elsewhere leave a room as it is, one after the other. -/
theorem one_of_not_overlap {owner partner : Int} : ∀ {ws : List DbWrite} {db : Database},
    (∀ wr ∈ ws, ¬ PathTree.Overlap wr.path (statusPath (mestatusroomID owner partner))) → One owner partner db →
      Runs.AllStates PathTree.Tree.apply (One owner partner) db ws
  | [], _, _, h => h
  | wr :: ws, db, hws, h => by
    refine ⟨h, one_of_not_overlap (fun wr' hwr' => hws wr' (List.mem_cons_of_mem _ hwr')) ?_⟩
    rw [One, PathTree.Tree.below_apply_of_not_overlap (hws wr List.mem_cons_self)]
    exact h

section Issue
variable {w : Presence} {user partner : Int} {phase : Phase} {writes : Key → List DbWrite}

theorem showing_issue (owner other : Int) :
    (w.issue user ⟨partner, phase⟩ writes).Showing owner other ↔
      if owner = user then partner = other ∧ phase = .appeared else w.Showing owner other := by
  unfold Showing issue
  by_cases ho : owner = user
  · subst ho
    simp
  · simp [ho]

section Rooms
variable {rest : List DbWrite} (hrest : ∀ wr ∈ rest, wr.path = requestPath (listroomId user) (listroomId partner))
include hrest

theorem requests_not_overlap (other : Int) :
    ∀ wr ∈ rest, ¬ PathTree.Overlap wr.path (statusPath (mestatusroomID user other)) := fun wr hwr => by
  rw [hrest wr hwr]
  simp [requestPath, statusPath, PathTree.overlap_cons]

/-- The room that is written is the partner's. -/
theorem issue_not_overlap {key : Key} {timeNow : Int} {online : String} {other : Int} (hp : other ≠ partner) :
    ∀ wr ∈ setStatus4me user partner online timeNow key ++ rest,
      ¬ PathTree.Overlap wr.path (statusPath (mestatusroomID user other)) := fun wr hwr ho => by
  rcases List.mem_append.1 hwr with hwr | hwr
  · obtain ⟨r, hr⟩ := path_setStatus4me hwr
    rw [hr] at ho
    exact hp (joined_inj.1 ((overlap_statusPath r).1 ho)).1.symm
  · exact requests_not_overlap hrest other wr hwr ho

end Rooms

/-- **Setting the own status keeps the invariant**, where the screen that shows afterwards is the one the status is about. -/
theorem Inv.issue (h : Inv w) (rest : List DbWrite) {timeNow : Int} {online : String}
    (hwrites : ∀ key, writes key = setStatus4me user partner online timeNow key ++ rest)
    (hrest : ∀ wr ∈ rest, wr.path = requestPath (listroomId user) (listroomId partner))
    (honline : online = "online" ↔ phase = .appeared) (hothers : ∀ p, w.Showing user p → p = partner) :
    Inv (w.issue user ⟨partner, phase⟩ writes) := by
  have hown : ∀ wr ∈ writes (.auto w.fb.nextKey), OwnWrite user wr := fun wr hwr => by
    rw [hwrites] at hwr
    rcases List.mem_append.1 hwr with hwr | hwr
    · exact .inl ⟨partner, path_setStatus4me hwr⟩
    · exact .inr ⟨partner, hrest wr hwr⟩
  have hphone : (w.issue user ⟨partner, phase⟩ writes).phone user =
      { chat := some ⟨partner, phase⟩, outstanding := (w.phone user).outstanding ++ writes (.auto w.fb.nextKey) } :=
    Function.update_self ..
  have hphone' : ∀ owner, owner ≠ user → (w.issue user ⟨partner, phase⟩ writes).phone owner = w.phone owner :=
    fun owner ho => Function.update_of_ne ho ..
  have hfb : (w.issue user ⟨partner, phase⟩ writes).fb.db = w.fb.db := rfl
  have hset : ∀ p, p ≠ partner → ∀ wr ∈ writes (.auto w.fb.nextKey),
      ¬ PathTree.Overlap wr.path (statusPath (mestatusroomID user p)) := fun p hp => by
    rw [hwrites]
    exact issue_not_overlap hrest hp
  refine ⟨fun owner wr hwr => ?_, fun owner p => ?_, fun owner p => ?_, h.once⟩
  · by_cases ho : owner = user
    · subst ho
      rw [hphone] at hwr
      exact (List.mem_append.1 hwr).elim (h.own owner wr) (hown wr)
    · rw [hphone' owner ho] at hwr
      exact h.own owner wr hwr
  · by_cases ho : owner = user
    · subst ho
      rw [hphone, hfb]
      refine Runs.allStates_append.2 ⟨h.one owner p, ?_⟩
      obtain ⟨was, hwas, -⟩ := h.last owner p
      by_cases hp : p = partner
      · subst hp
        obtain ⟨hnone, hsome⟩ := holds_setStatus4me owner p timeNow online (.auto w.fb.nextKey)
          (w.fb.db.applyAll (w.phone owner).outstanding)
        rw [hwrites]
        exact ⟨⟨was, hwas⟩, ⟨none, hnone⟩, one_of_not_overlap (requests_not_overlap hrest p) ⟨some online, hsome⟩⟩
      · exact one_of_not_overlap (hset p hp) ⟨was, hwas⟩
    · rw [hphone' owner ho, hfb]
      exact h.one owner p
  · rw [showing_issue]
    by_cases ho : owner = user
    · subst ho
      rw [if_pos rfl, hphone, hfb, PathTree.Tree.applyAll_append]
      by_cases hp : p = partner
      · subst hp
        obtain ⟨-, hsome⟩ := holds_setStatus4me owner p timeNow online (.auto w.fb.nextKey)
          (w.fb.db.applyAll (w.phone owner).outstanding)
        refine ⟨some online, ?_, by simpa using honline⟩
        rw [hwrites, PathTree.Tree.applyAll_append,
          PathTree.Tree.below_applyAll_of_not_overlap (requests_not_overlap hrest p)]
        exact hsome
      · obtain ⟨was, hwas, hiff⟩ := h.last owner p
        refine ⟨was, ?_, ?_⟩
        · rw [PathTree.Tree.below_applyAll_of_not_overlap (hset p hp)]
          exact hwas
        · exact iff_of_false (fun hon => hp (hothers p (hiff.1 hon))) fun hon => hp hon.1.symm
    · rw [if_neg ho, hphone' owner ho, hfb]
      exact h.last owner p

theorem Inv.issueStatus (h : Inv w) {timeNow : Int} {online : String} (honline : online = "online" ↔ phase = .appeared)
    (hothers : ∀ p, w.Showing user p → p = partner) :
    Inv (w.issue user ⟨partner, phase⟩ (setStatus4me user partner online timeNow)) :=
  h.issue [] (fun _ => (List.append_nil _).symm) (fun _ hwr => absurd hwr List.not_mem_nil) honline hothers

end Issue

/-- **The first outstanding write of a phone is applied**: the room of its user goes on to the next state, and the rooms of
the others do not change. -/
theorem Inv.landed {w : Presence} (h : Inv w) {user : Int} {wr : DbWrite} {rest : List DbWrite}
    (hwr : (w.phone user).outstanding = wr :: rest) : Inv (w.landed user wr rest) := by
  have hfirst : OwnWrite user wr := h.own user wr (by rw [hwr]; exact List.mem_cons_self)
  have hphone : (w.landed user wr rest).phone user = { w.phone user with outstanding := rest } :=
    Function.update_self ..
  have hphone' : ∀ owner, owner ≠ user → (w.landed user wr rest).phone owner = w.phone owner :=
    fun owner ho => Function.update_of_ne ho ..
  have hfb : (w.landed user wr rest).fb.db = w.fb.db.apply wr := rfl
  have helse : ∀ owner, owner ≠ user → ∀ p,
      (w.fb.db.apply wr).below (statusPath (mestatusroomID owner p)) =
        w.fb.db.below (statusPath (mestatusroomID owner p)) := fun owner ho p =>
    PathTree.Tree.below_apply_of_not_overlap fun hover => ho (hfirst.in_room hover).1.symm
  have hshowing : ∀ owner p, (w.landed user wr rest).Showing owner p ↔ w.Showing owner p := fun owner p => by
    by_cases ho : owner = user
    · subst ho
      rw [Showing, Showing, hphone]
    · rw [Showing, Showing, hphone' owner ho]
  refine ⟨fun owner wr' hwr' => ?_, fun owner p => ?_, fun owner p => ?_, h.once⟩ <;> by_cases ho : owner = user
  · subst ho
    rw [hphone] at hwr'
    exact h.own owner wr' (by rw [hwr]; exact List.mem_cons_of_mem _ hwr')
  · rw [hphone' owner ho] at hwr'
    exact h.own owner wr' hwr'
  · subst ho
    have hone := h.one owner p
    rw [hwr] at hone
    rw [hphone, hfb]
    exact hone.2
  · rw [hphone' owner ho, hfb]
    refine Runs.AllStates.of_related
      (R := fun db db' => db.below (statusPath (mestatusroomID owner p)) = db'.below (statusPath (mestatusroomID owner p)))
      (fun db db' hdb hP => ?_) (fun db db' wr' hdb => PathTree.Tree.below_apply_congr hdb wr') (helse owner ho p).symm
      (h.one owner p)
    rw [One, ← hdb]
    exact hP
  · subst ho
    obtain ⟨online, hholds, hiff⟩ := h.last owner p
    rw [hwr] at hholds
    rw [hphone, hfb, hshowing]
    exact ⟨online, hholds, hiff⟩
  · obtain ⟨online, hholds, hiff⟩ := h.last owner p
    rw [hphone' owner ho, hfb, hshowing]
    refine ⟨online, ?_, hiff⟩
    rw [PathTree.Tree.below_applyAll_congr (helse owner ho p)]
    exact hholds

/-- **A query is answered once**: its room has one record at most, and where there is none the completion is called too. -/
theorem Inv.answered {w : Presence} (h : Inv w) {i : Nat} {q : StatusQuery} {onlines : List Bool}
    (ha : w.answered i = some (q, onlines)) :
    w.queries[i]? = some q ∧ ∃ online, onlines = [online] ∧
      ((w.phone q.partner).outstanding = [] → (online = true ↔ w.Showing q.partner q.user)) := by
  obtain ⟨q', hq, heq⟩ := Option.map_eq_some_iff.1 ha
  obtain ⟨rfl, rfl⟩ := Prod.mk.injEq .. ▸ heq
  refine ⟨hq, ?_⟩
  obtain ⟨was, hwas⟩ := (h.one q'.partner q'.user).head
  have hsnapshot : snapshot w.fb.db (partnerstatusroomID q'.user q'.partner) = was.toList := hwas.records.2
  rw [hsnapshot]
  refine ⟨was = some "online", ?_, fun hdone => ?_⟩
  · cases was with
    | none => rfl
    | some online => simp [MessageSendVC.getPartnerOnlineStatus]
  · obtain ⟨now, hnow, hiff⟩ := h.last q'.partner q'.user
    rw [hdone, PathTree.Tree.applyAll_nil] at hnow
    have hsame : was.toList = now.toList := hwas.records.2.symm.trans hnow.records.2
    have hsame : was = now := by simpa using congrArg List.head? hsame
    rw [decide_eq_true_iff, hsame]
    exact hiff

theorem Inv.ask {w : Presence} (h : Inv w) (user partner : Int) :
    Inv { w with queries := w.queries ++ [⟨w.issued, user, partner⟩], issued := w.issued + 1 } where
  own := h.own
  one := h.one
  last := h.last
  once n := by
    have hn := h.once n
    simp only [List.map_append, List.map_singleton, List.count_append, List.count_singleton] at hn ⊢
    by_cases hnew : w.issued = n
    · subst hnew
      simp at hn ⊢
      omega
    · simp only [beq_iff_eq, hnew, if_false]
      split at hn <;> split <;> omega

theorem Inv.answer {w : Presence} (h : Inv w) {i : Nat} {q : StatusQuery} {onlines : List Bool}
    (ha : w.answered i = some (q, onlines)) :
    Inv { w with
      queries := w.queries.eraseIdx i
      completions := w.completions ++ onlines.map fun online => (q.number, online) } where
  own := h.own
  one := h.one
  last := h.last
  once n := by
    obtain ⟨hq, online, rfl, -⟩ := h.answered ha
    obtain ⟨hi, hget⟩ := List.getElem?_eq_some_iff.1 hq
    have hperm := ((List.getElem_cons_eraseIdx_perm hi).map StatusQuery.number).count_eq n
    have hn := h.once n
    rw [hget, List.map_cons, List.count_cons] at hperm
    simp only [List.map_append, List.map_singleton, List.count_append, List.count_singleton]
    omega

theorem Inv.step {w : Presence} (h : Inv w) (e : PresenceEvent) : Inv (w.step e) := by
  have hshows : ∀ {user partner : Int} {phase : Phase}, (w.phone user).chat = some ⟨partner, phase⟩ →
      ∀ p, w.Showing user p → p = partner := fun hchat p hp => by
    rw [Showing, hchat] at hp
    cases hp
    rfl
  cases e with
  | didSelectItemAt user partner now =>
    simp only [Presence.step]
    split
    · exact h
    · rename_i hno
      refine h.issueStatus (by simp) fun p hp => absurd ?_ hno
      rw [Showing] at hp
      rw [hp]
      rfl
  | viewWillAppear user now =>
    simp only [Presence.step]
    split
    · rename_i hchat
      exact h.issueStatus (by simp) (hshows hchat)
    · rename_i hchat
      exact h.issueStatus (by simp) (hshows hchat)
    · exact h
  | addTappedLeftBtn user now =>
    simp only [Presence.step]
    split
    · rename_i partner hchat
      exact h.issue (removeNode4me4finish user partner) (fun key => rfl)
        (fun wr hwr => by rw [List.mem_singleton.1 hwr]; rfl) (by simp) (hshows hchat)
    · exact h
  | viewDidDisappear user now =>
    simp only [Presence.step]
    split
    · rename_i hchat
      exact h.issueStatus (by simp) (hshows hchat)
    · rename_i hchat
      exact h.issueStatus (by simp) (hshows hchat)
    · exact h
  | getPartnerOnlineStatus user =>
    simp only [Presence.step]
    split
    · exact h.ask user _
    · exact h
  | answer i =>
    simp only [Presence.step]
    split
    · rename_i ha
      exact h.answer ha
    · exact h
  | land user =>
    simp only [Presence.step]
    split
    · rename_i hwr
      exact h.landed hwr
    · exact h

/-! ## Presence -/

/-- **Presence is single-valued and read from the right place.**  In every state of every run a status room has one record at
most, and a phone writes to its own user's rooms alone; the room that is asked about a partner is the one he writes for the
user who asks; each query that was issued is under way or has been answered once; and an answer that comes when the partner has
no write outstanding says whether his chat screen with the user is showing. -/
theorem presence_is_single_valued (es : List PresenceEvent) :
    let w := Runs.run step {} es
    (∀ owner partner, (records w.fb.db (mestatusroomID owner partner)).length ≤ 1) ∧
    (∀ user, ∀ wr ∈ (w.phone user).outstanding, ∀ owner partner,
      PathTree.Overlap wr.path (statusPath (mestatusroomID owner partner)) → user = owner) ∧
    (∀ user partner, partnerstatusroomID user partner = mestatusroomID partner user) ∧
    (∀ n < w.issued, (w.completions.map Prod.fst).count n = if n ∈ w.queries.map StatusQuery.number then 0 else 1) ∧
    ∀ i q onlines, w.answered i = some (q, onlines) → ∃ online, onlines = [online] ∧
      ((w.phone q.partner).outstanding = [] → (online = true ↔ w.Showing q.partner q.user)) := by
  intro w
  have h : Inv w := Runs.run_invariant Inv (fun _ e h _ => h.step e) inv_empty (Runs.allSteps_trivial step _ es)
  refine ⟨fun owner partner => ?_, fun user wr hwr owner partner ho => ?_, fun _ _ => rfl, fun n hn => ?_,
    fun i q onlines ha => (h.answered ha).2⟩
  · obtain ⟨online, hholds⟩ := (h.one owner partner).head
    exact hholds.records.1
  · exact ((h.own user wr hwr).in_room ho).1
  · have hone := h.once n
    rw [if_pos hn] at hone
    split
    · rename_i hmem
      have hpos := List.count_pos_iff.2 hmem
      omega
    · rename_i hmem
      rw [List.count_eq_zero_of_not_mem hmem] at hone
      exact hone

end Presence
end Traveller
