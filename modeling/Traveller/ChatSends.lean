import Traveller.ChatBlock
import Traveller.NodeTables
/-!
# ChatSends — a send among everything else that goes on

A send is three writes, each made when the one before has succeeded, and nothing takes a write back.  `World.moved` says once
what a step of two whole clients can do to the sends under way and to the database.  From it `sends_land_in_order`: at any
time the first writes of a send have succeeded, in their order, and each of its nodes is what the send wrote there or what it
was before, with what others have written since; so a send that fails after its first write has stored a message and told no
chat list of it.
-/
namespace Traveller

/-- The write that is outstanding. -/
def Pending.dbWrite : Pending → DbWrite
  | write w => w
  | send f => f.write

/-- The outstanding write that succeeds in the step. -/
def MessageSendVC.lands (s : MessageSendVC) : ScreenEvent → Option Pending
  | .settle i true => if s.takes (.settle i true) then s.outstanding[i]? else none
  | _ => none

def Client.flights (c : Client) : List Flight := c.screens.flatMap MessageSendVC.sends ++ c.trips

namespace World

/-- The sends under way. -/
def flights (w : World) : List Flight := (w.client .a).flights ++ (w.client .b).flights

/-- The outstanding write that succeeds in the step, with what waits for it. -/
def lands (w : World) : WorldEvent → Option Pending
  | .screen who i e => (w.client who).screens[i]?.bind (·.lands e)
  | .tripSettle who i true => (w.client who).trips[i]?.map .send
  | .listSettle who i true => (w.client who).writes[i]?.map .write
  | _ => none

end World

/-! ## What a step does to the sends -/

/-- **What a step does to the database and the sends under way**: nothing, or a send starts with a new key, or a write
succeeds and its send, if it is one of a send, goes on, or a send stops. -/
inductive Moved (landed : Option Pending) (fb : Firebase) (fs : List Flight) (fb' : Firebase) (fs' : List Flight) : Prop where
  | quiet (hdb : fb'.db = fb.db) (hkey : fb.nextKey ≤ fb'.nextKey) (hf : fs'.Perm fs) (hl : landed = none)
  | start (f : Flight) (hstage : f.stage = .message) (hnew : f.send.key = .auto fb.nextKey) (hdb : fb'.db = fb.db)
      (hkey : fb'.nextKey = fb.nextKey + 1) (hf : fs'.Perm (f :: fs)) (hl : landed = none)
  | land (p : Pending) (rest : List Flight) (hl : landed = some p) (hfb : fb' = fb.apply p.dbWrite)
      (hf : fs.Perm (p.flight?.toList ++ rest)) (hf' : fs'.Perm ((p.flight?.bind Flight.next).toList ++ rest))
  | stop (f : Flight) (hfb : fb' = fb) (hf : fs.Perm (f :: fs')) (hl : landed = none)

/-- What the step does not reach comes along. -/
theorem Moved.frame {landed : Option Pending} {fb fb' : Firebase} {fs fs' gs gs' others : List Flight}
    (h : Moved landed fb fs fb' fs') (hg : gs.Perm (fs ++ others)) (hg' : gs'.Perm (fs' ++ others)) :
    Moved landed fb gs fb' gs' := by
  cases h with
  | quiet hdb hkey hf hl => exact .quiet hdb hkey ((hg'.trans (hf.append_right others)).trans hg.symm) hl
  | start f hstage hnew hdb hkey hf hl =>
    refine .start f hstage hnew hdb hkey ?_ hl
    exact (hg'.trans (hf.append_right others)).trans (hg.symm.cons f)
  | land p rest hl hfb hf hf' =>
    refine .land p (rest ++ others) hl hfb ?_ ?_
    · rw [← List.append_assoc]
      exact hg.trans (hf.append_right others)
    · rw [← List.append_assoc]
      exact hg'.trans (hf'.append_right others)
  | stop f hfb hf hl => exact .stop f hfb (hg.trans ((hf.append_right others).trans (hg'.symm.cons f))) hl

/-- **Where a send that is under way comes from**: it was under way, or it is the one that starts. -/
theorem Moved.flight {landed : Option Pending} {fb fb' : Firebase} {fs fs' : List Flight} (h : Moved landed fb fs fb' fs')
    {f : Flight} (hf : f ∈ fs') :
    ((∃ g ∈ fs, f.send = g.send) ∧ fb.nextKey ≤ fb'.nextKey) ∨
      (f.stage = .message ∧ f.send.key = .auto fb.nextKey ∧ fb'.db = fb.db ∧ fb'.nextKey = fb.nextKey + 1 ∧
        fs'.Perm (f :: fs)) := by
  cases h with
  | quiet hdb hkey hperm hl => exact .inl ⟨⟨f, hperm.mem_iff.1 hf, rfl⟩, hkey⟩
  | start g hstage hnew hdb hkey hperm hl =>
    rcases List.mem_cons.1 (hperm.mem_iff.1 hf) with rfl | hmem
    · exact .inr ⟨hstage, hnew, hdb, hkey, hperm⟩
    · exact .inl ⟨⟨f, hmem, rfl⟩, by omega⟩
  | stop g hfb hperm hl =>
    subst hfb
    exact .inl ⟨⟨f, hperm.mem_iff.2 (List.mem_cons_of_mem g hf), rfl⟩, Nat.le_refl _⟩
  | land p rest hl hfb hperm hperm' =>
    subst hfb
    refine .inl ⟨?_, Nat.le_refl _⟩
    rcases List.mem_append.1 (hperm'.mem_iff.1 hf) with hmem | hmem
    · cases p with
      | write dw => cases hmem
      | send g =>
        have hg : g ∈ (Pending.send g).flight?.toList := Option.mem_toList.2 rfl
        exact ⟨g, hperm.mem_iff.2 (List.mem_append_left _ hg), (Flight.of_next (Option.mem_toList.1 hmem)).1⟩
    · exact ⟨f, hperm.mem_iff.2 (List.mem_append_right _ hmem), rfl⟩

theorem screen_moved (me partner : Profile) (fb : Firebase) {s : MessageSendVC} (hb : s.isBlock = "false")
    (e : ScreenEvent) :
    Moved (s.lands e) fb (MessageSendVC.sends s) (MessageSendVC.step me partner (fb, s) e).1
      (MessageSendVC.sends (MessageSendVC.step me partner (fb, s) e).2) := by
  by_cases ht : s.takes e = true
  case neg =>
    rw [MessageSendVC.step_of_not_takes me partner ht]
    refine .quiet rfl (Nat.le_refl _) (List.Perm.refl _) ?_
    unfold MessageSendVC.lands
    split
    · exact if_neg ht
    · rfl
  cases hof : MessageSendVC.ofSends e with
  | false =>
    have hq := MessageSendVC.step_quiet me partner (x := (fb, s)) hof ht
    refine .quiet hq.db hq.nextKey (by rw [hq.sends]) ?_
    cases e with
    | settle => cases hof
    | _ => rfl
  | true =>
    cases e with
    | statusReply i snapshot now =>
      have hanswer : MessageSendVC.Answer me partner i now (fb, s)
          (MessageSendVC.step me partner (fb, s) (.statusReply i snapshot now)) := MessageSendVC.step_answer _ _ hb ht
      cases hanswer with
      | nothing hfb hb' ho hl hidle =>
        exact .quiet (by rw [hfb]) (by rw [hfb]) (by rw [MessageSendVC.sends_congr ho]) rfl
      | leak hfb hb' ho hl hl' htext hempty =>
        exact .quiet (by rw [hfb]) (by rw [hfb]) (by rw [MessageSendVC.sends_congr ho]) rfl
      | start msgtype attachment hdb hkey hb' ho hl hl' hwhat hhas =>
        refine .start { send := MessageSendVC.send me partner msgtype attachment (now * 1000) (.auto fb.nextKey) } rfl rfl
          hdb hkey ?_ rfl
        rw [MessageSendVC.sends_start ho]
        exact List.perm_append_comm
    | settle i ok =>
      have hcompletion : MessageSendVC.Completion i ok (fb, s) (MessageSendVC.step me partner (fb, s) (.settle i ok)) :=
        MessageSendVC.step_completion _ _ ht
      have hlands : s.lands (.settle i ok) = if ok then s.outstanding[i]? else none := by
        cases ok with
        | false => rfl
        | true => simp [MessageSendVC.lands, ht]
      rw [hlands]
      cases hcompletion with
      | nothing hi hx =>
        have hi : s.outstanding[i]? = none := hi
        rw [hx, hi, ite_self]
        exact .quiet rfl (Nat.le_refl _) (List.Perm.refl _) rfl
      | write w hi hfb hb' hl hs ho =>
        cases ok with
        | false => exact .quiet (by rw [hfb]; rfl) (by rw [hfb]; rfl) hs rfl
        | true => exact .land (.write w) _ hi hfb (List.Perm.refl _) hs
      | send f rest hi hfb hb' hl hs hs' ho =>
        cases ok with
        | false => exact .stop f hfb (hs.symm.trans (hs'.symm.cons f)) rfl
        | true => exact .land (.send f) rest hi hfb hs.symm hs'
    | _ => cases hof

namespace Client
variable (c : Client)

theorem flights_screen {i : Nat} {s : MessageSendVC} (hs : c.screens[i]? = some s) :
    ∃ others, c.flights.Perm (MessageSendVC.sends s ++ others) ∧
      ∀ s', ({ c with screens := c.screens.set i s' } : Client).flights.Perm (MessageSendVC.sends s' ++ others) := by
  obtain ⟨hi, rfl⟩ := List.getElem?_eq_some_iff.1 hs
  have hperm : ∀ s', ((c.screens.take i ++ s' :: c.screens.drop (i + 1)).flatMap MessageSendVC.sends ++ c.trips).Perm
      (MessageSendVC.sends s' ++ ((c.screens.take i).flatMap MessageSendVC.sends ++
        ((c.screens.drop (i + 1)).flatMap MessageSendVC.sends ++ c.trips))) := by
    intro s'
    rw [List.flatMap_append, List.flatMap_cons]
    simp only [List.append_assoc]
    exact List.perm_append_comm_assoc _ _ _
  refine ⟨(c.screens.take i).flatMap MessageSendVC.sends ++ ((c.screens.drop (i + 1)).flatMap MessageSendVC.sends ++ c.trips),
    ?_, fun s' => ?_⟩
  · have h := hperm c.screens[i]
    rw [List.cons_getElem_drop_succ, List.take_append_drop] at h
    exact h
  · rw [flights, List.set_eq_take_append_cons_drop, if_pos hi]
    exact hperm s'

theorem flights_trip {i : Nat} {f : Flight} (hf : c.trips[i]? = some f) :
    c.flights.Perm (f :: ({ c with trips := c.trips.eraseIdx i } : Client).flights) := by
  obtain ⟨hi, rfl⟩ := List.getElem?_eq_some_iff.1 hf
  have hperm : c.trips.Perm (c.trips[i] :: c.trips.eraseIdx i) := (List.getElem_cons_eraseIdx_perm hi).symm
  exact (hperm.append_left _).trans List.perm_middle

end Client

namespace World

theorem flights_set (w : World) (who : Side) :
    ∃ others, w.flights.Perm ((w.client who).flights ++ others) ∧
      ∀ fb c, (w.set who fb c).flights.Perm (c.flights ++ others) := by
  cases who with
  | a =>
    refine ⟨(w.client .b).flights, List.Perm.refl _, fun fb c => ?_⟩
    rw [flights, set_client, set_client_of_ne w (by decide)]
  | b =>
    refine ⟨(w.client .a).flights, List.perm_append_comm, fun fb c => ?_⟩
    rw [flights, set_client, set_client_of_ne w (by decide)]
    exact List.perm_append_comm

/-- A client's step is a step of the world. -/
theorem moved_set {landed : Option Pending} {w : World} {who : Side} {fb : Firebase} {c : Client}
    (h : Moved landed w.fb (w.client who).flights fb c.flights) :
    Moved landed w.fb w.flights (w.set who fb c).fb (w.set who fb c).flights := by
  obtain ⟨others, hw, hset⟩ := w.flights_set who
  exact h.frame hw (hset fb c)

variable (users : Side → Profile)

theorem moved {w : World} (h : Inv users w) (e : WorldEvent) :
    Moved (w.lands e) w.fb w.flights (w.step users e).fb (w.step users e).flights := by
  have hstay : Moved none w.fb w.flights w.fb w.flights := .quiet rfl (Nat.le_refl _) (List.Perm.refl _) rfl
  cases e with
  | didSelectItemAt who =>
    refine moved_set (.quiet rfl (Nat.le_refl _) ?_ rfl)
    simp [Client.flights, MessageSendVC.sends]
  | screen who i e =>
    cases hi : (w.client who).screens[i]? with
    | none =>
      simp only [step, lands, hi]
      exact hstay
    | some s =>
      simp only [step, lands, hi]
      obtain ⟨others, hc, hset⟩ := (w.client who).flights_screen hi
      have hs := screen_moved (users who) (users who.other) w.fb (h.isBlock who s (List.mem_of_getElem? hi)) e
      exact moved_set (hs.frame hc (hset _))
  | sendBtnClicked who msg now =>
    simp only [step, lands]
    split
    · exact hstay
    · refine moved_set (.start
        { send := TripDetailVC.send (users who) (users who.other) msg (now * 1000) (.auto w.fb.nextKey) } rfl rfl rfl rfl
        ?_ rfl)
      rw [Client.flights, ← List.append_assoc]
      exact List.perm_append_comm
  | tripSettle who i ok =>
    cases hi : (w.client who).trips[i]? with
    | none =>
      simp only [step, hi]
      cases ok with
      | false => exact hstay
      | true =>
        simp only [lands, hi]
        exact hstay
    | some f =>
      simp only [step, hi]
      have hperm := (w.client who).flights_trip hi
      cases ok with
      | false =>
        refine moved_set (.stop f rfl ?_ rfl)
        simpa [Client.flights] using hperm
      | true =>
        refine moved_set (.land (.send f) _ (by simp [lands, hi]) rfl hperm ?_)
        simp only [Client.flights, if_true, Pending.flight?, Option.bind_some]
        rw [← List.append_assoc]
        exact List.perm_append_comm
  | deleteBtnClicked who => exact moved_set (.quiet rfl (Nat.le_refl _) (List.Perm.refl _) rfl)
  | declineBtnClicked who => exact moved_set (.quiet rfl (Nat.le_refl _) (List.Perm.refl _) rfl)
  | listSettle who i ok =>
    cases hi : (w.client who).writes[i]? with
    | none =>
      simp only [step, hi]
      cases ok with
      | false => exact hstay
      | true =>
        simp only [lands, hi]
        exact hstay
    | some write =>
      simp only [step, hi]
      cases ok with
      | false => exact moved_set (.quiet rfl (Nat.le_refl _) (List.Perm.refl _) rfl)
      | true =>
        exact moved_set (.land (.write write) _ (by simp [lands, hi]) rfl (List.Perm.refl _) (List.Perm.refl _))

/-! ## One send -/

/-- The write of a stage is stored. -/
def Stored (s : Send) (db : Database) (stage : Stage) : Prop := db.below (s.path stage) = PathTree.Tree.ofRecord (s.record stage)

/-- The node of a stage is as it was. -/
def Unchanged (s : Send) (start db : Database) (stage : Stage) : Prop := db.below (s.path stage) = start.below (s.path stage)

/-- **All or nothing**: the three nodes reflect the send, or none has changed. -/
def AllOrNothing (s : Send) (start db : Database) : Prop :=
  (∀ stage, Stored s db stage) ∨ ∀ stage, Unchanged s start db stage

/-- No write of the send is outstanding. -/
def Over (s : Send) (w : World) : Prop := ∀ f ∈ w.flights, f.send.key ≠ s.key

/-- The step starts the send. -/
def Starts (w : World) (e : WorldEvent) (s : Send) : Prop :=
  s.key = .auto w.fb.nextKey ∧ ∃ f ∈ (w.step users e).flights, f.send = s

/-- What is noted of a send: the stages whose writes have succeeded, in their order, and for each stage the other writes that
have succeeded since its own, or since the start. -/
structure SendLog where
  landed : List Stage := []
  since : Stage → List DbWrite := fun _ => []

def noteLanded (s : Send) (log : SendLog) (w : World) (e : WorldEvent) : SendLog :=
  match w.lands e with
  | none => log
  | some p =>
    match p.flight?.filter fun f => f.send.key = s.key with
    | some f => { landed := log.landed ++ [f.stage], since := Function.update log.since f.stage [] }
    | none => { log with since := fun stage => log.since stage ++ [p.dbWrite] }

/-- The stages of a send, in the order of its completions. -/
def stages : List Stage := [.message, .meList, .partnerList]

/-- What a stage's node comes from: what the send wrote there, or what was there when it was started. -/
def origin (s : Send) (start : Database) (log : SendLog) (stage : Stage) : Database :=
  if stage ∈ log.landed then start.apply (s.write stage) else start

/-- **The writes land in order**: those that have succeeded are the first ones, each once, and the node of each stage is what the
send wrote there, or what it was, with the writes of others since. -/
structure InOrder (s : Send) (start : Database) (y : World × SendLog) : Prop where
  inTurn : y.2.landed <+: stages
  node : ∀ stage, y.1.fb.db.below (s.path stage) =
    ((origin s start y.2 stage).applyAll (y.2.since stage)).below (s.path stage)

def own (s : Send) (fs : List Flight) : List Flight := fs.filter fun f => f.send.key = s.key

/-- At most one write of the send is outstanding, that of the `n`-th stage. -/
def Alone (s : Send) (n : Nat) (fs : List Flight) : Prop :=
  own s fs = [] ∨ ∃ stage : Stage, stage.rank = n ∧ own s fs = [⟨s, stage⟩]

/-- The invariant: the write of the first stage that has not succeeded is the only one that can be outstanding. -/
structure Tracked (s : Send) (start : Database) (y : World × SendLog) : Prop where
  distinct : s.me ≠ s.partner
  key : ∃ n < y.1.fb.nextKey, s.key = .auto n
  alone : Alone s y.2.landed.length y.1.flights
  inOrder : InOrder s start y

section Own
variable {s : Send} {f : Flight} {fs fs' : List Flight}

theorem own_cons_self (h : f.send.key = s.key) (fs : List Flight) : own s (f :: fs) = f :: own s fs :=
  List.filter_cons_of_pos (by simpa using h)

theorem own_cons_of_ne (h : f.send.key ≠ s.key) (fs : List Flight) : own s (f :: fs) = own s fs :=
  List.filter_cons_of_neg (by simpa using h)

/-- A perm of at most one flight is the same list. -/
theorem own_eq (h : fs'.Perm fs) {n : Nat} (ho : Alone s n fs) : own s fs' = own s fs := by
  have hperm : (own s fs').Perm (own s fs) := h.filter _
  rcases ho with ho | ⟨stage, -, ho⟩ <;> rw [ho] at hperm ⊢
  · exact hperm.eq_nil
  · exact List.perm_singleton.1 hperm

theorem own_only (h : fs.Perm (f :: fs')) (hf : f.send.key = s.key) {n : Nat} (ho : Alone s n fs) :
    own s fs' = [] ∧ ∃ stage : Stage, stage.rank = n ∧ f = ⟨s, stage⟩ := by
  have heq := own_eq (h.symm : (f :: fs').Perm fs) ho
  rw [own_cons_self hf] at heq
  rcases ho with ho | ⟨stage, hstage, ho⟩
  · rw [ho] at heq
    cases heq
  · rw [ho] at heq
    obtain ⟨rfl, hrest⟩ := List.cons.inj heq
    exact ⟨hrest, stage, hstage, rfl⟩

/-- The own flight that lands goes on to the next stage, if there is one. -/
theorem Alone.land {stage : Stage} (hrest : own s fs = [])
    (h : fs'.Perm ((Flight.next ⟨s, stage⟩).toList ++ fs)) : Alone s (stage.rank + 1) fs' := by
  rcases next_cases ⟨s, stage⟩ with ⟨-, hn⟩ | ⟨f', hn, hsend, hrank⟩
  · rw [hn] at h
    refine .inl ?_
    rw [own_eq h (n := stage.rank) (.inl hrest)]
    exact hrest
  · rw [hn] at h
    obtain ⟨send, stage'⟩ := f'
    obtain rfl : send = s := hsend
    have hcons : own send (⟨send, stage'⟩ :: fs) = [⟨send, stage'⟩] := by
      rw [own_cons_self (f := ⟨send, stage'⟩) rfl, hrest]
    refine .inr ⟨stage', hrank, ?_⟩
    rw [own_eq h (n := stage'.rank) (.inr ⟨stage', rfl, hcons⟩)]
    exact hcons

/-- Another flight that lands leaves the own one. -/
theorem own_land_other (hf : f.send.key ≠ s.key) {n : Nat} (ho : Alone s n (f :: fs)) (h : fs'.Perm (f.next.toList ++ fs)) :
    own s fs' = own s (f :: fs) := by
  have hsame : own s (f.next.toList ++ fs) = own s (f :: fs) := by
    rw [own_cons_of_ne hf]
    rcases next_cases f with ⟨-, hn⟩ | ⟨f', hn, hsend, -⟩
    · rw [hn]
      rfl
    · rw [hn]
      exact own_cons_of_ne (by rw [hsend]; exact hf) fs
  rw [← hsame]
  refine own_eq h (n := n) ?_
  rw [Alone, hsame]
  exact ho

end Own

theorem not_overlap_paths {s : Send} (h : s.me ≠ s.partner) {stage stage' : Stage} (hne : stage ≠ stage') :
    ¬ PathTree.Overlap (s.path stage) (s.path stage') := by
  have hroom := fun user partner => not_overlap_messagePath_listPath s.room user partner [s.key]
  have hlist : ¬ PathTree.Overlap (listPath (listroomId s.me) (listroomId s.partner))
      (listPath (listroomId s.partner) (listroomId s.me)) := fun ho =>
    h (listroomId_inj.1 (overlap_listPath.1 ho).1)
  cases stage <;> cases stage' <;> first | exact absurd rfl hne | skip
  · exact hroom _ _
  · exact hroom _ _
  · exact fun ho => hroom _ _ ho.symm
  · exact hlist
  · exact fun ho => hroom _ _ ho.symm
  · exact fun ho => hlist ho.symm

/-- The stage after the first ones is that of their number. -/
theorem landed_concat {landed : List Stage} (h : landed <+: stages) {stage : Stage} (hstage : stage.rank = landed.length) :
    landed ++ [stage] <+: stages := by
  have hnext : stages[landed.length]? = some stage := by
    rw [← hstage]
    cases stage <;> rfl
  have htake : stages.take (landed.length + 1) = landed ++ [stage] := by
    rw [List.take_add_one, hnext, ← List.prefix_iff_eq_take.1 h, Option.toList_some]
  exact htake ▸ List.take_prefix _ _

/-- A write of the send's own lands. -/
theorem InOrder.land {s : Send} {start : Database} {w w' : World} {log : SendLog} (hne : s.me ≠ s.partner)
    (h : InOrder s start (w, log)) {stage : Stage} (hstage : stage.rank = log.landed.length)
    (hfb : w'.fb = w.fb.apply (s.write stage)) :
    InOrder s start (w', { landed := log.landed ++ [stage], since := Function.update log.since stage [] }) := by
  refine ⟨landed_concat h.inTurn hstage, fun stage' => ?_⟩
  dsimp only
  rw [hfb, Firebase.apply_db]
  by_cases hsame : stage' = stage
  · subst hsame
    rw [Function.update_self, PathTree.Tree.applyAll_nil, origin, if_pos (List.mem_append_right _ List.mem_cons_self)]
    exact (PathTree.Tree.below_set _ _ _).trans (PathTree.Tree.below_set _ _ _).symm
  · have horigin : origin s start { landed := log.landed ++ [stage], since := Function.update log.since stage [] } stage' =
        origin s start log stage' := by simp only [origin, List.mem_append, List.mem_singleton, hsame, or_false]
    rw [Function.update_of_ne hsame, horigin, ← h.node stage']
    exact PathTree.Tree.below_apply_of_not_overlap (not_overlap_paths hne (Ne.symm hsame))

/-- Another write lands. -/
theorem InOrder.other {s : Send} {start : Database} {w w' : World} {log : SendLog} (h : InOrder s start (w, log))
    {write : DbWrite} (hfb : w'.fb = w.fb.apply write) :
    InOrder s start (w', { log with since := fun stage => log.since stage ++ [write] }) := by
  refine ⟨h.inTurn, fun stage => ?_⟩
  dsimp only
  rw [hfb, Firebase.apply_db, PathTree.Tree.applyAll_append]
  exact PathTree.Tree.below_apply_congr (h.node stage) write

/-- What leaves the database alone keeps the order. -/
theorem InOrder.kept {s : Send} {start : Database} {w w' : World} {log : SendLog} (h : InOrder s start (w, log))
    (hkept : w'.fb.db = w.fb.db) : InOrder s start (w', log) :=
  ⟨h.inTurn, fun stage => by rw [hkept]; exact h.node stage⟩

variable {users}

theorem Tracked.step {s : Send} {start : Database} {w : World} {log : SendLog} (h : Tracked s start (w, log))
    (hinv : Inv users w) (e : WorldEvent) :
    Tracked s start (Runs.noting (World.step users) (noteLanded s) (w, log) e) := by
  obtain ⟨k, hk, hkey⟩ := h.key
  have hown : Alone s log.landed.length w.flights := h.alone
  rw [Runs.noting]
  dsimp only at hk ⊢
  have hsame : ∀ {fs}, own s fs = own s w.flights → Alone s log.landed.length fs := fun heq => by
    rw [Alone, heq]
    exact hown
  cases moved users hinv e with
  | quiet hdb hnext hf hl =>
    simp only [noteLanded, hl]
    exact ⟨h.distinct, ⟨k, Nat.lt_of_lt_of_le hk hnext, hkey⟩, hsame (own_eq hf hown), h.inOrder.kept hdb⟩
  | start f hstage hnew hdb hnext hf hl =>
    have hne : f.send.key ≠ s.key := by
      rw [hnew, hkey]
      intro heq
      injection heq with heq
      omega
    simp only [noteLanded, hl]
    have heq : own s (w.step users e).flights = own s w.flights := by
      rw [own_eq hf (hsame (own_cons_of_ne hne _)), own_cons_of_ne hne]
    exact ⟨h.distinct, ⟨k, by dsimp only; omega, hkey⟩, hsame heq, h.inOrder.kept hdb⟩
  | stop f hfb hf hl =>
    simp only [noteLanded, hl]
    refine ⟨h.distinct, ⟨k, by rw [hfb]; exact hk, hkey⟩, ?_, h.inOrder.kept (by rw [hfb])⟩
    by_cases hmine : f.send.key = s.key
    · exact .inl (own_only hf hmine hown).1
    · refine hsame ?_
      rw [← own_eq hf.symm hown, own_cons_of_ne hmine]
  | land p rest hl hfb hf hf' =>
    have hnext : (w.step users e).fb.nextKey = w.fb.nextKey := by rw [hfb]; rfl
    have hk' : k < (w.step users e).fb.nextKey := by rw [hnext]; exact hk
    cases hp : p.flight?.filter fun f => f.send.key = s.key with
    | some f =>
      simp only [noteLanded, hl, hp]
      obtain ⟨hflight, hmine⟩ := Option.filter_eq_some_iff.1 hp
      have hmine : f.send.key = s.key := of_decide_eq_true hmine
      obtain rfl : p = .send f := by
        cases p with
        | write dw => cases hflight
        | send g => exact congrArg Pending.send (Option.some.inj hflight)
      obtain ⟨hrest, stage, hstage, rfl⟩ := own_only hf hmine hown
      have hnow : Alone s (stage.rank + 1) (w.step users e).flights := .land hrest hf'
      refine ⟨h.distinct, ⟨k, hk', hkey⟩, ?_, h.inOrder.land h.distinct hstage hfb⟩
      simpa only [List.length_append, List.length_singleton, hstage] using hnow
    | none =>
      simp only [noteLanded, hl, hp]
      refine ⟨h.distinct, ⟨k, hk', hkey⟩, hsame ?_, h.inOrder.other hfb⟩
      cases p with
      | write dw => rw [own_eq (hf'.trans hf.symm) hown]
      | send f =>
        have hother : f.send.key ≠ s.key := by simpa [Pending.flight?] using hp
        have hold : own s (f :: rest) = own s w.flights := own_eq hf.symm hown
        rw [own_land_other hother (hsame hold) hf', hold]

/-- **A send that is over makes no write any more**: nothing starts under its key again. -/
theorem Over.step {s : Send} {w : World} (h : Over s w) {k : Nat} (hk : k < w.fb.nextKey) (hkey : s.key = .auto k)
    (hinv : Inv users w) (e : WorldEvent) : Over s (w.step users e) := by
  intro f hf
  rcases (moved users hinv e).flight hf with ⟨⟨g, hg, hsend⟩, -⟩ | ⟨-, hnew, -⟩
  · rw [hsend]
    exact h g hg
  · rw [hnew, hkey]
    intro heq
    injection heq with heq
    omega

/-! ## The theorem -/

theorem Inv.between {w : World} (h : Inv users w) {f : Flight} (hf : f ∈ w.flights) : Between users f := by
  have hclient : ∀ who, f ∈ (w.client who).flights → Between users f := by
    intro who hmem
    rcases List.mem_append.1 hmem with hmem | hmem
    · obtain ⟨s, hs, hfs⟩ := List.mem_flatMap.1 hmem
      exact h.sends who s hs f hfs
    · exact h.trips who f hmem
  rcases List.mem_append.1 hf with hf | hf
  · exact hclient .a hf
  · exact hclient .b hf

def FreshFlights (w : World) : Prop := ∀ f ∈ w.flights, ∃ n < w.fb.nextKey, f.send.key = .auto n

theorem FreshFlights.step {w : World} (h : FreshFlights w) (hinv : Inv users w) (e : WorldEvent) :
    FreshFlights (w.step users e) := by
  intro f hf
  rcases (moved users hinv e).flight hf with ⟨⟨g, hg, hsend⟩, hnext⟩ | ⟨-, hnew, -, hnext, -⟩
  · obtain ⟨n, hn, hkey⟩ := h g hg
    exact ⟨n, Nat.lt_of_lt_of_le hn hnext, hsend ▸ hkey⟩
  · exact ⟨_, hnext ▸ Nat.lt_succ_self _, hnew⟩

/-- A send that the step starts waits for its first write. -/
theorem Tracked.start (hne : (users .a).userId ≠ (users .b).userId) {w : World} (hinv : Inv users w) (hfresh : FreshFlights w)
    {e : WorldEvent} {s : Send} (hs : Starts users w e s) : Tracked s w.fb.db (w.step users e, {}) := by
  obtain ⟨hkey, f, hf, rfl⟩ := hs
  have hnone : own f.send w.flights = [] := by
    refine List.filter_eq_nil_iff.2 fun g hg => ?_
    obtain ⟨n, hn, hg⟩ := hfresh g hg
    simp only [hg, hkey, decide_eq_true_eq, Key.auto.injEq]
    omega
  have hnot : ∀ g ∈ w.flights, g.send.key ≠ f.send.key := fun g hg heq =>
    List.filter_eq_nil_iff.1 hnone g hg (by simpa using heq)
  have hdistinct : f.send.me ≠ f.send.partner := by
    have hinv' : Inv users (w.step users e) := hinv.step e
    obtain ⟨who, via, timeNow, key, hsend⟩ := hinv'.between hf
    rw [hsend, SendVia.send_me, SendVia.send_partner]
    cases who
    · exact hne
    · exact hne.symm
  rcases (moved users hinv e).flight hf with ⟨⟨g, hg, hsend⟩, -⟩ | ⟨hstage, -, hdb, hnext, hperm⟩
  · exact absurd (congrArg Send.key hsend).symm (hnot g hg)
  have hown : own f.send (f :: w.flights) = [⟨f.send, .message⟩] := by
    rw [own_cons_self rfl, hnone, ← hstage]
  have halone : Alone f.send 0 (f :: w.flights) := .inr ⟨.message, rfl, hown⟩
  refine ⟨hdistinct, ⟨w.fb.nextKey, by dsimp only; omega, hkey⟩, ?_, List.nil_prefix, fun stage => ?_⟩
  · rw [Alone, own_eq hperm halone]
    exact halone
  · exact congrArg (fun db : Database => db.below _) hdb

/-- **The writes of a send land in order**, and it takes none back: in every run of the two clients that starts a send, at any
time those that have succeeded are the first ones, the node of each is what the send wrote there or what it was before, with
the writes of others since, and once none is outstanding none is made any more. -/
theorem sends_land_in_order (users : Side → Profile) (hne : (users .a).userId ≠ (users .b).userId) (fb : Firebase)
    (es : List WorldEvent) (e : WorldEvent) (s : Send) (hs : Starts users (Runs.run (step users) { fb := fb } es) e s)
    (es' : List WorldEvent) :
    let w := Runs.run (step users) { fb := fb } es
    let y := Runs.run (Runs.noting (step users) (noteLanded s)) (w.step users e, {}) es'
    InOrder s w.fb.db y ∧ (Over s y.1 → ∀ e', Over s (y.1.step users e')) := by
  have hreach := Runs.run_invariant (fun w => Inv users w ∧ FreshFlights w)
    (fun w e h _ => ⟨h.1.step e, h.2.step h.1 e⟩) ⟨inv_init users fb, fun f hf => absurd hf List.not_mem_nil⟩
    (Runs.allSteps_trivial (step users) { fb := fb } es)
  generalize Runs.run (step users) { fb := fb } es = w at hs hreach ⊢
  have htracked := Runs.run_invariant (fun y => Inv users y.1 ∧ Tracked s w.fb.db y)
    (fun y e h _ => ⟨h.1.step e, h.2.step h.1 e⟩) ⟨hreach.1.step e, Tracked.start hne hreach.1 hreach.2 hs⟩
    (Runs.allSteps_trivial (Runs.noting (step users) (noteLanded s)) _ es')
  obtain ⟨k, hk, hkey⟩ := htracked.2.key
  exact ⟨htracked.2.inOrder, fun hover e' => hover.step hk hkey htracked.1 e'⟩

set_option maxRecDepth 10000 in
/-- A send whose last write fails, while the partner answers and stores the entry it would have written. -/
theorem sends_land_in_order_answered :
    let users : Side → Profile := fun who => if who = .a then .ofPartner 7 "Bob" "" "" 0 else .ofPartner 9 "Ann" "" "" 0
    let s := TripDetailVC.send (users .a) (users .b) "hello" 1000 (.auto 0)
    let y := Runs.run (Runs.noting (step users) (noteLanded s)) (step users {} (.sendBtnClicked .a "hello" 1), {})
      [.tripSettle .a 0 true, .sendBtnClicked .b "hi" 2, .tripSettle .a 0 true, .tripSettle .b 0 true, .tripSettle .b 0 true,
        .tripSettle .a 0 false]
    y.2.landed = [.message, .meList] ∧ (y.2.since .partnerList).length = 2 ∧
      InOrder s .empty y ∧ (Over s y.1 → ∀ e', Over s (y.1.step users e')) :=
  ⟨rfl, rfl, sends_land_in_order (fun who => if who = .a then .ofPartner 7 "Bob" "" "" 0 else .ofPartner 9 "Ann" "" "" 0)
    (by decide) {} [] (.sendBtnClicked .a "hello" 1) _ ⟨rfl, _, List.mem_cons_self, rfl⟩ _⟩

set_option maxRecDepth 10000 in
/-- The message is stored, the write of the sender's own list entry fails: nothing is outstanding, the message is in the room
and in neither list. -/
theorem message_without_a_list_entry :
    let users : Side → Profile := fun who => if who = .a then .ofPartner 7 "Bob" "" "" 0 else .ofPartner 9 "Ann" "" "" 0
    let s := TripDetailVC.send (users .a) (users .b) "hello" 1000 (.auto 0)
    let w := Runs.run (step users) {} [.sendBtnClicked .a "hello" 1, .tripSettle .a 0 true, .tripSettle .a 0 false]
    Starts users {} (.sendBtnClicked .a "hello" 1) s ∧ Over s w ∧ ¬ AllOrNothing s .empty w.fb.db := by
  intro users s w
  refine ⟨⟨rfl, _, List.mem_cons_self, rfl⟩, fun f hf => absurd hf List.not_mem_nil, ?_⟩
  rintro (h | h)
  · exact absurd (h .meList) (by unfold Stored; decide)
  · exact absurd (h .message) (by unfold Unchanged; decide)

end World
end Traveller
