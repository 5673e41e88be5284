import Traveller.ChatPreviews
/-!
# ChatBlock — a declined partner

`declineBtnClicked` marks the partner's entry in the own list with `isBlock`, and `doSend` refuses to send when the screen's
`isBlock` is "true".  Nothing connects the two: no screen ever reads the mark, and every send overwrites the whole entry the
mark is in.  `blocked_iff_nobodySends`: the law `doSend` aims at holds exactly as long as nobody sends.

The two clients are whole clients here: any number of chat screens, opened at any time, and any number of sends from the
trip screen.
-/
namespace Traveller

/-- A client: its chat screens, gone ones included as long as they wait for something, its sends from the trip screen, and
the writes of its chat list. -/
structure Client where
  screens : List MessageSendVC := []
  trips : List Flight := []
  writes : List DbWrite := []
  deriving DecidableEq, Repr

/-- The database and the two clients. -/
structure World where
  fb : Firebase := {}
  client : Side → Client := fun _ => {}

inductive WorldEvent where
  | didSelectItemAt (who : Side)
  | screen (who : Side) (i : Nat) (e : ScreenEvent)
  | sendBtnClicked (who : Side) (msg : String) (now : Int)
  | tripSettle (who : Side) (i : Nat) (ok : Bool)
  | deleteBtnClicked (who : Side)
  | declineBtnClicked (who : Side)
  | listSettle (who : Side) (i : Nat) (ok : Bool)
  deriving DecidableEq, Repr

namespace World

def set (w : World) (who : Side) (fb : Firebase) (c : Client) : World where
  fb := fb
  client := Function.update w.client who c

section
variable (users : Side → Profile)

def step (w : World) : WorldEvent → World
  | .didSelectItemAt who => w.set who w.fb { w.client who with screens := (w.client who).screens ++ [{}] }
  | .screen who i e =>
    match (w.client who).screens[i]? with
    | none => w
    | some s =>
      let x := MessageSendVC.step (users who) (users who.other) (w.fb, s) e
      w.set who x.1 { w.client who with screens := (w.client who).screens.set i x.2 }
  | .sendBtnClicked who msg now =>
    if !(users who).isValid || !TripDetailVC.accepts msg then w
    else
      w.set who { w.fb with nextKey := w.fb.nextKey + 1 }
        { w.client who with trips := (w.client who).trips ++
            [{ send := TripDetailVC.send (users who) (users who.other) msg (now * 1000) (.auto w.fb.nextKey) }] }
  | .tripSettle who i ok =>
    match (w.client who).trips[i]? with
    | none => w
    | some f =>
      w.set who (if ok then w.fb.apply f.write else w.fb)
        { w.client who with
          trips := (w.client who).trips.eraseIdx i ++ if ok then f.next.toList else [] }
  | .deleteBtnClicked who =>
    w.set who w.fb { w.client who with
      writes := (w.client who).writes ++ Traveller.deleteBtnClicked (users who).userId (users who.other).userId }
  | .declineBtnClicked who =>
    w.set who w.fb { w.client who with
      writes := (w.client who).writes ++ Traveller.declineBtnClicked (users who).userId (users who.other).userId }
  | .listSettle who i ok =>
    match (w.client who).writes[i]? with
    | none => w
    | some write =>
      w.set who (if ok then w.fb.apply write else w.fb)
        { w.client who with writes := (w.client who).writes.eraseIdx i }

end

@[simp] theorem set_fb (w : World) (who : Side) (fb : Firebase) (c : Client) : (w.set who fb c).fb = fb := rfl
@[simp] theorem set_client (w : World) (who : Side) (fb : Firebase) (c : Client) : (w.set who fb c).client who = c :=
  Function.update_self ..
theorem set_client_of_ne (w : World) {who side : Side} (h : side ≠ who) (fb : Firebase) (c : Client) :
    (w.set who fb c).client side = w.client side := Function.update_of_ne h ..

/-! ## The law -/

section Law
variable (users : Side → Profile)

/-- The mark `a` sets on `b`. -/
def markPath : Path := entryPath users .a ++ [.child "isBlock"]

def Marked (w : World) : Prop := w.fb.db.get (markPath users) = some "true"

/-- The send whose write succeeds in the step. -/
def landing (w : World) : WorldEvent → Option Flight
  | .screen who i (.settle j true) =>
    match (w.client who).screens[i]? with
    | none => none
    | some s => if s.takes (.settle j true) then s.outstanding[j]?.bind Pending.flight? else none
  | .tripSettle who i true => (w.client who).trips[i]?
  | _ => none

/-- **A declined partner stays blocked**, in one step after the decline: an answer on a chat screen of `b` starts no send,
and no landing of a send erases the mark. -/
def Blocked (y : World × Bool) (e : WorldEvent) : Prop :=
  y.2 = true →
    (∀ i s j snapshot now, e = .screen .b i (.statusReply j snapshot now) → (y.1.client .b).screens[i]? = some s →
      MessageSendVC.sends (MessageSendVC.step (users .b) (users .a) (y.1.fb, s) (.statusReply j snapshot now)).2 =
        MessageSendVC.sends s) ∧
    ∀ f, y.1.landing e = some f → y.1.Marked users → (y.1.step users e).Marked users

/-- **Nobody sends**: an answer on a chat screen of `b` finds the lock taken or nothing to send, and no write of a send to
the entry of `b` in the list of `a` succeeds while the mark is there. -/
def NobodySends (y : World × Bool) (e : WorldEvent) : Prop :=
  y.2 = true →
    (∀ i s j snapshot now, e = .screen .b i (.statusReply j snapshot now) → (y.1.client .b).screens[i]? = some s →
      s.takes (.statusReply j snapshot now) = true → s.isdosending = true ∨ MessageSendVC.hasToSend s j = false) ∧
    ∀ f, y.1.landing e = some f → y.1.Marked users → f.send.path f.stage ≠ entryPath users .a

def declineStep : World × Bool → WorldEvent → World × Bool :=
  Runs.noting (step users) fun declined _ e => declined || decide (e = .declineBtnClicked .a)

end Law

/-! ## Every screen is open to everybody -/

section Invariant
variable (users : Side → Profile)

def Between (f : Flight) : Prop :=
  ∃ who via timeNow key, f.send = SendVia.send (users who) (users who.other) timeNow key via

/-- No screen knows of a block, and what is in flight is between the two. -/
structure Inv (w : World) : Prop where
  isBlock : ∀ who, ∀ s ∈ (w.client who).screens, s.isBlock = "false"
  sends : ∀ who, ∀ s ∈ (w.client who).screens, ∀ f ∈ MessageSendVC.sends s, Between users f
  trips : ∀ who, ∀ f ∈ (w.client who).trips, Between users f

variable {users}

theorem Between.next {f f' : Flight} (h : Between users f) (hn : f.next = some f') : Between users f' := by
  rw [Between, (Flight.of_next hn).1]
  exact h

theorem screen_step (who : Side) (fb : Firebase) {s : MessageSendVC} (hb : s.isBlock = "false")
    (hs : ∀ f ∈ MessageSendVC.sends s, Between users f) (e : ScreenEvent) :
    let x := MessageSendVC.step (users who) (users who.other) (fb, s) e
    x.2.isBlock = "false" ∧ ∀ f ∈ MessageSendVC.sends x.2, Between users f := by
  intro x
  by_cases ht : s.takes e = true
  case neg =>
    have hx : x = (fb, s) := MessageSendVC.step_of_not_takes _ _ ht
    rw [hx]
    exact ⟨hb, hs⟩
  cases hof : MessageSendVC.ofSends e with
  | false =>
    have hq := MessageSendVC.step_quiet (users who) (users who.other) (x := (fb, s)) hof ht
    exact ⟨hq.isBlock.trans hb, by rw [hq.sends]; exact hs⟩
  | true =>
    cases e with
    | statusReply i snapshot now =>
      have hanswer : MessageSendVC.Answer (users who) (users who.other) i now (fb, s) x :=
        MessageSendVC.step_answer _ _ hb ht
      cases hanswer with
      | nothing hfb hb' ho hl hidle => exact ⟨hb'.trans hb, by rw [MessageSendVC.sends_congr ho]; exact hs⟩
      | leak hfb hb' ho hl hl' htext hempty => exact ⟨hb'.trans hb, by rw [MessageSendVC.sends_congr ho]; exact hs⟩
      | start msgtype attachment hdb hkey hb' ho hl hl' hwhat hhas =>
        refine ⟨hb'.trans hb, fun f hf => ?_⟩
        rw [MessageSendVC.sends_start ho, List.mem_append, List.mem_singleton] at hf
        rcases hf with hf | rfl
        · exact hs f hf
        · exact ⟨who, .doSend msgtype attachment, _, _, rfl⟩
    | settle i ok =>
      have hcompletion : MessageSendVC.Completion i ok (fb, s) x := MessageSendVC.step_completion _ _ ht
      cases hcompletion with
      | nothing hi hx' => rw [hx']; exact ⟨hb, hs⟩
      | write w hi hfb hb' hl hperm ho => exact ⟨hb'.trans hb, fun f hf => hs f (hperm.mem_iff.1 hf)⟩
      | send f rest hi hfb hb' hl hperm hperm' ho =>
        refine ⟨hb'.trans hb, fun g hg => ?_⟩
        have hg := hperm'.mem_iff.1 hg
        rcases List.mem_append.1 hg with hg | hg
        · cases ok with
          | false => cases hg
          | true => exact (hs f (hperm.mem_iff.1 List.mem_cons_self)).next (Option.mem_toList.1 hg)
        · exact hs g (hperm.mem_iff.1 (List.mem_cons_of_mem _ hg))
    | _ => cases hof

theorem Inv.set {w : World} (h : Inv users w) {who : Side} {fb : Firebase} {c : Client}
    (hb : ∀ s ∈ c.screens, s.isBlock = "false") (hs : ∀ s ∈ c.screens, ∀ f ∈ MessageSendVC.sends s, Between users f)
    (ht : ∀ f ∈ c.trips, Between users f) : Inv users (w.set who fb c) := by
  refine ⟨fun side => ?_, fun side => ?_, fun side => ?_⟩ <;> by_cases hside : side = who
  · rw [hside, set_client]
    exact hb
  · rw [set_client_of_ne _ hside]
    exact h.isBlock side
  · rw [hside, set_client]
    exact hs
  · rw [set_client_of_ne _ hside]
    exact h.sends side
  · rw [hside, set_client]
    exact ht
  · rw [set_client_of_ne _ hside]
    exact h.trips side

theorem Inv.step {w : World} (h : Inv users w) (e : WorldEvent) : Inv users (w.step users e) := by
  cases e with
  | didSelectItemAt who =>
    refine h.set (fun s hs => ?_) (fun s hs => ?_) (h.trips who)
    · rcases List.mem_append.1 hs with hs | hs
      · exact h.isBlock who s hs
      · rw [List.mem_singleton.1 hs]
    · rcases List.mem_append.1 hs with hs | hs
      · exact h.sends who s hs
      · rw [List.mem_singleton.1 hs]
        exact fun f hf => absurd hf List.not_mem_nil
  | screen who i e =>
    simp only [World.step]
    cases hi : (w.client who).screens[i]? with
    | none => exact h
    | some s =>
      have hs := List.mem_of_getElem? hi
      obtain ⟨hb', hs'⟩ := screen_step who w.fb (h.isBlock who s hs) (h.sends who s hs) e
      refine h.set (fun s' hmem => ?_) (fun s' hmem => ?_) (h.trips who)
      · rcases List.mem_or_eq_of_mem_set hmem with hmem | rfl
        · exact h.isBlock who s' hmem
        · exact hb'
      · rcases List.mem_or_eq_of_mem_set hmem with hmem | rfl
        · exact h.sends who s' hmem
        · exact hs'
  | sendBtnClicked who msg now =>
    simp only [World.step]
    split
    · exact h
    · refine h.set (h.isBlock who) (h.sends who) (fun f hf => ?_)
      rcases List.mem_append.1 hf with hf | hf
      · exact h.trips who f hf
      · rw [List.mem_singleton.1 hf]
        exact ⟨who, .sendBtnClicked msg, _, _, rfl⟩
  | tripSettle who i ok =>
    simp only [World.step]
    cases hi : (w.client who).trips[i]? with
    | none => exact h
    | some f =>
      refine h.set (h.isBlock who) (h.sends who) (fun g hg => ?_)
      rcases List.mem_append.1 hg with hg | hg
      · exact h.trips who g (List.mem_of_mem_eraseIdx hg)
      · cases ok with
        | false => cases hg
        | true => exact (h.trips who f (List.mem_of_getElem? hi)).next (Option.mem_toList.1 hg)
  | deleteBtnClicked who => exact h.set (h.isBlock who) (h.sends who) (h.trips who)
  | declineBtnClicked who => exact h.set (h.isBlock who) (h.sends who) (h.trips who)
  | listSettle who i ok =>
    simp only [World.step]
    cases hi : (w.client who).writes[i]? with
    | none => exact h
    | some write => exact h.set (h.isBlock who) (h.sends who) (h.trips who)

/-! ## The two halves of the law -/

theorem answer_starts_nothing (me partner : Profile) {fb : Firebase} {s : MessageSendVC} (hb : s.isBlock = "false")
    (j : Nat) (snapshot : List String) (now : Int) :
    MessageSendVC.sends (MessageSendVC.step me partner (fb, s) (.statusReply j snapshot now)).2 = MessageSendVC.sends s ↔
      (s.takes (.statusReply j snapshot now) = true → s.isdosending = true ∨ MessageSendVC.hasToSend s j = false) := by
  by_cases ht : s.takes (.statusReply j snapshot now) = true
  case neg =>
    have hx : MessageSendVC.step me partner (fb, s) (.statusReply j snapshot now) = (fb, s) :=
      MessageSendVC.step_of_not_takes _ _ ht
    rw [hx]
    exact ⟨fun _ h => absurd h ht, fun _ => rfl⟩
  have hanswer : MessageSendVC.Answer me partner j now (fb, s)
      (MessageSendVC.step me partner (fb, s) (.statusReply j snapshot now)) := MessageSendVC.step_answer _ _ hb ht
  cases hanswer with
  | nothing hfb hb' ho hl hidle =>
    rcases hidle with hidle | ⟨-, hidle⟩
    · exact ⟨fun _ _ => .inl hidle, fun _ => MessageSendVC.sends_congr ho⟩
    · exact ⟨fun _ _ => .inr hidle, fun _ => MessageSendVC.sends_congr ho⟩
  | leak hfb hb' ho hl hl' htext hempty =>
    refine ⟨fun _ _ => .inr ?_, fun _ => MessageSendVC.sends_congr ho⟩
    simp only [MessageSendVC.hasToSend] at htext hempty ⊢
    simp [htext, hempty]
  | start msgtype attachment hdb hkey hb' ho hl hl' hwhat hhas =>
    constructor
    · intro h
      rw [MessageSendVC.sends_start ho] at h
      exact absurd h (by simp)
    · intro h
      rcases h ht with h | h
      · rw [h] at hl
        cases hl
      · rw [h] at hhas
        cases hhas

theorem landing_fb {w : World} (h : Inv users w) {e : WorldEvent} {f : Flight} (hf : w.landing e = some f) :
    (w.step users e).fb = w.fb.apply f.write ∧ Between users f := by
  unfold landing at hf
  split at hf
  · rename_i who i j
    cases hi : (w.client who).screens[i]? with
    | none => simp [hi] at hf
    | some s =>
      simp only [hi] at hf
      split at hf
      · rename_i ht
        obtain ⟨p, hp, hpf⟩ := Option.bind_eq_some_iff.1 hf
        cases p with
        | write write => cases hpf
        | send g =>
          obtain rfl := Option.some.inj hpf
          have hcompletion : MessageSendVC.Completion j true (w.fb, s)
              (MessageSendVC.step (users who) (users who.other) (w.fb, s) (.settle j true)) :=
            MessageSendVC.step_completion _ _ ht
          refine ⟨?_, h.sends who s (List.mem_of_getElem? hi) _ (MessageSendVC.mem_sends.2 (List.mem_of_getElem? hp))⟩
          simp only [World.step, hi, set_fb]
          cases hcompletion with
          | nothing hi' hx' => rw [hp] at hi'; cases hi'
          | write write hi' hfb hb' hl hs ho => rw [hp] at hi'; cases hi'
          | send g' rest hi' hfb hb' hl hs hs' ho =>
            rw [hp] at hi'
            cases hi'
            exact hfb
      · cases hf
  · rename_i who i
    refine ⟨?_, h.trips who f (List.mem_of_getElem? hf)⟩
    simp only [World.step, hf, set_fb, if_true]
  · cases hf

/-- A landing keeps the mark exactly when it is not at the marked entry. -/
theorem marked_landing (hne : (users .a).userId ≠ (users .b).userId) {fb : Firebase} {f : Flight} (hf : Between users f)
    (hmark : fb.db.get (markPath users) = some "true") :
    (fb.apply f.write).db.get (markPath users) = some "true" ↔ f.send.path f.stage ≠ entryPath users .a := by
  obtain ⟨who, via, timeNow, key, hsend⟩ := hf
  have hpath : f.send.path f.stage = target users who key f.stage := by rw [hsend, send_path]
  by_cases hthis : f.send.path f.stage = entryPath users .a
  · refine ⟨fun h => ?_, fun h => absurd hthis h⟩
    have hnone : (f.send.record f.stage).field "isBlock" = none := by
      rw [hsend]
      cases f.stage <;> cases via <;> simp [Send.record, SendVia.send, MessageSendVC.send, TripDetailVC.send]
    have hget : (fb.apply f.write).db.get (markPath users) = (f.send.record f.stage).field "isBlock" := by
      rw [Firebase.apply_db, Flight.write, Send.write, hthis]
      exact PathTree.Tree.get_set _ _ _ _
    rw [hget, hnone] at h
    cases h
  · refine ⟨fun _ => hthis, fun _ => ?_⟩
    have hmiss : ¬ PathTree.Overlap (f.send.path f.stage) (entryPath users .a) := by
      rw [hpath] at hthis ⊢
      cases hstage : f.stage with
      | message => exact not_overlap_room_entry _ _ _
      | meList =>
        rw [hstage] at hthis
        exact fun ho => hthis (by rw [target, (overlap_entryPath hne).1 ho])
      | partnerList =>
        rw [hstage] at hthis
        exact fun ho => hthis (by rw [target, (overlap_entryPath hne).1 ho])
    rw [Firebase.apply_db, PathTree.Tree.get_apply_of_not_overlap]
    · exact hmark
    · exact PathTree.not_overlap_append hmiss _

theorem inv_init (users : Side → Profile) (fb : Firebase) : Inv users { fb := fb } :=
  ⟨fun _ _ hs => absurd hs List.not_mem_nil, fun _ _ hs => absurd hs List.not_mem_nil,
    fun _ _ hf => absurd hf List.not_mem_nil⟩

/-- **The block check of `doSend` protects exactly the runs in which nobody sends after the decline.** -/
theorem blocked_iff_nobodySends (users : Side → Profile) (hne : (users .a).userId ≠ (users .b).userId) (fb : Firebase)
    (es : List WorldEvent) :
    Runs.AllSteps (declineStep users) (Blocked users) ({ fb := fb }, false) es ↔
      Runs.AllSteps (declineStep users) (NobodySends users) ({ fb := fb }, false) es := by
  refine Runs.allSteps_congr (fun y => Inv users y.1) (fun _ e h => h.step e) (fun y e h => ?_) ?_
  · refine imp_congr Iff.rfl (and_congr ?_ ?_)
    · refine forall_congr' fun i => forall_congr' fun s => forall_congr' fun j => forall_congr' fun snapshot =>
        forall_congr' fun now => imp_congr Iff.rfl (forall_congr' fun hs => ?_)
      exact answer_starts_nothing _ _ (h.isBlock .b s (List.mem_of_getElem? hs)) j snapshot now
    · refine forall_congr' fun f => forall_congr' fun hf => forall_congr' fun hmark => ?_
      obtain ⟨hfb, hbetween⟩ := landing_fb h hf
      rw [Marked, hfb]
      exact marked_landing hne hbetween hmark
  · exact inv_init users fb

set_option maxRecDepth 10000 in
/-- A declined partner empties the field before the answer to his tap comes, and a second decline fails. -/
theorem blocked_iff_nobodySends_emptied :
    Runs.AllSteps (declineStep fun who => if who = .a then .ofPartner 7 "Bob" "" "" 0 else .ofPartner 9 "Ann" "" "" 0)
      (Blocked fun who => if who = .a then .ofPartner 7 "Bob" "" "" 0 else .ofPartner 9 "Ann" "" "" 0) ({ fb := {} }, false)
      [.sendBtnClicked .b "hello" 1, .tripSettle .b 0 true, .tripSettle .b 0 true, .tripSettle .b 0 true, .didSelectItemAt .b,
        .declineBtnClicked .a, .listSettle .a 0 true, .screen .b 0 (.type "hi"), .screen .b 0 .sendAction,
        .screen .b 0 (.type ""), .screen .b 0 (.statusReply 0 [] 2), .declineBtnClicked .a, .listSettle .a 0 false] := by
  refine (blocked_iff_nobodySends (fun who => if who = .a then .ofPartner 7 "Bob" "" "" 0 else .ofPartner 9 "Ann" "" "" 0)
    (by decide) {} _).2 ⟨nofun, nofun, nofun, nofun, nofun, nofun, ?_, ?_, ?_, ?_, ?_, ?_, ?_, trivial⟩ <;>
    refine fun _ => ⟨fun i s j snapshot now he hs _ => ?_, fun f hf => (by cases hf)⟩ <;> cases he
  cases hs
  exact .inr rfl

set_option maxRecDepth 10000 in
/-- A user is declined after a first message, types another and sends it: it is stored, and its last write takes the mark
away. -/
theorem declined_partner_erases_the_mark :
    ¬ Runs.AllSteps
      (declineStep fun who => if who = .a then .ofPartner 7 "Bob" "" "" 0 else .ofPartner 9 "Ann" "" "" 0)
      (Blocked fun who => if who = .a then .ofPartner 7 "Bob" "" "" 0 else .ofPartner 9 "Ann" "" "" 0) ({ fb := {} }, false)
      ([.sendBtnClicked .b "hello" 1, .tripSettle .b 0 true, .tripSettle .b 0 true, .tripSettle .b 0 true,
        .declineBtnClicked .a, .listSettle .a 0 true, .didSelectItemAt .b, .screen .b 0 (.viewWillAppear 2),
        .screen .b 0 (.settle 0 true), .screen .b 0 (.settle 0 true), .screen .b 0 (.type "hi"), .screen .b 0 .sendAction,
        .screen .b 0 (.statusReply 0 [] 3), .screen .b 0 (.settle 0 true), .screen .b 0 (.settle 0 true)] ++
        [.screen .b 0 (.settle 0 true)]) := by
  intro h
  have hmarked := (h.last rfl).2 _ rfl rfl
  exact absurd (show _ = _ from hmarked) (by decide)

end Invariant

end World
end Traveller
