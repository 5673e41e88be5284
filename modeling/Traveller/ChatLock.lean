import Traveller.ChatScreen
/-!
# ChatLock — the send lock

`isdosending` is meant to keep one send at a time.  `doSend` takes it before it looks at the text, and only the last of
three successful writes gives it back, so the lock leaks on an empty text and on a failed write, and a leaked lock is never
freed (`Stuck.run`).  `lockSound_iff_keepsLock` says that these are the only two ways.

The rest of the chat reads the steps through two inversions: what an answer to a status query does (`Answer`) and what the
completion of a write does (`Completion`).
-/
namespace Traveller

namespace Pending

def flight? : Pending → Option Flight
  | write _ => none
  | send f => some f

end Pending

namespace MessageSendVC

/-- The sends one of whose writes is outstanding. -/
def sends (s : MessageSendVC) : List Flight := s.outstanding.filterMap Pending.flight?

theorem mem_sends {s : MessageSendVC} {f : Flight} : f ∈ sends s ↔ .send f ∈ s.outstanding := by
  simp only [sends, List.mem_filterMap]
  constructor
  · rintro ⟨p, hp, hf⟩
    cases p with
    | write w => cases hf
    | send g =>
      cases hf
      exact hp
  · exact fun h => ⟨_, h, rfl⟩

private theorem filterMap_flight_write (ws : List DbWrite) : (ws.map Pending.write).filterMap Pending.flight? = [] := by
  induction ws with
  | nil => rfl
  | cons w ws ih => simp [Pending.flight?]

/-! ## Steps, by what they do to the sends -/

theorem Quiet.sends {x x' : Screen} {ws : List DbWrite} (h : Quiet x x' ws) : sends x'.2 = sends x.2 := by
  rw [MessageSendVC.sends, h.outstanding, List.filterMap_append, filterMap_flight_write, List.append_nil,
    MessageSendVC.sends]

theorem sends_eraseIdx {s : MessageSendVC} {i : Nat} {p : Pending} (h : s.outstanding[i]? = some p) :
    (p.flight?.toList ++ (s.outstanding.eraseIdx i).filterMap Pending.flight?).Perm (sends s) := by
  obtain ⟨hi, hp⟩ := List.getElem?_eq_some_iff.1 h
  have hperm := (List.getElem_cons_eraseIdx_perm hi).filterMap Pending.flight?
  rw [hp, List.filterMap_cons] at hperm
  cases p <;> exact hperm

/-- **What a completion does**: a write nobody waits for is applied if it succeeded; that of a send takes the send on,
ends it and gives the lock back, or stops it. -/
inductive Completion (i : Nat) (ok : Bool) (x : Screen) : Screen → Prop where
  | nothing {x' : Screen} (hi : x.2.outstanding[i]? = none) (hx : x' = x) : Completion i ok x x'
  | write {x' : Screen} (w : DbWrite) (hi : x.2.outstanding[i]? = some (.write w))
      (hfb : x'.1 = if ok then x.1.apply w else x.1) (hb : x'.2.isBlock = x.2.isBlock)
      (hl : x'.2.isdosending = x.2.isdosending) (hs : (sends x'.2).Perm (sends x.2))
      (ho : x'.2.outstanding = x.2.outstanding.eraseIdx i) : Completion i ok x x'
  | send {x' : Screen} (f : Flight) (rest : List Flight) (hi : x.2.outstanding[i]? = some (.send f))
      (hfb : x'.1 = if ok then x.1.apply f.write else x.1) (hb : x'.2.isBlock = x.2.isBlock)
      (hl : x'.2.isdosending = if ok ∧ f.next = none then false else x.2.isdosending)
      (hs : (f :: rest).Perm (sends x.2))
      (hs' : (sends x'.2).Perm ((if ok then f.next.toList else []) ++ rest))
      (ho : x'.2.outstanding = x.2.outstanding.eraseIdx i ++ (if ok then f.next.toList.map .send else [])) :
      Completion i ok x x'

theorem settle_completion (i : Nat) (ok : Bool) (x : Screen) : Completion i ok x (settle i ok x.1 x.2) := by
  obtain ⟨fb, s⟩ := x
  cases hp : s.outstanding[i]? with
  | none =>
    have h : settle i ok fb s = (fb, s) := by simp only [settle, hp]
    rw [h]
    exact .nothing hp rfl
  | some p =>
    have hperm := sends_eraseIdx hp
    cases p with
    | write w =>
      have h : settle i ok fb s = (if ok then fb.apply w else fb, { s with outstanding := s.outstanding.eraseIdx i }) := by
        simp only [settle, hp]
      rw [h]
      exact .write w hp rfl rfl rfl hperm rfl
    | send f =>
      simp only [settle, hp]
      cases ok with
      | false => exact .send f _ hp rfl rfl rfl hperm (List.Perm.refl _) (List.append_nil _).symm
      | true =>
        cases hf : f.next with
        | none => exact .send f _ hp rfl rfl (by simp [hf]) hperm (by simp [hf, sends]) (by simp [hf])
        | some f' =>
          refine .send f _ hp rfl rfl (by simp [hf]) hperm ?_ (by simp [hf])
          simp only [if_true, hf, Option.toList_some, sends, List.filterMap_append]
          exact List.perm_append_comm

/-- Whether the answer to the `i`-th status query has something to hand to `doSend`: a text in the field, or an image. -/
def hasToSend (s : MessageSendVC) (i : Nat) : Bool :=
  match s.statusQueries[i]? with
  | none => false
  | some .text => s.edtMsgSend ≠ ""
  | some _ => s.downloadURL.isSome

/-- **What an answer to a status query does**: nothing, or the lock is taken for nothing, or a send starts. -/
inductive Answer (me partner : Profile) (i : Nat) (now : Int) (x : Screen) : Screen → Prop where
  | nothing {x' : Screen} (hfb : x'.1 = x.1) (hb : x'.2.isBlock = x.2.isBlock)
      (ho : x'.2.outstanding = x.2.outstanding) (hl : x'.2.isdosending = x.2.isdosending)
      (hidle : x.2.isdosending = true ∨ x.2.statusQueries[i]? ≠ some .text ∧ hasToSend x.2 i = false) :
      Answer me partner i now x x'
  | leak {x' : Screen} (hfb : x'.1 = x.1) (hb : x'.2.isBlock = x.2.isBlock)
      (ho : x'.2.outstanding = x.2.outstanding) (hl : x.2.isdosending = false) (hl' : x'.2.isdosending = true)
      (htext : x.2.statusQueries[i]? = some .text) (hempty : x.2.edtMsgSend = "") : Answer me partner i now x x'
  | start {x' : Screen} (msgtype : MsgType) (attachment : String) (hdb : x'.1.db = x.1.db)
      (hkey : x'.1.nextKey = x.1.nextKey + 1) (hb : x'.2.isBlock = x.2.isBlock)
      (ho : x'.2.outstanding = x.2.outstanding ++
        [.send { send := send me partner msgtype attachment (now * 1000) (.auto x.1.nextKey) }])
      (hl : x.2.isdosending = false) (hl' : x'.2.isdosending = true)
      (hwhat : (x.2.statusQueries[i]? = some .text ∧ msgtype = .text ∧ attachment = x.2.edtMsgSend ∧
          x.2.edtMsgSend ≠ "") ∨ (x.2.statusQueries[i]? ≠ some .text ∧ msgtype = .image))
      (hhas : hasToSend x.2 i = true) : Answer me partner i now x x'

theorem sends_congr {s s' : MessageSendVC} (h : s'.outstanding = s.outstanding) : sends s' = sends s := by
  rw [sends, h, sends]

theorem sends_start {s s' : MessageSendVC} {f : Flight} (h : s'.outstanding = s.outstanding ++ [.send f]) :
    sends s' = sends s ++ [f] := by
  rw [sends, h, List.filterMap_append]
  rfl

private theorem answer_doSend (me partner : Profile) (i : Nat) (now : Int) (fb : Firebase) (s s₀ : MessageSendVC)
    {msgtype : MsgType} {attachment : String} (hb : s.isBlock ≠ "true") (ho : s₀.outstanding = s.outstanding)
    (hb₀ : s₀.isBlock = s.isBlock) (hl₀ : s₀.isdosending = s.isdosending)
    (hwhat : (s.statusQueries[i]? = some .text ∧ msgtype = .text ∧ attachment = s.edtMsgSend) ∨
      (s.statusQueries[i]? ≠ some .text ∧ msgtype = .image ∧ hasToSend s i = true)) :
    Answer me partner i now (fb, s) (doSend me partner false msgtype attachment now fb s₀) := by
  have hb' : s₀.isBlock ≠ "true" := by rwa [hb₀]
  cases hl : s.isdosending with
  | true =>
    rw [doSend_locked _ _ _ _ _ hb' (by rw [hl₀, hl])]
    exact .nothing rfl hb₀ ho hl₀ (.inl hl)
  | false =>
    by_cases ha : msgtype = .text ∧ attachment = ""
    · obtain ⟨rfl, rfl⟩ := ha
      rcases hwhat with ⟨hq, -, he⟩ | ⟨-, hm, -⟩
      · rw [doSend_empty _ _ _ _ _ hb' (by rw [hl₀, hl])]
        exact .leak rfl hb₀ ho hl rfl hq he.symm
      · cases hm
    · rw [doSend_start _ _ _ _ _ hb' (by rw [hl₀, hl]) ha]
      rcases hwhat with ⟨hq, rfl, rfl⟩ | ⟨hq, hm, hhas⟩
      · have hne : s.edtMsgSend ≠ "" := fun he => ha ⟨rfl, he⟩
        exact .start _ _ rfl rfl hb₀ (congrArg (· ++ _) ho) hl rfl (.inl ⟨hq, rfl, rfl, hne⟩)
          (by simp [hasToSend, hq, hne])
      · exact .start _ _ rfl rfl hb₀ (congrArg (· ++ _) ho) hl rfl (.inr ⟨hq, hm⟩) hhas

theorem statusReply_answer (me partner : Profile) (i : Nat) (snapshot : List String) (now : Int) {x : Screen}
    (hb : x.2.isBlock ≠ "true") : Answer me partner i now x (statusReply me partner i snapshot now x.1 x.2) := by
  obtain ⟨fb, s⟩ := x
  cases hq : s.statusQueries[i]? with
  | none =>
    have h : statusReply me partner i snapshot now fb s = (fb, s) := by simp only [statusReply, hq]
    rw [h]
    exact .nothing rfl rfl rfl rfl (.inr ⟨by simp [hq], by simp [hasToSend, hq]⟩)
  | some msgtype =>
    rw [statusReply_eq me partner hb hq]
    cases msgtype with
    | text => exact answer_doSend me partner i now fb s _ hb rfl rfl rfl (.inl ⟨hq, rfl, rfl⟩)
    | _ =>
      simp only [statusCompletion]
      cases hu : s.downloadURL with
      | none => exact .nothing rfl rfl rfl rfl (.inr ⟨by simp [hq], by simp [hasToSend, hq, hu]⟩)
      | some url =>
        exact answer_doSend me partner i now fb s _ hb rfl rfl rfl
          (.inr ⟨by simp [hq], rfl, by simp [hasToSend, hq, hu]⟩)

section Step
variable (me partner : Profile) {x : Screen} {i : Nat}

theorem step_answer (hb : x.2.isBlock = "false") {snapshot : List String} {now : Int}
    (ht : x.2.takes (.statusReply i snapshot now) = true) :
    Answer me partner i now x (step me partner x (.statusReply i snapshot now)) := by
  have hx : step me partner x (.statusReply i snapshot now) = statusReply me partner i snapshot now x.1 x.2 := if_pos ht
  rw [hx]
  exact statusReply_answer me partner i snapshot now (by rw [hb]; decide)

theorem step_completion {ok : Bool} (ht : x.2.takes (.settle i ok) = true) :
    Completion i ok x (step me partner x (.settle i ok)) := by
  have hx : step me partner x (.settle i ok) = settle i ok x.1 x.2 := if_pos ht
  rw [hx]
  exact settle_completion i ok x

end Step

/-! ## The lock -/

/-- **The lock is sound**: it is taken only while a write of a send is outstanding, and as long as the screen lives it can
still come free. -/
def LockSound (me partner : Profile) (x : Screen) : Prop :=
  (x.2.isdosending = true → sends x.2 ≠ []) ∧
  (x.2.crashed = false → ∃ es, (Runs.run (step me partner) x es).2.isdosending = false)

/-- No write of a send fails, and no answer for a text finds the field empty and the lock free. -/
def keepsLock (x : Screen) (e : ScreenEvent) : Prop :=
  x.2.takes e = true →
    match e with
    | .statusReply i _ _ => x.2.statusQueries[i]? = some .text → x.2.edtMsgSend = "" → x.2.isdosending = true
    | .settle i ok => ∀ f, x.2.outstanding[i]? = some (.send f) → ok = true
    | _ => True

/-- There is one send while the lock is taken and none while it is free. -/
structure LockInv (x : Screen) : Prop where
  isBlock : x.2.isBlock = "false"
  count : (sends x.2).length = if x.2.isdosending then 1 else 0

theorem LockInv.only {x : Screen} (h : LockInv x) {f : Flight} {rest : List Flight}
    (hs : (f :: rest).Perm (sends x.2)) : x.2.isdosending = true ∧ rest = [] := by
  have hlen := hs.length_eq
  rw [List.length_cons, h.count] at hlen
  cases hd : x.2.isdosending with
  | true =>
    rw [hd] at hlen
    exact ⟨rfl, List.length_eq_zero_iff.1 (by simpa using hlen)⟩
  | false => simp [hd] at hlen

theorem LockInv.step {me partner : Profile} {x : Screen} {e : ScreenEvent} (h : LockInv x) (hok : keepsLock x e) :
    LockInv (step me partner x e) := by
  by_cases ht : x.2.takes e = true
  case neg => rwa [step_of_not_takes me partner ht]
  have hok := hok ht
  cases he : ofSends e with
  | false =>
    have hq := step_quiet me partner he ht
    exact ⟨hq.isBlock.trans h.isBlock, by rw [hq.sends, hq.isdosending, h.count]⟩
  | true =>
    cases e with
    | statusReply i snapshot now =>
      cases step_answer me partner h.isBlock ht with
      | nothing hfb hb ho hl hidle => exact ⟨hb.trans h.isBlock, by rw [sends_congr ho, hl, h.count]⟩
      | leak hfb hb ho hl hl' htext hempty => exact absurd (hok htext hempty) (by simp [hl])
      | start msgtype attachment hdb hkey hb ho hl hl' hwhat hhas =>
        have hlen := h.count
        rw [hl] at hlen
        exact ⟨hb.trans h.isBlock, by rw [sends_start ho, List.length_append, hlen, hl']; rfl⟩
    | settle i ok =>
      cases step_completion me partner ht with
      | nothing hi hx => rwa [hx]
      | write w hi hfb hb hl hs ho => exact ⟨hb.trans h.isBlock, by rw [hs.length_eq, hl, h.count]⟩
      | send f rest hi hfb hb hl hs hs' ho =>
        obtain rfl := hok f hi
        obtain ⟨hlock, hrest⟩ := h.only hs
        refine ⟨hb.trans h.isBlock, ?_⟩
        rw [hs'.length_eq, hl, hrest, hlock]
        cases f.next <;> rfl
    | _ => cases he

/-! ### The lock comes free -/

theorem settle_crashed (i : Nat) (ok : Bool) (fb : Firebase) (s : MessageSendVC) :
    (settle i ok fb s).2.crashed = s.crashed := by
  unfold settle
  split
  · rfl
  · rfl
  · split
    · split <;> rfl
    · rfl

section Release
variable (me partner : Profile) {x : Screen} {f : Flight}

theorem step_settle_send (hf : .send f ∈ x.2.outstanding) (hc : x.2.crashed = false) :
    ∃ i, (step me partner x (.settle i true)).2.crashed = false ∧
      (f.next = none → (step me partner x (.settle i true)).2.isdosending = false) ∧
      ∀ f', f.next = some f' → .send f' ∈ (step me partner x (.settle i true)).2.outstanding := by
  obtain ⟨i, hi, hfi⟩ := List.getElem_of_mem hf
  have hget : x.2.outstanding[i]? = some (.send f) := by rw [List.getElem?_eq_getElem hi, hfi]
  have ht : x.2.takes (.settle i true) = true := by simp [takes, hc]
  refine ⟨i, ?_, ?_⟩
  · have hstep : step me partner x (.settle i true) = settle i true x.1 x.2 := if_pos ht
    rw [hstep, settle_crashed, hc]
  · cases step_completion me partner ht with
    | nothing hi' hx => rw [hget] at hi'; cases hi'
    | write w hi' hfb hb hl hs ho => rw [hget] at hi'; cases hi'
    | send g rest hi' hfb hb hl hs hs' ho =>
      rw [hget] at hi'
      cases hi'
      refine ⟨fun hn => by rw [hl, hn]; rfl, fun f' hn => ?_⟩
      rw [ho, hn]
      simp

theorem release_of_send (hf : .send f ∈ x.2.outstanding) (hc : x.2.crashed = false) :
    ∃ es, (Runs.run (step me partner) x es).2.isdosending = false := by
  have hlast : ∀ {x : Screen} {f : Flight}, f.stage = .partnerList → .send f ∈ x.2.outstanding → x.2.crashed = false →
      ∃ es, (Runs.run (step me partner) x es).2.isdosending = false := by
    intro x f hstage hf hc
    obtain ⟨i, -, hfree, -⟩ := step_settle_send me partner hf hc
    exact ⟨[.settle i true], hfree (by simp [Flight.next, hstage, Stage.next])⟩
  have hmid : ∀ {x : Screen} {f : Flight}, f.stage = .meList → .send f ∈ x.2.outstanding → x.2.crashed = false →
      ∃ es, (Runs.run (step me partner) x es).2.isdosending = false := by
    intro x f hstage hf hc
    obtain ⟨i, hc', -, hnext⟩ := step_settle_send me partner hf hc
    have hf' := hnext { f with stage := .partnerList } (by simp [Flight.next, hstage, Stage.next])
    obtain ⟨es, hes⟩ := hlast rfl hf' hc'
    exact ⟨.settle i true :: es, hes⟩
  cases hstage : f.stage with
  | partnerList => exact hlast hstage hf hc
  | meList => exact hmid hstage hf hc
  | message =>
    obtain ⟨i, hc', -, hnext⟩ := step_settle_send me partner hf hc
    have hf' := hnext { f with stage := .meList } (by simp [Flight.next, hstage, Stage.next])
    obtain ⟨es, hes⟩ := hmid rfl hf' hc'
    exact ⟨.settle i true :: es, hes⟩

end Release

theorem LockInv.lockSound (me partner : Profile) {x : Screen} (h : LockInv x) : LockSound me partner x := by
  have hsends : x.2.isdosending = true → sends x.2 ≠ [] := by
    intro hl hs
    have hcount := h.count
    simp [hl, hs] at hcount
  refine ⟨hsends, fun hc => ?_⟩
  cases hl : x.2.isdosending with
  | false => exact ⟨[], hl⟩
  | true =>
    obtain ⟨f, hf⟩ := List.exists_mem_of_ne_nil _ (hsends hl)
    exact release_of_send me partner (mem_sends.1 hf) hc

/-! ### The lock leaks -/

/-- The lock is taken and no write of a send is outstanding. -/
def Stuck (x : Screen) : Prop := x.2.isBlock = "false" ∧ x.2.isdosending = true ∧ sends x.2 = []

/-- **A leaked lock is leaked for ever.** -/
theorem Stuck.run {me partner : Profile} {x : Screen} (h : Stuck x) (es : List ScreenEvent) :
    Stuck (Runs.run (MessageSendVC.step me partner) x es) := by
  refine Runs.run_invariant Stuck (fun x e h _ => ?_) h (Runs.allSteps_trivial _ _ _)
  obtain ⟨hblock, hlock, hsends⟩ := h
  by_cases ht : x.2.takes e = true
  case neg => rw [step_of_not_takes me partner ht]; exact ⟨hblock, hlock, hsends⟩
  cases he : ofSends e with
  | false =>
    have hq := step_quiet me partner he ht
    exact ⟨hq.isBlock.trans hblock, hq.isdosending.trans hlock, hq.sends.trans hsends⟩
  | true =>
    cases e with
    | statusReply i snapshot now =>
      cases step_answer me partner hblock ht with
      | nothing hfb hb ho hl hidle => exact ⟨hb.trans hblock, hl.trans hlock, (sends_congr ho).trans hsends⟩
      | leak hfb hb ho hl hl' htext hempty => rw [hlock] at hl; cases hl
      | start msgtype attachment hdb hkey hb ho hl hl' hwhat hhas => rw [hlock] at hl; cases hl
    | settle i ok =>
      cases step_completion me partner ht with
      | nothing hi hx => rw [hx]; exact ⟨hblock, hlock, hsends⟩
      | write w hi hfb hb hl hs ho =>
        rw [hsends] at hs
        exact ⟨hb.trans hblock, hl.trans hlock, hs.eq_nil⟩
      | send f rest hi hfb hb hl hs hs' ho =>
        rw [hsends] at hs
        exact absurd hs.eq_nil (List.cons_ne_nil _ _)
    | _ => cases he

theorem LockInv.stuck {me partner : Profile} {x : Screen} {e : ScreenEvent} (h : LockInv x) (hbad : ¬ keepsLock x e) :
    Stuck (MessageSendVC.step me partner x e) := by
  simp only [keepsLock, Classical.not_imp] at hbad
  obtain ⟨ht, hbad⟩ := hbad
  cases e with
  | statusReply i snapshot now =>
    simp only [Classical.not_imp, Bool.not_eq_true] at hbad
    obtain ⟨hq, hempty, hlock⟩ := hbad
    have hsends : sends x.2 = [] := List.length_eq_zero_iff.1 (by rw [h.count, hlock]; rfl)
    cases step_answer me partner h.isBlock ht with
    | nothing hfb hb ho hl hidle =>
      rcases hidle with hidle | ⟨hne, -⟩
      · rw [hidle] at hlock
        cases hlock
      · exact absurd hq hne
    | leak hfb hb ho hl hl' htext hempty' => exact ⟨hb.trans h.isBlock, hl', (sends_congr ho).trans hsends⟩
    | start msgtype attachment hdb hkey hb ho hl hl' hwhat hhas =>
      rcases hwhat with ⟨-, -, -, hne⟩ | ⟨hne, -⟩
      · exact absurd hempty hne
      · exact absurd hq hne
  | settle i ok =>
    simp only [not_forall, Bool.not_eq_true] at hbad
    obtain ⟨f, hf, rfl⟩ := hbad
    cases step_completion me partner ht with
    | nothing hi hx => rw [hf] at hi; cases hi
    | write w hi hfb hb hl hs ho => rw [hf] at hi; cases hi
    | send g rest hi hfb hb hl hs hs' ho =>
      obtain ⟨hlock, hrest⟩ := h.only hs
      rw [hrest] at hs'
      exact ⟨hb.trans h.isBlock, hl.trans hlock, hs'.eq_nil⟩
  | _ => exact absurd trivial hbad

/-- **The lock is sound exactly in the runs whose steps all keep it.** -/
theorem lockSound_iff_keepsLock (me partner : Profile) (fb : Firebase) (es : List ScreenEvent) :
    Runs.AllStates (step me partner) (LockSound me partner) (fb, {}) es ↔
      Runs.AllSteps (step me partner) keepsLock (fb, {}) es := by
  refine Runs.allStates_iff_allSteps LockInv (fun _ _ h _ hok => h.step hok)
    (fun _ h => h.lockSound me partner) (fun x e h _ hbad hsound => ?_) ⟨rfl, rfl⟩ (Runs.allSteps_trivial _ _ _)
  obtain ⟨-, hlock, hsends⟩ : Stuck (step me partner x e) := h.stuck hbad
  exact hsound.1 hlock hsends

/-- Two taps on one text: the answer to the second finds the field empty, after the send of the first has ended. -/
theorem double_tap_leaks_the_lock :
    ¬ Runs.AllStates (step (.ofPartner 9 "Ann" "" "" 0) (.ofPartner 7 "Bob" "" "" 0))
      (LockSound (.ofPartner 9 "Ann" "" "" 0) (.ofPartner 7 "Bob" "" "" 0)) ({}, {})
      [.viewWillAppear 1, .settle 0 true, .settle 0 true, .type "hi", .sendAction, .sendAction, .statusReply 0 [] 2,
        .settle 0 true, .settle 0 true, .settle 0 true, .statusReply 0 [] 3] :=
  fun h => h.last.1 (by decide) (by decide)

end MessageSendVC
end Traveller
