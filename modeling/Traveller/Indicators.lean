import Mathlib.Data.List.Range
import Traveller.ChatRecords
import Traveller.Runs
import Traveller.SessionApi
/-!
# Indicators — the loading indicators of a screen

`showLoadingView` adds an indicator to the view and remembers it, `hideLoadingView` takes the remembered one away, and so does a
screen that disappears.  A flow shows indicators when an attempt begins, asks for one thing after another, and ends with an answer
that hides an indicator, or leaves the screen, or does neither.  The indicators are balanced exactly in the runs in which every
attempt that ends has shown one and has it hidden (`RequestFlow.balanced_iff`).  Three screens are such flows, and none of them ends
all its attempts so (`indicators_balanced_iff`).
-/
namespace Traveller

/-- `BaseVC`: the indicator it remembers, and those on its view, in the order they were added. -/
structure BaseVC where
  hud : Option Nat := none
  view : List Nat := []
  added : Nat := 0
  deriving DecidableEq, Repr

namespace BaseVC

def showLoadingView (s : BaseVC) : BaseVC :=
  { hud := some s.added, view := s.view ++ [s.added], added := s.added + 1 }

def hideLoadingView (s : BaseVC) : BaseVC :=
  match s.hud with
  | some hud => { s with view := s.view.filter (· ≠ hud) }
  | none => s

/-- `viewDidDisappear`: nothing sets `isHidden` of an indicator, so the remembered one is hidden, if not for the first time. -/
def viewDidDisappear (s : BaseVC) : BaseVC := s.hideLoadingView

def shows : Nat → BaseVC → BaseVC
  | 0, s => s
  | n + 1, s => (shows n s).showLoadingView

theorem added_shows (n : Nat) (s : BaseVC) : (shows n s).added = s.added + n := by
  induction n with
  | zero => rfl
  | succ n ih => rw [shows, showLoadingView, ih, Nat.add_assoc]

theorem view_shows (n : Nat) (s : BaseVC) : (shows n s).view = s.view ++ List.range' s.added n := by
  induction n with
  | zero => simp [shows]
  | succ n ih => rw [shows, showLoadingView, ih, added_shows, List.range'_concat, Nat.one_mul, List.append_assoc]

@[simp] theorem hideLoadingView_hideLoadingView (s : BaseVC) : s.hideLoadingView.hideLoadingView = s.hideLoadingView := by
  obtain ⟨_ | hud, view, added⟩ := s
  · rfl
  · simp [hideLoadingView]

theorem view_hideLoadingView {s : BaseVC} (h : s.view = []) : s.hideLoadingView.view = [] := by
  rw [hideLoadingView]
  split
  · rw [h]
    rfl
  · exact h

/-- **Of the indicators shown on an empty view one is hidden.** -/
theorem view_hide_shows {s : BaseVC} (hview : s.view = []) (n : Nat) :
    ((shows (n + 1) s).hideLoadingView).view = List.range' s.added n := by
  have hold : ∀ k ∈ List.range' s.added n, k ≠ s.added + n := fun k hk => by
    obtain ⟨i, hi, rfl⟩ := List.mem_range'.1 hk
    omega
  simp only [hideLoadingView, shows, showLoadingView, view_shows, added_shows, hview, List.nil_append]
  rw [List.filter_append, List.filter_eq_self.2 fun k hk => decide_eq_true (hold k hk)]
  simp

end BaseVC

/-! ## Flows -/

/-- What an answer leads to: the next thing asked for, the end of the attempt, which hides an indicator or leaves the screen, or
the end of the app. -/
inductive Answered (π : Type) where
  | asks (next : π)
  | ends (hides leaves : Bool)
  | traps

/-- A flow of a screen: the indicators an attempt shows, what it asks for first, and what each answer leads to. -/
structure RequestFlow (α π ω : Type) where
  shows : Nat
  begins : α → Option π
  answer : π → ω → Answered π
  shows_pos : 0 < shows

/-- The screen, and what it waits for. -/
structure FlowScreen (π : Type) where
  base : BaseVC := {}
  pending : Option π := none

inductive FlowEvent (α ω : Type) where
  | attempt (a : α)
  | answer (o : ω)
  | viewDidDisappear

/-- **Balanced**: while nothing is under way there is no indicator on the view. -/
def FlowScreen.Balanced {π : Type} (s : FlowScreen π) : Prop := s.pending = none → s.base.view = []

/-- The end of an attempt: a screen that is left disappears. -/
def BaseVC.finish (s : BaseVC) (hides leaves : Bool) : BaseVC :=
  let s := if hides then s.hideLoadingView else s
  if leaves then s.viewDidDisappear else s

theorem BaseVC.finish_eq (s : BaseVC) (hides leaves : Bool) :
    s.finish hides leaves = if hides || leaves then s.hideLoadingView else s := by
  cases hides <;> cases leaves <;> simp [finish, viewDidDisappear]

namespace RequestFlow
variable {α π ω : Type} (F : RequestFlow α π ω)

/-- The indicator covers the screen: the next attempt begins when nothing is under way. -/
def step (s : FlowScreen π) : FlowEvent α ω → FlowScreen π
  | .attempt a =>
    match s.pending, F.begins a with
    | none, some p => { base := s.base.shows F.shows, pending := some p }
    | _, _ => s
  | .answer o =>
    match s.pending with
    | none => s
    | some p =>
      match F.answer p o with
      | .asks next => { s with pending := some next }
      | .ends hides leaves => { base := s.base.finish hides leaves, pending := none }
      | .traps => {}
  | .viewDidDisappear => { s with base := s.base.viewDidDisappear }

/-- Whether the screen has disappeared since the attempt under way began. -/
def noteDisappeared (disappeared : Bool) (s : FlowScreen π) : FlowEvent α ω → Bool
  | .attempt _ => disappeared && s.pending.isSome
  | .answer _ => disappeared
  | .viewDidDisappear => true

/-- The flow beside that. -/
def trace : FlowScreen π × Bool → FlowEvent α ω → FlowScreen π × Bool := Runs.noting F.step noteDisappeared

/-- An attempt that ends has shown one indicator, and hides it, or leaves the screen, or the screen has disappeared. -/
def Undone (y : FlowScreen π × Bool) : FlowEvent α ω → Prop
  | .answer o => ∀ p hides leaves, y.1.pending = some p → F.answer p o = .ends hides leaves →
      F.shows = 1 ∧ (hides || leaves || y.2) = true
  | _ => True

/-- While something is under way the view shows what the attempt has added to an empty one, less what a disappearance took. -/
structure Inv (y : FlowScreen π × Bool) : Prop where
  balanced : y.1.Balanced
  added : y.1.pending ≠ none → ∃ b : BaseVC, b.view = [] ∧
    y.1.base = if y.2 then (b.shows F.shows).hideLoadingView else b.shows F.shows

variable {F}

theorem Inv.trace {y : FlowScreen π × Bool} (h : F.Inv y) {e : FlowEvent α ω} (hok : F.Undone y e) : F.Inv (F.trace y e) := by
  obtain ⟨⟨base, pending⟩, disappeared⟩ := y
  cases e with
  | attempt a =>
    cases pending with
    | some p => simpa [RequestFlow.trace, Runs.noting, RequestFlow.step, noteDisappeared] using h
    | none =>
      cases hp : F.begins a with
      | none =>
        simp only [RequestFlow.trace, Runs.noting, RequestFlow.step, hp]
        exact ⟨h.balanced, fun hn => absurd rfl hn⟩
      | some p =>
        simp only [RequestFlow.trace, Runs.noting, RequestFlow.step, hp, noteDisappeared, Option.isSome_none, Bool.and_false]
        exact ⟨fun hn => (by cases hn), fun _ => ⟨base, h.balanced rfl, rfl⟩⟩
  | answer o =>
    cases pending with
    | none => exact h
    | some p =>
      obtain ⟨b, hview, hbase⟩ := h.added (Option.some_ne_none p)
      dsimp only at hbase
      cases ha : F.answer p o with
      | asks next =>
        simp only [RequestFlow.trace, Runs.noting, RequestFlow.step, ha]
        exact ⟨fun hn => (by cases hn), fun _ => ⟨b, hview, hbase⟩⟩
      | ends hides leaves =>
        obtain ⟨hone, hhidden⟩ := hok p hides leaves rfl ha
        simp only [RequestFlow.trace, Runs.noting, RequestFlow.step, ha]
        refine ⟨fun _ => ?_, fun hn => absurd rfl hn⟩
        have hend : base.finish hides leaves = (b.shows 1).hideLoadingView := by
          rw [BaseVC.finish_eq, hbase, hone]
          cases disappeared with
          | false =>
            rw [Bool.or_false] at hhidden
            simp [hhidden]
          | true => simp
        dsimp only
        rw [hend]
        exact b.view_hide_shows hview 0
      | traps =>
        simp only [RequestFlow.trace, Runs.noting, RequestFlow.step, ha]
        exact ⟨fun _ => rfl, fun hn => absurd rfl hn⟩
  | viewDidDisappear =>
    simp only [RequestFlow.trace, Runs.noting, RequestFlow.step, noteDisappeared, BaseVC.viewDidDisappear]
    refine ⟨fun hn => BaseVC.view_hideLoadingView (h.balanced hn), fun hn => ?_⟩
    obtain ⟨b, hview, hbase⟩ := h.added hn
    refine ⟨b, hview, ?_⟩
    dsimp only at hbase ⊢
    rw [hbase, if_pos rfl]
    split
    · rw [BaseVC.hideLoadingView_hideLoadingView]
    · rfl

theorem not_balanced_trace {y : FlowScreen π × Bool} (h : F.Inv y) {e : FlowEvent α ω} (hok : ¬ F.Undone y e) :
    ¬ (F.trace y e).1.Balanced := by
  obtain ⟨⟨base, pending⟩, disappeared⟩ := y
  cases e with
  | attempt a => exact absurd trivial hok
  | viewDidDisappear => exact absurd trivial hok
  | answer o =>
    simp only [Undone, not_forall] at hok
    obtain ⟨p, hides, leaves, rfl, ha, hnot⟩ := hok
    obtain ⟨b, hview, hbase⟩ := h.added (Option.some_ne_none p)
    obtain ⟨n, hn⟩ := Nat.exists_eq_succ_of_ne_zero F.shows_pos.ne'
    dsimp only at hbase
    intro hbalanced
    have hempty : (base.finish hides leaves).view = [] := by
      have hend : (F.step ⟨base, some p⟩ (.answer o)) = ⟨base.finish hides leaves, none⟩ := by simp only [step, ha]
      have hrest := hbalanced (by rw [RequestFlow.trace, Runs.noting_fst, hend])
      rwa [RequestFlow.trace, Runs.noting_fst, hend] at hrest
    have hend : base.finish hides leaves =
        if hides || leaves || disappeared then (b.shows (n + 1)).hideLoadingView else b.shows (n + 1) := by
      rw [BaseVC.finish_eq, hbase, hn]
      cases disappeared <;> simp
    rw [hend] at hempty
    split at hempty
    · rename_i hhidden
      rw [b.view_hide_shows hview, List.range'_eq_nil_iff] at hempty
      exact hnot ⟨by rw [hn, hempty], hhidden⟩
    · rw [BaseVC.view_shows, hview, List.nil_append, List.range'_eq_nil_iff] at hempty
      exact absurd hempty (Nat.succ_ne_zero n)

variable (F)

/-- **When the indicators of a flow are balanced.** -/
theorem balanced_iff (es : List (FlowEvent α ω)) :
    Runs.AllStates F.trace (fun y => y.1.Balanced) ({}, false) es ↔ Runs.AllSteps F.trace F.Undone ({}, false) es := by
  have hinit : F.Inv ({}, false) := ⟨fun _ => rfl, fun h => absurd rfl h⟩
  exact Runs.allStates_iff_allSteps F.Inv (fun _ _ h _ hok => h.trace hok) (fun _ h => h.balanced)
    (fun _ _ h _ hok => not_balanced_trace h hok) hinit (Runs.allSteps_trivial F.trace _ es)

variable {F}

theorem undone_answer {y : FlowScreen π × Bool} {p : π} (hp : y.1.pending = some p) (o : ω) :
    F.Undone y (.answer o) ↔
      ∀ hides leaves, F.answer p o = .ends hides leaves → F.shows = 1 ∧ (hides || leaves || y.2) = true := by
  simp only [Undone, hp, Option.some.injEq]
  exact ⟨fun h hides leaves => h p hides leaves rfl, fun h _ hides leaves heq => heq ▸ h hides leaves⟩

theorem undone_of_idle {y : FlowScreen π × Bool} (hp : y.1.pending = none) (e : FlowEvent α ω) : F.Undone y e := by
  cases e with
  | answer o => exact fun p _ _ hsome => by cases hp.symm.trans hsome
  | _ => trivial

/-- What a flow waits for is what its attempts and answers ask for. -/
theorem pending_step {P : π → Prop} (hbegins : ∀ a p, F.begins a = some p → P p)
    (hasks : ∀ p o next, F.answer p o = .asks next → P next) (s : FlowScreen π) (e : FlowEvent α ω)
    (h : ∀ p, s.pending = some p → P p) : ∀ p, (F.step s e).pending = some p → P p := by
  intro p hp
  unfold step at hp
  split at hp
  · split at hp
    · obtain rfl := Option.some.inj hp
      exact hbegins _ _ ‹_›
    · exact h p hp
  · split at hp
    · exact h p hp
    · split at hp
      · obtain rfl := Option.some.inj hp
        exact hasks _ _ _ ‹_›
      · cases hp
      · cases hp
  · exact h p hp

/-- The condition of a flow in the terms of its screen. -/
theorem balanced_iff_of {P : π → Prop} (hbegins : ∀ a p, F.begins a = some p → P p)
    (hasks : ∀ p o next, F.answer p o = .asks next → P next) {ok : FlowScreen π × Bool → FlowEvent α ω → Prop}
    (hok : ∀ y e, (∀ p, y.1.pending = some p → P p) → (F.Undone y e ↔ ok y e)) (es : List (FlowEvent α ω)) :
    Runs.AllStates F.trace (fun y => y.1.Balanced) ({}, false) es ↔ Runs.AllSteps F.trace ok ({}, false) es := by
  have hinit : ∀ p, (FlowScreen.pending (π := π) {}) = some p → P p := fun p hp => by cases hp
  exact (F.balanced_iff es).trans (Runs.allSteps_congr (fun y : FlowScreen π × Bool => ∀ p, y.1.pending = some p → P p)
    (fun y e h => pending_step hbegins hasks y.1 e h) hok hinit)

end RequestFlow

/-! ## The three screens -/

/-- An answer of the server, and the session it is handled against. -/
structure ServerAnswer where
  now : Int
  session : Session
  reply : Option Reply

/-- What the answer of a request ends with: its completion, if it has one, may hide the indicator and may leave the screen. -/
def Handled.ends (h : Handled) (hides : Bool) (leaves : Bool → Bool) : Answered Request :=
  if h.trapped then .traps
  else
    match h.completion with
    | some isSuccess => .ends hides (leaves isSuccess)
    | none => .ends false false

/-- What `SignUpVC` is filled in with. -/
structure SignUpForm where
  photo : Option String
  firstName : String
  lastName : String
  email : String
  birthday : Int
  password : String
  confirmpassword : String
  isChecked : Bool

/-- `signupBtnClicked`, which calls `showLoadingView` twice; a success presents the tab bar, on the full screen. -/
def SignUpVC.flow : RequestFlow SignUpForm Request ServerAnswer where
  shows := 2
  begins form := App.sends {} (.signupBtnClicked form.photo form.firstName form.lastName form.email form.birthday form.password
    form.confirmpassword form.isChecked)
  answer request o := (request.reply o.now o.session o.reply).ends true fun isSuccess => isSuccess
  shows_pos := by decide

/-- A message typed by `me` on the screen of a trip, which knows whose it is. -/
structure TripMessage where
  me : UserModel
  one : Option UserModel
  msg : String

/-- `sendBtnClicked`: three writes, and when all have succeeded the indicator is hidden and the screen popped. -/
def TripDetailVC.flow : RequestFlow TripMessage Stage Bool where
  shows := 1
  begins m := if m.me.isValid && TripDetailVC.accepts m.msg then m.one.map fun _ => .message else none
  answer stage status :=
    if status then
      match stage.next with
      | some next => .asks next
      | none => .ends true true
    else .ends false false
  shows_pos := by decide

/-- `checkBackgrouond`, of the stored user and whether it is logged out: only the e-mail path hides the indicator itself, and every
completion presents another screen, on the full screen. -/
def SplashVC.flow : RequestFlow (UserModel × Bool) Request ServerAnswer where
  shows := 1
  begins a := App.checkBackgrouond a.1 a.2
  answer request o :=
    match request with
    | .signin .. => (request.reply o.now o.session o.reply).ends true fun _ => true
    | _ => (request.reply o.now o.session o.reply).ends false fun _ => true
  shows_pos := by decide

/-- A success of the server whose `user_info` is that. -/
def ServerAnswer.succeedsWith (o : ServerAnswer) (userInfo : Option (List UserJson)) : Prop :=
  ∃ r, o.reply = some r ∧ r.message = "success" ∧ r.userInfo = userInfo

/-- No sign-up is answered, unless by the success that ends the app. -/
def SignUpVC.Unanswered (y : FlowScreen Request × Bool) : FlowEvent SignUpForm ServerAnswer → Prop
  | .answer o => y.1.pending = none ∨ o.succeedsWith (some [])
  | _ => True

/-- A write succeeds, or the screen has disappeared since the message was sent. -/
def TripDetailVC.Succeeds (y : FlowScreen Stage × Bool) : FlowEvent TripMessage Bool → Prop
  | .answer status => y.1.pending = none ∨ status = true ∨ y.2 = true
  | _ => True

/-- A login is answered by no success without `user_info`, or the screen has disappeared since it was sent. -/
def SplashVC.Completes (y : FlowScreen Request × Bool) : FlowEvent (UserModel × Bool) ServerAnswer → Prop
  | .answer o => y.1.pending = none ∨ ¬ o.succeedsWith none ∨ y.2 = true
  | _ => True

theorem ServerAnswer.succeedsWith_unique {o : ServerAnswer} {userInfo userInfo' : Option (List UserJson)}
    (h : o.succeedsWith userInfo) (h' : o.succeedsWith userInfo') : userInfo = userInfo' := by
  obtain ⟨r, hr, -, rfl⟩ := h
  obtain ⟨r', hr', -, rfl⟩ := h'
  rw [hr] at hr'
  obtain rfl := Option.some.inj hr'
  rfl

section
variable (o : ServerAnswer) (hides : Bool) (leaves : Bool → Bool)

/-- **How a sign-in and a sign-up end**: with the app at a success for nobody, in silence at one without `user_info`, and else
with the completion. -/
theorem signinReply_ends (password : String) :
    (o.succeedsWith (some []) ∧ (Request.signinReply o.now password o.session o.reply).ends hides leaves = .traps) ∨
    (o.succeedsWith none ∧ (Request.signinReply o.now password o.session o.reply).ends hides leaves = .ends false false) ∨
    (¬ o.succeedsWith (some []) ∧ ¬ o.succeedsWith none ∧ ∃ isSuccess,
      (Request.signinReply o.now password o.session o.reply).ends hides leaves = .ends hides (leaves isSuccess)) := by
  obtain ⟨now, session, reply⟩ := o
  cases reply with
  | none => simp [Request.signinReply, answered, Handled.ends, ServerAnswer.succeedsWith]
  | some r =>
    by_cases hr : r.message = "success"
    · cases hinfo : r.userInfo with
      | none => simp [Request.signinReply, answered, takeUser, Handled.ends, ServerAnswer.succeedsWith, hr, hinfo]
      | some users =>
        cases users <;>
          simp [Request.signinReply, answered, takeUser, Handled.ends, ServerAnswer.succeedsWith, hr, hinfo]
    · simp [Request.signinReply, answered, Handled.ends, ServerAnswer.succeedsWith, hr]

/-- **How a login with a social account ends**: in silence at a success without `user_info`, and else with the completion. -/
theorem socialReply_ends :
    (o.succeedsWith none ∧ (Request.socialReply o.now o.session o.reply).ends hides leaves = .ends false false) ∨
    (¬ o.succeedsWith none ∧ ∃ isSuccess,
      (Request.socialReply o.now o.session o.reply).ends hides leaves = .ends hides (leaves isSuccess)) := by
  obtain ⟨now, session, reply⟩ := o
  cases reply with
  | none => simp [Request.socialReply, answered, Handled.ends, ServerAnswer.succeedsWith]
  | some r =>
    by_cases hr : r.message = "success"
    · cases hinfo : r.userInfo with
      | none => simp [Request.socialReply, answered, Handled.ends, ServerAnswer.succeedsWith, hr, hinfo]
      | some users => cases users <;> simp [Request.socialReply, answered, Handled.ends, ServerAnswer.succeedsWith, hr, hinfo]
    · simp [Request.socialReply, answered, Handled.ends, ServerAnswer.succeedsWith, hr]

end

theorem Handled.ends_ne_asks (h : Handled) (hides : Bool) (leaves : Bool → Bool) (next : Request) :
    h.ends hides leaves ≠ .asks next := by
  unfold Handled.ends
  split
  · exact nofun
  · split <;> exact nofun

theorem SignUpVC.undone_iff (y : FlowScreen Request × Bool) (e : FlowEvent SignUpForm ServerAnswer)
    (h : ∀ q, y.1.pending = some q → ∃ email firstName lastName userPhoto birthday phoneNumber loginType password,
      q = .signup email firstName lastName userPhoto birthday phoneNumber loginType password) :
    SignUpVC.flow.Undone y e ↔ SignUpVC.Unanswered y e := by
  cases e with
  | attempt form => exact Iff.rfl
  | viewDidDisappear => exact Iff.rfl
  | answer o =>
    cases hp : y.1.pending with
    | none => exact iff_of_true (RequestFlow.undone_of_idle hp _) (.inl hp)
    | some q =>
      obtain ⟨email, firstName, lastName, userPhoto, birthday, phoneNumber, loginType, password, rfl⟩ := h q hp
      rw [RequestFlow.undone_answer hp, Unanswered, hp]
      simp only [flow, Request.reply, reduceCtorEq, false_or]
      -- two indicators are shown: only an answer that ends the app leaves none
      rcases signinReply_ends o true (fun isSuccess => isSuccess) password with
        ⟨htrap, hends⟩ | ⟨hsilent, hends⟩ | ⟨hnot, -, isSuccess, hends⟩ <;> rw [hends]
      · exact iff_of_true nofun htrap
      · exact iff_of_false (fun h => absurd (h false false rfl).1 (by decide)) fun h => by
          cases ServerAnswer.succeedsWith_unique hsilent h
      · exact iff_of_false (fun h => absurd (h true isSuccess rfl).1 (by decide)) hnot

theorem TripDetailVC.undone_iff (y : FlowScreen Stage × Bool) (e : FlowEvent TripMessage Bool) :
    TripDetailVC.flow.Undone y e ↔ TripDetailVC.Succeeds y e := by
  cases e with
  | attempt m => exact Iff.rfl
  | viewDidDisappear => exact Iff.rfl
  | answer status =>
    cases hp : y.1.pending with
    | none => exact iff_of_true (RequestFlow.undone_of_idle hp _) (.inl hp)
    | some stage =>
      rw [RequestFlow.undone_answer hp, Succeeds, hp]
      cases status <;> cases stage <;> simp [flow, Stage.next]

theorem SplashVC.undone_iff (y : FlowScreen Request × Bool) (e : FlowEvent (UserModel × Bool) ServerAnswer)
    (h : ∀ q, y.1.pending = some q → (∃ email password, q = .signin email password) ∨
      ∃ email firstName lastName userPhoto loginType socialId,
        q = .socialLogin email firstName lastName userPhoto loginType socialId) :
    SplashVC.flow.Undone y e ↔ SplashVC.Completes y e := by
  cases e with
  | attempt a => exact Iff.rfl
  | viewDidDisappear => exact Iff.rfl
  | answer o =>
    cases hp : y.1.pending with
    | none => exact iff_of_true (RequestFlow.undone_of_idle hp _) (.inl hp)
    | some q =>
      rw [RequestFlow.undone_answer hp, Completes, hp]
      simp only [reduceCtorEq, false_or]
      rcases h q hp with ⟨email, password, rfl⟩ | ⟨email, firstName, lastName, userPhoto, loginType, socialId, rfl⟩
      · simp only [flow, Request.reply]
        rcases signinReply_ends o true (fun _ => true) password with
          ⟨htrap, hends⟩ | ⟨hs, hends⟩ | ⟨-, hnot, isSuccess, hends⟩ <;> rw [hends]
        · exact iff_of_true nofun (.inl fun h => by cases ServerAnswer.succeedsWith_unique htrap h)
        · simp [hs]
        · simp [hnot]
      · simp only [flow, Request.reply]
        rcases socialReply_ends o false (fun _ => true) with ⟨hs, hends⟩ | ⟨hnot, isSuccess, hends⟩ <;> rw [hends]
        · simp [hs]
        · simp [hnot]

/-- **When the loading indicators of the three screens are balanced**, in any run of each. -/
theorem indicators_balanced_iff (signUps : List (FlowEvent SignUpForm ServerAnswer)) (messages : List (FlowEvent TripMessage Bool))
    (launches : List (FlowEvent (UserModel × Bool) ServerAnswer)) :
    (Runs.AllStates SignUpVC.flow.trace (fun y => y.1.Balanced) ({}, false) signUps ↔
      Runs.AllSteps SignUpVC.flow.trace SignUpVC.Unanswered ({}, false) signUps) ∧
    (Runs.AllStates TripDetailVC.flow.trace (fun y => y.1.Balanced) ({}, false) messages ↔
      Runs.AllSteps TripDetailVC.flow.trace TripDetailVC.Succeeds ({}, false) messages) ∧
    (Runs.AllStates SplashVC.flow.trace (fun y => y.1.Balanced) ({}, false) launches ↔
      Runs.AllSteps SplashVC.flow.trace SplashVC.Completes ({}, false) launches) := by
  refine ⟨SignUpVC.flow.balanced_iff_of ?_ ?_ SignUpVC.undone_iff signUps,
    TripDetailVC.flow.balanced_iff_of (fun _ _ _ => trivial) (fun _ _ _ _ => trivial) (fun y e _ => TripDetailVC.undone_iff y e)
      messages,
    SplashVC.flow.balanced_iff_of ?_ ?_ SplashVC.undone_iff launches⟩
  · intro form q hq
    simp only [SignUpVC.flow, App.sends] at hq
    split at hq
    · obtain ⟨photo, -, rfl⟩ := Option.map_eq_some_iff.1 hq
      exact ⟨_, _, _, _, _, _, _, _, rfl⟩
    · cases hq
  · exact fun q o next h => absurd h (Handled.ends_ne_asks _ _ _ next)
  · intro a q hq
    simp only [SplashVC.flow, App.checkBackgrouond] at hq
    split at hq
    · split at hq
      · exact .inl ⟨_, _, (Option.some.inj hq).symm⟩
      · exact .inr ⟨_, _, _, _, _, _, (Option.some.inj hq).symm⟩
    · cases hq
  · intro q o next h
    simp only [SplashVC.flow] at h
    split at h <;> exact absurd h (Handled.ends_ne_asks _ _ _ next)

/-- **None of the three balances them**: a sign-up that fails leaves one of its two indicators, a message whose first write fails
its only one, and so does the login of a stored user that is answered by a success without `user_info`. -/
theorem indicators_stay :
    ¬ Runs.AllStates SignUpVC.flow.trace (fun y => y.1.Balanced) ({}, false)
      [.attempt ⟨some "a.png", "Ann", "Bee", "ann@mail.io", 631152000000, "pw", "pw", true⟩, .answer ⟨0, {}, none⟩] ∧
    ¬ Runs.AllStates TripDetailVC.flow.trace (fun y => y.1.Balanced) ({}, false)
      [.attempt ⟨{ userId := 7 }, some {}, "hello"⟩, .answer false] ∧
    ¬ Runs.AllStates SplashVC.flow.trace (fun y => y.1.Balanced) ({}, false)
      [.attempt ({ userId := 7, loginType := some .google }, false), .answer ⟨0, {}, some { message := "success" }⟩] := by
  refine ⟨?_, ?_, ?_⟩ <;> rintro ⟨-, -, h⟩ <;> exact absurd (h (by decide)) (by decide)

end Traveller
