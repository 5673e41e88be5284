import Traveller.LoadIndicators
/-!
# ProgressHUD — `MBProgressHUD` under the indicators of the screens

`BaseVC` takes an indicator away the moment it is hidden.  `MBProgressHUD` takes its time: it may wait before it shows, stay
for a while before it hides, and it fades out before it leaves its view.  A timer of it that is set over another one leaves
that one running.

`asAsked_iff`: an indicator looks as the last call asked, exactly in the runs in which no timer of an earlier call ends against
it.  The screens set no waits, and `huds_gone_iff` is `indicators_gone_iff` over their indicators as they are.
-/
namespace Traveller

/-- The timers of one property that have not fired: the one it refers to, and those it was set over. -/
structure HudTimer where
  current : Bool := false
  old : Nat := 0
  deriving DecidableEq, Repr

namespace HudTimer

def set (t : HudTimer) : HudTimer := { current := true, old := if t.current then t.old + 1 else t.old }

def invalidate (t : HudTimer) : HudTimer := { t with current := false }

/-- Whether there is the timer, an old one or the current one. -/
def has (t : HudTimer) (old : Bool) : Bool := if old then t.old ≠ 0 else t.current

/-- It fires, once. -/
def fire (t : HudTimer) (old : Bool) : HudTimer := if old then { t with old := t.old - 1 } else { t with current := false }

def Runs (t : HudTimer) : Prop := t.current = true ∨ t.old ≠ 0

instance (t : HudTimer) : Decidable t.Runs := inferInstanceAs (Decidable (_ ∨ _))

end HudTimer

/-- `MBProgressHUD`.  Times are in the clock's units, of its colours and sizes there is nothing here, and an `alpha` is 0 or 1;
`fadeOuts` counts the fade-outs whose completion has not run. -/
structure MBProgressHUD where
  graceTime : Int := 0
  minShowTime : Int := 0
  removeFromSuperViewOnHide : Bool := false
  useAnimation : Bool := false
  finished : Bool := false
  showStarted : Option Int := none
  alpha : Bool := false
  bezelAlpha : Bool := false
  superview : Bool := false
  graceTimer : HudTimer := {}
  minShowTimer : HudTimer := {}
  hideDelayTimer : Option Bool := none
  fadeOuts : Nat := 0
  deriving DecidableEq, Repr

/-- What comes to an indicator from the run loop. -/
inductive HudTurn where
  | graceTimer (old : Bool) (now : Int)
  | minShowTimer (old : Bool)
  | hideTimer (now : Int)
  | fadedOut
  deriving DecidableEq, Repr

inductive HudEvent where
  | showAnimated (animated : Bool) (now : Int)
  | hideAnimated (animated : Bool) (now : Int)
  | hideAfterDelay (animated : Bool)
  | turn (t : HudTurn)
  deriving DecidableEq, Repr

namespace MBProgressHUD

def showUsingAnimation (now : Int) (h : MBProgressHUD) : MBProgressHUD :=
  { h with hideDelayTimer := none, showStarted := some now, alpha := true, bezelAlpha := true }

def showAnimated (animated : Bool) (now : Int) (h : MBProgressHUD) : MBProgressHUD :=
  if 0 < h.graceTime then
    { h with minShowTimer := h.minShowTimer.invalidate, useAnimation := animated, finished := false, graceTimer := h.graceTimer.set }
  else
    { h with minShowTimer := h.minShowTimer.invalidate, useAnimation := animated, finished := false }.showUsingAnimation now

/-- `done`; an indicator that is shown again in the meantime stays. -/
def done (h : MBProgressHUD) : MBProgressHUD :=
  if h.finished then { h with alpha := false, superview := h.superview && !h.removeFromSuperViewOnHide } else h

def hideUsingAnimation (animated : Bool) (h : MBProgressHUD) : MBProgressHUD :=
  if animated && h.showStarted.isSome then
    { h with hideDelayTimer := none, showStarted := none, bezelAlpha := false, fadeOuts := h.fadeOuts + 1 }
  else { h with hideDelayTimer := none, showStarted := none, bezelAlpha := false }.done

/-- The rest of the shortest time it is shown for, where there is one and it was shown. -/
def stays (now : Int) (h : MBProgressHUD) : Bool :=
  0 < h.minShowTime && h.showStarted.any fun started => now - started < h.minShowTime

def hideAnimated (animated : Bool) (now : Int) (h : MBProgressHUD) : MBProgressHUD :=
  if h.stays now then
    { h with graceTimer := h.graceTimer.invalidate, useAnimation := animated, finished := true, minShowTimer := h.minShowTimer.set }
  else
    { h with graceTimer := h.graceTimer.invalidate, useAnimation := animated, finished := true }.hideUsingAnimation animated

/-- What was set comes, where it was set. -/
def turn (h : MBProgressHUD) : HudTurn → MBProgressHUD
  | .graceTimer old now =>
    if h.graceTimer.has old then
      if h.finished then { h with graceTimer := h.graceTimer.fire old }
      else { h with graceTimer := h.graceTimer.fire old }.showUsingAnimation now
    else h
  | .minShowTimer old =>
    if h.minShowTimer.has old then
      { h with minShowTimer := h.minShowTimer.fire old }.hideUsingAnimation h.useAnimation
    else h
  | .hideTimer now =>
    match h.hideDelayTimer with
    | none => h
    | some animated => { h with hideDelayTimer := none }.hideAnimated animated now
  | .fadedOut => if h.fadeOuts = 0 then h else { h with fadeOuts := h.fadeOuts - 1 }.done

def step (h : MBProgressHUD) : HudEvent → MBProgressHUD
  | .showAnimated animated now => h.showAnimated animated now
  | .hideAnimated animated now => h.hideAnimated animated now
  | .hideAfterDelay animated => { h with hideDelayTimer := some animated }
  | .turn t => h.turn t

/-! ## What was asked for -/

/-- What the calls have asked for: that it is shown, and that it is hidden after a delay that is not over. -/
structure Asked where
  shown : Bool
  delayed : Bool
  deriving DecidableEq, Repr

/-- A call says what is asked for; a delay that is over asks to hide. -/
def noteAsked (a : Asked) (h : MBProgressHUD) : HudEvent → Asked
  | .showAnimated .. => ⟨true, false⟩
  | .hideAnimated .. => ⟨false, false⟩
  | .hideAfterDelay _ => ⟨a.shown, true⟩
  | .turn (.hideTimer _) => if h.hideDelayTimer.isSome && a.delayed then ⟨false, false⟩ else a
  | .turn _ => a

/-- The indicator beside what was asked for. -/
def trace : MBProgressHUD × Asked → HudEvent → MBProgressHUD × Asked := Runs.noting step noteAsked

/-- A wait to show is on that will show it. -/
def WaitsToShow (h : MBProgressHUD) : Prop := h.graceTimer.Runs ∧ h.finished = false

/-- **It looks as it was asked to**: shown, or waiting to be, and not waiting to hide but for a delay that was asked for; hidden,
once it neither waits to hide nor fades. -/
structure AsAsked (y : MBProgressHUD × Asked) : Prop where
  shown : y.2.shown = true →
    y.1.WaitsToShow ∨ y.1.alpha = true ∧ y.1.bezelAlpha = true ∧ y.1.minShowTimer.current = false
  delayed : y.2.shown = true → y.2.delayed = true → y.1.hideDelayTimer.isSome
  hidden : y.2.shown = false → ¬ y.1.minShowTimer.Runs → y.1.fadeOuts = 0 → y.1.alpha = false

/-- **No timer ends against the last call.**  Of an indicator that is to be shown none of these ends: a wait to show while a delay
is not over, which would be cancelled; a wait to hide that was set over, unless the indicator still waits to show and no delay is
to be cancelled; a delay from before it was shown. -/
def InTime (y : MBProgressHUD × Asked) : HudEvent → Prop
  | .turn (.graceTimer old _) => y.1.graceTimer.has old = true → y.2.shown = true → y.2.delayed = false
  | .turn (.minShowTimer old) =>
    y.1.minShowTimer.has old = true → y.2.shown = true → y.1.graceTimer.Runs ∧ y.2.delayed = false
  | .turn (.hideTimer _) => y.1.hideDelayTimer.isSome → y.2.shown = true → y.2.delayed = true
  | _ => True

/-- The invariant: `finished` says what was asked for, and a wait to hide that is not set over is one of a hidden indicator. -/
structure Inv (y : MBProgressHUD × Asked) : Prop where
  asAsked : AsAsked y
  finished : y.1.finished = !y.2.shown
  waits : y.1.minShowTimer.current = true → y.1.finished = true

section
variable {h : MBProgressHUD} {a : Asked}

theorem done_of_finished (hf : h.finished = true) :
    h.done = { h with alpha := false, superview := h.superview && !h.removeFromSuperViewOnHide } := if_pos hf

theorem done_of_shown (hf : h.finished = false) : h.done = h := if_neg (Bool.eq_false_iff.1 hf)

theorem Inv.of_hidden (ha : a.shown = false) (hf : h.finished = true)
    (hgone : ¬ h.minShowTimer.Runs → h.fadeOuts = 0 → h.alpha = false) : Inv (h, a) where
  asAsked :=
    { shown := fun hs => absurd (ha.symm.trans hs) (by decide)
      delayed := fun hs => absurd (ha.symm.trans hs) (by decide)
      hidden := fun _ => hgone }
  finished := by simpa [ha] using hf
  waits _ := hf

theorem Inv.of_shown (ha : a.shown = true) (hf : h.finished = false) (hwaits : h.minShowTimer.current = false)
    (hlook : h.graceTimer.Runs ∨ h.alpha = true ∧ h.bezelAlpha = true)
    (hdelayed : a.delayed = true → h.hideDelayTimer.isSome) : Inv (h, a) where
  asAsked :=
    { shown := fun _ => hlook.imp (⟨·, hf⟩) fun ⟨halpha, hbezel⟩ => ⟨halpha, hbezel, hwaits⟩
      delayed := fun _ => hdelayed
      hidden := fun hs => absurd (ha.symm.trans hs) (by decide) }
  finished := by simpa [ha] using hf
  waits hcur := absurd (hwaits.symm.trans hcur) (by decide)

/-- What the invariant says of an indicator that is to be shown. -/
theorem Inv.to_be_shown (hinv : Inv (h, a)) (ha : a.shown = true) :
    h.finished = false ∧ h.minShowTimer.current = false ∧ (h.graceTimer.Runs ∨ h.alpha = true ∧ h.bezelAlpha = true) := by
  have hf : h.finished = false := by simpa [ha] using hinv.finished
  refine ⟨hf, ?_, (hinv.asAsked.shown ha).imp And.left fun hlook => ⟨hlook.1, hlook.2.1⟩⟩
  by_contra hcur
  exact absurd (hf.symm.trans (hinv.waits (Bool.eq_true_of_not_eq_false hcur))) (by decide)

theorem inv_done (ha : a.shown = false) (hf : h.finished = true) : Inv (h.done, a) := by
  rw [done_of_finished hf]
  exact .of_hidden ha hf fun _ _ => rfl

/-- A hidden indicator fades out, or is gone at once. -/
theorem inv_hideUsingAnimation (ha : a.shown = false) (hf : h.finished = true) (animated : Bool) :
    Inv (h.hideUsingAnimation animated, a) := by
  unfold hideUsingAnimation
  split
  · exact .of_hidden ha hf fun _ hno => absurd hno (Nat.succ_ne_zero _)
  · exact inv_done ha hf

/-- The bezel goes, and so does a delayed hide; what was to be shown again is not gone. -/
theorem hideUsingAnimation_eq (h : MBProgressHUD) (animated : Bool) :
    (h.hideUsingAnimation animated).finished = h.finished ∧ (h.hideUsingAnimation animated).bezelAlpha = false ∧
      (h.hideUsingAnimation animated).hideDelayTimer = none ∧ (h.hideUsingAnimation animated).graceTimer = h.graceTimer ∧
      (h.hideUsingAnimation animated).minShowTimer = h.minShowTimer := by
  unfold hideUsingAnimation done
  split
  · exact ⟨rfl, rfl, rfl, rfl, rfl⟩
  · split <;> exact ⟨rfl, rfl, rfl, rfl, rfl⟩

theorem inv_showAnimated (h : MBProgressHUD) (animated : Bool) (now : Int) :
    Inv (h.showAnimated animated now, ⟨true, false⟩) := by
  unfold showAnimated
  split
  · exact .of_shown rfl rfl rfl (.inl (.inl rfl)) (by simp)
  · exact .of_shown rfl rfl rfl (.inr ⟨rfl, rfl⟩) (by simp)

theorem inv_hideAnimated (h : MBProgressHUD) (animated : Bool) (now : Int) :
    Inv (h.hideAnimated animated now, ⟨false, false⟩) := by
  unfold hideAnimated
  split
  · exact .of_hidden rfl rfl fun hno => absurd (.inl rfl) hno
  · exact inv_hideUsingAnimation rfl rfl animated

/-- A hide, whoever asked for it, neither shows nor keeps an indicator: it waits to hide or has no bezel. -/
theorem hideAnimated_eq (h : MBProgressHUD) (animated : Bool) (now : Int) :
    (h.hideAnimated animated now).finished = true ∧
      ((h.hideAnimated animated now).minShowTimer.current = true ∨ (h.hideAnimated animated now).bezelAlpha = false) := by
  unfold hideAnimated
  split
  · exact ⟨rfl, .inl rfl⟩
  · obtain ⟨hf, hbezel, -⟩ := hideUsingAnimation_eq { h with
      graceTimer := h.graceTimer.invalidate, useAnimation := animated, finished := true } animated
    exact ⟨hf, .inr hbezel⟩

theorem turn_hideTimer {animated : Bool} {now : Int} (hd : h.hideDelayTimer = some animated) :
    h.turn (.hideTimer now) = { h with hideDelayTimer := none }.hideAnimated animated now := by
  simp only [turn, hd]

/-- The end of a wait to show, of a fade-out or of a wait to hide keeps it, but against the last call. -/
theorem Inv.turn (hinv : Inv (h, a)) (t : HudTurn) (hok : InTime (h, a) (.turn t)) :
    Inv (h.turn t, noteAsked a h (.turn t)) := by
  have hshown : a.shown = true ∨ a.shown = false := by cases a.shown <;> simp
  have hfinished : a.shown = false → h.finished = true := fun ha => by simpa [ha] using hinv.finished
  cases t with
  | graceTimer old now =>
    simp only [MBProgressHUD.turn, noteAsked]
    split
    · rename_i hhas
      rcases hshown with ha | ha
      · obtain ⟨hf, hcurrent, -⟩ := hinv.to_be_shown ha
        rw [if_neg (Bool.eq_false_iff.1 hf)]
        exact .of_shown ha hf hcurrent (.inr ⟨rfl, rfl⟩) fun hd => absurd ((hok hhas ha).symm.trans hd) (by decide)
      · rw [if_pos (hfinished ha)]
        exact .of_hidden ha (hfinished ha) (hinv.asAsked.hidden ha)
    · exact hinv
  | minShowTimer old =>
    simp only [MBProgressHUD.turn, noteAsked]
    split
    · rename_i hhas
      rcases hshown with ha | ha
      · -- it still waits to show, and will get its bezel back
        obtain ⟨hf, hcurrent, -⟩ := hinv.to_be_shown ha
        obtain ⟨hgrace, hd⟩ := hok hhas ha
        obtain ⟨hf', -, -, hgrace', hminShow'⟩ :=
          hideUsingAnimation_eq { h with minShowTimer := h.minShowTimer.fire old } h.useAnimation
        refine .of_shown ha (hf'.trans hf) ?_ (.inl ?_) fun hd' => absurd (hd.symm.trans hd') (by decide)
        · rw [hminShow']
          cases old with
          | false => rfl
          | true => exact hcurrent
        · rw [hgrace']
          exact hgrace
      · exact inv_hideUsingAnimation (h := { h with minShowTimer := h.minShowTimer.fire old }) ha (hfinished ha) h.useAnimation
    · exact hinv
  | hideTimer now =>
    cases hd : h.hideDelayTimer with
    | none => simpa [MBProgressHUD.turn, noteAsked, hd] using hinv
    | some animated =>
      have hsome : h.hideDelayTimer.isSome = true := by rw [hd]; rfl
      rw [turn_hideTimer hd]
      cases hdelayed : a.delayed with
      | true =>
        rw [noteAsked, hsome, hdelayed]
        exact inv_hideAnimated _ animated now
      | false =>
        rw [noteAsked, hsome, hdelayed]
        -- it was asked for before a hide: a delay from before a show does not end
        obtain ha : a.shown = false := by
          rcases hshown with ha | ha
          · exact absurd (hdelayed.symm.trans (hok hsome ha)) (by decide)
          · exact ha
        have hhidden := inv_hideAnimated { h with hideDelayTimer := none } animated now
        exact .of_hidden ha (hideAnimated_eq _ animated now).1 (hhidden.asAsked.hidden rfl)
  | fadedOut =>
    simp only [MBProgressHUD.turn, noteAsked]
    split
    · exact hinv
    · rcases hshown with ha | ha
      · obtain ⟨hf, hcurrent, hlook⟩ := hinv.to_be_shown ha
        rw [done_of_shown]
        · exact .of_shown ha hf hcurrent hlook (hinv.asAsked.delayed ha)
        · exact hf
      · exact inv_done ha (hfinished ha)

theorem Inv.trace {y : MBProgressHUD × Asked} (hinv : Inv y) {e : HudEvent} (hok : InTime y e) :
    Inv (MBProgressHUD.trace y e) := by
  obtain ⟨h, a⟩ := y
  cases e with
  | showAnimated animated now => exact inv_showAnimated h animated now
  | hideAnimated animated now => exact inv_hideAnimated h animated now
  | hideAfterDelay animated =>
    exact ⟨⟨hinv.asAsked.shown, fun _ _ => rfl, hinv.asAsked.hidden⟩, hinv.finished, hinv.waits⟩
  | turn t => exact hinv.turn t hok

/-- A timer that ends against the last call takes the bezel of an indicator that is to be shown, hides it, or cancels the hide
that was asked for. -/
theorem not_asAsked_trace {y : MBProgressHUD × Asked} (hinv : Inv y) {e : HudEvent} (hbad : ¬ InTime y e) :
    ¬ AsAsked (MBProgressHUD.trace y e) := by
  obtain ⟨h, a⟩ := y
  intro hasked
  cases e with
  | turn t =>
    cases t with
    | graceTimer old now =>
      simp only [InTime, Classical.not_imp, Bool.not_eq_false] at hbad
      obtain ⟨hhas, ha, hd⟩ := hbad
      obtain ⟨hf, -⟩ := hinv.to_be_shown ha
      have hnone : (h.turn (.graceTimer old now)).hideDelayTimer = none := by
        simp [MBProgressHUD.turn, hhas, hf, showUsingAnimation]
      have hsome : (h.turn (.graceTimer old now)).hideDelayTimer.isSome := hasked.delayed ha hd
      rw [hnone] at hsome
      cases hsome
    | minShowTimer old =>
      simp only [InTime, Classical.not_imp] at hbad
      obtain ⟨hhas, ha, hnot⟩ := hbad
      obtain ⟨-, hbezel, hnone, hgrace, -⟩ :=
        hideUsingAnimation_eq { h with minShowTimer := h.minShowTimer.fire old } h.useAnimation
      have hturn : h.turn (.minShowTimer old) =
          { h with minShowTimer := h.minShowTimer.fire old }.hideUsingAnimation h.useAnimation := if_pos hhas
      have hlook := hasked.shown ha
      have hdelayed := hasked.delayed ha
      simp only [MBProgressHUD.trace, Runs.noting, step, hturn, noteAsked, WaitsToShow, hgrace, hbezel, hnone] at hlook hdelayed
      refine hnot ⟨hlook.elim And.left fun hlook => absurd hlook.2.1 (by decide), Bool.eq_false_iff.2 fun hd => ?_⟩
      cases hdelayed hd
    | hideTimer now =>
      simp only [InTime, Classical.not_imp, Bool.not_eq_true] at hbad
      obtain ⟨hsome, ha, hd⟩ := hbad
      obtain ⟨animated, hanimated⟩ := Option.isSome_iff_exists.1 hsome
      obtain ⟨hf, hwaits⟩ := hideAnimated_eq { h with hideDelayTimer := none } animated now
      have hnote : noteAsked a h (.turn (.hideTimer now)) = a := by simp [noteAsked, hd]
      have hlook := hasked.shown (by rw [MBProgressHUD.trace, Runs.noting, hnote]; exact ha)
      simp only [MBProgressHUD.trace, Runs.noting, step, turn_hideTimer hanimated, WaitsToShow, hf] at hlook
      rcases hlook with ⟨-, hlook⟩ | ⟨-, hbezel, hcurrent⟩
      · cases hlook
      · rcases hwaits with hwaits | hwaits
        · exact absurd (hwaits.symm.trans hcurrent) (by decide)
        · exact absurd (hwaits.symm.trans hbezel) (by decide)
    | fadedOut => exact hbad trivial
  | _ => exact hbad trivial

end

/-- **An indicator looks as the last call asked**: from the first time it is shown on, in all states a run passes, exactly in
the runs in which no timer ends against the last call. -/
theorem asAsked_iff (h : MBProgressHUD) (animated : Bool) (now : Int) (es : List HudEvent) :
    Runs.AllStates trace AsAsked (h.showAnimated animated now, ⟨true, false⟩) es ↔
      Runs.AllSteps trace InTime (h.showAnimated animated now, ⟨true, false⟩) es :=
  Runs.allStates_iff_allSteps Inv (fun _ _ hinv _ hok => hinv.trace hok) (fun _ hinv => hinv.asAsked)
    (fun _ _ hinv _ hbad => not_asAsked_trace hinv hbad) (inv_showAnimated h animated now) (Runs.allSteps_trivial trace _ es)

/-- Hidden twice and shown again while the first wait to hide is on: the indicator that is to be shown has no bezel. -/
example : ((Runs.run step ({ minShowTime := 500 } : MBProgressHUD) [.showAnimated true 0, .hideAnimated true 100,
    .hideAnimated true 200, .showAnimated true 300, .turn (.minShowTimer true)]).bezelAlpha) = false := by decide

/-- To be hidden after a delay and shown again: the delay ends while it waits to show, and nothing shows it any more. -/
example : (Runs.run step ({ graceTime := 500 } : MBProgressHUD) [.showAnimated true 0, .turn (.graceTimer false 500),
    .hideAfterDelay true, .showAnimated true 600, .turn (.hideTimer 700), .turn (.graceTimer false 1100), .turn .fadedOut]).alpha =
      false := by decide

/-- To be hidden after a delay while it waits to show: the end of the wait cancels the hide. -/
example : (Runs.run step ({ graceTime := 500 } : MBProgressHUD) [.showAnimated true 0, .hideAfterDelay true,
    .turn (.graceTimer false 500), .turn (.hideTimer 1000)]).finished = false := by decide

/-! ## The indicators of the screens -/

/-- `showHUDAddedTo`, animated. -/
def showHUDAddedTo (now : Int) : MBProgressHUD :=
  ({ removeFromSuperViewOnHide := true, superview := true } : MBProgressHUD).showAnimated true now

/-- An indicator of a screen waits for nothing. -/
structure Waitless (h : MBProgressHUD) : Prop where
  graceTime : h.graceTime ≤ 0
  minShowTime : h.minShowTime ≤ 0
  removes : h.removeFromSuperViewOnHide = true
  graceTimer : h.graceTimer = {}
  minShowTimer : h.minShowTimer = {}
  hideDelayTimer : h.hideDelayTimer = none

/-- And it is on the view until it was hidden and has faded out. -/
structure Plain (h : MBProgressHUD) : Prop extends h.Waitless where
  shown : h.finished = false → h.superview = true
  hidden : h.finished = true → h.fadeOuts = 0 → h.superview = false

section
variable {h : MBProgressHUD}

theorem Plain.of_finished (hw : h.Waitless) (hf : h.finished = true) (hgone : h.fadeOuts = 0 → h.superview = false) :
    h.Plain where
  toWaitless := hw
  shown hshown := absurd (hf.symm.trans hshown) (by decide)
  hidden _ := hgone

theorem plain_showHUDAddedTo (now : Int) : (showHUDAddedTo now).Plain where
  toWaitless := ⟨Int.le_refl 0, Int.le_refl 0, rfl, rfl, rfl, rfl⟩
  shown _ := rfl
  hidden hfin := Bool.noConfusion hfin

theorem plain_done (hw : h.Waitless) (hf : h.finished = true) : h.done.Plain ∧ h.done.finished = true := by
  rw [done_of_finished hf]
  exact ⟨.of_finished ⟨hw.graceTime, hw.minShowTime, hw.removes, hw.graceTimer, hw.minShowTimer, hw.hideDelayTimer⟩ hf
    fun _ => by simp [hw.removes], hf⟩

theorem Plain.hideAnimated (hp : h.Plain) (now : Int) :
    (h.hideAnimated true now).Plain ∧ (h.hideAnimated true now).finished = true := by
  have hstays : ¬ h.stays now = true := by simp [stays, Int.not_lt.2 hp.minShowTime]
  have hgrace : h.graceTimer.invalidate = {} := by rw [hp.graceTimer]; rfl
  rw [MBProgressHUD.hideAnimated, if_neg hstays, hideUsingAnimation]
  split
  · exact ⟨.of_finished ⟨hp.graceTime, hp.minShowTime, hp.removes, hgrace, hp.minShowTimer, rfl⟩ rfl
      fun hno => absurd hno (Nat.succ_ne_zero _), rfl⟩
  · exact plain_done ⟨hp.graceTime, hp.minShowTime, hp.removes, hgrace, hp.minShowTimer, rfl⟩ rfl

/-- What comes to it from the run loop is the end of a fade-out, and it stays hidden or shown. -/
theorem Plain.turn (hp : h.Plain) (t : HudTurn) : (h.turn t).Plain ∧ (h.turn t).finished = h.finished := by
  have hnone : ∀ {timer : HudTimer} (old : Bool), timer = {} → ¬ timer.has old = true := by
    rintro _ old rfl
    cases old <;> decide
  cases t with
  | graceTimer old now =>
    rw [MBProgressHUD.turn, if_neg (hnone old hp.graceTimer)]
    exact ⟨hp, rfl⟩
  | minShowTimer old =>
    rw [MBProgressHUD.turn, if_neg (hnone old hp.minShowTimer)]
    exact ⟨hp, rfl⟩
  | hideTimer now =>
    simp only [MBProgressHUD.turn, hp.hideDelayTimer]
    exact ⟨hp, by trivial⟩
  | fadedOut =>
    simp only [MBProgressHUD.turn]
    split
    · exact ⟨hp, rfl⟩
    · have hfinished : h.finished = true ∨ h.finished = false := by cases h.finished <;> simp
      have hw : Waitless { h with fadeOuts := h.fadeOuts - 1 } :=
        ⟨hp.graceTime, hp.minShowTime, hp.removes, hp.graceTimer, hp.minShowTimer, hp.hideDelayTimer⟩
      rcases hfinished with hf | hf
      · obtain ⟨hplain, hfin⟩ := plain_done hw hf
        exact ⟨hplain, hfin.trans hf.symm⟩
      · rw [done_of_shown]
        · exact ⟨⟨hw, hp.shown, fun hfin => absurd (hf.symm.trans hfin) (by decide)⟩, rfl⟩
        · exact hf

end

end MBProgressHUD

/-- `BaseVC`: the indicator it remembers, and all it has added, in the order they were. -/
structure HudScreen where
  hud : Option Nat := none
  huds : List MBProgressHUD := []

namespace HudScreen

def showLoadingView (now : Int) (s : HudScreen) : HudScreen :=
  { hud := some s.huds.length, huds := s.huds ++ [MBProgressHUD.showHUDAddedTo now] }

def hideLoadingView (now : Int) (s : HudScreen) : HudScreen :=
  match s.hud with
  | some hud => { s with huds := s.huds.modify hud (·.hideAnimated true now) }
  | none => s

def viewDidDisappear (now : Int) (s : HudScreen) : HudScreen := s.hideLoadingView now

def turn (i : Nat) (t : HudTurn) (s : HudScreen) : HudScreen := { s with huds := s.huds.modify i (·.turn t) }

/-- The indicator is there and was not hidden. -/
def shows (s : HudScreen) (i : Nat) : Bool := (s.huds[i]?).any fun h => !h.finished

/-- The screen without the fading: an indicator is on the view until it is hidden. -/
def base (s : HudScreen) : BaseVC where
  hud := s.hud
  view := (List.range s.huds.length).filter s.shows
  added := s.huds.length

def Plain (s : HudScreen) : Prop := ∀ h ∈ s.huds, h.Plain

section
variable {s : HudScreen}

theorem base_showLoadingView (s : HudScreen) (now : Int) : (s.showLoadingView now).base = s.base.showLoadingView := by
  have hold : ∀ i ∈ List.range s.huds.length, (s.showLoadingView now).shows i = s.shows i := fun i hi => by
    simp only [shows, showLoadingView, List.getElem?_append_left (List.mem_range.1 hi)]
  have hnew : (s.showLoadingView now).shows s.huds.length = true := by
    have hlast : (s.showLoadingView now).huds[s.huds.length]? = some (MBProgressHUD.showHUDAddedTo now) :=
      List.getElem?_concat_length
    rw [shows, hlast]
    rfl
  have hview : (List.range (s.huds.length + 1)).filter (s.showLoadingView now).shows =
      (List.range s.huds.length).filter s.shows ++ [s.huds.length] := by
    rw [List.range_succ, List.filter_append, List.filter_congr hold, List.filter_cons_of_pos hnew, List.filter_nil]
  have hlength : (s.showLoadingView now).huds.length = s.huds.length + 1 := List.length_append
  rw [base, hlength, hview]
  rfl

theorem plain_showLoadingView (hp : s.Plain) (now : Int) : (s.showLoadingView now).Plain := by
  intro h hmem
  rcases List.mem_append.1 hmem with hmem | hmem
  · exact hp h hmem
  · rw [List.mem_singleton.1 hmem]
    exact MBProgressHUD.plain_showHUDAddedTo now

/-- A change of one indicator. -/
theorem plain_modify (hp : s.Plain) {f : MBProgressHUD → MBProgressHUD} (hf : ∀ h, h.Plain → (f h).Plain) (i : Nat) :
    Plain { s with huds := s.huds.modify i f } := by
  intro h hmem
  obtain ⟨j, hj⟩ := List.mem_iff_getElem?.1 hmem
  rw [List.getElem?_modify] at hj
  obtain ⟨h', hh', rfl⟩ := Option.map_eq_some_iff.1 hj
  have hplain := hp h' (List.mem_of_getElem? hh')
  split
  · exact hf h' hplain
  · exact hplain

theorem base_hideLoadingView (hp : s.Plain) (now : Int) : (s.hideLoadingView now).base = s.base.hideLoadingView := by
  obtain ⟨hud, huds⟩ := s
  cases hud with
  | none => rfl
  | some hud =>
    have hshows : ∀ i ∈ List.range huds.length,
        shows { hud := some hud, huds := huds.modify hud (·.hideAnimated true now) } i =
          (decide (i ≠ hud) && shows { hud := some hud, huds := huds } i) := by
      intro i _
      simp only [shows, List.getElem?_modify]
      cases hi : huds[i]? with
      | none => simp
      | some h =>
        have hfin := ((hp h (List.mem_of_getElem? hi)).hideAnimated now).2
        by_cases hih : hud = i
        · simp [hih, hfin]
        · simp [hih, Ne.symm hih]
    simp only [hideLoadingView, base, BaseVC.hideLoadingView, List.length_modify]
    rw [List.filter_congr hshows, List.filter_filter]

theorem plain_hideLoadingView (hp : s.Plain) (now : Int) : (s.hideLoadingView now).Plain := by
  unfold hideLoadingView
  split
  · exact plain_modify hp (fun h hplain => (hplain.hideAnimated now).1) _
  · exact hp

theorem base_turn (hp : s.Plain) (i : Nat) (t : HudTurn) : (s.turn i t).base = s.base := by
  have hshows : ∀ j ∈ List.range s.huds.length, (s.turn i t).shows j = s.shows j := by
    intro j _
    simp only [shows, turn, List.getElem?_modify]
    cases hj : s.huds[j]? with
    | none => rfl
    | some h =>
      have hfin := ((hp h (List.mem_of_getElem? hj)).turn t).2
      by_cases hij : i = j <;> simp [hij, hfin]
  simp only [base, turn, List.length_modify]
  rw [← List.filter_congr hshows]
  rfl

theorem base_view_eq_nil_iff : s.base.view = [] ↔ ∀ h ∈ s.huds, h.finished = true := by
  simp only [base, List.filter_eq_nil_iff, List.mem_range]
  constructor
  · intro hnone h hmem
    obtain ⟨i, hi, rfl⟩ := List.mem_iff_getElem.1 hmem
    simpa [shows, hi] using hnone i hi
  · intro hall i hi
    simp [shows, hi, hall _ (List.getElem_mem hi)]

/-- **When nothing fades**, the indicators on the view are those that were not hidden. -/
theorem gone_iff (hp : s.Plain) (hrest : ∀ h ∈ s.huds, h.fadeOuts = 0) :
    (∀ h ∈ s.huds, h.superview = false) ↔ s.base.view = [] := by
  rw [base_view_eq_nil_iff]
  refine forall₂_congr fun h hmem => ⟨fun hgone => ?_, fun hfin => (hp h hmem).hidden hfin (hrest h hmem)⟩
  by_contra hshown
  have hthere := (hp h hmem).shown (Bool.eq_false_of_not_eq_true hshown)
  exact absurd (hgone.symm.trans hthere) (by decide)

end

end HudScreen

/-! ## The screens that load -/

/-- What happens to a screen, that it disappears, and what comes to one of its indicators. -/
inductive HudViewEvent (ε : Type*) where
  | happens (e : ε) (now : Int)
  | viewDidDisappear (now : Int)
  | turn (i : Nat) (t : HudTurn)

/-- The event of the screen, if it is one. -/
def HudViewEvent.view? {ε : Type*} : HudViewEvent ε → Option (ViewEvent ε)
  | .happens e _ => some (.happens e)
  | .viewDidDisappear _ => some .viewDidDisappear
  | .turn _ _ => none

def indicateHuds {α : Type*} (now : Int) (s : Loading.State α) (x : HudScreen) : Loading.Event α → HudScreen
  | .load | .write => x.showLoadingView now
  | .answer i _ => if i < s.requests.length then x.hideLoadingView now else x

section
variable {α σ ε : Type*} (f : σ → ε → σ) (loading : σ → Loading.State α) (event : σ → ε → Option (Loading.Event α))

/-- The screen beside its indicators as they are. -/
def stepHuds (y : σ × HudScreen) : HudViewEvent ε → σ × HudScreen
  | .happens e now => (f y.1 e, (event y.1 e).elim y.2 (indicateHuds now (loading y.1) y.2))
  | .viewDidDisappear now => (y.1, y.2.viewDidDisappear now)
  | .turn i t => (y.1, y.2.turn i t)

/-- **No request starts while an indicator is on that was not hidden.** -/
def StartsHidden (y : σ × HudScreen) : HudViewEvent ε → Prop
  | .happens e _ => event y.1 e = some .load ∨ event y.1 e = some .write → ∀ h ∈ y.2.huds, h.finished = true
  | _ => True

end

section
variable {α σ ε : Type*} {f : σ → ε → σ} {loading : σ → Loading.State α} {event : σ → ε → Option (Loading.Event α)}
variable {y : σ × HudScreen}

theorem indicateHuds_base (hp : y.2.Plain) (now : Int) (s : Loading.State α) (e : Loading.Event α) :
    (indicateHuds now s y.2 e).base = indicate s y.2.base e ∧ (indicateHuds now s y.2 e).Plain := by
  cases e with
  | load | write => exact ⟨y.2.base_showLoadingView now, HudScreen.plain_showLoadingView hp now⟩
  | answer i reply =>
    simp only [indicateHuds, indicate]
    split
    · exact ⟨HudScreen.base_hideLoadingView hp now, HudScreen.plain_hideLoadingView hp now⟩
    · exact ⟨rfl, hp⟩

/-- **A step of the screen is one of the screen without the fading**, and what comes to an indicator is none. -/
theorem stepHuds_base (hp : y.2.Plain) (e : HudViewEvent ε) :
    ((stepHuds f loading event y e).1, (stepHuds f loading event y e).2.base) =
        e.view?.elim (y.1, y.2.base) (stepView f loading event (y.1, y.2.base)) ∧
      (stepHuds f loading event y e).2.Plain := by
  cases e with
  | happens e now =>
    simp only [stepHuds, HudViewEvent.view?, Option.elim_some, stepView]
    cases event y.1 e with
    | none => exact ⟨rfl, hp⟩
    | some e' =>
      obtain ⟨hbase, hplain⟩ := indicateHuds_base hp now (loading y.1) e'
      exact ⟨congrArg (f y.1 e, ·) hbase, hplain⟩
  | viewDidDisappear now =>
    exact ⟨congrArg (y.1, ·) (HudScreen.base_hideLoadingView hp now), HudScreen.plain_hideLoadingView hp now⟩
  | turn i t =>
    exact ⟨congrArg (y.1, ·) (HudScreen.base_turn hp i t), HudScreen.plain_modify hp (fun h hplain => (hplain.turn t).1) i⟩

/-- The run of the screen without the fading: it passes the same states but for the indicators, under the same condition. -/
theorem run_stepHuds (es : List (HudViewEvent ε)) : ∀ {y : σ × HudScreen}, y.2.Plain →
    (Runs.run (stepHuds f loading event) y es).2.Plain ∧
      ((Runs.run (stepHuds f loading event) y es).1, (Runs.run (stepHuds f loading event) y es).2.base) =
        Runs.run (stepView f loading event) (y.1, y.2.base) (es.filterMap HudViewEvent.view?) ∧
      (Runs.AllSteps (stepHuds f loading event) (StartsHidden event) y es ↔
        Runs.AllSteps (stepView f loading event) (StartsClear event) (y.1, y.2.base) (es.filterMap HudViewEvent.view?)) := by
  induction es with
  | nil => exact fun hp => ⟨hp, rfl, Iff.rfl⟩
  | cons e es ih =>
    intro y hp
    obtain ⟨hbase, hplain⟩ := @stepHuds_base α σ ε f loading event y hp e
    obtain ⟨hrun, hsame, hiff⟩ := ih hplain
    rw [hbase] at hsame hiff
    cases e with
    | happens e now =>
      refine ⟨hrun, hsame, and_congr ?_ hiff⟩
      exact imp_congr_right fun _ => HudScreen.base_view_eq_nil_iff.symm
    | viewDidDisappear now => exact ⟨hrun, hsame, and_congr Iff.rfl hiff⟩
    | turn i t => exact ⟨hrun, hsame, (and_iff_right trivial).trans hiff⟩

end

/-- Of a screen that loads, its indicators as they are: once all is answered and nothing fades there is none on the view,
exactly if no request started while one was on that was not hidden. -/
def GoneIffHidden {α σ ε : Type*} (f : σ → ε → σ) (loading : σ → Loading.State α) (event : σ → ε → Option (Loading.Event α))
    (s : σ) : Prop :=
  ∀ es : List (HudViewEvent ε), (loading (Runs.run (stepHuds f loading event) (s, {}) es).1).requests = [] →
    (∀ h ∈ (Runs.run (stepHuds f loading event) (s, {}) es).2.huds, h.fadeOuts = 0) →
      ((∀ h ∈ (Runs.run (stepHuds f loading event) (s, {}) es).2.huds, h.superview = false) ↔
        Runs.AllSteps (stepHuds f loading event) (StartsHidden event) (s, {}) es)

theorem goneIffHidden {α σ ε : Type*} {f : σ → ε → σ} {loading : σ → Loading.State α}
    {event : σ → ε → Option (Loading.Event α)} (hsim : Loading.Simulates f loading event) (s : σ) :
    GoneIffHidden f loading event s := by
  intro es hdone hrest
  have hinit : ((s, {}) : σ × HudScreen).2.Plain := fun h hmem => absurd hmem List.not_mem_nil
  obtain ⟨hplain, hsame, hiff⟩ := @run_stepHuds α σ ε f loading event es (s, {}) hinit
  rw [HudScreen.gone_iff hplain hrest, hiff]
  have hstate := congrArg Prod.fst hsame
  have hview := congrArg (fun z : σ × BaseVC => z.2.view) hsame
  exact hview ▸ view_empty_iff hsim (es.filterMap HudViewEvent.view?) (hstate ▸ hdone)

/-- **The four screens take all their indicators away**, through `MBProgressHUD` and its fade-outs, exactly in the runs in which
no request starts while one is on that was not hidden. -/
theorem huds_gone_iff {α : Type*} (rateUser : Option Int) :
    GoneIffHidden SearchVC.step SearchVC.loading SearchVC.event ({} : SearchVC α) ∧
      (∀ tableView, GoneIffHidden MyTripVC.step (MyTripVC.loading tableView) (MyTripVC.event tableView) ({} : MyTripVC α)) ∧
      GoneIffHidden RateUserVC.step RateUserVC.loading RateUserVC.event ({ rateUser := rateUser } : RateUserVC α) ∧
      GoneIffHidden RatingVC.step RatingVC.loading RatingVC.event ({} : RatingVC α) :=
  ⟨goneIffHidden SearchVC.simulates {}, fun tableView => goneIffHidden (MyTripVC.simulates tableView) {},
    goneIffHidden RateUserVC.simulates _, goneIffHidden RatingVC.simulates {}⟩

end Traveller
