import Traveller.ForgotPin
import Traveller.PinField
/-!
# PinScreen — the screen for a forgotten password with the PIN field in it

`ForgotPin` takes a code that is entered for one event, and says itself when it is accepted.  Here the screen has its field: a code
is what the field reports after a look, and it is accepted if the success animation then starts.  `forgot` forgets the field, and
every step is a step of `ForgotVC` or none (`forgot_step`), so every run is one of `ForgotVC`, over the codes the field has
accepted; a reset of such a run is for the address of its PIN wherever it is one there (`refines_forgotVC`).
-/
namespace Traveller

/-- `ForgotVC` with its `otpCodeView`; `entry` has the PIN too. -/
structure PinScreen where
  entry : PinEntry Char := {}
  email : String := ""
  uivDlg : Bool := false
  forgots : List String := []
  resets : List ResetPassword := []

/-- What reaches the screen or its field. -/
inductive PinScreenEvent where
  | edit (text : List Char) (pasteboard : Option (List Char))
  | editingEvent (pasteboard : Option (List Char))
  | failureEnds (pasteboard : Option (List Char))
  | successEnds
  | gotoSend (text : String)
  | forgotReply (i : Nat) (answer : Option String) (pasteboard : Option (List Char))
  | sendNewPwd (newPwd confirmPwd : String)
  | resetReply (i : Nat) (isSuccess : Bool)
  | cancelPwd

namespace PinEntry
section
variable {α : Type*} {numberOfCharacters : Nat} {validCharacters : α → Bool} {isRightToLeft : Bool}

theorem didChangeTo_success {f : KAPinField α} {isValid : Bool} (h : (f.didChangeTo isValid).animation = some .success) :
    f.animation = some .success := by
  unfold KAPinField.didChangeTo KAPinField.animateFailure at h
  split at h
  · exact h
  · split at h
    · exact h
    · cases h

variable [DecidableEq α]

theorem length_sanitizeText_le (f : KAPinField α) :
    (f.sanitizeText numberOfCharacters validCharacters).text.length ≤ f.text.length := by
  have hfilter := List.length_filter_le validCharacters f.text
  simp only [KAPinField.sanitizeText]
  split
  · exact hfilter
  · exact Nat.le_trans (List.length_take_le' _ _) hfilter

theorem sanitizeText_success {f : KAPinField α}
    (h : (f.sanitizeText numberOfCharacters validCharacters).animation = some .success) : f.animation = some .success := by
  simp only [KAPinField.sanitizeText] at h
  split at h
  · split at h
    · exact didChangeTo_success h
    · exact h
  · exact h

variable {y : PinEntry α}

@[simp] theorem reloadAppearance_pincode (pasteboard : Option (List α)) :
    (y.reloadAppearance numberOfCharacters validCharacters isRightToLeft pasteboard).pincode = y.pincode := by
  simp only [reloadAppearance, checkCodeValidity, didFinishWith]
  repeat' split
  all_goals rfl

/-- **A look starts the success animation only for the PIN**, and an entry as long. -/
theorem reloadAppearance_success {pasteboard : Option (List α)}
    (h : (y.reloadAppearance numberOfCharacters validCharacters isRightToLeft pasteboard).field.animation = some .success) :
    y.field.animation = some .success ∨
      y.field.animation = none ∧ y.pincode.length = numberOfCharacters ∧ numberOfCharacters ≤ y.field.text.length := by
  rw [reloadAppearance] at h
  split at h
  · exact .inl h
  rename_i hrest
  have hnone : y.field.animation = none := by simpa using hrest
  refine .inr ⟨hnone, ?_⟩
  simp only at h
  generalize hpasted : (if pasteboard = some y.field.text ∧ isRightToLeft = true then
    ({ y.field with text := y.field.text.reverse } : KAPinField α) else y.field) = pasted at h
  have hlength : pasted.text.length = y.field.text.length := by
    rw [← hpasted]
    split <;> simp
  have hanimation : pasted.animation = none := by
    rw [← hpasted]
    split <;> exact hnone
  have hclean : (pasted.sanitizeText numberOfCharacters validCharacters).animation ≠ some .success := fun hs => by
    rw [sanitizeText_success hs] at hanimation
    cases hanimation
  have hshorter := @length_sanitizeText_le α numberOfCharacters validCharacters _ pasted
  generalize pasted.sanitizeText numberOfCharacters validCharacters = f at h hclean hshorter
  split at h
  · exact absurd h hclean
  · rename_i hlook
    rw [checkCodeValidity] at h
    split at h
    · exact absurd h hclean
    split at h
    · rename_i hfull
      simp only [didFinishWith] at h
      split at h
      · rename_i hpin
        -- only here the delegate starts it
        have hcode : y.pincode.length = f.text.length := by
          rw [show y.pincode = code isRightToLeft f.text from hpin, code]
          split <;> simp
        exact ⟨hcode.trans hfull, hfull ▸ hlength ▸ hshorter⟩
      · unfold KAPinField.animateFailure at h
        split at h
        · exact absurd h hclean
        · cases h
    · exact absurd h hclean

/-- What a look at the entry does to the success animation and to the PIN. -/
structure Looked (n : Nat) (y y' : PinEntry α) : Prop where
  pincode : y'.pincode = y.pincode
  stays : y.field.animation = some .success → y'.field.animation = some .success
  starts : y'.field.animation = some .success → y.field.animation = some .success ∨ y.pincode.length = n

theorem looked_reloadAppearance (pasteboard : Option (List α)) :
    Looked numberOfCharacters y (y.reloadAppearance numberOfCharacters validCharacters isRightToLeft pasteboard) where
  pincode := reloadAppearance_pincode pasteboard
  stays h := by simp [reloadAppearance, h]
  starts h := (reloadAppearance_success h).imp_right fun h => h.2.1

theorem looked_edit (text : List α) (pasteboard : Option (List α)) :
    Looked numberOfCharacters y (y.step numberOfCharacters validCharacters isRightToLeft (.edit text pasteboard)) :=
  have h := looked_reloadAppearance (y := y.setText text) pasteboard
  ⟨h.pincode, h.stays, h.starts⟩

theorem looked_failureEnds (pasteboard : Option (List α)) :
    Looked numberOfCharacters y (y.step numberOfCharacters validCharacters isRightToLeft (.failureEnds pasteboard)) := by
  rw [step]
  split
  · rename_i hfailure
    have h := @looked_reloadAppearance α numberOfCharacters validCharacters isRightToLeft _ y.endAnimation pasteboard
    refine ⟨h.pincode, fun hs => ?_, fun hs => (h.starts hs).imp_left fun h => by cases h⟩
    rw [hs] at hfailure
    cases hfailure
  · exact ⟨rfl, id, .inl⟩

/-- An emptied field is no entry, so the animation is the one before. -/
theorem step_forgotReply_success (hn : 0 < numberOfCharacters) (pincode : List α) (pasteboard : Option (List α)) :
    (y.step numberOfCharacters validCharacters isRightToLeft (.forgotReply pincode pasteboard)).field.animation = some .success ↔
      y.field.animation = some .success := by
  constructor
  · intro h
    rcases reloadAppearance_success h with h | ⟨-, -, hlength⟩
    · exact h
    · exact absurd hlength (by simpa [setText] using Nat.ne_of_gt hn)
  · exact (looked_reloadAppearance (y := { y with pincode := pincode }.setText []) pasteboard).stays

end
end PinEntry

namespace PinScreen
variable (validCharacters : Char → Bool) (isRightToLeft : Bool)

/-- The screen without its field: the success animation runs or not. -/
def forgot (x : PinScreen) : ForgotVC where
  email := x.email
  pincode := String.ofList x.entry.pincode
  uivDlg := x.uivDlg
  isAnimating := x.entry.field.animation = some .success
  forgots := x.forgots
  resets := x.resets

/-- What the handlers of `ForgotVC` leave, beside the field. -/
def take (x : PinScreen) (s : ForgotVC) : PinScreen :=
  { x with email := s.email, uivDlg := s.uivDlg, forgots := s.forgots, resets := s.resets }

/-- The field has six characters. -/
def look (x : PinScreen) (e : PinEvent Char) : PinScreen :=
  { x with entry := x.entry.step 6 validCharacters isRightToLeft e }

def step (x : PinScreen) : PinScreenEvent → PinScreen
  | .edit text pasteboard => x.look validCharacters isRightToLeft (.edit text pasteboard)
  | .editingEvent pasteboard => x.look validCharacters isRightToLeft (.editingEvent pasteboard)
  | .failureEnds pasteboard => x.look validCharacters isRightToLeft (.failureEnds pasteboard)
  | .successEnds => (x.take (x.forgot.step .animationEnds)).look validCharacters isRightToLeft .successEnds
  | .forgotReply i answer pasteboard =>
    let replied := x.take (x.forgot.step (.forgotReply i answer))
    match answer with
    | none => replied
    | some pincode =>
      if i < x.forgots.length then
        replied.look validCharacters isRightToLeft (.forgotReply pincode.toList pasteboard)
      else replied
  | .gotoSend text => x.take (x.forgot.step (.gotoSend text))
  | .sendNewPwd newPwd confirmPwd => x.take (x.forgot.step (.sendNewPwd newPwd confirmPwd))
  | .resetReply i isSuccess => x.take (x.forgot.step (.resetReply i isSuccess))
  | .cancelPwd => x.take (x.forgot.step .cancelPwd)

/-- A look tells `ForgotVC` of the code that starts the success animation. -/
def told (x x' : PinScreen) : List ForgotEvent :=
  if !x.forgot.isAnimating && x'.forgot.isAnimating then [.didFinishWith x.forgot.pincode] else []

/-- The step as `ForgotVC` has it. -/
def forgotEvents (x : PinScreen) (e : PinScreenEvent) : List ForgotEvent :=
  match e with
  | .edit .. | .editingEvent _ | .failureEnds _ => x.told (x.step validCharacters isRightToLeft e)
  | .successEnds => [.animationEnds]
  | .gotoSend text => [.gotoSend text]
  | .forgotReply i answer _ => [.forgotReply i answer]
  | .sendNewPwd newPwd confirmPwd => [.sendNewPwd newPwd confirmPwd]
  | .resetReply i isSuccess => [.resetReply i isSuccess]
  | .cancelPwd => [.cancelPwd]

/-- The run as `ForgotVC` has it. -/
def forgotRun : PinScreen → List PinScreenEvent → List ForgotEvent
  | _, [] => []
  | x, e :: es =>
    x.forgotEvents validCharacters isRightToLeft e ++ forgotRun (x.step validCharacters isRightToLeft e) es

variable {validCharacters : Char → Bool} {isRightToLeft : Bool} {x : PinScreen}

theorem forgot_take {s : ForgotVC} (hpincode : s.pincode = x.forgot.pincode) (hanimating : s.isAnimating = x.forgot.isAnimating) :
    (x.take s).forgot = s := by
  obtain ⟨email, pincode, uivDlg, isAnimating, forgots, resets⟩ := s
  subst hpincode hanimating
  rfl

/-- **A look is the report of the PIN, or nothing.** -/
theorem forgot_of_looked {entry : PinEntry Char} (h : PinEntry.Looked 6 x.entry entry) :
    ({ x with entry := entry } : PinScreen).forgot = Runs.run ForgotVC.step x.forgot (x.told { x with entry := entry }) := by
  have hpincode : String.ofList entry.pincode = String.ofList x.entry.pincode := congrArg _ h.pincode
  by_cases hbefore : x.entry.field.animation = some .success
  · have hafter := h.stays hbefore
    simp [told, forgot, hbefore, hafter, hpincode]
  · by_cases hafter : entry.field.animation = some .success
    · have hlength := (h.starts hafter).resolve_left hbefore
      simp [told, forgot, hbefore, hafter, hpincode, ForgotVC.step, ForgotVC.accepts, hlength]
    · simp [told, forgot, hbefore, hafter, hpincode]

/-- **A step of the screen is a step of `ForgotVC`, or none.** -/
theorem forgot_step (x : PinScreen) (e : PinScreenEvent) :
    (x.step validCharacters isRightToLeft e).forgot =
      Runs.run ForgotVC.step x.forgot (x.forgotEvents validCharacters isRightToLeft e) := by
  cases e with
  | edit text pasteboard => exact forgot_of_looked (PinEntry.looked_edit text pasteboard)
  | editingEvent pasteboard => exact forgot_of_looked (PinEntry.looked_reloadAppearance pasteboard)
  | failureEnds pasteboard => exact forgot_of_looked (PinEntry.looked_failureEnds pasteboard)
  | successEnds =>
    by_cases hsuccess : x.entry.field.animation = some .success
    · simp [step, forgotEvents, look, take, forgot, PinEntry.step, PinEntry.endAnimation, ForgotVC.step, hsuccess]
    · simp [step, forgotEvents, look, take, forgot, PinEntry.step, ForgotVC.step, hsuccess]
  | gotoSend text =>
    refine forgot_take ?_ ?_ <;> simp only [ForgotVC.step, ForgotVC.gotoSend] <;> split <;> rfl
  | forgotReply i answer pasteboard =>
    cases answer with
    | none => refine forgot_take ?_ ?_ <;> simp only [ForgotVC.step, ForgotVC.forgotReply] <;> split <;> rfl
    | some pincode =>
      simp only [step]
      split
      · rename_i hi
        -- the field is emptied, and looks at that
        have hsuccess := @PinEntry.step_forgotReply_success Char 6 validCharacters isRightToLeft _ x.entry (by decide)
          pincode.toList pasteboard
        have hpincode : (x.entry.step 6 validCharacters isRightToLeft (.forgotReply pincode.toList pasteboard)).pincode =
            pincode.toList := PinEntry.reloadAppearance_pincode pasteboard
        simp [forgotEvents, look, take, forgot, ForgotVC.step, ForgotVC.forgotReply, hi, hsuccess, hpincode]
      · rename_i hi
        have hs : x.forgot.step (.forgotReply i (some pincode)) = x.forgot := if_neg hi
        rw [hs]
        simp only [forgotEvents, Runs.run_cons, Runs.run_nil, hs]
        rfl
  | sendNewPwd newPwd confirmPwd => exact forgot_take rfl rfl
  | resetReply i isSuccess => refine forgot_take ?_ ?_ <;> simp only [ForgotVC.step] <;> split <;> rfl
  | cancelPwd => exact forgot_take rfl rfl

/-- The screen when it is loaded. -/
def opened (validCharacters : Char → Bool) (isRightToLeft : Bool) (pasteboard : Option (List Char)) : PinScreen :=
  { entry := PinEntry.reloadAppearance 6 validCharacters isRightToLeft pasteboard {} }

theorem forgot_opened (pasteboard : Option (List Char)) : (opened validCharacters isRightToLeft pasteboard).forgot = {} := by
  have hlooked := @PinEntry.looked_reloadAppearance Char 6 validCharacters isRightToLeft _ {} pasteboard
  have hrest : (PinEntry.reloadAppearance 6 validCharacters isRightToLeft pasteboard {}).field.animation ≠ some .success :=
    fun h => by rcases hlooked.starts h with h | h <;> cases h
  simp [opened, forgot, hrest]

/-- **A run of the screen is a run of `ForgotVC`.** -/
theorem forgot_run (x : PinScreen) (es : List PinScreenEvent) :
    (Runs.run (step validCharacters isRightToLeft) x es).forgot =
      Runs.run ForgotVC.step x.forgot (forgotRun validCharacters isRightToLeft x es) := by
  induction es generalizing x with
  | nil => rfl
  | cons e es ih => rw [Runs.run_cons, ih, forgot_step, forgotRun, Runs.run, Runs.run, Runs.run, List.foldl_append]

/-- **The field adds no way to reset a password**: a run of the screen with its field is, without the field, a run of `ForgotVC`;
and if the steps of that one keep the address, whatever is reset is reset for an address its PIN was issued for. -/
theorem refines_forgotVC (pasteboard : Option (List Char)) (es : List PinScreenEvent) :
    let x := Runs.run (step validCharacters isRightToLeft) (opened validCharacters isRightToLeft pasteboard) es
    let fs := forgotRun validCharacters isRightToLeft (opened validCharacters isRightToLeft pasteboard) es
    let y := Runs.run (Runs.noting ForgotVC.step ForgotVC.note) ({}, {}) fs
    x.forgot = y.1 ∧
    (Runs.AllSteps (Runs.noting ForgotVC.step ForgotVC.note) ForgotVC.KeepsAddress ({}, {}) fs →
      ∀ newPwd confirmPwd r, x.forgot.sendNewPwd newPwd confirmPwd = some r → (r.email, y.2.opener) ∈ y.2.issued) := by
  intro x fs y
  have hrun : x.forgot = y.1 := by rw [forgot_run, forgot_opened, Runs.run_noting]
  refine ⟨hrun, fun hkeeps => ?_⟩
  have hover : ForgotVC.Over y :=
    Runs.run_invariant ForgotVC.Over (fun _ _ h hok => ForgotVC.over_step h hok) (fun h => by cases h) hkeeps
  rw [hrun]
  exact (ForgotVC.bound_iff_over y).2 hover

/-- A PIN is asked for, entered and shown to be right, and a new password given. -/
theorem refines_forgotVC_reset :
    let es : List PinScreenEvent :=
      [.gotoSend "me@x.io", .forgotReply 0 (some "123456") none, .edit "123456".toList none, .successEnds]
    (Runs.run (step Char.isDigit false) (opened Char.isDigit false none) es).forgot.sendNewPwd "pw" "pw" =
        some ⟨"me@x.io", "pw"⟩ ∧
      ∃ opener, ("me@x.io", opener) ∈ [("me@x.io", "123456")] := by
  intro es
  have hreset : (Runs.run (step Char.isDigit false) (opened Char.isDigit false none) es).forgot.sendNewPwd "pw" "pw" =
      some ⟨"me@x.io", "pw"⟩ := by decide
  have hbound := (@refines_forgotVC Char.isDigit false none es).2
    ⟨(fun h => by cases h), trivial, trivial, (fun _ _ => by decide), trivial⟩ _ _ _ hreset
  exact ⟨hreset, _, hbound⟩

end PinScreen
end Traveller
