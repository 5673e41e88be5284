import Traveller.Runs
/-!
# ForgotPin — resetting a forgotten password

`ForgotVC` keeps the address and the PIN in two fields written at different moments: `email` at every tap on Send, before
it is looked at, and `pincode` when a request for a PIN succeeds, whatever was tapped since.  The dialog a PIN opens resets
the password of whatever address `email` holds then.  `bound_iff_keepsAddress`: the reset is for the address the PIN was
issued for as long as the dialog opens over that address and no tap changes it while the dialog is open.
-/
namespace Traveller

/-! ## `isValidEmail` -/

/-- `[A-Z0-9a-z._%+-]+@[A-Za-z0-9.-]+\.[A-Za-z]{2,64}`: the `@` is in none of the classes, so it is the only one, and the
last part has no `.`, so it starts after the last one. -/
def isValidEmail (email : String) : Bool :=
  let user := email.toList.takeWhile (· ≠ '@')
  let domain := (email.toList.drop (user.length + 1)).reverse
  let tld := domain.takeWhile (· ≠ '.')
  let host := domain.drop (tld.length + 1)
  user ≠ [] && user.all (fun c => c.isAlphanum || c ∈ ['.', '_', '%', '+', '-']) &&
    host ≠ [] && host.all (fun c => c.isAlphanum || c ∈ ['.', '-']) &&
    2 ≤ tld.length && tld.length ≤ 64 && tld.all Char.isAlpha

example : isValidEmail "bob@mail.x.io" = true := by decide
example : isValidEmail "bob@mail" = false := by decide
example : isValidEmail "bob@mail.x.i" = false := by decide

/-! ## The screen -/

/-- `ApiManager.resetPassword`, called. -/
structure ResetPassword where
  email : String
  password : String
  deriving DecidableEq, Repr

/-- `ForgotVC`, with the requests it has sent: the addresses PINs were asked for, and the resets. -/
structure ForgotVC where
  email : String := ""
  pincode : String := ""
  uivDlg : Bool := false
  isAnimating : Bool := false
  forgots : List String := []
  resets : List ResetPassword := []
  deriving DecidableEq, Repr

/-- What reaches the screen, in any order.  `animationEnds` is the completion of the PIN field's `animateSuccess`, two
seconds after the entry; an answer is the PIN of a request that succeeded. -/
inductive ForgotEvent where
  | gotoSend (text : String)
  | forgotReply (i : Nat) (answer : Option String)
  | didFinishWith (code : String)
  | animationEnds
  | sendNewPwd (newPwd confirmPwd : String)
  | resetReply (i : Nat) (isSuccess : Bool)
  | cancelPwd
  deriving DecidableEq, Repr

namespace ForgotVC

def gotoSend (text : String) (s : ForgotVC) : ForgotVC :=
  if text.isEmpty || !isValidEmail text then { s with email := text }
  else { s with email := text, forgots := s.forgots ++ [text] }

/-- The completion of `ApiManager.forgot`. -/
def forgotReply (i : Nat) (answer : Option String) (s : ForgotVC) : ForgotVC :=
  if i < s.forgots.length then { s with forgots := s.forgots.eraseIdx i, pincode := answer.getD s.pincode } else s

/-- The PIN field's `checkCodeValidity` and the delegate's comparison. -/
def accepts (s : ForgotVC) (code : String) : Bool :=
  !s.isAnimating && code.length == 6 && s.pincode == code

/-- The request a tap on the dialog's OK sends.  A hidden dialog takes no taps. -/
def sendNewPwd (newPwd confirmPwd : String) (s : ForgotVC) : Option ResetPassword :=
  if !s.uivDlg || newPwd == "" || confirmPwd == "" then none
  else if confirmPwd ≠ newPwd then none
  else some ⟨s.email, newPwd⟩

def step (s : ForgotVC) : ForgotEvent → ForgotVC
  | .gotoSend text => s.gotoSend text
  | .forgotReply i answer => s.forgotReply i answer
  | .didFinishWith code => if s.accepts code then { s with isAnimating := true } else s
  | .animationEnds => if s.isAnimating then { s with isAnimating := false, uivDlg := true } else s
  | .sendNewPwd newPwd confirmPwd =>
    { s with resets := s.resets ++ (s.sendNewPwd newPwd confirmPwd).toList }
  | .resetReply i _ =>
    if i < s.resets.length then { s with resets := s.resets.eraseIdx i, uivDlg := false } else s
  | .cancelPwd => { s with uivDlg := false }

/-! ## What was issued -/

/-- The PINs issued with the addresses they were issued for, the PIN whose success is being shown, and the one that opened
the dialog. -/
structure Pins where
  issued : List (String × String) := []
  entered : String := ""
  opener : String := ""
  deriving DecidableEq, Repr

def note (h : Pins) (s : ForgotVC) : ForgotEvent → Pins
  | .forgotReply i answer =>
    { h with issued := h.issued ++ (s.forgots[i]?.bind fun email => answer.map (email, ·)).toList }
  | .didFinishWith code => if s.accepts code then { h with entered := code } else h
  | .animationEnds => if s.isAnimating && !s.uivDlg then { h with opener := h.entered } else h
  | _ => h

/-- **A reset is for the address its PIN was issued for**, whatever is tapped now. -/
def Bound (y : ForgotVC × Pins) : Prop :=
  ∀ newPwd confirmPwd r, y.1.sendNewPwd newPwd confirmPwd = some r → (r.email, y.2.opener) ∈ y.2.issued

/-- **The address stays the PIN's**: the dialog opens over an address the entered PIN was issued for, and a tap on Send
under the open dialog is for such an address. -/
def KeepsAddress (y : ForgotVC × Pins) : ForgotEvent → Prop
  | .animationEnds => y.1.isAnimating = true → y.1.uivDlg = false → (y.1.email, y.2.entered) ∈ y.2.issued
  | .gotoSend text => y.1.uivDlg = true → (text, y.2.opener) ∈ y.2.issued
  | _ => True

/-- The invariant: an open dialog stands over the address of the PIN that opened it. -/
def Over (y : ForgotVC × Pins) : Prop := y.1.uivDlg = true → (y.1.email, y.2.opener) ∈ y.2.issued

@[simp] theorem gotoSend_email (text : String) (s : ForgotVC) : (s.gotoSend text).email = text := by
  unfold gotoSend
  split <;> rfl

@[simp] theorem gotoSend_uivDlg (text : String) (s : ForgotVC) : (s.gotoSend text).uivDlg = s.uivDlg := by
  unfold gotoSend
  split <;> rfl

@[simp] theorem forgotReply_email (i : Nat) (answer : Option String) (s : ForgotVC) :
    (s.forgotReply i answer).email = s.email := by
  unfold forgotReply
  split <;> rfl

@[simp] theorem forgotReply_uivDlg (i : Nat) (answer : Option String) (s : ForgotVC) :
    (s.forgotReply i answer).uivDlg = s.uivDlg := by
  unfold forgotReply
  split <;> rfl

theorem sendNewPwd_eq_some {newPwd confirmPwd : String} {s : ForgotVC} {r : ResetPassword}
    (h : s.sendNewPwd newPwd confirmPwd = some r) : s.uivDlg = true ∧ r = ⟨s.email, newPwd⟩ := by
  unfold sendNewPwd at h
  split at h
  · cases h
  · rename_i hopen
    split at h
    · cases h
    · exact ⟨by simp_all, (Option.some.inj h).symm⟩

theorem sendNewPwd_open {s : ForgotVC} (h : s.uivDlg = true) : s.sendNewPwd "x" "x" = some ⟨s.email, "x"⟩ := by
  simp [sendNewPwd, h]

theorem bound_iff_over (y : ForgotVC × Pins) : Bound y ↔ Over y := by
  constructor
  · exact fun h hopen => h "x" "x" _ (sendNewPwd_open hopen)
  · intro h newPwd confirmPwd r hr
    obtain ⟨hopen, rfl⟩ := sendNewPwd_eq_some hr
    exact h hopen

theorem over_step {y : ForgotVC × Pins} {e : ForgotEvent} (h : Over y) (hok : KeepsAddress y e) :
    Over (Runs.noting step note y e) := by
  obtain ⟨s, p⟩ := y
  intro hopen
  rw [Runs.noting_fst] at hopen ⊢
  rw [Runs.noting_snd]
  cases e with
  | gotoSend text =>
    simp only [step, gotoSend_uivDlg] at hopen
    simp only [step, note, gotoSend_email]
    exact hok hopen
  | forgotReply i answer =>
    simp only [step, forgotReply_uivDlg] at hopen
    simp only [step, note, forgotReply_email]
    exact List.mem_append_left _ (h hopen)
  | didFinishWith code =>
    by_cases hacc : s.accepts code = true
    · simp only [step, note, if_pos hacc] at hopen ⊢
      exact h hopen
    · simp only [step, note, if_neg hacc] at hopen ⊢
      exact h hopen
  | animationEnds =>
    by_cases hanim : s.isAnimating = true
    · cases hdlg : s.uivDlg with
      | true =>
        simp only [step, note, hanim, hdlg, if_true]
        exact h hdlg
      | false =>
        simp only [step, note, hanim, hdlg, if_true]
        exact hok hanim hdlg
    · simp only [step, note, hanim] at hopen ⊢
      exact h hopen
  | sendNewPwd newPwd confirmPwd => exact h hopen
  | resetReply i isSuccess =>
    by_cases hi : i < s.resets.length
    · simp only [step, if_pos hi] at hopen
      cases hopen
    · simp only [step, if_neg hi] at hopen ⊢
      exact h hopen
  | cancelPwd => cases hopen

theorem not_over_step {y : ForgotVC × Pins} {e : ForgotEvent} (hok : ¬ KeepsAddress y e) :
    ¬ Over (Runs.noting step note y e) := by
  obtain ⟨s, p⟩ := y
  intro h
  cases e with
  | gotoSend text =>
    refine hok fun hopen => ?_
    have hover := h (by simpa [step] using hopen)
    simpa [step, note] using hover
  | animationEnds =>
    refine hok fun hanim hdlg => ?_
    have hanim : s.isAnimating = true := hanim
    have hdlg : s.uivDlg = false := hdlg
    have hover := h (by simp [step, hanim])
    simpa [step, note, hanim, hdlg] using hover
  | _ => exact hok trivial

/-- **In every state reached the reset is bound to the PIN's address exactly when every step keeps the address.** -/
theorem bound_iff_keepsAddress (es : List ForgotEvent) :
    Runs.AllStates (Runs.noting step note) Bound ({}, {}) es ↔
      Runs.AllSteps (Runs.noting step note) KeepsAddress ({}, {}) es :=
  Runs.allStates_iff_allSteps Over (fun _ _ h _ hok => over_step h hok) (fun y h => (bound_iff_over y).2 h)
    (fun y e _ _ hok h => not_over_step hok ((bound_iff_over _).1 h)) (fun h => by cases h)
    (Runs.allSteps_trivial _ _ es)

/-- A PIN for one's own address, a tap on Send with another one that fails, and the PIN resets the other one's password. -/
theorem reset_of_another_address :
    ¬ Runs.AllStates (Runs.noting step note) Bound ({}, {})
      [.gotoSend "me@x.io", .forgotReply 0 (some "123456"), .gotoSend "you@x.io", .forgotReply 0 none,
        .didFinishWith "123456", .animationEnds] := by
  intro h
  exact absurd (h.last "pw" "pw" ⟨"you@x.io", "pw"⟩ (by decide)) (by decide)

end ForgotVC
end Traveller
