import Traveller.Runs
/-!
# PinField — what the PIN field has looked at

`KAPinField` keeps the entry in an invisible field and goes over it at every editing event: it tells its delegate of a change,
drops what is no valid character, and reports a complete entry once.  While one of its two animations runs it looks at
nothing.  The failure animation ends with another look; the success animation ends without one.

`looked_at_iff_textKept`: whenever no animation runs, the entry is clean and the field has looked at it, and a complete one is
the last it has reported, exactly in the runs in which a success animation ends over the entry it was started for.
-/
namespace Traveller

/-- The animation that runs. -/
inductive PinAnimation where
  | failure | success
  deriving DecidableEq, Repr

/-- The field; its characters are Swift's. -/
structure KAPinField (α : Type*) where
  text : List α := []
  lastEntry : List α := []
  previousCode : Option (List α) := none
  animation : Option PinAnimation := none
  deriving DecidableEq, Repr

/-- The field with its delegate `ForgotVC`, and the codes that were reported. -/
structure PinEntry (α : Type*) where
  field : KAPinField α := {}
  pincode : List α := []
  finished : List (List α) := []
  deriving DecidableEq, Repr

/-- What happens.  The field reads the pasteboard whenever it looks at the entry. -/
inductive PinEvent (α : Type*) where
  | edit (text : List α) (pasteboard : Option (List α))
  | editingEvent (pasteboard : Option (List α))
  | forgotReply (pincode : List α) (pasteboard : Option (List α))
  | failureEnds (pasteboard : Option (List α))
  | successEnds

section
variable {α : Type*} [DecidableEq α] (numberOfCharacters : Nat) (validCharacters : α → Bool) (isRightToLeft : Bool)

namespace KAPinField

def animateFailure (f : KAPinField α) : KAPinField α :=
  if f.animation.isSome then f else { f with animation := some .failure }

def animateSuccess (f : KAPinField α) : KAPinField α :=
  if f.animation.isSome then f else { f with animation := some .success }

/-- `ForgotVC.pinField(_:didChangeTo:isValid:)`. -/
def didChangeTo (isValid : Bool) (f : KAPinField α) : KAPinField α := if isValid then f else f.animateFailure

def sanitizeText (f : KAPinField α) : KAPinField α :=
  let told :=
    if f.text ≠ f.lastEntry then
      { (if f.text.length ≤ numberOfCharacters then f.didChangeTo (f.text.all validCharacters) else f) with
        lastEntry := f.text }
    else f
  let text := f.text.filter validCharacters
  { told with text := if numberOfCharacters = 0 then text else text.take numberOfCharacters }

end KAPinField

namespace PinEntry

/-- What is reported for an entry. -/
def code (text : List α) : List α := if isRightToLeft then text.reverse else text

/-- `ForgotVC.pinField(_:didFinishWith:)`. -/
def didFinishWith (code : List α) (y : PinEntry α) : PinEntry α :=
  { y with
    field := if y.pincode = code then y.field.animateSuccess else y.field.animateFailure
    finished := y.finished ++ [code] }

def checkCodeValidity (y : PinEntry α) : PinEntry α :=
  if y.field.animation.isSome || numberOfCharacters = 0 then y
  else if y.field.text.length = numberOfCharacters then y.didFinishWith (code isRightToLeft y.field.text)
  else y

/-- `reloadAppearance`.  A field of dynamic length returns before it compares codes; a failure animation that `didChangeTo`
started ends the look, too. -/
def reloadAppearance (pasteboard : Option (List α)) (y : PinEntry α) : PinEntry α :=
  if y.field.animation.isSome then y
  else
    let pasted :=
      if pasteboard = some y.field.text ∧ isRightToLeft then { y.field with text := y.field.text.reverse } else y.field
    let f := pasted.sanitizeText numberOfCharacters validCharacters
    if numberOfCharacters = 0 || f.animation.isSome || f.previousCode = some f.text then { y with field := f }
    else checkCodeValidity numberOfCharacters isRightToLeft { y with field := { f with previousCode := some f.text } }

def setText (text : List α) (y : PinEntry α) : PinEntry α := { y with field := { y.field with text := text } }

/-- The completion of an animation, up to what the field does next. -/
def endAnimation (y : PinEntry α) : PinEntry α := { y with field := { y.field with animation := none } }

/-- One step.  `refreshPinField` empties the field and sets the style anew, which makes the field look at it. -/
def step (y : PinEntry α) : PinEvent α → PinEntry α
  | .edit text pasteboard => (y.setText text).reloadAppearance numberOfCharacters validCharacters isRightToLeft pasteboard
  | .editingEvent pasteboard => y.reloadAppearance numberOfCharacters validCharacters isRightToLeft pasteboard
  | .forgotReply pincode pasteboard =>
    ({ y with pincode := pincode }.setText []).reloadAppearance numberOfCharacters validCharacters isRightToLeft pasteboard
  | .failureEnds pasteboard =>
    if y.field.animation = some .failure then
      y.endAnimation.reloadAppearance numberOfCharacters validCharacters isRightToLeft pasteboard
    else y
  | .successEnds => if y.field.animation = some .success then y.endAnimation else y

/-- Valid characters, and no more than fit. -/
def Clean (text : List α) : Prop := text.all validCharacters = true ∧ text.length ≤ numberOfCharacters

instance (text : List α) : Decidable (Clean numberOfCharacters validCharacters text) := inferInstanceAs (Decidable (_ ∧ _))

/-- **The field has looked at its entry**: it is clean and was compared, and a complete one is the last reported. -/
def LookedAt (y : PinEntry α) : Prop :=
  y.field.animation = none → Clean numberOfCharacters validCharacters y.field.text ∧
    y.field.previousCode = some y.field.text ∧
    (y.field.text.length = numberOfCharacters → y.finished.getLast? = some (code isRightToLeft y.field.text))

instance (y : PinEntry α) : Decidable (LookedAt numberOfCharacters validCharacters isRightToLeft y) :=
  inferInstanceAs (Decidable (_ → _))

/-- **A success animation ends over the entry it was started for.** -/
def TextKept (y : PinEntry α) (e : PinEvent α) : Prop :=
  match e with
  | .successEnds => y.field.animation = some .success → y.field.previousCode = some y.field.text
  | _ => True

/-- What was compared last is clean, and was reported if it is complete. -/
def Compared (y : PinEntry α) : Prop :=
  ∀ text, y.field.previousCode = some text → Clean numberOfCharacters validCharacters text ∧
    (text.length = numberOfCharacters → y.finished.getLast? = some (code isRightToLeft text))

/-- The invariant: at rest what was compared last is the entry. -/
structure Inv (y : PinEntry α) : Prop where
  compared : Compared numberOfCharacters validCharacters isRightToLeft y
  rest : y.field.animation = none → y.field.previousCode = some y.field.text

end PinEntry
end

section
variable {α : Type*} {numberOfCharacters : Nat} {validCharacters : α → Bool} {isRightToLeft : Bool}

namespace KAPinField

@[simp] theorem animateFailure_previousCode (f : KAPinField α) : f.animateFailure.previousCode = f.previousCode := by
  unfold animateFailure
  split <;> rfl

@[simp] theorem animateFailure_animation (f : KAPinField α) : f.animateFailure.animation ≠ none := by
  unfold animateFailure
  split
  · exact Option.isSome_iff_ne_none.1 ‹_›
  · simp

@[simp] theorem animateSuccess_previousCode (f : KAPinField α) : f.animateSuccess.previousCode = f.previousCode := by
  unfold animateSuccess
  split <;> rfl

@[simp] theorem animateSuccess_animation (f : KAPinField α) : f.animateSuccess.animation ≠ none := by
  unfold animateSuccess
  split
  · exact Option.isSome_iff_ne_none.1 ‹_›
  · simp

/-- A look leaves a clean entry, and compares nothing. -/
theorem sanitizeText_clean [DecidableEq α] (hn : 0 < numberOfCharacters) (f : KAPinField α) :
    PinEntry.Clean numberOfCharacters validCharacters (f.sanitizeText numberOfCharacters validCharacters).text ∧
      (f.sanitizeText numberOfCharacters validCharacters).previousCode = f.previousCode := by
  constructor
  · simp only [sanitizeText, if_neg (Nat.ne_of_gt hn)]
    refine ⟨List.all_eq_true.2 fun c hc => (List.mem_filter.1 (List.mem_of_mem_take hc)).2, ?_⟩
    exact List.length_take_le _ _
  · simp only [sanitizeText, didChangeTo]
    split
    · split
      · split
        · rfl
        · exact animateFailure_previousCode f
      · rfl
    · rfl

end KAPinField

namespace PinEntry
variable {y : PinEntry α} {e : PinEvent α}

theorem Inv.lookedAt (h : Inv numberOfCharacters validCharacters isRightToLeft y) :
    LookedAt numberOfCharacters validCharacters isRightToLeft y := fun hrest =>
  have hprevious := h.rest hrest
  have hcompared := h.compared _ hprevious
  ⟨hcompared.1, hprevious, hcompared.2⟩

variable [DecidableEq α]

/-- **A look at any entry ends with the entry compared, or with an animation.** -/
theorem Compared.reloadAppearance (h : Compared numberOfCharacters validCharacters isRightToLeft y)
    (hn : 0 < numberOfCharacters) (pasteboard : Option (List α)) :
    Inv numberOfCharacters validCharacters isRightToLeft
      (y.reloadAppearance numberOfCharacters validCharacters isRightToLeft pasteboard) := by
  rw [PinEntry.reloadAppearance]
  split
  · rename_i hanimation
    exact ⟨h, fun hnone => by rw [hnone] at hanimation; cases hanimation⟩
  simp only [Bool.or_eq_true, decide_eq_true_eq, Nat.ne_of_gt hn, false_or]
  generalize hpasted : (if pasteboard = some y.field.text ∧ isRightToLeft = true then
    ({ y.field with text := y.field.text.reverse } : KAPinField α) else y.field) = pasted
  have hpreviousCode : pasted.previousCode = y.field.previousCode := by
    rw [← hpasted]
    split <;> rfl
  obtain ⟨hclean, hprevious⟩ := @KAPinField.sanitizeText_clean α numberOfCharacters validCharacters _ hn pasted
  rw [hpreviousCode] at hprevious
  generalize pasted.sanitizeText numberOfCharacters validCharacters = f at hclean hprevious ⊢
  split
  · rename_i hstop
    refine ⟨fun text ht => h text (hprevious ▸ ht), fun hnone => hstop.resolve_left ?_⟩
    rw [show f.animation = none from hnone]
    exact Bool.false_ne_true
  · rename_i hnew
    have hrest : f.animation = none := by simpa using (not_or.1 hnew).1
    simp only [checkCodeValidity, hrest, Option.isSome_none, Bool.false_or, decide_eq_true_eq, if_neg (Nat.ne_of_gt hn)]
    split
    · refine ⟨fun text ht => ?_, fun hnone => ?_⟩
      · obtain rfl : f.text = text := by
          simp only [didFinishWith] at ht
          split at ht <;> simpa using ht
        exact ⟨hclean, fun _ => List.getLast?_concat⟩
      · simp only [didFinishWith] at hnone
        split at hnone
        · exact absurd hnone (KAPinField.animateSuccess_animation _)
        · exact absurd hnone (KAPinField.animateFailure_animation _)
    · rename_i hshort
      refine ⟨fun text ht => ?_, fun _ => rfl⟩
      obtain rfl := Option.some.inj ht
      exact ⟨hclean, fun hlength => absurd hlength hshort⟩

/-- **A step keeps the invariant** where a success animation ends over its entry. -/
theorem Inv.step (hn : 0 < numberOfCharacters) (h : Inv numberOfCharacters validCharacters isRightToLeft y)
    (hok : y.TextKept e) :
    Inv numberOfCharacters validCharacters isRightToLeft (y.step numberOfCharacters validCharacters isRightToLeft e) := by
  cases e with
  | edit text pasteboard => exact Compared.reloadAppearance (y := y.setText text) h.compared hn pasteboard
  | editingEvent pasteboard => exact h.compared.reloadAppearance hn pasteboard
  | forgotReply pincode pasteboard =>
    exact Compared.reloadAppearance (y := { y with pincode := pincode }.setText []) h.compared hn pasteboard
  | failureEnds pasteboard =>
    rw [PinEntry.step]
    split
    · exact Compared.reloadAppearance (y := y.endAnimation) h.compared hn pasteboard
    · exact h
  | successEnds =>
    rw [PinEntry.step]
    split
    · rename_i hsuccess
      exact ⟨h.compared, fun _ => hok hsuccess⟩
    · exact h

/-- A success animation that ends over another entry leaves one the field has not looked at. -/
theorem not_lookedAt (hbad : ¬ y.TextKept e) :
    ¬ LookedAt numberOfCharacters validCharacters isRightToLeft
      (y.step numberOfCharacters validCharacters isRightToLeft e) := by
  cases e with
  | successEnds =>
    obtain ⟨hsuccess, hother⟩ := Classical.not_imp.1 hbad
    rw [PinEntry.step, if_pos hsuccess]
    exact fun hlooked => hother (hlooked rfl).2.1
  | _ => exact absurd trivial hbad

/-- **The field has looked at its entry whenever no animation runs**: it is clean and was compared, and a complete one is the
last reported, exactly in the runs in which a success animation ends over the entry it was started for. -/
theorem looked_at_iff_textKept (hn : 0 < numberOfCharacters) (pasteboard : Option (List α)) (es : List (PinEvent α)) :
    Runs.AllStates (step numberOfCharacters validCharacters isRightToLeft)
        (LookedAt numberOfCharacters validCharacters isRightToLeft)
        (reloadAppearance numberOfCharacters validCharacters isRightToLeft pasteboard {}) es ↔
      Runs.AllSteps (step numberOfCharacters validCharacters isRightToLeft) TextKept
        (reloadAppearance numberOfCharacters validCharacters isRightToLeft pasteboard {}) es :=
  Runs.allStates_iff_allSteps (Inv numberOfCharacters validCharacters isRightToLeft) (fun _ _ h _ hok => h.step hn hok)
    (fun _ h => h.lookedAt) (fun _ _ _ _ hbad => not_lookedAt hbad)
    (Compared.reloadAppearance (fun _ h => by cases h) hn pasteboard) (Runs.allSteps_trivial _ _ _)

/-- A wrong code, another after the shake, and the right one. -/
theorem looked_at_iff_textKept_entered :
    Runs.AllStates (step 2 Char.isDigit false) (LookedAt 2 Char.isDigit false)
      (reloadAppearance 2 Char.isDigit false none {})
      [.forgotReply ['1', '2'] none, .edit ['x'] none, .failureEnds none, .edit ['1', '3'] none, .edit ['1', '2'] none,
        .failureEnds none, .successEnds] :=
  (looked_at_iff_textKept (by decide) none _).2 ⟨trivial, trivial, trivial, trivial, trivial, trivial, fun _ => rfl, trivial⟩

/-- A new PIN comes while the success of the last one is shown: when the same PIN is pasted, the field does not report it. -/
example :
    let y := Runs.run (step 2 Char.isDigit false) (reloadAppearance 2 Char.isDigit false none {})
      [.forgotReply ['1', '2'] none, .edit ['1', '2'] none, .forgotReply ['1', '2'] none, .successEnds, .edit ['1', '2'] none]
    y.field.text = y.pincode ∧ y.field.animation = none ∧ y.finished = [['1', '2']] := by
  decide

end PinEntry
end
end Traveller
