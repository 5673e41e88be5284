import Traveller.ChatRecords
import Traveller.Runs
import Traveller.TripForm
/-!
# Placeholders — text views that show a placeholder, and what their buttons submit

A delegate puts a placeholder into a text view that is left empty, in a color of its own, and clears the view when an edit begins
and finds a color: the color alone says whether the text is a placeholder.  On the two screens of trips the two colors are the
same and nobody else sets the text, and the button submits what the user has entered in every run; in the two dialogs of the
reviews they are not, or a stored text is loaded under the color of a placeholder (`submits_entered_iff`).
-/
namespace Traveller

inductive Languages where
  | eng | rus
  deriving DecidableEq, Repr

/-- `UIColor`, as far as the delegates use it; a text view begins with the color of labels. -/
inductive UIColor where
  | label | black | darkGray | lightGray
  deriving DecidableEq, Repr

/-- What a screen does with its text view: the color at which it clears it, the placeholder and its color, the texts its button
takes for none, whether the view is in a dialog, and whether closing the dialog empties it. -/
structure PlaceholderView where
  clearedAt : UIColor
  placeholder : Languages → String
  placedIn : UIColor
  placeholders : List String
  inDialog : Bool
  emptied : Bool
  placeholder_mem : ∀ language, placeholder language ∈ placeholders
  empty_notMem : "" ∉ placeholders

def NewTripVC.txvAdditionalinformationView : PlaceholderView where
  clearedAt := .darkGray
  placeholder
    | .eng => "You can add additional information here to share with other people"
    | .rus => "Добавить дополнительную информацию для заказчиков"
  placedIn := .darkGray
  placeholders := ["You can add additional information here to share with other people",
    "Добавить дополнительную информацию для заказчиков"]
  inDialog := false
  emptied := false
  placeholder_mem language := by cases language <;> simp
  empty_notMem := by simp

def TripDetailVC.txvSendTraveler : PlaceholderView where
  clearedAt := .darkGray
  placeholder
    | .eng => "Write a message to traveler to start chatting"
    | .rus => "Напешите путешествнееику и начните с ними переписку"
  placedIn := .darkGray
  placeholders := ["Write a message to traveler to start chatting", "Напешите путешествнееику и начните с ними переписку"]
  inDialog := false
  emptied := false
  placeholder_mem language := by cases language <;> simp
  empty_notMem := by simp

def RateUserVC.txvReviewcontent : PlaceholderView where
  clearedAt := .lightGray
  placeholder _ := "Write your review on user."
  placedIn := .lightGray
  placeholders := ["Write your review on user."]
  inDialog := true
  emptied := false
  placeholder_mem _ := by simp
  empty_notMem := by simp

def RatingVC.txvReplycontent : PlaceholderView where
  clearedAt := .lightGray
  placeholder
    | .eng => "Write your reply on reviewer."
    | .rus => "напишите свой ответ рецензенту."
  placedIn := .darkGray
  placeholders := ["Write your reply on reviewer.", "напишите свой ответ рецензенту."]
  inDialog := true
  emptied := true
  placeholder_mem language := by cases language <;> simp
  empty_notMem := by simp

/-- `UITextView`. -/
structure TextView where
  text : String := ""
  textColor : UIColor := .label
  delegate : Bool := false
  isFirstResponder : Bool := false
  deriving DecidableEq, Repr

/-- What happens to a text view: an edit is any change of the text it shows, `opens` brings the stored text of a review or a
reply, where there is one. -/
inductive TextEvent where
  | focus
  | edit (f : String → String)
  | leave (language : Languages)
  | opens (content : Option String)
  | close

namespace PlaceholderView
variable (F : PlaceholderView)

def textViewDidBeginEditing (s : TextView) : TextView :=
  if s.textColor = F.clearedAt then { s with text := "", textColor := .black } else s

def textViewDidEndEditing (language : Languages) (s : TextView) : TextView :=
  if s.text = "" then { s with text := F.placeholder language, textColor := F.placedIn } else s

def step (s : TextView) : TextEvent → TextView
  | .focus =>
    if s.delegate && !s.isFirstResponder then { F.textViewDidBeginEditing s with isFirstResponder := true } else s
  | .edit f => if s.isFirstResponder then { s with text := f s.text } else s
  | .leave language =>
    if s.isFirstResponder then { F.textViewDidEndEditing language s with isFirstResponder := false } else s
  | .opens content => if F.inDialog then { s with text := content.getD s.text, delegate := true } else s
  | .close =>
    if F.inDialog then
      { s with text := if F.emptied then "" else s.text, delegate := false, isFirstResponder := false }
    else s

/-- The note `saveBtnClicked` saves. -/
def sent (text : String) : String := if text ∈ F.placeholders then "" else text

/-- What the buttons of the other screens submit. -/
def submits (text : String) : Option String := if text = "" ∨ text ∈ F.placeholders then none else some text

/-! ## What the user has entered -/

/-- The text entered by the user, or loaded, beside the text that is shown. -/
def note (entered : String) (s : TextView) : TextEvent → String
  | .edit f => if s.isFirstResponder then f entered else entered
  | .opens content => if F.inDialog then content.getD entered else entered
  | .close => if F.inDialog && F.emptied then "" else entered
  | .focus | .leave _ => entered

abbrev noting : TextView × String → TextEvent → TextView × String := Runs.noting F.step F.note

/-- The user never types a placeholder. -/
def TypesOwn (y : TextView × String) : TextEvent → Prop
  | .edit f => y.1.isFirstResponder = true → f y.2 ∉ F.placeholders
  | _ => True

/-- **The note is what was entered.** -/
def SendsEntered (y : TextView × String) : Prop := F.sent y.1.text = y.2

/-- **What is submitted is what was entered**, and nothing where nothing was. -/
def SubmitsEntered (y : TextView × String) : Prop := F.submits y.1.text = if y.2 = "" then none else some y.2

/-- The view shows what was entered, or a placeholder for nothing. -/
structure Shows (y : TextView × String) : Prop where
  text : y.1.text = y.2 ∨ y.2 = "" ∧ y.1.text ∈ F.placeholders
  own : y.2 ∉ F.placeholders

/-- What keeps them apart: an edit does not begin at the color of placeholders over a text that was entered or loaded, an edit of a
placeholder leaves what it would leave of an empty text, and no placeholder is loaded. -/
def KeepsApart (y : TextView × String) : TextEvent → Prop
  | .focus => y.1.delegate = true → y.1.isFirstResponder = false → y.1.textColor = F.clearedAt → y.2 = ""
  | .edit f => y.1.isFirstResponder = true → y.1.text ∈ F.placeholders →
      f y.1.text = f "" ∨ f "" = "" ∧ f y.1.text ∈ F.placeholders
  | .opens (some content) => F.inDialog = true → content ∉ F.placeholders
  | _ => True

variable {F} {y : TextView × String}

/-- A view outside a dialog is neither opened nor closed. -/
theorem noting_opens (hdialog : F.inDialog = false) (content : Option String) : F.noting y (.opens content) = y := by
  simp [Runs.noting, PlaceholderView.step, note, hdialog]

theorem noting_close (hdialog : F.inDialog = false) : F.noting y .close = y := by
  simp [Runs.noting, PlaceholderView.step, note, hdialog]

theorem Shows.sendsEntered (h : F.Shows y) : F.SendsEntered y := by
  rcases h.text with htext | ⟨hempty, hmem⟩
  · rw [SendsEntered, sent, htext, if_neg h.own]
  · rw [SendsEntered, sent, if_pos hmem, hempty]

theorem submits_of_entered {entered : String} (hown : entered ∉ F.placeholders) :
    F.submits entered = if entered = "" then none else some entered := by simp [submits, hown]

theorem Shows.submitsEntered (h : F.Shows y) : F.SubmitsEntered y := by
  rcases h.text with htext | ⟨hempty, hmem⟩
  · rw [SubmitsEntered, htext, submits_of_entered h.own]
  · rw [SubmitsEntered, submits, if_pos (.inr hmem), if_pos hempty]

/-- What is submitted tells what is shown. -/
theorem text_of_submitsEntered (h : F.SubmitsEntered y) : y.1.text = y.2 ∨ y.2 = "" ∧ y.1.text ∈ F.placeholders := by
  unfold SubmitsEntered submits at h
  by_cases htext : y.1.text = "" ∨ y.1.text ∈ F.placeholders
  · have hentered : y.2 = "" := by
      by_contra hne
      rw [if_pos htext, if_neg hne] at h
      cases h
    exact htext.imp (fun hempty => hempty.trans hentered.symm) fun hmem => ⟨hentered, hmem⟩
  · rw [if_neg htext] at h
    split at h
    · cases h
    · exact .inl (Option.some.inj h)

/-- A loaded placeholder is not submitted. -/
theorem not_submitsEntered_of_mem (hmem : y.1.text ∈ F.placeholders) (hsame : y.1.text = y.2) : ¬ F.SubmitsEntered y := by
  have hne : y.2 ≠ "" := fun h => F.empty_notMem (by rwa [← h, ← hsame])
  rw [SubmitsEntered, submits, if_pos (.inr hmem), if_neg hne]
  exact nofun

theorem Shows.step (h : F.Shows y) {e : TextEvent} (htypes : F.TypesOwn y e) (hok : F.KeepsApart y e) :
    F.Shows (F.noting y e) := by
  obtain ⟨htext, hown⟩ := h
  obtain ⟨⟨text, color, delegate, responder⟩, entered⟩ := y
  cases e with
  | focus =>
    refine ⟨?_, hown⟩
    cases delegate <;> cases responder <;> try exact htext
    by_cases hcolor : color = F.clearedAt
    · have hempty : entered = "" := hok rfl rfl hcolor
      exact .inl (by simp [PlaceholderView.step, textViewDidBeginEditing, note, hcolor, hempty])
    · simpa [PlaceholderView.step, textViewDidBeginEditing, note, hcolor] using htext
  | edit f =>
    cases responder with
    | false => exact ⟨htext, hown⟩
    | true =>
      refine ⟨?_, htypes rfl⟩
      rcases htext with htext | ⟨hempty, hmem⟩
      · exact .inl (congrArg f htext)
      · obtain rfl : entered = "" := hempty
        exact hok rfl hmem
  | leave language =>
    refine ⟨?_, hown⟩
    cases responder with
    | false => exact htext
    | true =>
      by_cases hempty : text = ""
      · -- the placeholder comes where nothing was entered
        have hentered : entered = "" := by
          rcases htext with htext | ⟨hentered, -⟩
          · exact htext.symm.trans hempty
          · exact hentered
        exact .inr ⟨hentered, by simp [PlaceholderView.step, textViewDidEndEditing, hempty, F.placeholder_mem]⟩
      · simpa [PlaceholderView.step, textViewDidEndEditing, note, hempty] using htext
  | opens content =>
    cases hdialog : F.inDialog with
    | false =>
      rw [noting_opens hdialog]
      exact ⟨htext, hown⟩
    | true =>
      cases content with
      | none => exact ⟨by simpa [PlaceholderView.step, note, hdialog] using htext, by simpa [note, hdialog] using hown⟩
      | some content =>
        exact ⟨.inl (by simp [PlaceholderView.step, note, hdialog]), by simpa [note, hdialog] using hok hdialog⟩
  | close =>
    cases hdialog : F.inDialog with
    | false =>
      rw [noting_close hdialog]
      exact ⟨htext, hown⟩
    | true =>
      cases hemptied : F.emptied with
      | false =>
        exact ⟨by simpa [PlaceholderView.step, note, hdialog, hemptied] using htext,
          by simpa [note, hdialog, hemptied] using hown⟩
      | true =>
        exact ⟨.inl (by simp [PlaceholderView.step, note, hdialog, hemptied]),
          by simpa [note, hdialog, hemptied] using F.empty_notMem⟩

/-- **Where they are not kept apart, what is submitted is not what was entered.** -/
theorem Shows.not_submitsEntered (h : F.Shows y) {e : TextEvent} (hok : ¬ F.KeepsApart y e) :
    ¬ F.SubmitsEntered (F.noting y e) := by
  obtain ⟨htext, hown⟩ := h
  obtain ⟨⟨text, color, delegate, responder⟩, entered⟩ := y
  intro hsubmits
  cases e with
  | focus =>
    simp only [KeepsApart, not_forall] at hok
    obtain ⟨rfl, rfl, rfl, hne⟩ := hok
    rcases text_of_submitsEntered hsubmits with hsame | ⟨hempty, -⟩
    · exact hne (by simpa [PlaceholderView.step, textViewDidBeginEditing, note] using hsame.symm)
    · exact hne hempty
  | edit f =>
    simp only [KeepsApart, not_forall] at hok
    obtain ⟨rfl, hmem, hnot⟩ := hok
    have hempty : entered = "" := by
      rcases htext with htext | ⟨hempty, -⟩
      · exact absurd (htext ▸ hmem) hown
      · exact hempty
    subst hempty
    exact hnot (text_of_submitsEntered hsubmits)
  | leave language => exact hok trivial
  | opens content =>
    cases content with
    | none => exact hok trivial
    | some content =>
      simp only [KeepsApart, not_forall, not_not] at hok
      obtain ⟨hdialog, hmem⟩ := hok
      refine not_submitsEntered_of_mem ?_ ?_ hsubmits <;> simp [PlaceholderView.step, note, hdialog, hmem]
  | close => exact hok trivial

/-- **When a dialog submits what was entered.** -/
theorem submitsEntered_iff {es : List TextEvent} (htypes : Runs.AllSteps F.noting F.TypesOwn ({}, "") es) :
    Runs.AllStates F.noting F.SubmitsEntered ({}, "") es ↔ Runs.AllSteps F.noting F.KeepsApart ({}, "") es := by
  have hinit : F.Shows ({}, "") := ⟨.inl rfl, F.empty_notMem⟩
  exact Runs.allStates_iff_allSteps F.Shows (fun _ _ h htypes hok => h.step htypes hok) (fun _ h => h.submitsEntered)
    (fun _ _ h _ hok => h.not_submitsEntered hok) hinit htypes

/-! ## One color -/

/-- The color tells a placeholder from what was entered. -/
structure Told (F : PlaceholderView) (y : TextView × String) : Prop where
  focused : y.1.isFirstResponder = true → y.1.text = y.2 ∧ y.1.textColor ≠ F.clearedAt
  left : y.1.isFirstResponder = false → y.1.text = y.2 ∧ y.1.textColor ≠ F.clearedAt ∨
    (y.2 = "" ∧ y.1.text ∈ F.placeholders) ∧ y.1.textColor = F.clearedAt
  own : y.2 ∉ F.placeholders

theorem Told.shows (h : F.Told y) : F.Shows y := by
  refine ⟨?_, h.own⟩
  cases hresponder : y.1.isFirstResponder with
  | true => exact .inl (h.focused hresponder).1
  | false => exact (h.left hresponder).imp And.left And.left

/-- A view outside a dialog whose placeholder has the color it is cleared at. -/
structure OneColor (F : PlaceholderView) : Prop where
  placedIn : F.placedIn = F.clearedAt
  black : F.clearedAt ≠ .black
  inDialog : F.inDialog = false

theorem Told.step (hF : F.OneColor) (h : F.Told y) {e : TextEvent} (htypes : F.TypesOwn y e) : F.Told (F.noting y e) := by
  obtain ⟨hplaced, hblack, hdialog⟩ := hF
  obtain ⟨hfocused, hleft, hown⟩ := h
  obtain ⟨⟨text, color, delegate, responder⟩, entered⟩ := y
  cases e with
  | focus =>
    cases delegate <;> cases responder <;> try exact ⟨hfocused, hleft, hown⟩
    refine ⟨fun _ => ?_, nofun, hown⟩
    rcases hleft rfl with ⟨hsame, hcolor⟩ | ⟨⟨hempty, -⟩, hcolor⟩
    · simpa [PlaceholderView.step, textViewDidBeginEditing, note, hcolor] using And.intro hsame hcolor
    · obtain rfl : color = F.clearedAt := hcolor
      simpa [PlaceholderView.step, textViewDidBeginEditing, note] using And.intro hempty.symm hblack.symm
  | edit f =>
    cases responder with
    | false => exact ⟨hfocused, hleft, hown⟩
    | true =>
      obtain ⟨hsame, hcolor⟩ := hfocused rfl
      exact ⟨fun _ => ⟨congrArg f hsame, hcolor⟩, nofun, htypes rfl⟩
  | leave language =>
    cases responder with
    | false => exact ⟨hfocused, hleft, hown⟩
    | true =>
      obtain ⟨hsame, hcolor⟩ := hfocused rfl
      obtain rfl : text = entered := hsame
      refine ⟨nofun, fun _ => ?_, hown⟩
      by_cases hempty : text = ""
      · simp [PlaceholderView.step, textViewDidEndEditing, note, hempty, hplaced, F.placeholder_mem]
      · exact .inl (by simpa [PlaceholderView.step, textViewDidEndEditing, note, hempty] using hcolor)
  | opens content =>
    rw [noting_opens hdialog]
    exact ⟨hfocused, hleft, hown⟩
  | close =>
    rw [noting_close hdialog]
    exact ⟨hfocused, hleft, hown⟩

/-- The view as `setUI` leaves it. -/
def shown (F : PlaceholderView) (language : Languages) : TextView :=
  { text := F.placeholder language, textColor := F.placedIn, delegate := true }

theorem told_shown (hF : F.OneColor) (language : Languages) : F.Told (F.shown language, "") :=
  ⟨nofun, fun _ => .inr ⟨⟨rfl, F.placeholder_mem language⟩, hF.placedIn⟩, F.empty_notMem⟩

/-- **In every run the user's text is shown, or a placeholder for none.** -/
theorem shows_of_oneColor (hF : F.OneColor) (language : Languages) {es : List TextEvent}
    (htypes : Runs.AllSteps F.noting F.TypesOwn (F.shown language, "") es) :
    Runs.AllStates F.noting F.Shows (F.shown language, "") es :=
  Runs.allStates_of_invariant F.Told (fun _ _ h htypes => h.step hF htypes) (fun _ h => h.shows) (told_shown hF language) htypes

end PlaceholderView

/-! ## The four screens -/

section Buttons

/-- **The reply button**: the app sends what the view submits. -/
theorem sends_replyBtnClicked (a : App) (id : Int) (reply : String) :
    a.sends (.replyBtnClicked (some id) reply) =
      (RatingVC.txvReplycontent.submits reply).map (.replyReview a.session.thisuser.userId id) := by
  simp only [App.sends, PlaceholderView.submits, RatingVC.txvReplycontent, List.mem_cons, List.not_mem_nil, or_false,
    Bool.or_eq_true, decide_eq_true_eq, or_assoc]
  split <;> rfl

/-- The review button, once there are stars. -/
theorem sends_reviewBtnClicked (a : App) (rateUser : Int) {rating : Rat} (hrating : rating ≠ 0) (content : String)
    (reviewId : Option Int) (reviewTime : Int) :
    a.sends (.reviewBtnClicked rateUser rating content reviewId reviewTime) =
      (RateUserVC.txvReviewcontent.submits content).map fun content =>
        .giveReview rateUser a.session.thisuser.userId content reviewTime rating reviewId := by
  simp only [App.sends, PlaceholderView.submits, RateUserVC.txvReviewcontent, List.mem_cons, List.not_mem_nil, or_false,
    Bool.or_eq_true, decide_eq_true_eq, hrating, decide_false, Bool.false_eq_true, false_or]
  split <;> rfl

theorem accepts_eq (msg : String) : TripDetailVC.accepts msg = (TripDetailVC.txvSendTraveler.submits msg).isSome := by
  simp only [TripDetailVC.accepts, PlaceholderView.submits, TripDetailVC.txvSendTraveler, List.mem_cons, List.not_mem_nil, or_false]
  grind

theorem des_trip (s : NewTripVC) (now : Int) :
    (s.trip now).des = NewTripVC.txvAdditionalinformationView.sent s.txvAdditionalinformation := by
  simp [NewTripVC.trip, PlaceholderView.sent, NewTripVC.txvAdditionalinformationView]

end Buttons

theorem oneColor_newTrip : NewTripVC.txvAdditionalinformationView.OneColor := ⟨rfl, by decide, rfl⟩

theorem oneColor_tripDetail : TripDetailVC.txvSendTraveler.OneColor := ⟨rfl, by decide, rfl⟩

/-- **What is submitted is what was entered**: on the screens of trips in every run, in the dialogs of reviews exactly in the runs
that keep placeholders and texts apart. -/
theorem submits_entered_iff (language : Languages) (es : List TextEvent) :
    (Runs.AllSteps NewTripVC.txvAdditionalinformationView.noting NewTripVC.txvAdditionalinformationView.TypesOwn
        (NewTripVC.txvAdditionalinformationView.shown language, "") es →
      Runs.AllStates NewTripVC.txvAdditionalinformationView.noting NewTripVC.txvAdditionalinformationView.SendsEntered
        (NewTripVC.txvAdditionalinformationView.shown language, "") es) ∧
    (Runs.AllSteps TripDetailVC.txvSendTraveler.noting TripDetailVC.txvSendTraveler.TypesOwn
        (TripDetailVC.txvSendTraveler.shown language, "") es →
      Runs.AllStates TripDetailVC.txvSendTraveler.noting TripDetailVC.txvSendTraveler.SubmitsEntered
        (TripDetailVC.txvSendTraveler.shown language, "") es) ∧
    ∀ F ∈ [RateUserVC.txvReviewcontent, RatingVC.txvReplycontent], Runs.AllSteps F.noting F.TypesOwn ({}, "") es →
      (Runs.AllStates F.noting F.SubmitsEntered ({}, "") es ↔ Runs.AllSteps F.noting F.KeepsApart ({}, "") es) := by
  refine ⟨fun htypes => ?_, fun htypes => ?_, fun F _ htypes => PlaceholderView.submitsEntered_iff htypes⟩
  · exact (PlaceholderView.shows_of_oneColor oneColor_newTrip language htypes).imp fun _ h => h.sendsEntered
  · exact (PlaceholderView.shows_of_oneColor oneColor_tripDetail language htypes).imp fun _ h => h.submitsEntered

/-- A text entered into a view that has been opened. -/
def noGlass : List TextEvent := [.opens none, .focus, .edit fun _ => "no glass", .leave .eng]

theorem submits_entered_no_glass :
    Runs.AllStates NewTripVC.txvAdditionalinformationView.noting NewTripVC.txvAdditionalinformationView.SendsEntered
      (NewTripVC.txvAdditionalinformationView.shown .rus, "") noGlass ∧
    Runs.AllStates TripDetailVC.txvSendTraveler.noting TripDetailVC.txvSendTraveler.SubmitsEntered
      (TripDetailVC.txvSendTraveler.shown .rus, "") noGlass ∧
    Runs.AllStates RateUserVC.txvReviewcontent.noting RateUserVC.txvReviewcontent.SubmitsEntered ({}, "") noGlass ∧
    Runs.AllStates RatingVC.txvReplycontent.noting RatingVC.txvReplycontent.SubmitsEntered ({}, "") noGlass := by
  obtain ⟨hnewTrip, htripDetail, hdialogs⟩ := submits_entered_iff .rus noGlass
  refine ⟨hnewTrip ⟨trivial, trivial, fun _ => by decide, trivial, trivial⟩,
    htripDetail ⟨trivial, trivial, fun _ => by decide, trivial, trivial⟩,
    (hdialogs _ (by simp) ⟨trivial, trivial, fun _ => by decide, trivial, trivial⟩).2 ?_,
    (hdialogs _ (by simp) ⟨trivial, trivial, fun _ => by decide, trivial, trivial⟩).2 ?_⟩
  · exact ⟨trivial, fun _ _ _ => rfl, fun _ h => absurd h (by decide), trivial, trivial⟩
  · exact ⟨trivial, fun _ _ _ => rfl, fun _ h => absurd h (by decide), trivial, trivial⟩

/-- A reply begun, left and begun again. -/
def replyAgain : List TextEvent := [.opens (some ""), .focus, .leave .eng, .focus, .edit (· ++ " Thanks")]

/-- A review left empty, and opened again when there is a stored one. -/
def reviewAgain : List TextEvent := [.opens none, .focus, .leave .eng, .close, .opens (some "Fine"), .focus]

/-- **A placeholder is submitted with a reply, and a stored review is lost**: the reply is typed behind the placeholder, and the
stored review is cleared when it is touched. -/
theorem placeholder_mixed_and_review_lost :
    (Runs.run RatingVC.txvReplycontent.noting ({}, "") replyAgain).1.text = "Write your reply on reviewer. Thanks" ∧
    (Runs.AllSteps RatingVC.txvReplycontent.noting RatingVC.txvReplycontent.TypesOwn ({}, "") replyAgain ∧
      ¬ Runs.AllStates RatingVC.txvReplycontent.noting RatingVC.txvReplycontent.SubmitsEntered ({}, "") replyAgain) ∧
    Runs.AllSteps RateUserVC.txvReviewcontent.noting RateUserVC.txvReviewcontent.TypesOwn ({}, "") reviewAgain ∧
      ¬ Runs.AllStates RateUserVC.txvReviewcontent.noting RateUserVC.txvReviewcontent.SubmitsEntered ({}, "") reviewAgain := by
  refine ⟨by decide, ⟨⟨trivial, trivial, trivial, trivial, fun _ => by decide, trivial⟩, fun h => ?_⟩,
    ⟨trivial, trivial, trivial, trivial, trivial, trivial, trivial⟩, fun h => ?_⟩
  · have hlast := h.last
    revert hlast
    unfold PlaceholderView.SubmitsEntered
    decide
  · have hlast := h.last
    revert hlast
    unfold PlaceholderView.SubmitsEntered
    decide

end Traveller
