import Traveller.TripForm
/-!
# Birthdays — the birthday that is shown and the one that is sent

Two screens keep a birthday as a text and as an instant, and the instant zero for none.  A pick sets both, unless it is less than a
year old: then the instant becomes zero and the text stays.  `SignUpVC` refuses to send zero.  `ProfileVC` takes it for unchanged
and sends the stored birthday, which is the one shown exactly if no other day was accepted before (`birthday_sent_is_shown_iff`).
-/
namespace Traveller
open LocalTime

def Constants.oneYearTimestamp : Int := 31556926 * 1000

/-- `edt_birthday` and `birthday_timestamp`. -/
structure BirthdayField where
  edtBirthday : String := ""
  birthdayTimestamp : Int := 0
  deriving DecidableEq, Repr

def Request.birthday : Request → Option Int
  | .signup _ _ _ _ birthday _ _ _ | .updateProfile _ _ _ _ birthday _ => some birthday
  | _ => none

/-- What the user has typed beside the birthday; `ProfileVC` has no passwords and no check box. -/
structure BirthdayForm where
  photo : Option String
  firstName : String
  lastName : String
  email : String
  password : String := ""
  confirmpassword : String := ""
  isChecked : Bool := false
  deriving DecidableEq, Repr

/-- A screen with a birthday: when it opens the picker, and what its button does. -/
structure BirthdayPage where
  picks : App → Bool
  tap : BirthdayField → BirthdayForm → AppEvent

/-- `signupBtnClicked` of `SignUpVC`. -/
def SignUpVC.birthdayPage : BirthdayPage where
  picks _ := true
  tap f form := .signupBtnClicked form.photo form.firstName form.lastName form.email f.birthdayTimestamp form.password
    form.confirmpassword form.isChecked

/-- `updateBtnClicked` of `ProfileVC`; without a photo it sends none. -/
def ProfileVC.birthdayPage : BirthdayPage where
  picks a := a.session.thisuser.isValid
  tap f form := .updateBtnClicked (form.photo.getD "") form.firstName form.lastName form.email f.edtBirthday f.birthdayTimestamp

/-- A screen in the app. -/
structure BirthdayScreen where
  app : App
  field : BirthdayField := {}

/-- A pick with the clock's reading in milliseconds and the picked second, a tap on the screen's button, and what happens to the
session meanwhile. -/
inductive BirthdayEvent where
  | pick (now value : Int)
  | submit (form : BirthdayForm)
  | app (e : AppEvent)

namespace BirthdayPage
variable (P : BirthdayPage) (day : Int → Int) (T : Texts)

/-- A pick that is not a year old. -/
def Refused (now value : Int) : Prop := now - value * 1000 ≤ Constants.oneYearTimestamp * 1

instance (now value : Int) : Decidable (Refused now value) := inferInstanceAs (Decidable (_ ≤ _))

/-- The done block of `birthdayBtnClicked`. -/
def birthdayBtnClicked (now value : Int) (f : BirthdayField) : BirthdayField :=
  if Refused now value then { f with birthdayTimestamp := 0 }
  else { birthdayTimestamp := value * 1000, edtBirthday := T.day (day (value * 1000)) }

/-- `editInit` of `ProfileVC`. -/
def editInit (now : Int) (u : UserModel) : BirthdayField :=
  { edtBirthday := if u.birthday ≠ some 0 then T.day (day (u.birthday.getD now)) else "" }

def step (s : BirthdayScreen) : BirthdayEvent → BirthdayScreen
  | .pick now value => if P.picks s.app then { s with field := birthdayBtnClicked day T now value s.field } else s
  | .submit form => { s with app := s.app.step (P.tap s.field form) }
  | .app e => { s with app := s.app.step e }

/-- The request of a tap. -/
def sends (s : BirthdayScreen) : BirthdayEvent → Option Request
  | .submit form => s.app.sends (P.tap s.field form)
  | _ => none

/-- The instant whose day is shown, if any is. -/
def note (shown : Option Int) (s : BirthdayScreen) : BirthdayEvent → Option Int
  | .pick now value => if P.picks s.app ∧ ¬ Refused now value then some (value * 1000) else shown
  | .submit _ | .app _ => shown

abbrev noting : BirthdayScreen × Option Int → BirthdayEvent → BirthdayScreen × Option Int :=
  Runs.noting (P.step day T) P.note

/-- **The birthday sent is an instant of the day shown.** -/
def SendsShown (y : BirthdayScreen × Option Int) (e : BirthdayEvent) : Prop :=
  ∀ q birthday, P.sends y.1 e = some q → q.birthday = some birthday → y.1.field.edtBirthday = T.day (day birthday)

/-- **What a pick gives is more than a year old.** -/
def PicksOld (y : BirthdayScreen × Option Int) (e : BirthdayEvent) : Prop :=
  ∀ now value, e = .pick now value →
    (P.noting day T y e).1.field.birthdayTimestamp = 0 ∧ (P.noting day T y e).1.field.edtBirthday = y.1.field.edtBirthday ∨
    (P.noting day T y e).1.field = y.1.field ∨
    (P.noting day T y e).1.field = { birthdayTimestamp := value * 1000, edtBirthday := T.day (day (value * 1000)) } ∧
      Constants.oneYearTimestamp < now - value * 1000

/-- The stored birthday is sent where its day is shown. -/
def ShowsStored (y : BirthdayScreen × Option Int) (e : BirthdayEvent) : Prop :=
  P.sends y.1 e ≠ none → y.1.field.birthdayTimestamp = 0 →
    ∀ t, y.2 = some t → day t = day (y.1.app.session.thisuser.birthday.getD 0)

/-- The text is that of the instant noted, and an instant that is kept is that one. -/
structure Inv (y : BirthdayScreen × Option Int) : Prop where
  text : y.1.field.edtBirthday = (y.2.map fun t => T.day (day t)).getD ""
  timestamp : y.1.field.birthdayTimestamp ≠ 0 → y.2 = some y.1.field.birthdayTimestamp

variable {P day T} {y : BirthdayScreen × Option Int}

theorem Inv.step (h : Inv day T y) (e : BirthdayEvent) : Inv day T (P.noting day T y e) := by
  obtain ⟨htext, htimestamp⟩ := h
  cases e with
  | pick now value =>
    by_cases hpicks : P.picks y.1.app = true
    · by_cases hrefused : Refused now value
      · exact ⟨by simpa [BirthdayPage.step, note, birthdayBtnClicked, hpicks, hrefused] using htext,
          by simp [BirthdayPage.step, birthdayBtnClicked, hpicks, hrefused]⟩
      · constructor <;> simp [BirthdayPage.step, note, birthdayBtnClicked, hpicks, hrefused]
    · exact ⟨by simpa [BirthdayPage.step, note, hpicks] using htext,
        by simpa [BirthdayPage.step, note, hpicks] using htimestamp⟩
  | submit form => exact ⟨htext, htimestamp⟩
  | app e => exact ⟨htext, htimestamp⟩

theorem picksOld (y : BirthdayScreen × Option Int) (e : BirthdayEvent) : P.PicksOld day T y e := by
  rintro now value rfl
  by_cases hpicks : P.picks y.1.app = true
  · by_cases hrefused : Refused now value
    · exact .inl (by simp [BirthdayPage.step, birthdayBtnClicked, hpicks, hrefused])
    · refine .inr (.inr ⟨by simp [BirthdayPage.step, birthdayBtnClicked, hpicks, hrefused], ?_⟩)
      unfold Refused at hrefused
      omega
  · exact .inr (.inl (by simp [BirthdayPage.step, hpicks]))

end BirthdayPage

theorem SignUpVC.sendsShown {day : Int → Int} {T : Texts} {y : BirthdayScreen × Option Int} (h : BirthdayPage.Inv day T y)
    (e : BirthdayEvent) : SignUpVC.birthdayPage.SendsShown day T y e := by
  intro q birthday hq hbirthday
  cases e with
  | submit form =>
    simp only [BirthdayPage.sends, birthdayPage, App.sends, Bool.and_eq_true, decide_eq_true_eq] at hq
    split at hq
    · rename_i hchecks
      obtain ⟨photo, -, rfl⟩ := Option.map_eq_some_iff.1 hq
      obtain rfl : y.1.field.birthdayTimestamp = birthday := Option.some.inj hbirthday
      rw [h.text, h.timestamp (by tauto)]
      rfl
    · cases hq
  | pick now value => cases hq
  | app e => cases hq

theorem ProfileVC.sends_submit {s : BirthdayScreen} {form : BirthdayForm} {q : Request}
    (hq : ProfileVC.birthdayPage.sends s (.submit form) = some q) :
    s.field.edtBirthday ≠ "" ∧ q.birthday = some (if s.field.birthdayTimestamp = 0 then
      s.app.session.thisuser.birthday.getD 0 else s.field.birthdayTimestamp) := by
  simp only [BirthdayPage.sends, birthdayPage, App.sends, Bool.and_eq_true, decide_eq_true_eq] at hq
  split at hq
  · rename_i hchecks
    obtain rfl := Option.some.inj hq
    exact ⟨hchecks.2, rfl⟩
  · cases hq

theorem ProfileVC.sendsShown_iff {day : Int → Int} {T : Texts} {y : BirthdayScreen × Option Int}
    (h : BirthdayPage.Inv day T y) (e : BirthdayEvent) :
    ProfileVC.birthdayPage.SendsShown day T y e ↔ ProfileVC.birthdayPage.ShowsStored day y e := by
  cases e with
  | pick now value => exact iff_of_true nofun fun hn => absurd rfl hn
  | app e => exact iff_of_true nofun fun hn => absurd rfl hn
  | submit form =>
    cases hq : ProfileVC.birthdayPage.sends y.1 (.submit form) with
    | none => exact iff_of_true (fun q _ hsome => by cases hq.symm.trans hsome) fun hn => absurd hq hn
    | some q =>
      obtain ⟨hne, hbirthday⟩ := sends_submit hq
      -- a text is shown, so there is an instant behind it
      obtain ⟨t, ht⟩ : ∃ t, y.2 = some t := by
        refine Option.ne_none_iff_exists'.1 fun hnone => hne ?_
        rw [h.text, hnone]
        rfl
      have htext : y.1.field.edtBirthday = T.day (day t) := by
        rw [h.text, ht]
        rfl
      have hsends : ProfileVC.birthdayPage.SendsShown day T y (.submit form) ↔
          day t = day (if y.1.field.birthdayTimestamp = 0 then y.1.app.session.thisuser.birthday.getD 0
            else y.1.field.birthdayTimestamp) := by
        rw [BirthdayPage.SendsShown, ← T.day_injective.eq_iff, ← htext]
        refine ⟨fun hs => hs q _ hq hbirthday, fun hs q' birthday hq' hbirthday' => ?_⟩
        obtain rfl := Option.some.inj (hq.symm.trans hq')
        rwa [← Option.some.inj (hbirthday.symm.trans hbirthday')]
      rw [hsends, BirthdayPage.ShowsStored, hq, ht]
      by_cases hzero : y.1.field.birthdayTimestamp = 0
      · simp [hzero]
      · have hkept := h.timestamp hzero
        rw [ht] at hkept
        simp [hzero, Option.some.inj hkept]

/-- **The birthday sent is the birthday shown**: at a sign-up always, at an update of the profile exactly where the stored birthday
is shown whenever it is sent; and whatever a pick gives on either is more than a year old. -/
theorem birthday_sent_is_shown_iff (day : Int → Int) (T : Texts) (a : App) (es : List BirthdayEvent) :
    Runs.AllSteps (SignUpVC.birthdayPage.noting day T) (SignUpVC.birthdayPage.SendsShown day T) ({ app := a }, none) es ∧
    (∀ now, let opened : BirthdayScreen × Option Int :=
        ({ app := a, field := BirthdayPage.editInit day T now a.session.thisuser },
          if a.session.thisuser.birthday ≠ some 0 then some (a.session.thisuser.birthday.getD now) else none)
      (Runs.AllSteps (ProfileVC.birthdayPage.noting day T) (ProfileVC.birthdayPage.SendsShown day T) opened es ↔
        Runs.AllSteps (ProfileVC.birthdayPage.noting day T) (ProfileVC.birthdayPage.ShowsStored day) opened es)) ∧
    ∀ P ∈ [SignUpVC.birthdayPage, ProfileVC.birthdayPage], ∀ y,
      Runs.AllSteps (P.noting day T) (P.PicksOld day T) y es := by
  refine ⟨?_, fun now => ?_, fun P _ y => ?_⟩
  · have hinit : BirthdayPage.Inv day T ({ app := a }, none) := ⟨rfl, fun hn => absurd rfl hn⟩
    exact Runs.allSteps_of_invariant (BirthdayPage.Inv day T) (fun _ e h _ => h.step e)
      (fun _ e h _ => SignUpVC.sendsShown h e) hinit (Runs.allSteps_trivial _ _ _)
  · refine Runs.allSteps_congr (BirthdayPage.Inv day T) (fun _ e h => h.step e) (fun _ e h => ProfileVC.sendsShown_iff h e) ?_
    refine ⟨?_, fun hn => absurd rfl hn⟩
    simp only [BirthdayPage.editInit]
    split <;> rfl
  · exact Runs.allSteps_of_invariant (fun _ => True) (fun _ _ _ _ => trivial) (fun y e _ _ => BirthdayPage.picksOld y e) trivial
      (Runs.allSteps_trivial _ _ _)

/-- Born in 1990, as the app has it. -/
def bornIn1990 : App :=
  { session := { thisuser := { userId := 7, firstName := some "Ann", lastName := some "Bee", birthday := some 631152000000 } } }

/-- **The day that was accepted is shown, and the stored one is sent**: 1985 is picked and accepted, then a day of this month, which
is refused. -/
theorem refused_pick_sends_stored :
    ¬ Runs.AllSteps (ProfileVC.birthdayPage.noting (· / 86400000) NewTripVC.numbered)
      (ProfileVC.birthdayPage.SendsShown (· / 86400000) NewTripVC.numbered)
      ({ app := bornIn1990, field := BirthdayPage.editInit (· / 86400000) NewTripVC.numbered 0 bornIn1990.session.thisuser },
        some 631152000000)
      [.pick 1600000000000 473385600, .pick 1600000000000 1599000000, .submit ⟨none, "Ann", "Bee", "ann@mail.io", "", "", false⟩] := by
  rintro ⟨-, -, h, -⟩
  have hshown := h (.updateProfile 7 "Ann" "Bee" "" 631152000000 "") 631152000000 (by decide) rfl
  have hdays := NewTripVC.numbered.day_injective hshown
  exact absurd hdays (by decide)

end Traveller
