import Traveller.Birthdays
import Traveller.ChatUploads
import Traveller.Drafts
/-!
# ProfilePage — what the profile page shows and what its button sends

The page has two values it can pick a new one of.  A photo that is picked is shown and written to a file under a drawn name, and
`imageFils` holds the file; a birthday is shown and its instant kept.  Every appearance, and a tap on a language, shows the stored
ones again, and neither forgets what was picked.  A picker that is cancelled forgets the photo and leaves it on the page.  A stored
photo that was still on its way when another was picked is put over it.  And the files are those of the chat's images too.

`Update` sends what was picked, or else what is stored.  The two values are drafts, each step is at most one change of each
(`step_photo`, `step_birthday`), and what is sent is what is shown exactly in the runs without those steps
(`update_sends_what_shows_iff`).
-/
namespace Traveller
open LocalTime

/-- A photo: the one at an address, with the picture that stands for it until it is there, or the one in a file. -/
inductive Photo (α : Type*) where
  | address (userPhoto : String)
  | file (image : Option α)

/-- The profile page in the app: the files under `photo`, the fields, and what `imv_avatar` is to show and waits for. -/
structure ProfileVC (α : Type*) where
  app : App
  files : String → Option α := fun _ => none
  imageFils : List String := []
  imvAvatar : Photo α := .address ""
  webURL : Option String := none
  imageTasks : List String := []
  edtFirstname : String := ""
  edtLastname : String := ""
  edtEmail : String := ""
  field : BirthdayField := {}

/-- What happens to the page: it appears, a button for a language is tapped, a name is typed, the picker gives a photo or is
cancelled, a photo that was asked for comes or fails, another screen saves an image, a birthday is picked, `Update` is tapped.
Dates come with the clock's reading in milliseconds. -/
inductive ProfileEvent (α : Type*) where
  | viewWillAppear (now : Int)
  | languageBtnClicked (now : Int)
  | typed (firstName lastName : String)
  | didSelect (rand : Draw 2) (image : Option α)
  | retrieveImage (i : Nat) (ok : Bool)
  | saveToFile (rand : Draw 2) (image : α)
  | birthdayBtnClicked (now value : Int)
  | updateBtnClicked
  | app (e : AppEvent)

/-- `savedFilePath` in `saveToFile`. -/
def photoPath (documentDirectory : String) (rand : Draw 2) : String :=
  documentDirectory ++ "/photo/" ++ randomString 2 rand ++ ".jpg"

theorem photoPath_ne (documentDirectory : String) (rand : Draw 2) : photoPath documentDirectory rand ≠ "" := by
  intro h
  have hl := congrArg String.length h
  simp [photoPath] at hl

namespace ProfileVC
variable {α : Type*}

section
variable (day : Int → Int) (T : Texts)

/-- The text of the stored birthday, and where there is none, of today. -/
def birthdayText (now : Int) (u : UserModel) : String := (BirthdayPage.editInit day T now u).edtBirthday

/-- Where there is no URL `kf.setImage` forgets the one before; where there is one, what comes for it is shown. -/
def setImage (hasUrl : String → Bool) (userPhoto : String) (x : ProfileVC α) : ProfileVC α :=
  { x with
    imvAvatar := .address userPhoto
    webURL := if hasUrl userPhoto then some userPhoto else none
    imageTasks := if hasUrl userPhoto then x.imageTasks ++ [userPhoto] else x.imageTasks }

def editInit (hasUrl : String → Bool) (now : Int) (x : ProfileVC α) : ProfileVC α :=
  let u := x.app.session.thisuser
  { x.setImage hasUrl (u.userPhoto.getD "") with
    edtFirstname := u.firstName.getD ""
    edtLastname := u.lastName.getD ""
    edtEmail := u.userEmail.getD ""
    field := { x.field with edtBirthday := birthdayText day T now u } }

def gotoUploadProfile (documentDirectory : String) (rand : Draw 2) (image : Option α) (x : ProfileVC α) : ProfileVC α :=
  match image with
  | none => { x with imageFils := [] }
  | some image =>
    { x with
      files := Function.update x.files (photoPath documentDirectory rand) (some image)
      imageFils := [photoPath documentDirectory rand]
      imvAvatar := .file (some image) }

/-- The tap on `Update`, with what the page then holds. -/
def updateBtnClicked (x : ProfileVC α) : AppEvent :=
  .updateBtnClicked (x.imageFils.head?.getD "") x.edtFirstname x.edtLastname x.edtEmail x.field.edtBirthday
    x.field.birthdayTimestamp

/-- The completion of `kf.setImage`: only what came for the last URL is shown. -/
def retrieveImage (i : Nat) (ok : Bool) (x : ProfileVC α) : ProfileVC α :=
  match x.imageTasks[i]? with
  | none => x
  | some url =>
    { x with
      imageTasks := x.imageTasks.eraseIdx i
      imvAvatar := if ok && x.webURL = some url then .address url else x.imvAvatar }

end

section
variable (documentDirectory : String) (hasUrl : String → Bool) (day : Int → Int) (T : Texts)

def step (x : ProfileVC α) : ProfileEvent α → ProfileVC α
  | .viewWillAppear now => if x.app.session.thisuser.isValid then x.editInit day T hasUrl now else x
  | .languageBtnClicked now => x.editInit day T hasUrl now
  | .typed firstName lastName => { x with edtFirstname := firstName, edtLastname := lastName }
  | .didSelect rand image => x.gotoUploadProfile documentDirectory rand image
  | .retrieveImage i ok => x.retrieveImage i ok
  | .saveToFile rand image => { x with files := Function.update x.files (photoPath documentDirectory rand) (some image) }
  | .birthdayBtnClicked now value =>
    if x.app.session.thisuser.isValid then { x with field := BirthdayPage.birthdayBtnClicked day T now value x.field } else x
  | .updateBtnClicked => { x with app := x.app.step x.updateBtnClicked }
  | .app e => { x with app := x.app.step e }

/-- The request of a tap on `Update`. -/
def sends (x : ProfileVC α) : ProfileEvent α → Option Request
  | .updateBtnClicked => x.app.sends x.updateBtnClicked
  | _ => none

/-! ## What is shown and what is sent -/

/-- The photo: shown, picked where there is a file, stored at an address. -/
def photo (x : ProfileVC α) : Draft (Photo α) where
  stored := .address (x.app.session.thisuser.userPhoto.getD "")
  picked := x.imageFils.head?.map fun path => .file (x.files path)
  shown := x.imvAvatar

/-- The birthday, by its text. -/
def birthday (x : ProfileVC α) : Draft String where
  stored := birthdayText day T 0 x.app.session.thisuser
  picked := if x.field.birthdayTimestamp = 0 then none else some (T.day (day x.field.birthdayTimestamp))
  shown := x.field.edtBirthday

/-- **The page shows what `Update` would send.** -/
def ShowsUpdate (x : ProfileVC α) : Prop := x.photo.Faithful ∧ (x.birthday day T).Faithful

/-- **What is sent is what is shown**: the names, a day, and the photo, of which nothing is sent where the stored one is to stay. -/
def SendsShown (x : ProfileVC α) (e : ProfileEvent α) : Prop :=
  ∀ userId firstName lastName userPhoto birthday phoneNumber,
    x.sends e = some (.updateProfile userId firstName lastName userPhoto birthday phoneNumber) →
      firstName = x.edtFirstname ∧ lastName = x.edtLastname ∧ x.field.edtBirthday = T.day (day birthday) ∧
      x.imvAvatar = if userPhoto = "" then .address (x.app.session.thisuser.userPhoto.getD "") else .file (x.files userPhoto)

/-- The step leaves the photo picked, or none was: none is shown again over it, taken back, or put over its file. -/
def PhotoKept (x : ProfileVC α) : ProfileEvent α → Prop
  | .viewWillAppear _ => x.app.session.thisuser.isValid = true → x.imageFils = []
  | .languageBtnClicked _ | .didSelect _ none => x.imageFils = []
  | .retrieveImage i ok =>
    ∀ url, x.imageTasks[i]? = some url → ok = true → x.webURL = some url →
      x.imageFils = [] ∧ url = x.app.session.thisuser.userPhoto.getD ""
  | .saveToFile rand image =>
    x.imageFils.head? = some (photoPath documentDirectory rand) → x.files (photoPath documentDirectory rand) = some image
  | .app e =>
    x.imageFils = [] →
      (x.app.step e).session.thisuser.userPhoto.getD "" = x.app.session.thisuser.userPhoto.getD ""
  | .typed .. | .didSelect _ (some _) | .birthdayBtnClicked .. | .updateBtnClicked => True

/-- The step shows no other day than the one that is sent then. -/
def BirthdayKept (x : ProfileVC α) : ProfileEvent α → Prop
  | .viewWillAppear now =>
    x.app.session.thisuser.isValid = true → birthdayText day T now x.app.session.thisuser = (x.birthday day T).sent
  | .languageBtnClicked now => birthdayText day T now x.app.session.thisuser = (x.birthday day T).sent
  | .birthdayBtnClicked now value =>
    x.app.session.thisuser.isValid = true →
      if BirthdayPage.Refused now value then
        x.field.birthdayTimestamp ≠ 0 →
          T.day (day x.field.birthdayTimestamp) = birthdayText day T 0 x.app.session.thisuser
      else value = 0 → T.day (day 0) = birthdayText day T 0 x.app.session.thisuser
  | .app e =>
    x.field.birthdayTimestamp = 0 →
      birthdayText day T 0 (x.app.step e).session.thisuser = birthdayText day T 0 x.app.session.thisuser
  | .typed .. | .didSelect .. | .retrieveImage .. | .saveToFile .. | .updateBtnClicked => True

/-! ## Each step is at most one change of each -/

def photoChange (x : ProfileVC α) : ProfileEvent α → Option (Draft.Change (Photo α))
  | .viewWillAppear _ => if x.app.session.thisuser.isValid then some (.redraw x.photo.stored) else none
  | .languageBtnClicked _ => some (.redraw x.photo.stored)
  | .didSelect _ none => some .discard
  | .didSelect _ (some image) => some (.pick (.file (some image)))
  | .retrieveImage i ok =>
    x.imageTasks[i]?.bind fun url => if ok && x.webURL = some url then some (.redraw (.address url)) else none
  | .saveToFile rand image =>
    if x.imageFils.head? = some (photoPath documentDirectory rand) then some (.amend (.file (some image))) else none
  | .app e => some (.reload (.address ((x.app.step e).session.thisuser.userPhoto.getD "")))
  | .typed .. | .birthdayBtnClicked .. | .updateBtnClicked => none

def birthdayChange (x : ProfileVC α) : ProfileEvent α → Option (Draft.Change String)
  | .viewWillAppear now =>
    if x.app.session.thisuser.isValid then some (.redraw (birthdayText day T now x.app.session.thisuser)) else none
  | .languageBtnClicked now => some (.redraw (birthdayText day T now x.app.session.thisuser))
  | .birthdayBtnClicked now value =>
    if x.app.session.thisuser.isValid then
      some (if BirthdayPage.Refused now value then .discard
        else if value = 0 then .replace (T.day (day 0)) else .pick (T.day (day (value * 1000))))
    else none
  | .app e => some (.reload (birthdayText day T 0 (x.app.step e).session.thisuser))
  | .typed .. | .didSelect .. | .retrieveImage .. | .saveToFile .. | .updateBtnClicked => none

end

section Steps
variable {documentDirectory : String} {hasUrl : String → Bool} {day : Int → Int} {T : Texts} {x : ProfileVC α}

/-- A tap sends or does not; the session stays. -/
theorem session_updateBtnClicked (x : ProfileVC α) : (x.app.step x.updateBtnClicked).session = x.app.session := by
  simp only [App.step, updateBtnClicked]
  split
  · rfl
  · split <;> rfl

theorem step_photo (x : ProfileVC α) (e : ProfileEvent α) :
    (x.step documentDirectory hasUrl day T e).photo = x.photo.changed (x.photoChange documentDirectory e) := by
  cases e with
  | viewWillAppear now =>
    simp only [step, photoChange]
    split <;> rfl
  | languageBtnClicked now => rfl
  | typed firstName lastName => rfl
  | didSelect rand image =>
    cases image with
    | none => rfl
    | some image => simp [step, gotoUploadProfile, photoChange, photo, Draft.changed, Draft.apply]
  | retrieveImage i ok =>
    simp only [step, retrieveImage, photoChange]
    cases hi : x.imageTasks[i]? with
    | none => rfl
    | some url =>
      simp only [Option.bind_some]
      split <;> rfl
  | saveToFile rand image =>
    simp only [step, photoChange]
    split
    · rename_i hpath
      simp [photo, Draft.changed, Draft.apply, hpath]
    · rename_i hpath
      cases hfils : x.imageFils.head? with
      | none => simp [photo, Draft.changed, hfils]
      | some path =>
        have hne : path ≠ photoPath documentDirectory rand := fun h => hpath (h ▸ hfils)
        simp [photo, Draft.changed, hfils, Function.update_of_ne hne]
  | birthdayBtnClicked now value =>
    simp only [step, photoChange]
    split <;> rfl
  | updateBtnClicked => simp [step, photo, photoChange, Draft.changed, session_updateBtnClicked]
  | app e => rfl

theorem step_birthday (x : ProfileVC α) (e : ProfileEvent α) :
    (x.step documentDirectory hasUrl day T e).birthday day T = (x.birthday day T).changed (x.birthdayChange day T e) := by
  cases e with
  | viewWillAppear now =>
    simp only [step, birthdayChange]
    split <;> rfl
  | languageBtnClicked now => rfl
  | typed firstName lastName => rfl
  | didSelect rand image => cases image <;> rfl
  | retrieveImage i ok =>
    simp only [step, retrieveImage, birthdayChange]
    cases x.imageTasks[i]? <;> rfl
  | saveToFile rand image => rfl
  | birthdayBtnClicked now value =>
    simp only [step, birthdayChange, BirthdayPage.birthdayBtnClicked]
    by_cases hvalid : x.app.session.thisuser.isValid = true
    · by_cases hrefused : BirthdayPage.Refused now value
      · simp [hvalid, hrefused, birthday, Draft.changed, Draft.apply]
      · rcases eq_or_ne value 0 with rfl | hzero
        · simp [hvalid, hrefused, birthday, Draft.changed, Draft.apply]
        · simp [hvalid, hrefused, hzero, birthday, Draft.changed, Draft.apply]
    · simp [hvalid, Draft.changed]
  | updateBtnClicked =>
    simp only [step, birthday, session_updateBtnClicked]
    rfl
  | app e => rfl

/-- A file is at no address, so the stored photo is what is sent exactly where none was picked. -/
theorem address_eq_sent_iff (userPhoto : String) :
    .address userPhoto = x.photo.sent ↔ x.imageFils = [] ∧ userPhoto = x.app.session.thisuser.userPhoto.getD "" := by
  cases hfils : x.imageFils with
  | nil => simp [photo, Draft.sent, hfils]
  | cons path paths => simp [photo, Draft.sent, hfils]

theorem keeps_photoChange_iff (e : ProfileEvent α) :
    (∀ c ∈ x.photoChange documentDirectory e, x.photo.Keeps c) ↔ x.PhotoKept documentDirectory e := by
  have hredraw : x.photo.stored = x.photo.sent ↔ x.imageFils = [] :=
    (address_eq_sent_iff _).trans (and_iff_left rfl)
  cases e with
  | viewWillAppear now => by_cases hvalid : x.app.session.thisuser.isValid = true <;>
      simp [photoChange, PhotoKept, Draft.Keeps, hvalid, hredraw]
  | languageBtnClicked now => simp [photoChange, PhotoKept, Draft.Keeps, hredraw]
  | typed firstName lastName => simp [photoChange, PhotoKept]
  | didSelect rand image =>
    cases image with
    | none => cases hfils : x.imageFils <;> simp [photoChange, PhotoKept, Draft.Keeps, photo, hfils]
    | some image => simp [photoChange, PhotoKept, Draft.Keeps]
  | retrieveImage i ok =>
    cases hi : x.imageTasks[i]? with
    | none => simp [photoChange, PhotoKept, hi]
    | some url =>
      by_cases hok : ok = true <;> by_cases hurl : x.webURL = some url <;>
        simp [photoChange, PhotoKept, Draft.Keeps, hi, hok, hurl, address_eq_sent_iff]
  | saveToFile rand image =>
    by_cases hpath : x.imageFils.head? = some (photoPath documentDirectory rand) <;>
      simp [photoChange, PhotoKept, Draft.Keeps, photo, hpath]
  | birthdayBtnClicked now value => simp [photoChange, PhotoKept]
  | updateBtnClicked => simp [photoChange, PhotoKept]
  | app e => simp [photoChange, PhotoKept, Draft.Keeps, photo]

theorem keeps_birthdayChange_iff (e : ProfileEvent α) :
    (∀ c ∈ x.birthdayChange day T e, (x.birthday day T).Keeps c) ↔ x.BirthdayKept day T e := by
  cases e with
  | viewWillAppear now => by_cases hvalid : x.app.session.thisuser.isValid = true <;>
      simp [birthdayChange, BirthdayKept, Draft.Keeps, hvalid]
  | languageBtnClicked now => simp [birthdayChange, BirthdayKept, Draft.Keeps]
  | typed firstName lastName => simp [birthdayChange, BirthdayKept]
  | didSelect rand image => simp [birthdayChange, BirthdayKept]
  | retrieveImage i ok => simp [birthdayChange, BirthdayKept]
  | saveToFile rand image => simp [birthdayChange, BirthdayKept]
  | birthdayBtnClicked now value =>
    by_cases hvalid : x.app.session.thisuser.isValid = true
    · by_cases hrefused : BirthdayPage.Refused now value
      · by_cases hzero : x.field.birthdayTimestamp = 0 <;>
          simp [birthdayChange, BirthdayKept, Draft.Keeps, birthday, hvalid, hrefused, hzero]
      · rcases eq_or_ne value 0 with rfl | hzero
        · simp [birthdayChange, BirthdayKept, Draft.Keeps, birthday, hvalid, hrefused]
        · simp [birthdayChange, BirthdayKept, Draft.Keeps, hvalid, hrefused, hzero]
    · simp [birthdayChange, BirthdayKept, hvalid]
  | updateBtnClicked => simp [birthdayChange, BirthdayKept]
  | app e => simp [birthdayChange, BirthdayKept, Draft.Keeps, birthday]

/-- **A step from a page that shows what it would send.** -/
theorem showsUpdate_step_iff (h : x.ShowsUpdate day T) (e : ProfileEvent α) :
    (x.step documentDirectory hasUrl day T e).ShowsUpdate day T ↔
      x.PhotoKept documentDirectory e ∧ x.BirthdayKept day T e := by
  rw [ShowsUpdate, step_photo, step_birthday, Draft.faithful_changed_iff h.1, Draft.faithful_changed_iff h.2,
    keeps_photoChange_iff, keeps_birthdayChange_iff]

/-- The files picked have names. -/
def Named (x : ProfileVC α) : Prop := ∀ path ∈ x.imageFils, path ≠ ""

theorem Named.step (h : x.Named) (e : ProfileEvent α) : (x.step documentDirectory hasUrl day T e).Named := by
  cases e with
  | viewWillAppear now =>
    simp only [ProfileVC.step]
    split <;> exact h
  | didSelect rand image =>
    cases image with
    | none => exact fun path hpath => absurd hpath List.not_mem_nil
    | some image =>
      intro path hpath
      obtain rfl := List.mem_singleton.1 hpath
      exact photoPath_ne documentDirectory rand
  | retrieveImage i ok =>
    simp only [ProfileVC.step, retrieveImage]
    split <;> exact h
  | birthdayBtnClicked now value =>
    simp only [ProfileVC.step]
    split <;> exact h
  | languageBtnClicked now | typed firstName lastName | saveToFile rand image | updateBtnClicked | app e => exact h

/-- What is shown where a birthday is sent is its day. -/
theorem edtBirthday_of_sends (h : (x.birthday day T).Faithful) (hne : x.field.edtBirthday ≠ "") :
    x.field.edtBirthday = T.day (day (if x.field.birthdayTimestamp = 0 then x.app.session.thisuser.birthday.getD 0
      else x.field.birthdayTimestamp)) := by
  have hshown : x.field.edtBirthday = (x.birthday day T).sent := h
  by_cases hzero : x.field.birthdayTimestamp = 0
  · simp only [birthday, Draft.sent, hzero, if_true, Option.getD_none, birthdayText, BirthdayPage.editInit] at hshown
    rw [if_pos hzero]
    split at hshown
    · exact hshown
    · exact absurd hshown hne
  · simpa [birthday, Draft.sent, hzero] using hshown

/-- **A page that shows what it would send sends what it shows.** -/
theorem sends_shown (h : x.ShowsUpdate day T) (hnamed : x.Named) (e : ProfileEvent α) : x.SendsShown day T e := by
  intro userId firstName lastName userPhoto birthday phoneNumber hq
  cases e with
  | updateBtnClicked =>
    simp only [sends, updateBtnClicked, App.sends, Bool.and_eq_true, decide_eq_true_eq] at hq
    split at hq
    · rename_i hchecks
      injection hq with hq
      injection hq with huser hfirst hlast hphoto hbirthday hphone
      refine ⟨hfirst.symm, hlast.symm, hbirthday ▸ edtBirthday_of_sends h.2 hchecks.2, ?_⟩
      have hshown : x.imvAvatar = x.photo.sent := h.1
      rw [hshown, ← hphoto]
      cases hfils : x.imageFils with
      | nil => simp [photo, Draft.sent, hfils]
      | cons path paths => simp [photo, Draft.sent, hfils, hnamed path (hfils ▸ List.mem_cons_self)]
    · cases hq
  | _ => cases hq

/-- The page at its first appearance. -/
theorem showsUpdate_opened {a : App} (files : String → Option α) (hvalid : a.session.thisuser.isValid = true)
    (hbirthday : a.session.thisuser.birthday ≠ none) (now : Int) :
    (({ app := a, files := files } : ProfileVC α).step documentDirectory hasUrl day T (.viewWillAppear now)).ShowsUpdate
      day T := by
  obtain ⟨t, ht⟩ := Option.ne_none_iff_exists'.1 hbirthday
  simp only [step, hvalid, if_true]
  refine ⟨rfl, ?_⟩
  simp [editInit, setImage, birthday, Draft.Faithful, Draft.sent, birthdayText, BirthdayPage.editInit, ht]

end Steps

/-- **`Update` sends what the page shows**: from its first appearance on the page shows what it would send in exactly the runs in
which nothing is shown over a pick, no pick is taken back while it stays on the page, no other image takes its file, and what is
stored and shown stays stored; and in these whatever is sent is what is shown. -/
theorem update_sends_what_shows_iff (documentDirectory : String) (hasUrl : String → Bool) (day : Int → Int) (T : Texts) {a : App}
    (files : String → Option α) (hvalid : a.session.thisuser.isValid = true)
    (hbirthday : a.session.thisuser.birthday ≠ none) (now : Int) (es : List (ProfileEvent α)) :
    let opened := ({ app := a, files := files } : ProfileVC α).step documentDirectory hasUrl day T (.viewWillAppear now)
    (Runs.AllStates (step documentDirectory hasUrl day T) (ShowsUpdate day T) opened es ↔
      Runs.AllSteps (step documentDirectory hasUrl day T)
        (fun x e => x.PhotoKept documentDirectory e ∧ x.BirthdayKept day T e) opened es) ∧
    (Runs.AllStates (step documentDirectory hasUrl day T) (ShowsUpdate day T) opened es →
      Runs.AllSteps (step documentDirectory hasUrl day T) (SendsShown day T) opened es) := by
  intro opened
  have hopened : opened.ShowsUpdate day T := showsUpdate_opened files hvalid hbirthday now
  have hnamed : opened.Named := Named.step (fun _ h => absurd h List.not_mem_nil) _
  have hiff := Runs.allStates_iff_allSteps (ShowsUpdate day T) (fun x e h _ hok => (showsUpdate_step_iff h e).2 hok) (fun _ h => h)
    (fun x e h _ hnot hq => hnot ((showsUpdate_step_iff h e).1 hq)) hopened
    (Runs.allSteps_trivial (step documentDirectory hasUrl day T) opened es)
  refine ⟨hiff, fun hall => ?_⟩
  exact Runs.allSteps_of_invariant (fun x : ProfileVC α => x.ShowsUpdate day T ∧ x.Named)
    (fun x e h hok => ⟨(showsUpdate_step_iff h.1 e).2 hok, h.2.step e⟩) (fun x e h _ => sends_shown h.1 h.2 e)
    ⟨hopened, hnamed⟩ (hiff.1 hall)

/-- Logged in, with a photo and a birthday in 1990. -/
def ann : App :=
  { session :=
    { thisuser :=
      { userId := 7, firstName := some "Ann", lastName := some "Bee", userEmail := some "ann@mail.io",
        userPhoto := some "https://host/ann.jpg", birthday := some 631152000000 } } }

theorem letters_pos : 0 < letters.length := Nat.lt_of_lt_of_eq (Nat.succ_pos 61) letters_length.symm

/-- A name's letters. -/
def aa : Draw 2 := fun _ => ⟨0, letters_pos⟩

/-- The stored photo comes, another one is picked and a birthday, and both are sent. -/
theorem update_sends_what_shows_iff_picked :
    Runs.AllSteps (step "/Documents" (· ≠ "") (· / 86400000) NewTripVC.numbered)
      (SendsShown (α := String) (· / 86400000) NewTripVC.numbered)
      (step "/Documents" (· ≠ "") (· / 86400000) NewTripVC.numbered { app := ann } (.viewWillAppear 0))
      [.retrieveImage 0 true, .didSelect aa (some "beach"), .birthdayBtnClicked 1600000000000 473385600,
        .updateBtnClicked] := by
  have hruns := update_sends_what_shows_iff (α := String) "/Documents" (· ≠ "") (· / 86400000) NewTripVC.numbered
    (fun _ => none) (a := ann) (by decide) (by decide) 0
    [.retrieveImage 0 true, .didSelect aa (some "beach"), .birthdayBtnClicked 1600000000000 473385600,
      .updateBtnClicked]
  refine hruns.2 (hruns.1.2 ⟨⟨?_, trivial⟩, ⟨trivial, trivial⟩, ⟨trivial, fun _ => ?_⟩, ⟨trivial, trivial⟩, trivial⟩)
  · rintro url hurl - -
    exact ⟨rfl, (Option.some.inj hurl).symm⟩
  · rw [if_neg (by decide)]
    exact fun hzero => absurd hzero (by decide)

/-- A photo that is picked and no longer shown is sent: the page appears again in between. -/
example :
    let x := Runs.run (step (α := String) "/Documents" (· ≠ "") (· / 86400000) NewTripVC.numbered) { app := ann }
      [.viewWillAppear 0, .didSelect aa (some "beach"), .viewWillAppear 0]
    (x.sends .updateBtnClicked).isSome = true ∧ x.imvAvatar = .address "https://host/ann.jpg" ∧
      x.imageFils = ["/Documents/photo/aa.jpg"] ∧ x.files "/Documents/photo/aa.jpg" = some "beach" :=
  ⟨by decide, rfl, by decide, by decide⟩

end ProfileVC
end Traveller
