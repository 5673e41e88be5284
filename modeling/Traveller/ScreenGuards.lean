import Traveller.ChatRecords
import Traveller.Runs
import Traveller.SessionApi
/-!
# ScreenGuards — who may change anything

`thisuser.isValid` is asked at the entrance of some screens and in some handlers and left to the others.  `Nav` is the app
with the screen in front: what is offered there, where it leads, and the chat sends under way.  A guest gets as far as
`RateUserVC`, whose `reviewBtnClicked` asks nothing.  `guarded_of_decent`: nothing else lets a guest change anything, as long
as no session ends under a chat send or under a screen that was opened with it.
-/
namespace Traveller

inductive Tab where
  | search | myTrip | chat | rating | profile
  deriving DecidableEq, Repr

inductive VC where
  | splashVC | loginVC | emailLoginVC | signUpVC | forgotVC
  | searchVC | myTripVC | chatVC | ratingVC | profileVC
  | tripDetailVC | rateUserVC | newTripVC | myTripDetail | messageSendVC
  deriving DecidableEq, Repr

def Tab.root : Tab → VC
  | search => .searchVC
  | myTrip => .myTripVC
  | chat => .chatVC
  | rating => .ratingVC
  | profile => .profileVC

/-- One `TabBarVC`: the screens pushed on each tab, the tabs whose rows are there, and the reply dialog of `RatingVC`. -/
structure Tabs where
  selected : Tab := .search
  pushed : Tab → List VC := fun _ => []
  rows : Tab → Bool := fun _ => false
  replying : Bool := false

namespace Tabs

def top (t : Tabs) : VC := (t.pushed t.selected).headD t.selected.root

/-- `viewWillAppear` of the screen on top.  A guest sees no rows of his own: the trips' tables get no height, the reviews'
table is hidden and the chat's observer is not set. -/
def appear (valid : Bool) (t : Tabs) : Tabs :=
  match t.top with
  | .myTripVC => { t with rows := Function.update t.rows .myTrip valid }
  | .chatVC => { t with rows := Function.update t.rows .chat (t.rows .chat || valid) }
  | .ratingVC => { t with rows := Function.update t.rows .rating valid, replying := false }
  | _ => t

def push (s : VC) (t : Tabs) : Tabs := { t with pushed := Function.update t.pushed t.selected (s :: t.pushed t.selected) }

def pop (t : Tabs) : Tabs := { t with pushed := Function.update t.pushed t.selected (t.pushed t.selected).tail }

/-- What the screen on top pushes.  `newTripBtnClicked` asks for a user; rows lead on without asking. -/
def pushes (valid : Bool) (t : Tabs) : VC → Bool
  | .tripDetailVC => t.top = .searchVC
  | .rateUserVC => t.top = .searchVC || t.top = .chatVC && t.rows .chat
  | .newTripVC => t.top = .myTripVC && valid
  | .myTripDetail => t.top = .myTripVC && t.rows .myTrip
  | _ => false

end Tabs

/-- What is in front: a screen of its own, or a tab bar. -/
inductive Front where
  | screen (s : VC)
  | tabBarVC (t : Tabs)

def Front.is (s : VC) : Front → Bool
  | screen s' => s' = s
  | tabBarVC _ => false

def Front.shows (s : VC) : Front → Bool
  | screen _ => false
  | tabBarVC t => t.top = s

def VC.outside : VC → Bool
  | splashVC | loginVC | emailLoginVC | signUpVC | forgotVC => true
  | _ => false

def Front.outside : Front → Bool
  | screen s => s.outside
  | tabBarVC _ => false

/-- What a chat send waits for: the partner's status, or one of its writes. -/
inductive ChatWait where
  | status
  | write (stage : Stage)
  deriving DecidableEq, Repr

def ChatWait.next : ChatWait → Option Stage
  | status => some .message
  | write stage => stage.next

structure Nav where
  app : App := {}
  front : Front := .screen .splashVC
  /-- `setLogin`'s second is running. -/
  entering : Bool := false
  chats : List ChatWait := []

/-- What the user does on the screen in front, and what comes from outside.  `app` is a handler of the screen, a launch or a
reconnection; in a reply, `inFront` says whether the screen that sent the request is still the one in front, so that it can
present another.  The alert of `showLoginAlert` may be older than a login that landed under it. -/
inductive NavEvent where
  | app (e : AppEvent)
  | reply (i : Nat) (r : Option Reply) (now : Int) (inFront : Bool)
  | guestEnters
  | goto (s : VC)
  | select (tab : Tab)
  | push (s : VC)
  | pop
  | loginAlertOk
  | didSelectReview
  | closeReply
  | didSelectItemAt
  | addTappedLeftBtn
  | sendAction
  | changeMessage
  | changeChatList
  | sendBtnClicked (msg : String)
  | settle (i : Nat) (goesOn : Bool)

def NavEvent.taps : NavEvent → Bool
  | .app _ | .reply .. => false
  | _ => true

namespace Nav

def valid (w : Nav) : Bool := w.app.session.thisuser.isValid

/-- The handlers of `AppEvent`, by the screens they are on. -/
def offers (w : Nav) : AppEvent → Bool
  | .launch _ | .connect _ => true
  | .checkBackgrouond => w.front.is .splashVC
  | .loginBtnClicked .. => w.front.is .emailLoginVC
  | .signupBtnClicked .. => w.front.is .signUpVC
  | .socialLogin .. | .loginWithGuest _ => w.front.is .loginVC
  | .sendNewPwd .. => w.front.is .forgotVC
  | .ratingAppears => w.front.shows .ratingVC
  | .saveBtnClicked _ => w.front.shows .newTripVC
  | .upateTripBtnClicked .. | .deleteTripConfirmed _ => w.front.shows .myTripDetail
  | .reviewBtnClicked .. => w.front.shows .rateUserVC
  | .replyBtnClicked .. =>
    match w.front with
    | .tabBarVC t => t.top = .ratingVC && t.replying
    | _ => false
  | .updateBtnClicked .. | .changeBtnClicked .. | .logoutBtnClicked _ => w.front.shows .profileVC
  | .reply .. => false

def leads : VC → VC → Bool
  | .loginVC, .emailLoginVC | .loginVC, .signUpVC => true
  | .emailLoginVC, .loginVC | .emailLoginVC, .forgotVC => true
  | .signUpVC, .loginVC | .forgotVC, .emailLoginVC => true
  | _, _ => false

/-- `gotoTabControllerWithIndex`, and a tab bar put in place of everything. -/
def gotoTab (tab : Tab) (w : Nav) : Nav := { w with front := .tabBarVC (({ selected := tab } : Tabs).appear w.valid) }

def afterApp (w : Nav) (e : AppEvent) : Nav :=
  match e with
  | .launch _ => { app := w.app.step e }
  | .checkBackgrouond =>
    { w with app := w.app.step e, front := if (w.app.sends e).isSome then w.front else .screen .loginVC }
  | .loginWithGuest _ => { w with app := w.app.step e, entering := true }
  | .logoutBtnClicked _ => { w with app := w.app.step e, front := .screen .loginVC }
  | e => { w with app := w.app.step e }

/-- The completions of the logins go to the tab bar, `SplashVC`'s to the login screen when it fails. -/
def afterReply (w : Nav) (i : Nat) (r : Option Reply) (now : Int) (inFront : Bool) : Nav :=
  let w' := { w with app := w.app.step (.reply i r now) }
  match w.app.requests[i]?, w.front with
  | some (_, q), .screen s =>
    if q.logsIn && inFront then
      match (q.reply now w.app.session r).completion with
      | some true => w'.gotoTab .search
      | some false => if s = .splashVC then { w' with front := .screen .loginVC } else w'
      | none => w'
    else w'
  | _, _ => w'

def onTabs (w : Nav) (t : Tabs) : NavEvent → Nav
  | .select tab => { w with front := .tabBarVC ({ t with selected := tab }.appear w.valid) }
  | .push s => if t.pushes w.valid s then { w with front := .tabBarVC (t.push s) } else w
  | .pop => { w with front := .tabBarVC (t.pop.appear w.valid) }
  | .loginAlertOk => { w with front := .screen .loginVC }
  | .didSelectReview =>
    if t.top = .ratingVC && t.rows .rating then { w with front := .tabBarVC { t with replying := true } } else w
  | .closeReply => { w with front := .tabBarVC { t with replying := false } }
  | .didSelectItemAt => if t.top = .chatVC && t.rows .chat then { w with front := .screen .messageSendVC } else w
  | _ => w

/-- The first write of a send from the trip screen: `sendBtnClicked` asks for a user and a text. -/
def tripSends (w : Nav) (msg : String) : Bool := w.front.shows .tripDetailVC && w.valid && TripDetailVC.accepts msg

def act (w : Nav) (e : NavEvent) : Nav :=
  match e with
  | .app e => if w.offers e then w.afterApp e else w
  | .reply i r now inFront => w.afterReply i r now inFront
  | .guestEnters =>
    match w.entering, w.front with
    | true, .screen .loginVC => { w with entering := false }.gotoTab .search
    | _, _ => { w with entering := false }
  | .goto s =>
    match w.front with
    | .screen s' => if leads s' s then { w with front := .screen s } else w
    | .tabBarVC _ => w
  | .addTappedLeftBtn => if w.front.is .messageSendVC then w.gotoTab .chat else w
  | .sendAction => if w.front.is .messageSendVC then { w with chats := w.chats ++ [.status] } else w
  | .sendBtnClicked msg => if w.tripSends msg then { w with chats := w.chats ++ [.write .message] } else w
  | .settle i goesOn =>
    match w.chats[i]? with
    | none => w
    | some c => { w with chats := w.chats.eraseIdx i ++ if goesOn then (c.next.map ChatWait.write).toList else [] }
  | e =>
    match w.front with
    | .tabBarVC t => w.onTabs t e
    | .screen _ => w

def step (w : Nav) (e : NavEvent) : Nav :=
  match e with
  | .app (.launch now) => w.afterApp (.launch now)
  | e => if w.app.trapped then w else w.act e

/-- A device at the first launch of the run, with what an earlier one stored. -/
def start (stored : UserDefaults) (now : Int) : Nav :=
  ({ app := { session := { defaults := stored } } } : Nav).afterApp (.launch now)

end Nav

/-! ## What changes something -/

/-- The user a mutating request names. -/
def Request.author : Request → Option Int
  | updateProfile userId .. | changePassword userId _ | createTravel userId _ | updateMyTrips userId .. |
    deleteMyTrips userId _ | giveReview _ userId .. | replyReview userId .. => some userId
  | _ => none

namespace Nav

def request (w : Nav) : NavEvent → Option Request
  | .app e => if w.offers e && !w.app.trapped then w.app.sends e else none
  | _ => none

/-- **The step issues a write of a message or of a chat list.** -/
def writes (w : Nav) (e : NavEvent) : Bool :=
  !w.app.trapped &&
    match e with
    | .changeMessage => w.front.is .messageSendVC
    | .changeChatList =>
      match w.front with
      | .tabBarVC t => t.top = .chatVC && t.rows .chat
      | _ => false
    | .sendBtnClicked msg => w.tripSends msg
    | .settle i goesOn => goesOn && (w.chats[i]?.bind ChatWait.next).isSome
    | _ => false

/-- **Only a user changes anything**: what the step sends or writes, it does for a valid user, and names him. -/
def Guarded (w : Nav) (e : NavEvent) : Prop :=
  (∀ q, w.request e = some q → ∀ author, q.author = some author → w.valid = true ∧ author ≠ -1) ∧
    (w.writes e = true → w.valid = true)

end Nav

/-- A reply that leaves nobody logged in: a user with the id of nobody, or a social login without one. -/
def Request.endsSession (r : Option Reply) : Request → Bool
  | socialLogin .. =>
    r.any fun r => r.message = "success" && r.userInfo.any fun users => users.head?.all fun user => user.id = -1
  | signin .. | signup .. | updateProfile .. =>
    r.any fun r => r.message = "success" && r.userInfo.any fun users => users.head?.any fun user => user.id = -1
  | _ => false

namespace Nav

/-- **Decent steps**: no review by a guest; no session ends under a chat send, nor by a reply under a tab bar or a chat. -/
def Decent (w : Nav) : NavEvent → Prop
  | .app e =>
    match e with
    | .reviewBtnClicked .. => (w.request (.app e)).isSome = true → w.valid = true
    | .loginWithGuest _ | .logoutBtnClicked _ => w.offers e = true → w.chats = []
    | _ => True
  | .reply i r _ _ => w.app.requests[i]?.any (fun q => q.2.endsSession r) = true → w.chats = [] ∧ w.front.outside = true
  | _ => True

/-! ## The session under the screens -/

end Nav

namespace Request
variable {now : Int} {s : Session} {r : Option Reply} {q : Request}

/-- **What a reply does to the user**: he stays, or a trap ends the app, or the reply ends his session, or there is one. -/
theorem reply_userId (h : s.Stored) :
    (q.reply now s r).session.Stored ∧
      ((q.reply now s r).session.thisuser.userId = s.thisuser.userId ∨ (q.reply now s r).trapped = true ∨
        q.endsSession r = true ∨ (q.reply now s r).session.thisuser.isValid = true) := by
  cases r with
  | none => cases q <;> exact ⟨h, .inl rfl⟩
  | some r =>
    by_cases hm : r.message = "success"
    case neg =>
      have hs : (q.reply now s (some r)).session = s := by
        cases q <;>
          simp [reply, signinReply, socialReply, updateProfileReply, passwordReply, getReviewReply, answered, hm]
      rw [hs]
      exact ⟨h, .inl rfl⟩
    cases q with
    | signin | signup | updateProfile =>
      simp only [reply, signinReply, updateProfileReply, answered, if_pos hm, takeUser, endsSession, Option.any_some]
      match hu : r.userInfo with
      | none => exact ⟨h, .inl rfl⟩
      | some [] => exact ⟨rfl, .inr (.inl rfl)⟩
      | some (user :: users) =>
        refine ⟨rfl, .inr (.inr ?_)⟩
        by_cases hid : user.id = -1
        · exact .inl (by simp [hm, hid])
        · exact .inr (UserModel.isValid_iff.2 hid)
    | socialLogin =>
      simp only [reply, socialReply, answered, if_pos hm, endsSession, Option.any_some]
      match hu : r.userInfo with
      | none => exact ⟨h, .inl rfl⟩
      | some [] => exact ⟨rfl, .inr (.inr (.inl (by simp [hm])))⟩
      | some (user :: users) =>
        refine ⟨rfl, .inr (.inr ?_)⟩
        by_cases hid : user.id = -1
        · exact .inl (by simp [hm, hid])
        · exact .inr (UserModel.isValid_iff.2 hid)
    | changePassword | resetPassword =>
      simp only [reply, passwordReply, answered, if_pos hm]
      exact ⟨rfl, .inl (h.refresh_userId now _)⟩
    | getReview =>
      simp only [reply, getReviewReply, answered, if_pos hm]
      exact ⟨rfl, .inl (h.refresh_userId now _)⟩
    | createTravel | updateMyTrips | deleteMyTrips | giveReview | replyReview =>
      simp only [reply, answered, if_pos hm]
      exact ⟨h, .inl trivial⟩

end Request

theorem App.sends_author {a : App} {e : AppEvent} {q : Request} {author : Int} (h : a.sends e = some q)
    (hq : q.author = some author) : author = a.session.thisuser.userId := by
  cases e <;> simp only [App.sends, App.checkBackgrouond] at h <;> grind [Request.author, Option.map_eq_some_iff]

/-! ## The screens a guest is on -/

/-- Screens that were opened without a user: no rows, no reply dialog, nothing pushed but a trip or a user's page. -/
structure Tabs.Clean (t : Tabs) : Prop where
  rows : ∀ tab, t.rows tab = false
  replying : t.replying = false
  pushed : ∀ tab, ∀ s ∈ t.pushed tab, s = .tripDetailVC ∨ s = .rateUserVC

def Front.Clean : Front → Prop
  | screen s => s.outside = true
  | tabBarVC t => t.Clean

namespace Tabs

theorem clean_new (tab : Tab) : ({ selected := tab } : Tabs).Clean := ⟨fun _ => rfl, rfl, fun _ _ hs => absurd hs List.not_mem_nil⟩

variable {t : Tabs}

theorem Clean.select (h : t.Clean) (tab : Tab) : ({ t with selected := tab } : Tabs).Clean := ⟨h.rows, h.replying, h.pushed⟩

theorem update_rows_false {rows : Tab → Bool} (h : ∀ tab, rows tab = false) (tab : Tab) :
    Function.update rows tab false = rows := by
  rw [← h tab, Function.update_eq_self]

theorem Clean.appear (h : t.Clean) : (t.appear false).Clean := by
  unfold Tabs.appear
  split
  · exact ⟨by rw [update_rows_false h.rows]; exact h.rows, h.replying, h.pushed⟩
  · refine ⟨?_, h.replying, h.pushed⟩
    rw [h.rows, Bool.or_false, update_rows_false h.rows]
    exact h.rows
  · exact ⟨by rw [update_rows_false h.rows]; exact h.rows, rfl, h.pushed⟩
  · exact h

theorem clean_search (valid : Bool) : (({ selected := .search } : Tabs).appear valid).Clean := clean_new .search

theorem Clean.update (h : t.Clean) {stack : List VC} (hs : ∀ s ∈ stack, s = .tripDetailVC ∨ s = .rateUserVC) :
    ({ t with pushed := Function.update t.pushed t.selected stack } : Tabs).Clean := by
  refine ⟨h.rows, h.replying, fun tab s hmem => ?_⟩
  dsimp only at hmem
  by_cases htab : tab = t.selected
  · subst htab
    rw [Function.update_self] at hmem
    exact hs s hmem
  · rw [Function.update_of_ne htab] at hmem
    exact h.pushed tab s hmem

theorem Clean.push (h : t.Clean) {s : VC} (hs : t.pushes false s = true) : (t.push s).Clean := by
  refine h.update fun s' hmem => ?_
  rcases List.mem_cons.1 hmem with rfl | hmem
  · cases s' <;> simp_all [pushes, h.rows]
  · exact h.pushed _ s' hmem

theorem Clean.pop (h : t.Clean) : t.pop.Clean := h.update fun s hmem => h.pushed _ s (List.mem_of_mem_tail hmem)

theorem Clean.top (h : t.Clean) : t.top = t.selected.root ∨ t.top = .tripDetailVC ∨ t.top = .rateUserVC := by
  unfold Tabs.top
  cases hp : t.pushed t.selected with
  | nil => exact .inl rfl
  | cons s stack => exact .inr (h.pushed t.selected s (by rw [hp]; exact List.mem_cons_self))

end Tabs

theorem Front.clean_of_outside {f : Front} (h : f.outside = true) : f.Clean := by
  cases f with
  | screen s => exact h
  | tabBarVC t => cases h

theorem Front.Clean.not_shows {f : Front} (h : f.Clean) : f.shows .newTripVC = false ∧ f.shows .myTripDetail = false := by
  cases f with
  | screen s => exact ⟨rfl, rfl⟩
  | tabBarVC t =>
    have htop := Tabs.Clean.top h
    constructor <;> rcases htop with h | h | h <;> simp only [Front.shows, h] <;> cases t.selected <;> rfl

theorem Front.Clean.not_chat {f : Front} (h : f.Clean) : f.is .messageSendVC = false := by
  cases f with
  | screen s => cases s <;> first | rfl | cases h
  | tabBarVC t => rfl

namespace Nav

/-- Nothing that takes a user to get to: no chat send under way and a clean front. -/
structure Guest (w : Nav) : Prop where
  chats : w.chats = []
  front : w.front.Clean

/-- The invariant: an app that has not trapped is a user's, or as a guest may have it. -/
structure Inv (w : Nav) : Prop where
  stored : w.app.session.Stored
  guest : w.app.trapped = true ∨ w.valid = true ∨ w.Guest

theorem outside_of_leads {s s' : VC} (h : leads s' s = true) : s.outside = true := by
  cases s' <;> cases s <;> first | rfl | cases h

/-! ## Steps -/

theorem act_app {w : Nav} {e : NavEvent} (he : e.taps = true) : (w.act e).app = w.app := by
  unfold act
  split
  · cases he
  · cases he
  · split <;> rfl
  · split
    · split <;> rfl
    · rfl
  · split <;> rfl
  · split <;> rfl
  · split <;> rfl
  · split <;> rfl
  · split
    · unfold onTabs
      split <;> first | rfl | (split <;> rfl)
    · rfl

theorem afterApp_app (w : Nav) (e : AppEvent) : (w.afterApp e).app = w.app.step e := by cases e <;> rfl

theorem afterReply_app (w : Nav) (i : Nat) (r : Option Reply) (now : Int) (inFront : Bool) :
    (w.afterReply i r now inFront).app = w.app.step (.reply i r now) := by
  unfold afterReply
  dsimp only
  split
  · split
    · split
      · rfl
      · split <;> rfl
      · rfl
    · rfl
  · rfl

theorem afterReply_screens (w : Nav) (i : Nat) (r : Option Reply) (now : Int) (inFront : Bool) :
    (w.afterReply i r now inFront).chats = w.chats ∧
      ((w.afterReply i r now inFront).front = w.front ∨ (w.afterReply i r now inFront).front.Clean) := by
  unfold afterReply
  dsimp only
  split
  · split
    · split
      · exact ⟨rfl, .inr (Tabs.clean_search _)⟩
      · split
        · exact ⟨rfl, .inr rfl⟩
        · exact ⟨rfl, .inl rfl⟩
      · exact ⟨rfl, .inl rfl⟩
    · exact ⟨rfl, .inl rfl⟩
  · exact ⟨rfl, .inl rfl⟩

theorem Guest.afterReply {w : Nav} (h : w.Guest) (i : Nat) (r : Option Reply) (now : Int) (inFront : Bool) :
    (w.afterReply i r now inFront).Guest := by
  obtain ⟨hchats, hfront⟩ := afterReply_screens w i r now inFront
  refine ⟨hchats.trans h.chats, ?_⟩
  rcases hfront with hfront | hfront
  · rw [hfront]
    exact h.front
  · exact hfront

theorem Guest.onTabs {w : Nav} (h : w.Guest) (hv : w.valid = false) {t : Tabs} (hf : w.front = .tabBarVC t)
    (e : NavEvent) : (w.onTabs t e).Guest := by
  have ht : t.Clean := by
    have hfront := h.front
    rw [hf] at hfront
    exact hfront
  cases e with
  | select tab =>
    simp only [Nav.onTabs, hv]
    exact ⟨h.chats, (ht.select tab).appear⟩
  | push s =>
    simp only [Nav.onTabs, hv]
    split
    · rename_i hs
      exact ⟨h.chats, ht.push hs⟩
    · exact h
  | pop =>
    simp only [Nav.onTabs, hv]
    exact ⟨h.chats, ht.pop.appear⟩
  | loginAlertOk => exact ⟨h.chats, rfl⟩
  | didSelectReview =>
    have hrows : (t.top = .ratingVC && t.rows .rating) = false := by simp [ht.rows]
    simp only [Nav.onTabs, hrows]
    exact h
  | closeReply => exact ⟨h.chats, ht.rows, rfl, ht.pushed⟩
  | didSelectItemAt =>
    have hrows : (t.top = .chatVC && t.rows .chat) = false := by simp [ht.rows]
    simp only [Nav.onTabs, hrows]
    exact h
  | _ => exact h

theorem Guest.afterApp {w : Nav} (h : w.Guest) (a : AppEvent) : (w.afterApp a).Guest := by
  cases a with
  | launch now => exact ⟨rfl, rfl⟩
  | checkBackgrouond =>
    refine ⟨h.chats, ?_⟩
    simp only [Nav.afterApp]
    split
    · exact h.front
    · exact rfl
  | logoutBtnClicked now => exact ⟨h.chats, rfl⟩
  | _ => exact ⟨h.chats, h.front⟩

theorem Guest.act {w : Nav} (h : w.Guest) (hv : w.valid = false) (e : NavEvent) : (w.act e).Guest := by
  cases e with
  | app a =>
    simp only [Nav.act]
    split
    · exact h.afterApp a
    · exact h
  | reply i r now inFront => exact h.afterReply i r now inFront
  | guestEnters =>
    simp only [Nav.act]
    split
    · exact ⟨h.chats, Tabs.clean_search _⟩
    · exact ⟨h.chats, h.front⟩
  | goto s =>
    simp only [Nav.act]
    split
    · split
      · exact ⟨h.chats, outside_of_leads ‹_›⟩
      · exact h
    · exact h
  | addTappedLeftBtn =>
    simp only [Nav.act, h.front.not_chat]
    exact h
  | sendAction =>
    simp only [Nav.act, h.front.not_chat]
    exact h
  | sendBtnClicked msg =>
    simp only [Nav.act, tripSends, hv, Bool.and_false, Bool.false_and]
    exact h
  | settle i goesOn =>
    simp only [Nav.act, h.chats, List.getElem?_nil]
    exact h
  | _ =>
    simp only [Nav.act]
    split
    · rename_i hf
      exact h.onTabs hv hf _
    · exact h

theorem stored_step {a : App} (h : a.session.Stored) (e : AppEvent) : (a.step e).session.Stored := by
  cases he : e.keeps with
  | true =>
    rcases a.step_session he with hs | ⟨now, hs⟩ <;> rw [hs]
    · exact h
    · exact Session.stored_refresh _ now
  | false =>
    cases ht : a.trapped with
    | true =>
      rw [App.step_of_trapped ht (by rintro now rfl; cases he)]
      exact h
    | false =>
      cases e with
      | loginWithGuest now =>
        rw [App.step_loginWithGuest ht]
        exact Session.stored_forget _ now
      | logoutBtnClicked now =>
        rw [App.step_logoutBtnClicked ht]
        exact Session.stored_forget _ now
      | reply i r now =>
        rcases App.step_reply ht i r now with ⟨-, hstep⟩ | ⟨n, q, -, hstep, -⟩ <;> rw [hstep]
        · exact h
        · exact (Request.reply_userId h).1
      | _ => cases he

theorem stored_act {w : Nav} (h : w.app.session.Stored) (e : NavEvent) : (w.act e).app.session.Stored := by
  cases e with
  | app a =>
    simp only [act]
    split
    · rw [afterApp_app]
      exact stored_step h a
    · exact h
  | reply i r now inFront =>
    simp only [act, afterReply_app]
    exact stored_step h _
  | _ =>
    rw [act_app rfl]
    exact h

/-- A user stays one, or traps, or leaves what a guest may have. -/
theorem act_valid {w : Nav} (h : w.app.session.Stored) (ht : w.app.trapped = false) (hv : w.valid = true) {e : NavEvent}
    (hok : Decent w e) : (w.act e).app.trapped = true ∨ (w.act e).valid = true ∨ (w.act e).Guest := by
  have hne := UserModel.isValid_iff.1 hv
  cases e with
  | app a =>
    simp only [act]
    split
    case isFalse => exact .inr (.inl hv)
    rename_i hoff
    cases a with
    | launch now => exact .inr (.inr ⟨rfl, rfl⟩)
    | loginWithGuest now =>
      refine .inr (.inr ⟨hok hoff, ?_⟩)
      cases hf : w.front with
      | screen s => simp_all [offers, Front.is, afterApp, Front.Clean, VC.outside]
      | tabBarVC t => simp [offers, hf, Front.is] at hoff
    | logoutBtnClicked now => exact .inr (.inr ⟨hok hoff, rfl⟩)
    | reply i r now => cases hoff
    | _ =>
      refine .inr (.inl (UserModel.isValid_iff.2 ?_))
      rw [afterApp_app, App.userId_of_keeps h]
      · exact hne
      · rfl
  | reply i r now inFront =>
    simp only [act]
    rcases App.step_reply ht i r now with ⟨-, hstep⟩ | ⟨n, q, hi, hstep, htrap⟩
    · refine .inr (.inl ?_)
      rw [valid, afterReply_app, hstep]
      exact hv
    · rcases (Request.reply_userId h).2 with hsame | htrap' | hends | hvalid
      · refine .inr (.inl (UserModel.isValid_iff.2 ?_))
        rw [afterReply_app, hstep, hsame]
        exact hne
      · refine .inl ?_
        rw [afterReply_app, htrap]
        exact htrap'
      · obtain ⟨hchats, hfront⟩ := hok (by simp [hi, hends])
        exact .inr (.inr (Guest.afterReply ⟨hchats, Front.clean_of_outside hfront⟩ i r now inFront))
      · refine .inr (.inl ?_)
        rw [valid, afterReply_app, hstep]
        exact hvalid
  | _ =>
    refine .inr (.inl ?_)
    rw [valid, act_app rfl]
    exact hv

theorem Inv.step {w : Nav} (h : Inv w) {e : NavEvent} (hok : Decent w e) : Inv (w.step e) := by
  unfold Nav.step
  split
  · exact ⟨Session.stored_refresh _ _, .inr (.inr ⟨rfl, rfl⟩)⟩
  · cases ht : w.app.trapped with
    | true => exact h
    | false =>
      refine ⟨stored_act h.stored _, ?_⟩
      cases hv : w.valid with
      | true => exact act_valid h.stored ht hv hok
      | false =>
        rcases h.guest with htrap | hvalid | hguest
        · rw [ht] at htrap
          cases htrap
        · rw [hv] at hvalid
          cases hvalid
        · exact .inr (.inr (hguest.act hv _))

theorem inv_start (stored : UserDefaults) (now : Int) : Inv (start stored now) :=
  ⟨Session.stored_refresh _ now, .inr (.inr ⟨rfl, rfl⟩)⟩

/-- Where a guest may be, nothing that changes anything is offered but the review. -/
theorem Guest.request {w : Nav} (h : w.Guest) {a : AppEvent} (hoff : w.offers a = true) {q : Request}
    (hq : w.app.sends a = some q) {author : Int} (ha : q.author = some author) :
    w.valid = true ∨ ∃ rateUser rating content reviewId reviewTime,
      a = .reviewBtnClicked rateUser rating content reviewId reviewTime := by
  have hshows := h.front.not_shows
  cases a with
  | saveBtnClicked trip => simp [offers, hshows.1] at hoff
  | upateTripBtnClicked | deleteTripConfirmed => simp [offers, hshows.2] at hoff
  | reviewBtnClicked => exact .inr ⟨_, _, _, _, _, rfl⟩
  | replyBtnClicked selectedReview reply =>
    cases hf : w.front with
    | screen s => simp [offers, hf] at hoff
    | tabBarVC t =>
      have hclean := h.front
      rw [hf] at hclean
      have hreplying : t.replying = false := hclean.replying
      simp [offers, hf, hreplying] at hoff
  | updateBtnClicked | changeBtnClicked =>
    refine .inl ?_
    simp only [App.sends] at hq
    split at hq
    · simp_all [valid]
    · cases hq
  | _ =>
    simp only [App.sends, App.checkBackgrouond] at hq
    grind [Request.author, Option.map_eq_some_iff]

theorem Inv.guarded {w : Nav} (h : Inv w) {e : NavEvent} (hok : Decent w e) : Guarded w e := by
  cases ht : w.app.trapped with
  | true =>
    refine ⟨fun q hq => ?_, fun hw => ?_⟩
    · cases e <;> simp [Nav.request, ht] at hq
    · simp [writes, ht] at hw
  | false =>
    refine ⟨fun q hq author ha => ?_, fun hw => ?_⟩
    · cases e with
      | app a =>
        simp only [Nav.request, ht, Bool.not_false, Bool.and_true] at hq
        split at hq
        case isFalse => cases hq
        rename_i hoff
        have hv : w.valid = true := by
          rcases h.guest with htrap | hv | hguest
          · rw [ht] at htrap
            cases htrap
          · exact hv
          · rcases hguest.request hoff hq ha with hv | ⟨_, _, _, _, _, rfl⟩
            · exact hv
            · exact hok (by simp [Nav.request, ht, hoff, hq])
        refine ⟨hv, ?_⟩
        rw [App.sends_author hq ha]
        exact UserModel.isValid_iff.1 hv
      | _ => cases hq
    · rcases h.guest with htrap | hv | hguest
      · rw [ht] at htrap
        cases htrap
      · exact hv
      · cases e with
        | changeMessage => simp [writes, hguest.front.not_chat] at hw
        | changeChatList =>
          cases hf : w.front with
          | screen s => simp [writes, hf] at hw
          | tabBarVC t =>
            have hclean := hguest.front
            rw [hf] at hclean
            have hrows : t.rows .chat = false := hclean.rows .chat
            simp [writes, hf, hrows] at hw
        | sendBtnClicked msg =>
          simp only [writes, tripSends, Bool.and_eq_true] at hw
          exact hw.2.1.2
        | settle i goesOn => simp [writes, hguest.chats] at hw
        | _ => simp [writes] at hw

/-- **Only a user changes anything**, in every run of decent steps from a launch on any store. -/
theorem guarded_of_decent (stored : UserDefaults) (now : Int) (es : List NavEvent)
    (h : Runs.AllSteps step Decent (start stored now) es) : Runs.AllSteps step Guarded (start stored now) es :=
  Runs.allSteps_of_invariant Inv (fun _ _ hinv hok => hinv.step hok) (fun _ _ hinv hok => hinv.guarded hok)
    (inv_start stored now) h

/-- Somebody logs in and reviews the traveller of a trip he found. -/
theorem guarded_of_decent_review :
    Runs.AllSteps step Guarded (start {} 0)
      [.app .checkBackgrouond, .reply 0 none 1 true, .goto .emailLoginVC, .app (.loginBtnClicked "bob@x.io" "pw"),
        .reply 0 (some { message := "success", userInfo := some [{ id := 7 }] }) 2 true, .push .rateUserVC,
        .app (.reviewBtnClicked 9 5 "thank you" none 3)] :=
  guarded_of_decent {} 0 _
    ⟨trivial, fun h => absurd h (by decide), trivial, trivial, fun h => absurd h (by decide), trivial, fun _ => rfl,
      trivial⟩

/-- A guest opens the page of a traveller from the search and reviews him, as user -1. -/
theorem guest_reviews_as_nobody :
    ¬ Runs.AllSteps step Guarded (start {} 0)
      ([.app .checkBackgrouond, .reply 0 none 1 true, .app (.loginWithGuest 2), .guestEnters, .push .rateUserVC] ++
        [.app (.reviewBtnClicked 9 5 "thank you" none 3)]) := by
  intro h
  exact absurd (h.last.1 (.giveReview 9 (-1) "thank you" 3 5 none) (by decide) (-1) rfl).2 (by decide)

end Nav
end Traveller
