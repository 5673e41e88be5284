import Traveller.Runs
import Traveller.SessionKept
/-!
# SessionRating — the two copies of the session, and the rating in them

Whoever changes the session saves it and loads it, in one order or the other, so that `thisuser` is what a fresh load would give.
`RatingVC` sets the rating of `thisuser` and loads before it saves: the stored rating comes back over the one in the reply, and the
latest rating is kept exactly where it is the one stored already (`session_coherent_and_rated_iff`).
-/
namespace Traveller

namespace Session

/-- **`thisuser` is what a fresh load would give.** -/
def Coherent (s : Session) : Prop := ∀ now, (({ s with thisuser := {} } : Session).loadUserInfo now).thisuser = s.thisuser

theorem Nameless.coherent_refresh {s : Session} (h : s.Nameless) (now : Int) : (s.refresh now).Coherent := by
  have hname : s.thisuser.username = none := h
  intro now'
  simp only [Session.refresh, saveUserInfo, loadUserInfo, hname, Option.map_some, Option.getD_some, LoginType.ofStored_rawValue]

theorem coherent_adopt (s : Session) (now : Int) (user : UserJson) : (s.adopt now user).Coherent := by
  intro now'
  simp only [adopt, saveUserInfo, loadUserInfo, UserModel.ofJson, Option.map_some, Option.getD_some,
    LoginType.ofStored_rawValue]

end Session

/-- What a user does with his account once he is signed in. -/
inductive AccountEvent where
  | updateBtnClicked (photo firstName lastName email birthday : String) (birthdayTimestamp : Int)
  | changeBtnClicked (currentpwd newpwd confirmpwd : String)
  | launch (now : Int)
  | connect (now : Int)
  | ratingAppears
  | reply (i : Nat) (r : Option Reply) (now : Int)
  deriving DecidableEq, Repr

def AccountEvent.toAppEvent : AccountEvent → AppEvent
  | updateBtnClicked photo firstName lastName email birthday birthdayTimestamp =>
    .updateBtnClicked photo firstName lastName email birthday birthdayTimestamp
  | changeBtnClicked currentpwd newpwd confirmpwd => .changeBtnClicked currentpwd newpwd confirmpwd
  | launch now => .launch now
  | connect now => .connect now
  | ratingAppears => .ratingAppears
  | reply i r now => .reply i r now

/-- The requests they send. -/
inductive Request.OfAccount : Request → Prop where
  | updateProfile (userId : Int) (firstName lastName userPhoto : String) (birthday : Int) (phoneNumber : String) :
      OfAccount (.updateProfile userId firstName lastName userPhoto birthday phoneNumber)
  | changePassword (userId : Int) (password : String) : OfAccount (.changePassword userId password)
  | getReview (ownerId : Int) : OfAccount (.getReview ownerId)

/-- The rating a reply tells: the total rating of its first review. -/
def Reply.totalRating (r : Reply) : Rat := ((r.reviewInfo.getD []).head?).getD 0

namespace App

def accountStep (a : App) (e : AccountEvent) : App := a.step e.toAppEvent

/-- A successful reply to `get_review` comes in. -/
def Rated (a : App) (e : AccountEvent) (r : Reply) : Prop :=
  ∃ i now n ownerId, e = .reply i (some r) now ∧ a.trapped = false ∧ a.requests[i]? = some (n, .getReview ownerId) ∧
    r.message = "success"

/-- **After the event the session is coherent**, as long as the app runs, and the rating of a successful reply is in both
copies. -/
def KeepsRating (a : App) (e : AccountEvent) : Prop :=
  ((a.accountStep e).trapped = false → (a.accountStep e).session.Coherent) ∧
    ∀ r, a.Rated e r → (a.accountStep e).session.thisuser.rating = some r.totalRating ∧
      (a.accountStep e).session.defaults.rating = some r.totalRating

/-- The rating of a successful reply is the one stored before. -/
def RatedAlready (a : App) (e : AccountEvent) : Prop :=
  ∀ r, a.Rated e r → a.session.defaults.rating.getD 0 = r.totalRating

structure AccountInv (a : App) : Prop where
  coherent : a.trapped = false → a.session.Coherent
  nameless : a.session.Nameless
  requests : ∀ q ∈ a.requests, q.2.OfAccount

/-- **The loaded rating is the stored one**, whatever the reply has told. -/
theorem getReviewReply_success {s : Session} {r : Reply} (hr : r.message = "success") (now : Int) :
    (Request.getReviewReply now s (some r)).session.thisuser.rating = some (s.defaults.rating.getD 0) ∧
      (Request.getReviewReply now s (some r)).session.defaults.rating = some (s.defaults.rating.getD 0) := by
  simp [Request.getReviewReply, answered, hr, Session.refresh, Session.loadUserInfo, Session.saveUserInfo]

/-- **A reply leaves a coherent session**, unless it ends the app. -/
theorem coherent_reply {s : Session} (h : s.Coherent) (hname : s.Nameless) {q : Request} (hq : q.OfAccount) (now : Int)
    (r : Option Reply) (ht : (q.reply now s r).trapped = false) : (q.reply now s r).session.Coherent := by
  cases r with
  | none => cases hq <;> exact h
  | some r =>
    by_cases hr : r.message = "success"
    case neg => cases hq <;> simpa [Request.reply, Request.updateProfileReply, Request.passwordReply, Request.getReviewReply,
      answered, hr] using h
    cases hq with
    | updateProfile =>
      simp only [Request.reply, Request.updateProfileReply, answered, if_pos hr, takeUser] at ht ⊢
      split
      · exact h
      · -- the forced unwrap of an empty `user_info` ends the app
        rename_i hinfo
        rw [hinfo] at ht
        cases ht
      · exact Session.coherent_adopt _ now _
    | changePassword =>
      simp only [Request.reply, Request.passwordReply, answered, if_pos hr]
      exact Session.Nameless.coherent_refresh (s := s.setPassword _) hname now
    | getReview =>
      simp only [Request.reply, Request.getReviewReply, answered, if_pos hr]
      exact Session.Nameless.coherent_refresh hname now

theorem ofAccount_of_sends {a : App} {e : AccountEvent} {q : Request} (hq : a.sends e.toAppEvent = some q) : q.OfAccount := by
  cases e with
  | updateBtnClicked | changeBtnClicked | ratingAppears =>
    simp only [AccountEvent.toAppEvent, sends] at hq
    split at hq
    · obtain rfl := Option.some.inj hq
      constructor
    · cases hq
  | launch | connect | reply => cases hq

theorem mem_requests_step {a : App} {e : AppEvent} {x : Nat × Request} (hx : x ∈ (a.step e).requests) :
    x ∈ a.requests ∨ a.sends e = some x.2 := by
  unfold step at hx
  split at hx
  · cases hx
  · split at hx
    · exact .inl hx
    · split at hx
      · exact .inl hx
      · exact .inl hx
      · exact .inl hx
      · split at hx
        · exact .inl hx
        · exact .inl (List.mem_of_mem_eraseIdx hx)
      · split at hx
        · exact .inl hx
        · rename_i request hsends
          rcases List.mem_append.1 hx with hold | hnew
          · exact .inl hold
          · obtain rfl := List.mem_singleton.1 hnew
            exact .inr hsends

/-- An event is a launch, a connection or a reply, or it leaves the session as it is. -/
theorem accountStep_cases (a : App) (e : AccountEvent) :
    (∃ now, e = .launch now) ∨ (∃ now, e = .connect now) ∨ (∃ i r now, e = .reply i r now) ∨
      (a.accountStep e).session = a.session ∧ (a.accountStep e).trapped = a.trapped := by
  cases e with
  | launch now => exact .inl ⟨now, rfl⟩
  | connect now => exact .inr (.inl ⟨now, rfl⟩)
  | reply i r now => exact .inr (.inr (.inl ⟨i, r, now, rfl⟩))
  | updateBtnClicked | changeBtnClicked | ratingAppears =>
    refine .inr (.inr (.inr ?_))
    simp only [accountStep, AccountEvent.toAppEvent, App.step]
    split
    · exact ⟨rfl, rfl⟩
    · split <;> exact ⟨rfl, rfl⟩

theorem AccountInv.coherent_step {a : App} (h : a.AccountInv) {e : AccountEvent} (ht' : (a.accountStep e).trapped = false) :
    (a.accountStep e).session.Coherent := by
  -- only a launch brings an ended app back
  have hran : (∀ now, e ≠ .launch now) → a.trapped = false := fun he => by
    by_contra ht
    have happ : ∀ now, e.toAppEvent ≠ .launch now := fun now heq => he now (by cases e <;> cases heq; rfl)
    rw [accountStep, step_of_trapped (by simpa using ht) happ] at ht'
    exact ht ht'
  rcases a.accountStep_cases e with ⟨now, rfl⟩ | ⟨now, rfl⟩ | ⟨i, r, now, rfl⟩ | ⟨hsession, htrapped⟩
  · exact Session.Nameless.coherent_refresh (s := { a.session with thisuser := {} }) rfl now
  · have hstep : (a.accountStep (.connect now)).session = ({ a.session with thisuser := {} } : Session).refresh now := by
      simp [accountStep, AccountEvent.toAppEvent, App.step, hran fun _ heq => by cases heq]
    rw [hstep]
    exact Session.Nameless.coherent_refresh (s := { a.session with thisuser := {} }) rfl now
  · have ht : a.trapped = false := hran fun _ heq => by cases heq
    rcases step_reply ht i r now with ⟨-, hstep⟩ | ⟨n, q, hq, hsession, htrapped⟩
    · rw [accountStep, AccountEvent.toAppEvent, hstep]
      exact h.coherent ht
    · rw [accountStep, AccountEvent.toAppEvent, hsession]
      exact coherent_reply (h.coherent ht) h.nameless (h.requests _ (List.mem_of_getElem? hq)) now r (htrapped.symm.trans ht')
  · rw [hsession]
    exact h.coherent (htrapped.symm.trans ht')

theorem AccountInv.step {a : App} (h : a.AccountInv) (e : AccountEvent) : (a.accountStep e).AccountInv :=
  ⟨h.coherent_step, nameless_step h.nameless _, fun x hx => (mem_requests_step hx).elim (h.requests x) ofAccount_of_sends⟩

theorem AccountInv.keepsRating_iff {a : App} (h : a.AccountInv) (e : AccountEvent) : a.KeepsRating e ↔ a.RatedAlready e := by
  have hcoherent := (h.step e).coherent
  rw [KeepsRating, RatedAlready, and_iff_right hcoherent]
  refine forall_congr' fun r => forall_congr' fun hrated => ?_
  obtain ⟨i, now, n, ownerId, rfl, ht, hi, hr⟩ := hrated
  have hstep : (a.accountStep (.reply i (some r) now)).session = (Request.getReviewReply now a.session (some r)).session := by
    rcases step_reply ht i (some r) now with ⟨hnone, -⟩ | ⟨n', q, hsome, hsession, -⟩
    · cases hnone.symm.trans hi
    · cases hsome.symm.trans hi
      exact hsession
  obtain ⟨huser, hstored⟩ := getReviewReply_success hr now
  rw [hstep, huser, hstored, and_self, Option.some.injEq]

/-- **The session is coherent, and keeps the latest rating exactly where that was stored already.** -/
theorem session_coherent_and_rated_iff (s : Session) (now : Int) (user : UserJson) (es : List AccountEvent) :
    Runs.AllSteps accountStep KeepsRating { session := s.adopt now user } es ↔
      Runs.AllSteps accountStep RatedAlready { session := s.adopt now user } es := by
  have hinit : AccountInv { session := s.adopt now user } :=
    ⟨fun _ => s.coherent_adopt now user, .adopt s now user, nofun⟩
  exact Runs.allSteps_congr AccountInv (fun _ e h => h.step e) (fun _ e h => h.keepsRating_iff e) hinit

/-- **A rating of four stays two**: the reply's is set, and loaded over. -/
theorem stale_rating_comes_back :
    (Runs.run accountStep { session := ({} : Session).adopt 0 { id := 7, rating := 2 } }
      [.ratingAppears, .reply 0 (some { message := "success", reviewInfo := some [4] }) 1]).session.thisuser.rating = some 2 ∧
    ¬ Runs.AllSteps accountStep KeepsRating { session := ({} : Session).adopt 0 { id := 7, rating := 2 } }
      [.ratingAppears, .reply 0 (some { message := "success", reviewInfo := some [4] }) 1] := by
  refine ⟨by decide, ?_⟩
  rintro ⟨-, ⟨-, h⟩, -⟩
  have hrating := (h { message := "success", reviewInfo := some [4] } ⟨0, 1, 0, 7, rfl, rfl, rfl, rfl⟩).1
  exact absurd hrating (by decide)

end App
end Traveller
