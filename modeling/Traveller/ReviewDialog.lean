import Mathlib.Data.List.Nodup
import Mathlib.Data.List.Perm.Basic
import Traveller.ListReplies
/-!
# ReviewDialog — one review of an owner by one user

The dialog of `RateUserVC` looks for the user's own review in the list of the page and remembers its id; a submission carries
the remembered id, and the server stores a new review where there is none.  The list is empty from each appearance to the
answer of its load, and stays empty when the load fails, so the dialog can be opened without the review that is there.

The server's handling of a call is a step of its own, before, after or without the reply that reaches the page.
-/
namespace Traveller

/-- `ReviewModel`, with the reviewer by his id. -/
structure ReviewModel where
  id : Int
  reviewer : Int
  reviewContent : String
  reviewRating : Rat
  deriving DecidableEq, Repr

/-! ## The server -/

/-- The reviews the server has of the owner, each under an id of its own. -/
structure ReviewServer where
  reviews : List ReviewModel := []
  nextId : Int := 1
  nodup : (reviews.map ReviewModel.id).Nodup
  fresh : ∀ r ∈ reviews, r.id < nextId

namespace ReviewServer

/-- How many reviews of the owner are by `me`. -/
def own (me : Int) (s : ReviewServer) : Nat := s.reviews.countP fun r => r.reviewer = me

/-- The review `id` is there, and it is by `me`. -/
def Names (me id : Int) (s : ReviewServer) : Prop := ∃ r ∈ s.reviews, r.id = id ∧ r.reviewer = me

/-- A review without a `review_id` is a new one. -/
def add (reviewer : Int) (content : String) (rating : Rat) (s : ReviewServer) : ReviewServer where
  reviews := s.reviews ++ [⟨s.nextId, reviewer, content, rating⟩]
  nextId := s.nextId + 1
  nodup := by
    rw [List.map_append, List.map_singleton]
    refine List.nodup_append.2 ⟨s.nodup, List.nodup_singleton _, fun id hid id' hid' => ?_⟩
    obtain ⟨r, hr, rfl⟩ := List.mem_map.1 hid
    rw [List.mem_singleton.1 hid']
    exact Int.ne_of_lt (s.fresh r hr)
  fresh r hr := by
    rcases List.mem_append.1 hr with hr | hr
    · exact Int.lt_trans (s.fresh r hr) (Int.lt_succ _)
    · rw [List.mem_singleton.1 hr]
      exact Int.lt_succ _

private theorem map_id_replace (id reviewer : Int) (content : String) (rating : Rat) (rs : List ReviewModel) :
    (rs.map fun r => if r.id = id then ⟨id, reviewer, content, rating⟩ else r).map ReviewModel.id =
      rs.map ReviewModel.id := by
  rw [List.map_map]
  refine List.map_congr_left fun r _ => ?_
  by_cases hid : r.id = id <;> simp [hid]

/-- A review with a `review_id` takes the place of the one it names. -/
def replace (id reviewer : Int) (content : String) (rating : Rat) (s : ReviewServer) : ReviewServer where
  reviews := s.reviews.map fun r => if r.id = id then ⟨id, reviewer, content, rating⟩ else r
  nextId := s.nextId
  nodup := by
    rw [map_id_replace]
    exact s.nodup
  fresh r hr := by
    have hid := List.mem_map_of_mem (f := ReviewModel.id) hr
    rw [map_id_replace] at hid
    obtain ⟨r', hr', hid⟩ := List.mem_map.1 hid
    rw [← hid]
    exact s.fresh r' hr'

/-- What a call does at the server. -/
def handle (s : ReviewServer) : Request → ReviewServer
  | .giveReview _ reviewer content _ rating none => s.add reviewer content rating
  | .giveReview _ reviewer content _ rating (some id) => s.replace id reviewer content rating
  | _ => s

section
variable {me id reviewer : Int} {content : String} {rating : Rat} {s : ReviewServer}

theorem own_add : (s.add reviewer content rating).own me = s.own me + if reviewer = me then 1 else 0 := by
  simp [own, add, List.countP_append, List.countP_singleton]

/-- The owner of a review the server has under an id. -/
theorem Names.by_me (h : s.Names me id) {r : ReviewModel} (hr : r ∈ s.reviews) (hid : r.id = id) : r.reviewer = me := by
  obtain ⟨r', hr', hid', hme⟩ := h
  rw [List.inj_on_of_nodup_map s.nodup hr hr' (hid.trans hid'.symm)]
  exact hme

/-- A replacement under the reviewer's own name changes nobody's number of reviews. -/
theorem own_replace (h : ∀ r ∈ s.reviews, r.id = id → (r.reviewer = me ↔ reviewer = me)) :
    (s.replace id reviewer content rating).own me = s.own me := by
  rw [own, own, replace, List.countP_map]
  refine List.countP_congr fun r hr => ?_
  by_cases hid : r.id = id
  · simpa [hid] using (h r hr hid).symm
  · simp [hid]

theorem Names.add (h : s.Names me id) : (s.add reviewer content rating).Names me id := by
  obtain ⟨r, hr, hid, hme⟩ := h
  exact ⟨r, List.mem_append_left _ hr, hid, hme⟩

theorem Names.replace {id' : Int} (h : s.Names me id)
    (hsame : ∀ r ∈ s.reviews, r.id = id' → (r.reviewer = me ↔ reviewer = me)) :
    (s.replace id' reviewer content rating).Names me id := by
  obtain ⟨r, hr, rfl, hme⟩ := h
  refine ⟨_, List.mem_map_of_mem hr, ?_⟩
  by_cases hid : r.id = id'
  · rw [if_pos hid]
    exact ⟨hid.symm, (hsame r hr hid).1 hme⟩
  · rw [if_neg hid]
    exact ⟨rfl, hme⟩

theorem Names.own_pos (h : s.Names me id) : 0 < s.own me := by
  obtain ⟨r, hr, -, hme⟩ := h
  exact List.countP_pos_iff.2 ⟨r, hr, by simpa using hme⟩

/-- Where there is one review at most, an id names it. -/
theorem Names.eq (h : s.Names me id) (hone : s.own me ≤ 1) {r : ReviewModel} (hr : r ∈ s.reviews) (hme : r.reviewer = me) :
    r.id = id := by
  obtain ⟨r', hr', hid, hme'⟩ := h
  have hlen : (s.reviews.filter fun r => decide (r.reviewer = me)).length ≤ 1 := by
    rw [← List.countP_eq_length_filter]
    exact hone
  have hmem : r ∈ s.reviews.filter fun r => decide (r.reviewer = me) := List.mem_filter.2 ⟨hr, by simpa using hme⟩
  have hmem' : r' ∈ s.reviews.filter fun r => decide (r.reviewer = me) := List.mem_filter.2 ⟨hr', by simpa using hme'⟩
  generalize (s.reviews.filter fun r => decide (r.reviewer = me)) = own at hlen hmem hmem'
  cases own with
  | nil => cases hmem
  | cons one others =>
    cases others with
    | nil => rw [List.mem_singleton.1 hmem, ← List.mem_singleton.1 hmem', hid]
    | cons _ _ => simp at hlen

end

end ReviewServer

/-! ## The page and its dialog -/

/-- `RateUserVC` with its dialog. -/
structure ReviewDialog where
  page : RateUserVC ReviewModel := {}
  reviewId : Option Int := none
  isShow : Bool := false
  txvReviewcontent : String := ""
  cusReview : Rat := 0

namespace ReviewDialog

/-- The loop of `setReviewModal`: the first review of the list that is by the user. -/
def ownReview (me : Int) (d : ReviewDialog) : Option ReviewModel :=
  d.page.list.reviews.ds.find? fun one => one.reviewer = me

def setReviewModal (me : Int) (isShow : Bool) (d : ReviewDialog) : ReviewDialog :=
  match isShow, d.ownReview me with
  | true, some one =>
    { d with
      isShow := true
      txvReviewcontent := one.reviewContent
      reviewId := some one.id
      cusReview := one.reviewRating }
  | isShow, _ => { d with isShow := isShow, cusReview := 0 }

/-- What a tap on the dialog's button sends. -/
def reviewBtnClicked (me reviewTime : Int) (d : ReviewDialog) : Option Request :=
  if d.isShow then d.page.reviewBtnClicked me d.cusReview d.txvReviewcontent d.reviewId reviewTime else none

end ReviewDialog

/-- A review that names no other. -/
def Request.isNewReview : Request → Bool
  | giveReview _ _ _ _ _ none => true
  | _ => false

/-- The page of an owner beside the server: the calls the server has not handled, and the reviews it answered each call with. -/
structure ReviewRun where
  server : ReviewServer
  dialog : ReviewDialog := {}
  inbox : List (Nat × Request) := []
  answers : Nat → Option (List ReviewModel) := fun _ => none

/-- What happens: a new page of the owner is pushed, the page appears, the user uses the dialog, the server handles a call, a
call is answered, by a failure or with the reviews there were, and other users review the owner. -/
inductive ReviewEvent where
  | push
  | viewWillAppear
  | rateUserBtnClicked
  | backBtnClicked
  | edit (content : String) (rating : Rat)
  | reviewBtnClicked (reviewTime : Int)
  | handle (i : Nat)
  | reply (i : Nat) (ok : Bool)
  | otherGives (reviewer : Int) (content : String) (rating : Rat) (reviewId : Option Int)
  deriving DecidableEq, Repr

namespace ReviewRun

def start (owner : Int) (server : ReviewServer) : ReviewRun where
  server := server
  dialog := { page := { rateUser := some owner } }

/-- The page goes on, and what it has sent is on its way. -/
def turn (page : RateUserVC ReviewModel) (w : ReviewRun) : ReviewRun :=
  { w with
    dialog := { w.dialog with page := page }
    inbox := w.inbox ++ page.list.requests.drop w.dialog.page.list.requests.length }

section
variable (me owner : Int)

/-- What the completion of the call does with a reply: a submission closes the dialog first. -/
def replied (i : Nat) (q : Request) (r : Option (List ReviewModel)) (w : ReviewRun) : ReviewRun :=
  let dialog := if q.isGetReview then w.dialog else w.dialog.setReviewModal me false
  { w with dialog := { dialog with page := w.dialog.page.step (.reply i (r.map some)) } }

/-- The reply to the `i`-th call under way; a success has the reviews the server answered with. -/
def reply (i : Nat) (ok : Bool) (w : ReviewRun) : ReviewRun :=
  match w.dialog.page.list.requests[i]? with
  | none => w
  | some (n, q) =>
    match ok, w.answers n with
    | false, _ => w.replied me i q none
    | true, some reviews => w.replied me i q (some reviews)
    | true, none => w

def step (w : ReviewRun) : ReviewEvent → ReviewRun
  | .push =>
    { w with dialog := { page := { rateUser := some owner, list := { issued := w.dialog.page.list.issued } } } }
  | .viewWillAppear =>
    let w := w.turn (w.dialog.page.step .viewWillAppear)
    { w with dialog := w.dialog.setReviewModal me false }
  | .rateUserBtnClicked => { w with dialog := w.dialog.setReviewModal me true }
  | .backBtnClicked => { w with dialog := w.dialog.setReviewModal me false }
  | .edit content rating => { w with dialog := { w.dialog with txvReviewcontent := content, cusReview := rating } }
  | .reviewBtnClicked reviewTime =>
    if w.dialog.isShow then
      w.turn (w.dialog.page.step
        (.reviewBtnClicked me w.dialog.cusReview w.dialog.txvReviewcontent w.dialog.reviewId reviewTime))
    else w
  | .handle i =>
    match w.inbox[i]? with
    | none => w
    | some (n, q) =>
      { w with
        server := w.server.handle q
        inbox := w.inbox.eraseIdx i
        answers := Function.update w.answers n (some (w.server.handle q).reviews) }
  | .reply i ok => w.reply me i ok
  | .otherGives reviewer content rating reviewId =>
    -- the others write under their own names, and replace their own reviews
    if reviewer = me ∨ ∃ r ∈ w.server.reviews, some r.id = reviewId ∧ r.reviewer = me then w
    else { w with server := w.server.handle (.giveReview owner reviewer content 0 rating reviewId) }

/-- Whether a review has been submitted since the dialog was opened last. -/
def noteSubmitted (submitted : Bool) (w : ReviewRun) : ReviewEvent → Bool
  | .rateUserBtnClicked => false
  | .reviewBtnClicked reviewTime => submitted || (w.dialog.reviewBtnClicked me reviewTime).isSome
  | _ => submitted

/-- How many of the calls the server has not handled are new reviews. -/
def underWay (w : ReviewRun) : Nat := w.inbox.countP fun c => c.2.isNewReview

/-! ## One review -/

/-- The owner has one review at most by the user. -/
def One (y : ReviewRun × Bool) : Prop := y.1.server.own me ≤ 1

/-- **A submission carries the id of the user's review**, if the owner has one. -/
def CarriesId (y : ReviewRun × Bool) : ReviewEvent → Prop
  | .reviewBtnClicked reviewTime => ∀ q, y.1.dialog.reviewBtnClicked me reviewTime = some q →
    ∀ r ∈ y.1.server.reviews, r.reviewer = me →
      ∃ content time rating, q = .giveReview owner me content time rating (some r.id)
  | _ => True

/-- **The dialog is opened with the review there is**: it is in the list or its id is remembered, and no new one is on its way;
and a dialog without an id is submitted once. -/
def KeepsOne (y : ReviewRun × Bool) : ReviewEvent → Prop
  | .rateUserBtnClicked =>
    y.1.underWay = 0 ∧ (y.1.server.own me ≠ 0 → y.1.dialog.reviewId ≠ none ∨ y.1.dialog.ownReview me ≠ none)
  | .reviewBtnClicked _ => y.1.dialog.reviewId = none → y.2 = false
  | _ => True

/-- A call of the page: it loads, or submits under the user's name, under the id of a review of his. -/
def Call (server : ReviewServer) (q : Request) : Prop :=
  q = .getReview owner ∨ ∃ content time rating id,
    q = .giveReview owner me content time rating id ∧ ∀ x, id = some x → server.Names me x

/-- The reviews by the user in a list the page has or will have are the server's. -/
def Known (server : ReviewServer) (reviews : List ReviewModel) : Prop :=
  ∀ one ∈ reviews, one.reviewer = me → server.Names me one.id

/-- **The invariant**: the review the server has and the new ones on their way are one at most, every id the page has is that of
the review, and a dialog that is open without an id has nothing to name. -/
structure Inv (y : ReviewRun × Bool) : Prop where
  one : y.1.server.own me + y.1.underWay ≤ 1
  remembered : ∀ id, y.1.dialog.reviewId = some id → y.1.server.Names me id
  listed : Known me y.1.server y.1.dialog.page.list.reviews.ds
  answered : ∀ n reviews, y.1.answers n = some reviews → Known me y.1.server reviews
  calls : ∀ c ∈ y.1.inbox, Call me owner y.1.server c.2
  opened : y.1.dialog.isShow = true → y.1.dialog.reviewId = none → y.2 = false →
    y.1.server.own me = 0 ∧ y.1.underWay = 0
  rateUser : y.1.dialog.page.rateUser = some owner

end

variable {me owner : Int}

theorem Known.mono {server server' : ReviewServer} {reviews : List ReviewModel} (h : Known me server reviews)
    (hmono : ∀ id, server.Names me id → server'.Names me id) : Known me server' reviews :=
  fun one hone hme => hmono one.id (h one hone hme)

theorem Call.mono {server server' : ReviewServer} {q : Request} (h : Call me owner server q)
    (hmono : ∀ id, server.Names me id → server'.Names me id) : Call me owner server' q := by
  rcases h with rfl | ⟨content, time, rating, id, rfl, hid⟩
  · exact .inl rfl
  · exact .inr ⟨content, time, rating, id, rfl, fun x hx => hmono x (hid x hx)⟩

/-- What the server makes of a call of the page: a new review counts, and every id goes on naming its review. -/
theorem handle_call {server : ReviewServer} {q : Request} (h : Call me owner server q) :
    (∀ id, server.Names me id → (server.handle q).Names me id) ∧
      (server.handle q).own me = server.own me + if q.isNewReview then 1 else 0 := by
  rcases h with rfl | ⟨content, time, rating, id, rfl, hid⟩
  · exact ⟨fun _ h => h, rfl⟩
  · cases id with
    | none =>
      refine ⟨fun _ h => h.add, ?_⟩
      rw [ReviewServer.handle, ReviewServer.own_add, if_pos rfl]
      rfl
    | some x =>
      have hsame : ∀ r ∈ server.reviews, r.id = x → (r.reviewer = me ↔ me = me) := fun r hr hx =>
        iff_of_true ((hid x rfl).by_me hr hx) rfl
      exact ⟨fun _ h => h.replace hsame, ReviewServer.own_replace hsame⟩

/-- Another user's review changes nothing for the user. -/
theorem handle_other (owner : Int) (content : String) (rating : Rat) {server : ReviewServer} {reviewer : Int}
    {reviewId : Option Int} (hne : reviewer ≠ me) (hother : ¬ ∃ r ∈ server.reviews, some r.id = reviewId ∧ r.reviewer = me) :
    (∀ id, server.Names me id → (server.handle (.giveReview owner reviewer content 0 rating reviewId)).Names me id) ∧
      (server.handle (.giveReview owner reviewer content 0 rating reviewId)).own me = server.own me := by
  cases reviewId with
  | none =>
    refine ⟨fun _ h => h.add, ?_⟩
    rw [ReviewServer.handle, ReviewServer.own_add, if_neg hne]
    rfl
  | some x =>
    have hsame : ∀ r ∈ server.reviews, r.id = x → (r.reviewer = me ↔ reviewer = me) := fun r hr hx =>
      iff_of_false (fun hme => hother ⟨r, hr, congrArg some hx, hme⟩) hne
    exact ⟨fun _ h => h.replace hsame, ReviewServer.own_replace hsame⟩

section Dialog
variable (d : ReviewDialog)

@[simp] theorem setReviewModal_page (isShow : Bool) : (d.setReviewModal me isShow).page = d.page := by
  unfold ReviewDialog.setReviewModal
  split <;> rfl

@[simp] theorem setReviewModal_isShow (isShow : Bool) : (d.setReviewModal me isShow).isShow = isShow := by
  unfold ReviewDialog.setReviewModal
  split <;> rfl

@[simp] theorem setReviewModal_reviewId (isShow : Bool) :
    (d.setReviewModal me isShow).reviewId =
      if isShow then ((d.ownReview me).map ReviewModel.id).or d.reviewId else d.reviewId := by
  unfold ReviewDialog.setReviewModal
  cases isShow with
  | false => rfl
  | true => cases hown : d.ownReview me <;> simp

end Dialog

variable {w : ReviewRun} {submitted : Bool}

/-- Closing the dialog keeps the invariant. -/
theorem Inv.close (h : Inv me owner (w, submitted)) :
    Inv me owner ({ w with dialog := w.dialog.setReviewModal me false }, submitted) where
  one := h.one
  remembered id hid := h.remembered id (by simpa using hid)
  listed := by
    rw [setReviewModal_page]
    exact h.listed
  answered := h.answered
  calls := h.calls
  opened hshow := by simp at hshow
  rateUser := by
    rw [setReviewModal_page]
    exact h.rateUser

/-- **What the page sends keeps the invariant**, where it has nothing in its list it had not before. -/
theorem Inv.turn (h : Inv me owner (w, submitted)) {page : RateUserVC ReviewModel} (new : List (Nat × Request))
    {submitted' : Bool} (hrate : page.rateUser = w.dialog.page.rateUser)
    (hds : ∀ one ∈ page.list.reviews.ds, one ∈ w.dialog.page.list.reviews.ds)
    (hnew : page.list.requests = w.dialog.page.list.requests ++ new) (hcalls : ∀ c ∈ new, Call me owner w.server c.2)
    (hone : w.server.own me + w.underWay + new.countP (fun c => c.2.isNewReview) ≤ 1)
    (hopened : w.dialog.isShow = true → w.dialog.reviewId = none → submitted' = false →
      w.server.own me = 0 ∧ w.underWay + new.countP (fun c => c.2.isNewReview) = 0) :
    Inv me owner (w.turn page, submitted') := by
  have hinbox : (w.turn page).inbox = w.inbox ++ new := by rw [ReviewRun.turn, hnew, List.drop_left]
  have hcount : (w.turn page).underWay = w.underWay + new.countP fun c => c.2.isNewReview := by
    rw [underWay, hinbox, List.countP_append]
    rfl
  refine ⟨?_, h.remembered, fun r hr => h.listed r (hds r hr), h.answered, fun c hc => ?_, ?_, hrate.trans h.rateUser⟩
  · rw [hcount, ← Nat.add_assoc]
    exact hone
  · rw [hinbox] at hc
    exact (List.mem_append.1 hc).elim (h.calls c) (hcalls c)
  · rw [hcount]
    exact hopened

/-- **The server goes on**: what it does for a call or for another user keeps the invariant. -/
theorem Inv.serve (h : Inv me owner (w, submitted)) {server : ReviewServer} {inbox : List (Nat × Request)}
    {answers : Nat → Option (List ReviewModel)} (hmono : ∀ id, w.server.Names me id → server.Names me id)
    (hinbox : ∀ c ∈ inbox, c ∈ w.inbox)
    (hcount : server.own me + inbox.countP (fun c => c.2.isNewReview) = w.server.own me + w.underWay)
    (hown : w.underWay = 0 → server.own me = w.server.own me)
    (hanswers : ∀ n reviews, answers n = some reviews → w.answers n = some reviews ∨ reviews = server.reviews) :
    Inv me owner ({ w with server := server, inbox := inbox, answers := answers }, submitted) where
  one := hcount ▸ h.one
  remembered id hid := hmono id (h.remembered id hid)
  listed := h.listed.mono hmono
  answered n reviews hr := by
    rcases hanswers n reviews hr with hr | rfl
    · exact (h.answered n reviews hr).mono hmono
    · exact fun r hr hme => ⟨r, hr, rfl, hme⟩
  calls c hc := (h.calls c (hinbox c hc)).mono hmono
  opened hshow hid hsub := by
    obtain ⟨hzero, hway⟩ := h.opened hshow hid hsub
    have heq := hown hway
    dsimp only at heq hcount hzero hway ⊢
    rw [underWay]
    dsimp only
    omega
  rateUser := h.rateUser

/-- A page that shows reviews the server has keeps the invariant. -/
theorem Inv.show (h : Inv me owner (w, submitted)) {page : RateUserVC ReviewModel}
    (hrate : page.rateUser = w.dialog.page.rateUser) (hds : Known me w.server page.list.reviews.ds) :
    Inv me owner ({ w with dialog := { w.dialog with page := page } }, submitted) where
  one := h.one
  remembered := h.remembered
  listed := hds
  answered := h.answered
  calls := h.calls
  opened := h.opened
  rateUser := hrate.trans h.rateUser

/-- An answer shows what there was and what came with it. -/
theorem mem_ds_reply {α : Type*} {list : Reviews α} {i : Nat} {r : Option (List α)} {one : α}
    (hone : one ∈ (list.reply i (r.map some)).reviews.ds) :
    one ∈ list.reviews.ds ∨ ∃ items, r = some items ∧ one ∈ items := by
  cases hi : list.requests[i]? with
  | none =>
    simp only [Reviews.reply, hi] at hone
    exact .inl hone
  | some c =>
    cases r with
    | none =>
      simp only [Reviews.reply, hi, Option.map_none] at hone
      exact .inl hone
    | some items =>
      simp only [Reviews.reply, hi, Option.map_some, Option.getD_some, TableRows.load, TableRows.reloadData,
        List.mem_append] at hone
      rcases hone with hone | hone
      · split at hone
        · exact .inl hone
        · cases hone
      · exact .inr ⟨items, rfl, hone⟩

theorem Inv.replied (h : Inv me owner (w, submitted)) (i : Nat) (q : Request) {r : Option (List ReviewModel)}
    (hr : ∀ reviews, r = some reviews → Known me w.server reviews) : Inv me owner (w.replied me i q r, submitted) := by
  have hds : Known me w.server (w.dialog.page.step (.reply i (r.map some))).list.reviews.ds := fun one hone hme => by
    rcases mem_ds_reply hone with hone | ⟨items, hitems, hone⟩
    · exact h.listed one hone hme
    · exact hr items hitems one hone hme
  unfold ReviewRun.replied
  cases q.isGetReview with
  | true => exact h.show rfl hds
  | false => exact h.close.show (by rw [setReviewModal_page]; rfl) hds

theorem Inv.reply (h : Inv me owner (w, submitted)) (i : Nat) (ok : Bool) :
    Inv me owner (w.reply me i ok, submitted) := by
  unfold ReviewRun.reply
  split
  · exact h
  · split
    · exact h.replied i _ fun _ hr => by cases hr
    · rename_i reviews hr
      exact h.replied i _ fun _ heq => Option.some.inj heq ▸ h.answered _ reviews hr
    · exact h

/-- **Opening the dialog with the review there is** keeps the invariant. -/
theorem Inv.open (h : Inv me owner (w, submitted)) (hok : KeepsOne me (w, submitted) .rateUserBtnClicked) :
    Inv me owner ({ w with dialog := w.dialog.setReviewModal me true }, false) where
  one := h.one
  remembered id hid := by
    dsimp only at hid
    rw [setReviewModal_reviewId, if_pos rfl, Option.or_eq_some_iff] at hid
    rcases hid with hid | ⟨-, hid⟩
    · obtain ⟨one, hown, rfl⟩ := Option.map_eq_some_iff.1 hid
      exact h.listed one (List.mem_of_find?_eq_some hown) (by simpa using List.find?_some hown)
    · exact h.remembered id hid
  listed := by
    rw [setReviewModal_page]
    exact h.listed
  answered := h.answered
  calls := h.calls
  opened _ hid _ := by
    dsimp only at hid
    rw [setReviewModal_reviewId, if_pos rfl, Option.or_eq_none_iff, Option.map_eq_none_iff] at hid
    refine ⟨Classical.byContradiction fun hne => ?_, hok.1⟩
    exact (hok.2 hne).elim (fun h' => h' hid.2) fun h' => h' hid.1
  rateUser := by
    rw [setReviewModal_page]
    exact h.rateUser

/-- What a submission that is sent looks like. -/
theorem submission {reviewTime : Int} {q : Request} {d : ReviewDialog} (hrate : d.page.rateUser = some owner)
    (hq : d.page.reviewBtnClicked me d.cusReview d.txvReviewcontent d.reviewId reviewTime = some q) :
    q = .giveReview owner me d.txvReviewcontent reviewTime d.cusReview d.reviewId := by
  unfold RateUserVC.reviewBtnClicked at hq
  rw [hrate] at hq
  split at hq
  · cases hq
  · exact (Option.some.inj hq).symm

theorem Inv.submit (h : Inv me owner (w, submitted)) {reviewTime : Int}
    (hok : KeepsOne me (w, submitted) (.reviewBtnClicked reviewTime)) :
    Inv me owner (w.step me owner (.reviewBtnClicked reviewTime),
      noteSubmitted me submitted w (.reviewBtnClicked reviewTime)) := by
  simp only [step, noteSubmitted, ReviewDialog.reviewBtnClicked]
  cases hshow : w.dialog.isShow with
  | false =>
    simp only [Bool.false_eq_true, if_false, Option.isSome_none, Bool.or_false]
    exact h
  | true =>
    simp only [if_true, RateUserVC.step]
    cases hq : w.dialog.page.reviewBtnClicked me w.dialog.cusReview w.dialog.txvReviewcontent w.dialog.reviewId
        reviewTime with
    | none =>
      refine h.turn [] rfl (fun _ hone => hone) (List.append_nil _).symm (fun c hc => absurd hc List.not_mem_nil)
        h.one fun _ hid hsub => ?_
      exact h.opened hshow hid (by simpa using hsub)
    | some q =>
      have hsub := submission h.rateUser hq
      refine h.turn [(w.dialog.page.list.issued, q)] rfl (fun _ hone => hone) rfl (fun c hc => ?_) ?_
        fun _ _ hno => by simp at hno
      · rw [List.mem_singleton.1 hc]
        exact .inr ⟨_, _, _, _, hsub, h.remembered⟩
      · rw [List.countP_singleton, hsub]
        cases hid : w.dialog.reviewId with
        | some id => exact h.one
        | none =>
          obtain ⟨hzero, hway⟩ := h.opened hshow hid (hok hid)
          simp [Request.isNewReview, show w.server.own me = 0 from hzero, show w.underWay = 0 from hway]

theorem Inv.step {y : ReviewRun × Bool} (h : Inv me owner y) {e : ReviewEvent} (hok : KeepsOne me y e) :
    Inv me owner (Runs.noting (step me owner) (noteSubmitted me) y e) := by
  obtain ⟨w, submitted⟩ := y
  rw [Runs.noting]
  dsimp only
  cases e with
  | push =>
    exact ⟨h.one, fun id hid => (by cases hid), fun r hr => absurd hr List.not_mem_nil, h.answered, h.calls,
      fun hshow => (by cases hshow), rfl⟩
  | viewWillAppear =>
    have hpage : w.dialog.page.step .viewWillAppear = { w.dialog.page with list := w.dialog.page.list.setDataSource owner } := by
      simp [RateUserVC.step, RateUserVC.setDataSource, show w.dialog.page.rateUser = some owner from h.rateUser]
    refine Inv.close ?_
    rw [hpage]
    refine h.turn [(w.dialog.page.list.issued, .getReview owner)] rfl (fun r hr => absurd hr List.not_mem_nil) rfl
      (fun c hc => ?_) h.one h.opened
    rw [List.mem_singleton.1 hc]
    exact .inl rfl
  | rateUserBtnClicked => exact h.open hok
  | backBtnClicked => exact h.close
  | edit content rating => exact ⟨h.one, h.remembered, h.listed, h.answered, h.calls, h.opened, h.rateUser⟩
  | reviewBtnClicked reviewTime => exact h.submit hok
  | reply i ok => exact h.reply i ok
  | handle i =>
    simp only [ReviewRun.step, noteSubmitted]
    split
    · exact h
    · rename_i n q hi
      obtain ⟨hlt, hget⟩ := List.getElem?_eq_some_iff.1 hi
      have hcount := (List.getElem_cons_eraseIdx_perm hlt).countP_eq fun c => c.2.isNewReview
      rw [hget, List.countP_cons] at hcount
      obtain ⟨hmono, hown⟩ := handle_call (h.calls (n, q) (List.mem_of_getElem? hi))
      refine h.serve hmono (fun c hc => List.mem_of_mem_eraseIdx hc) ?_ (fun hway => ?_) fun m reviews hm => ?_
      · rw [hown, underWay]
        dsimp only at hcount ⊢
        omega
      · have hq : q.isNewReview = false := by
          have hno := List.countP_eq_zero.1 hway (n, q) (List.mem_of_getElem? hi)
          simpa using hno
        rw [hown, hq]
        rfl
      · by_cases hmn : m = n
        · subst hmn
          rw [Function.update_self] at hm
          exact .inr (Option.some.inj hm).symm
        · rw [Function.update_of_ne hmn] at hm
          exact .inl hm
  | otherGives reviewer content rating reviewId =>
    simp only [ReviewRun.step, noteSubmitted]
    split
    · exact h
    · rename_i hno
      obtain ⟨hne, hother⟩ := not_or.1 hno
      obtain ⟨hmono, hown⟩ := handle_other owner content rating hne hother
      exact h.serve hmono (fun c hc => hc) (by rw [hown]; rfl) (fun _ => hown) fun n reviews hr => .inl hr

theorem Inv.carriesId {y : ReviewRun × Bool} (h : Inv me owner y) {e : ReviewEvent} (hok : KeepsOne me y e) :
    CarriesId me owner y e := by
  cases e with
  | reviewBtnClicked reviewTime =>
    intro q hq r hr hme
    unfold ReviewDialog.reviewBtnClicked at hq
    split at hq
    case isFalse => cases hq
    rename_i hshow
    have hpos : y.1.server.own me ≠ 0 := Nat.ne_of_gt (ReviewServer.Names.own_pos ⟨r, hr, rfl, hme⟩)
    cases hid : y.1.dialog.reviewId with
    | none => exact absurd (h.opened hshow hid (hok hid)).1 hpos
    | some id =>
      have hone : y.1.server.own me ≤ 1 := Nat.le_of_add_right_le h.one
      have hsub := submission h.rateUser hq
      rw [hid, ← (h.remembered id hid).eq hone hr hme] at hsub
      exact ⟨_, _, _, hsub⟩
  | _ => trivial

theorem inv_start {server : ReviewServer} (hone : server.own me ≤ 1) : Inv me owner (start owner server, false) where
  one := hone
  remembered id hid := by cases hid
  listed r hr := absurd hr List.not_mem_nil
  answered n reviews hr := by cases hr
  calls c hc := absurd hc List.not_mem_nil
  opened hshow := by cases hshow
  rateUser := rfl

/-- **The owner has one review at most by the user, and a submission made while he has one carries its id**, in every run in
which the dialog is opened with the review there is. -/
theorem one_review_of_keepsOne (me owner : Int) (server : ReviewServer) (es : List ReviewEvent) (hone : server.own me ≤ 1)
    (hes : Runs.AllSteps (Runs.noting (step me owner) (noteSubmitted me)) (KeepsOne me) (start owner server, false) es) :
    Runs.AllStates (Runs.noting (step me owner) (noteSubmitted me)) (One me) (start owner server, false) es ∧
      Runs.AllSteps (Runs.noting (step me owner) (noteSubmitted me)) (CarriesId me owner) (start owner server, false) es :=
  ⟨Runs.allStates_of_invariant (Inv me owner) (fun _ _ h hok => h.step hok) (fun _ h => Nat.le_of_add_right_le h.one)
      (inv_start hone) hes,
    Runs.allSteps_of_invariant (Inv me owner) (fun _ _ h hok => h.step hok) (fun _ _ h hok => h.carriesId hok)
      (inv_start hone) hes⟩

/-- A server with one review of the owner, by user 7. -/
def reviewedBy7 : ReviewServer where
  reviews := [⟨1, 7, "fine", 4⟩]
  nextId := 2
  nodup := by decide
  fresh := by decide

/-- User 7 loads the page, opens the dialog on his review and changes it. -/
theorem one_review_of_keepsOne_7 :
    Runs.AllStates (Runs.noting (step 7 9) (noteSubmitted 7)) (One 7) (start 9 reviewedBy7, false)
      [.viewWillAppear, .handle 0, .reply 0 true, .rateUserBtnClicked, .edit "better" 5, .reviewBtnClicked 100, .handle 0] :=
  (one_review_of_keepsOne 7 9 reviewedBy7 _ (by decide) (by
    exact ⟨trivial, trivial, trivial, ⟨by decide, fun _ => .inr (by decide)⟩, trivial, fun h => absurd h (by decide),
      trivial, trivial⟩)).1

/-- The load fails, the dialog opens without the review that is there, and the server has two. -/
theorem failed_load_gives_a_second_review :
    let es : List ReviewEvent :=
      [.viewWillAppear, .reply 0 false, .rateUserBtnClicked, .edit "fine" 4, .reviewBtnClicked 100, .handle 1]
    reviewedBy7.own 7 ≤ 1 ∧
      ¬ Runs.AllStates (Runs.noting (step 7 9) (noteSubmitted 7)) (One 7) (start 9 reviewedBy7, false) es ∧
      ¬ Runs.AllSteps (Runs.noting (step 7 9) (noteSubmitted 7)) (CarriesId 7 9) (start 9 reviewedBy7, false) es := by
  refine ⟨by decide, fun h => absurd h.last (by simp only [One]; decide), ?_⟩
  rintro ⟨-, -, -, -, h, -⟩
  obtain ⟨content, time, rating, hq⟩ := h (.giveReview 9 7 "fine" 100 4 none) (by decide) ⟨1, 7, "fine", 4⟩ (by decide) rfl
  cases hq

end ReviewRun
end Traveller
