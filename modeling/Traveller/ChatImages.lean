import Traveller.ChatLock
/-!
# ChatImages — the image previewed and the image sent

`gotoUploadProfile` shows an image in `imv_Post` and uploads it; the address comes later, through `downloadURL`, and `Post`
sends whatever address is remembered when the partner's status arrives.  Only the preview is ever cleared, so the address of
an image that was cancelled or sent stays, and a later image whose upload fails is shown while the old one is sent.

The layer adds to a chat screen the preview and the uploads under way; what the screen remembers is the last address that was
looked up (`ImageInv`), which decides whose address a post sends (`previewed_image_is_sent`).
-/
namespace Traveller

/-- A text that is sent is never empty, so an empty one tells the send of an image. -/
def Send.ofImage (s : Send) : Bool := s.chatObject.field "message" = some ""

/-- How far an upload is: the image is on its way to the storage, or it is there and its address is looked up. -/
inductive UploadStage where
  | putFile | downloadURL
  deriving DecidableEq, Repr

/-- `uiv_postView` with `imv_Post`, and the uploads `gotoUploadProfile` has started. -/
structure PostView (α : Type*) where
  isHidden : Bool := true
  imvPost : Option α := none
  uploads : List (α × UploadStage) := []

/-- A chat screen with its preview. -/
structure PostScreen (α : Type*) where
  screen : Screen
  post : PostView α := {}

/-- What happens to it.  The button `Post` and the addresses come through the preview, everything else is the screen's. -/
inductive PostEvent (α : Type*) where
  | screen (e : ScreenEvent)
  | didSelect (image : Option α)
  | putFile (i : Nat) (ok : Bool)
  | downloadURL (i : Nat) (url : Option String)
  | cancelImageBtnClicked
  | spaceBtnClicked
  | handleSwipeDown
  | postImageBtnclicked

namespace PostScreen
variable {α : Type*}

/-- The three ways to cancel, and the end of the send of an image. -/
def hidePost (v : PostView α) : PostView α := { v with isHidden := true, imvPost := none }

def gotoUploadProfile (image : α) (v : PostView α) : PostView α where
  isHidden := false
  imvPost := some image
  uploads := v.uploads ++ [(image, .putFile)]

/-- Whether the event is the last write of the send of an image, and succeeds. -/
def endsImage (s : MessageSendVC) : ScreenEvent → Bool
  | .settle i true =>
    match s.outstanding[i]? with
    | some (.send f) => f.next.isNone && f.send.ofImage
    | _ => false
  | _ => false

/-- The lookup of an address that an event lets succeed. -/
def lookedUp (x : PostScreen α) : PostEvent α → Option (α × String)
  | .downloadURL i url =>
    match x.post.uploads[i]? with
    | some (image, .downloadURL) => url.map fun url => (image, url)
    | _ => none
  | _ => none

section
variable (me partner : Profile)

def act (x : PostScreen α) : PostEvent α → PostScreen α
  | .screen (.uploaded _) | .screen .postImageBtnclicked => x
  | .screen e =>
    { screen := MessageSendVC.step me partner x.screen e
      post := if endsImage x.screen.2 e then hidePost x.post else x.post }
  | .didSelect none => x
  | .didSelect (some image) => { x with post := gotoUploadProfile image x.post }
  | .putFile i ok =>
    match x.post.uploads[i]? with
    | some (image, .putFile) =>
      { x with post.uploads := if ok then x.post.uploads.set i (image, .downloadURL) else x.post.uploads.eraseIdx i }
    | _ => x
  | .downloadURL i url =>
    match x.post.uploads[i]? with
    | some (_, .downloadURL) =>
      { screen := url.elim x.screen fun url => MessageSendVC.step me partner x.screen (.uploaded url)
        post := { x.post with uploads := x.post.uploads.eraseIdx i } }
    | _ => x
  | .cancelImageBtnClicked | .spaceBtnClicked | .handleSwipeDown => { x with post := hidePost x.post }
  | .postImageBtnclicked => { x with screen := MessageSendVC.step me partner x.screen .postImageBtnclicked }

/-- Nothing happens after a trap, and the buttons of the preview are there while it is shown. -/
def takes (x : PostScreen α) (e : PostEvent α) : Bool :=
  !x.screen.2.crashed && match e with
    | .cancelImageBtnClicked | .spaceBtnClicked | .handleSwipeDown | .postImageBtnclicked => !x.post.isHidden
    | _ => true

def step (x : PostScreen α) (e : PostEvent α) : PostScreen α := if x.takes e then act me partner x e else x

/-! ## Whose address is sent -/

/-- What is noted: the lookups that have succeeded, and for each status query not answered what `imv_Post` showed when it was
made. -/
structure Noted (α : Type*) where
  found : List (α × String) := []
  shown : List (Option α) := []

/-- The status queries an event answers, by position. -/
def answered : PostEvent α → Option Nat
  | .screen (.statusReply i _ _) => some i
  | _ => none

def note (n : Noted α) (x : PostScreen α) (e : PostEvent α) : Noted α :=
  if x.takes e then
    { found := n.found ++ (x.lookedUp e).toList
      shown := (answered e).elim n.shown n.shown.eraseIdx ++
        List.replicate ((step me partner x e).screen.2.statusQueries.length - x.screen.2.statusQueries.length)
          x.post.imvPost }
  else n

abbrev noting : PostScreen α × Noted α → PostEvent α → PostScreen α × Noted α :=
  Runs.noting (step me partner) (note me partner)

/-- **The image sent is the image previewed**: where a step starts the send of an image, the step is the answer to the status
query of a tap, and the address written is one looked up for the image shown at the tap. -/
def SendsPreviewed (y : PostScreen α × Noted α) (e : PostEvent α) : Prop :=
  ∀ f : Flight, (step me partner y.1 e).screen.2.outstanding = y.1.screen.2.outstanding ++ [.send f] →
    f.send.ofImage = true → ∃ i image url, answered e = some i ∧ y.2.shown[i]? = some (some image) ∧
      (image, url) ∈ y.2.found ∧ f.send.chatObject.field "image" = some url

end

/-- The lookup that succeeded last, if any did, is that of the image shown when the answered post was tapped.  An answer that
finds a send under way sends nothing. -/
def LookedUpLast (y : PostScreen α × Noted α) (e : PostEvent α) : Prop :=
  ∀ i image url, answered e = some i → y.1.screen.2.statusQueries[i]? ≠ some .text → y.1.screen.2.isdosending = false →
    y.2.found.getLast? = some (image, url) → y.2.shown[i]? = some (some image)

section
variable (me partner : Profile)

/-! ## What starts the send of an image -/

/-- Only an answer starts a send. -/
theorem started_by_answer {x : Screen} {e : ScreenEvent} {f : Flight}
    (hf : (MessageSendVC.step me partner x e).2.outstanding = x.2.outstanding ++ [.send f]) :
    ∃ i snapshot now, e = .statusReply i snapshot now ∧ x.2.takes e = true := by
  by_cases ht : x.2.takes e = true
  case neg =>
    rw [MessageSendVC.step_of_not_takes me partner ht] at hf
    simp at hf
  by_cases he : MessageSendVC.ofSends e = true
  case neg =>
    -- What another event issues are writes nobody waits for.
    rw [(MessageSendVC.step_quiet me partner (by simpa using he) ht).outstanding] at hf
    have hmem : Pending.send f ∈ (MessageSendVC.issued me partner x e).map Pending.write := by
      rw [List.append_cancel_left hf]
      exact List.mem_singleton_self _
    obtain ⟨w, -, hw⟩ := List.mem_map.1 hmem
    cases hw
  cases e with
  | statusReply i snapshot now => exact ⟨i, snapshot, now, rfl, ht⟩
  | settle i ok =>
    -- A write that is over leaves the list and brings one at most.
    exfalso
    have hlen := congrArg List.length hf
    rw [List.length_append, List.length_singleton] at hlen
    rcases MessageSendVC.step_completion me partner ht with ⟨-, hx⟩ | ⟨w, hi, -, -, -, -, ho⟩ | ⟨g, rest, hi, -, -, -, -, -, ho⟩
    · rw [hx] at hlen
      omega
    · rw [ho] at hlen
      have := List.length_eraseIdx_le x.2.outstanding i
      omega
    · have hlt := (List.getElem?_eq_some_iff.1 hi).1
      rw [ho, List.length_append, List.length_eraseIdx_of_lt hlt] at hlen
      have : ((if ok = true then g.next.toList.map Pending.send else [])).length ≤ 1 := by
        split
        · cases g.next <;> simp
        · simp
      omega
  | _ => cases he

theorem doSend_starts {online : Bool} {url : String} {now : Int} {fb : Firebase} {s : MessageSendVC} {f : Flight}
    (hb : s.isBlock ≠ "true")
    (hf : (MessageSendVC.doSend me partner online .image url now fb s).2.outstanding = s.outstanding ++ [.send f]) :
    s.isdosending = false ∧ f.send = MessageSendVC.send me partner .image url (now * 1000) (.auto fb.nextKey) := by
  cases hl : s.isdosending with
  | true =>
    rw [MessageSendVC.doSend_locked _ _ _ _ _ hb hl] at hf
    simp at hf
  | false =>
    rw [MessageSendVC.doSend_start _ _ _ _ _ hb hl (by simp)] at hf
    have hsend := List.append_cancel_left hf
    simp only [List.cons.injEq, Pending.send.injEq, and_true] at hsend
    exact ⟨rfl, by rw [← hsend]⟩

/-- The answer to a post that starts a send has found the lock free and an address, and sends that. -/
theorem statusReply_starts {i : Nat} {snapshot : List String} {now : Int} {fb : Firebase} {s : MessageSendVC} {f : Flight}
    (hb : s.isBlock = "false") (hq : s.statusQueries[i]? ≠ some .text)
    (hf : (MessageSendVC.statusReply me partner i snapshot now fb s).2.outstanding = s.outstanding ++ [.send f]) :
    s.isdosending = false ∧ ∃ url, s.downloadURL = some url ∧
      f.send = MessageSendVC.send me partner .image url (now * 1000) (.auto fb.nextKey) := by
  have hb' : s.isBlock ≠ "true" := by rw [hb]; decide
  cases hq' : s.statusQueries[i]? with
  | none =>
    simp only [MessageSendVC.statusReply, hq'] at hf
    simp at hf
  | some msgtype =>
    rw [MessageSendVC.statusReply_eq me partner hb' hq'] at hf
    cases msgtype with
    | text => exact absurd hq' hq
    | _ =>
      simp only [MessageSendVC.statusCompletion] at hf
      split at hf
      · simp at hf
      · rename_i url hu
        obtain ⟨hl, hsend⟩ := doSend_starts me partner (s := { s with statusQueries := s.statusQueries.eraseIdx i }) hb' hf
        exact ⟨hl, url, hu, hsend⟩

/-- The answer to the status query of a text starts no send of an image. -/
theorem not_ofImage_of_text {i : Nat} {snapshot : List String} {now : Int} {x : Screen} {f : Flight}
    (hb : x.2.isBlock = "false") (hq : x.2.statusQueries[i]? = some .text)
    (hf : (MessageSendVC.statusReply me partner i snapshot now x.1 x.2).2.outstanding = x.2.outstanding ++ [.send f]) :
    f.send.ofImage = false := by
  have hb' : x.2.isBlock ≠ "true" := by rw [hb]; decide
  rcases MessageSendVC.statusReply_answer me partner i snapshot now hb' with
    ⟨-, -, ho, -⟩ | ⟨-, -, ho, -⟩ | ⟨msgtype, attachment, -, -, -, ho, -, -, hwhat, -⟩
  · rw [ho] at hf
    simp at hf
  · rw [ho] at hf
    simp at hf
  · rcases hwhat with ⟨-, rfl, rfl, hne⟩ | ⟨hq', -⟩
    · have := List.append_cancel_left (ho.symm.trans hf)
      simp only [List.cons.injEq, Pending.send.injEq, and_true] at this
      simp [← this, Send.ofImage, MessageSendVC.send, hne]
    · exact absurd hq hq'

/-! ## The run -/

/-- **What the screen remembers**: the address looked up last, and one noted preview for each status query. -/
structure ImageInv (y : PostScreen α × Noted α) : Prop where
  isBlock : y.1.screen.2.isBlock = "false"
  downloadURL : y.1.screen.2.downloadURL = y.2.found.getLast?.map Prod.snd
  shown : y.2.shown.length = y.1.screen.2.statusQueries.length

/-- What an event that looks nothing up and answers nothing does to the address and the queries. -/
theorem step_grows {x : PostScreen α} {e : PostEvent α} (hfound : x.lookedUp e = none) (hanswered : answered e = none) :
    ∃ new, MessageSendVC.SamePost { x.screen.2 with statusQueries := x.screen.2.statusQueries ++ new } (step me partner x e).screen.2 := by
  have hnil := (List.append_nil x.screen.2.statusQueries).symm
  unfold step
  split
  case isFalse => exact ⟨[], rfl, hnil, id⟩
  cases e with
  | screen e =>
    cases e with
    | statusReply i snapshot now => cases hanswered
    | uploaded url => exact ⟨[], rfl, hnil, id⟩
    | postImageBtnclicked => exact ⟨[], rfl, hnil, id⟩
    | _ => exact MessageSendVC.step_samePost me partner (by simp) (by simp)
  | didSelect image => cases image <;> exact ⟨[], rfl, hnil, id⟩
  | putFile i ok =>
    simp only [act]
    split <;> exact ⟨[], rfl, hnil, id⟩
  | downloadURL i url =>
    simp only [act]
    split
    · rename_i image hi
      -- A lookup that fails leaves the screen alone.
      simp only [lookedUp, hi, Option.map_eq_none_iff] at hfound
      subst hfound
      exact ⟨[], rfl, hnil, id⟩
    · exact ⟨[], rfl, hnil, id⟩
  | postImageBtnclicked => exact MessageSendVC.step_samePost me partner (by simp) (by simp)
  | _ => exact ⟨[], rfl, hnil, id⟩

theorem step_lookedUp {x : PostScreen α} {e : PostEvent α} {image : α} {url : String} (ht : x.takes e = true)
    (hfound : x.lookedUp e = some (image, url)) :
    answered e = none ∧ (step me partner x e).screen = (x.screen.1, { x.screen.2 with downloadURL := some url }) := by
  have hc : x.screen.2.crashed = false := by
    simp only [takes, Bool.and_eq_true, Bool.not_eq_true'] at ht
    exact ht.1
  cases e with
  | downloadURL i url' =>
    simp only [lookedUp] at hfound
    split at hfound
    · rename_i image' hi
      obtain ⟨url', rfl, hu⟩ := Option.map_eq_some_iff.1 hfound
      cases hu
      refine ⟨rfl, ?_⟩
      rw [step, if_pos ht]
      simp [act, hi, MessageSendVC.step, MessageSendVC.takes, MessageSendVC.act, hc]
    · cases hfound
  | _ => cases hfound

theorem ImageInv.step {y : PostScreen α × Noted α} (h : ImageInv y) (e : PostEvent α) :
    ImageInv (noting me partner y e) := by
  obtain ⟨x, n⟩ := y
  by_cases ht : x.takes e = true
  case neg =>
    have hx : PostScreen.step me partner x e = x := if_neg ht
    have hn : note me partner n x e = n := if_neg ht
    rwa [noting, Runs.noting, hx, hn]
  cases hfound : x.lookedUp e with
  | some found =>
    obtain ⟨image, url⟩ := found
    obtain ⟨hanswered, hx⟩ := step_lookedUp me partner ht hfound
    refine ⟨?_, ?_, ?_⟩ <;> simp only [Runs.noting, note, if_pos ht, hx, hfound, hanswered]
    · exact h.isBlock
    · simp
    · simpa using h.shown
  | none =>
    cases hanswered : answered e with
    | none =>
      obtain ⟨new, hgrow⟩ := step_grows me partner hfound hanswered
      refine ⟨hgrow.isBlock h.isBlock, ?_, ?_⟩ <;> simp only [Runs.noting, note, if_pos ht, hfound, hanswered]
      · rw [hgrow.downloadURL]
        simpa using h.downloadURL
      · have hshown : n.shown.length = x.screen.2.statusQueries.length := h.shown
        simp only [hgrow.statusQueries, Option.elim_none, List.length_append, List.length_replicate]
        omega
    | some i =>
      -- The answer takes its query and the preview noted for it off the two lists.
      cases e with
      | screen e =>
        cases e with
        | statusReply j snapshot now =>
          cases hanswered
          have hc : x.screen.2.takes (.statusReply i snapshot now) = true := by
            simpa [takes, MessageSendVC.takes] using ht
          have hx : (PostScreen.step me partner x (.screen (.statusReply i snapshot now))).screen =
              MessageSendVC.statusReply me partner i snapshot now x.screen.1 x.screen.2 := by
            rw [PostScreen.step, if_pos ht]
            exact if_pos hc
          have hsame := MessageSendVC.statusReply_samePost me partner i snapshot now x.screen.1 x.screen.2
          have hshown : n.shown.length = x.screen.2.statusQueries.length := h.shown
          refine ⟨?_, ?_, ?_⟩ <;> simp only [Runs.noting, note, if_pos ht, hx, hfound]
          · exact hsame.isBlock h.isBlock
          · rw [hsame.downloadURL]
            simpa using h.downloadURL
          · have hle := List.length_eraseIdx_le x.screen.2.statusQueries i
            simp only [hsame.statusQueries, answered, Option.elim_some, List.length_append, List.length_replicate,
              List.length_eraseIdx, hshown] at hle ⊢
            omega
        | _ => cases hanswered
      | _ => cases hanswered

/-- Only an answer to a status query starts a send. -/
theorem step_starts {x : PostScreen α} {e : PostEvent α} {f : Flight}
    (hf : (PostScreen.step me partner x e).screen.2.outstanding = x.screen.2.outstanding ++ [.send f]) :
    ∃ i snapshot now, e = .screen (.statusReply i snapshot now) ∧
      (MessageSendVC.statusReply me partner i snapshot now x.screen.1 x.screen.2).2.outstanding =
        x.screen.2.outstanding ++ [.send f] := by
  have hscreen : ∀ e', (MessageSendVC.step me partner x.screen e').2.outstanding = x.screen.2.outstanding ++ [.send f] →
      ∃ i snapshot now, e' = .statusReply i snapshot now ∧
        (MessageSendVC.statusReply me partner i snapshot now x.screen.1 x.screen.2).2.outstanding =
          x.screen.2.outstanding ++ [.send f] := by
    intro e' hf'
    obtain ⟨i, snapshot, now, rfl, htakes⟩ := started_by_answer me partner hf'
    rw [MessageSendVC.step, if_pos htakes] at hf'
    exact ⟨i, snapshot, now, rfl, hf'⟩
  unfold PostScreen.step at hf
  split at hf
  case isFalse => simp at hf
  cases e with
  | screen e =>
    cases e with
    | uploaded url => simp [act] at hf
    | postImageBtnclicked => simp [act] at hf
    | _ =>
      obtain ⟨i, snapshot, now, he, hf'⟩ := hscreen _ hf
      exact ⟨i, snapshot, now, by rw [he], hf'⟩
  | didSelect image => cases image <;> simp [act, gotoUploadProfile] at hf
  | putFile i ok =>
    simp only [act] at hf
    split at hf <;> simp at hf
  | downloadURL i url =>
    simp only [act] at hf
    split at hf
    · cases url with
      | none => simp at hf
      | some url =>
        obtain ⟨i, snapshot, now, he, -⟩ := hscreen _ hf
        cases he
    · simp at hf
  | postImageBtnclicked =>
    obtain ⟨i, snapshot, now, he, -⟩ := hscreen _ hf
    cases he
  | _ => simp [act] at hf

/-- **The step lemma**: an answer that finds the address of the image it was asked for sends that. -/
theorem ImageInv.sends {y : PostScreen α × Noted α} (h : ImageInv y) {e : PostEvent α} (hok : LookedUpLast y e) :
    SendsPreviewed me partner y e := by
  obtain ⟨x, n⟩ := y
  intro f hf himage
  obtain ⟨i, snapshot, now, rfl, hstart⟩ := step_starts me partner hf
  have hq : x.screen.2.statusQueries[i]? ≠ some .text := fun hq =>
    absurd himage (by simp [not_ofImage_of_text me partner h.isBlock hq hstart])
  obtain ⟨hl, url, hurl, hsend⟩ := statusReply_starts me partner h.isBlock hq hstart
  obtain ⟨⟨image, url'⟩, hlast, rfl⟩ := Option.map_eq_some_iff.1 (h.downloadURL.symm.trans hurl)
  exact ⟨i, image, url', rfl, hok i image url' rfl hq hl hlast, List.mem_of_getLast? hlast, by
    simp [hsend, MessageSendVC.send]⟩

/-- **The image sent is the image previewed, in every run in which each post is answered while the address looked up last is
that of its image.**  The addresses are never forgotten, so nothing else decides which one is sent. -/
theorem previewed_image_is_sent (fb : Firebase) (es : List (PostEvent α))
    (hes : Runs.AllSteps (noting me partner) LookedUpLast ({ screen := (fb, {}) }, {}) es) :
    Runs.AllSteps (noting me partner) (SendsPreviewed me partner) ({ screen := (fb, {}) }, {}) es :=
  Runs.allSteps_of_invariant ImageInv (fun _ e h _ => h.step me partner e) (fun _ _ h hok => h.sends me partner hok)
    ⟨rfl, rfl, rfl⟩ hes

/-- An image is picked, uploaded and posted. -/
theorem previewed_image_is_sent_cat :
    Runs.AllSteps (noting (.ofPartner 7 "" "" "" 0) (.ofPartner 9 "" "" "" 0)) (SendsPreviewed (.ofPartner 7 "" "" "" 0)
      (.ofPartner 9 "" "" "" 0)) ({ screen := ({}, {}) }, {}) [.didSelect (some "cat"), .putFile 0 true,
        .downloadURL 0 (some "/aa"), .postImageBtnclicked, .screen (.statusReply 0 ["online"] 100)] := by
  refine previewed_image_is_sent _ _ {} _ ⟨?_, ?_, ?_, ?_, ?_, trivial⟩
  · rintro i image url ⟨⟩
  · rintro i image url ⟨⟩
  · rintro i image url ⟨⟩
  · rintro i image url ⟨⟩
  · rintro i image url ⟨⟩ - - ⟨⟩
    rfl

/-- The first image is cancelled, the upload of the second fails: the second is shown, the first is sent. -/
theorem cancelled_image_is_sent :
    ¬ Runs.AllSteps (noting (.ofPartner 7 "" "" "" 0) (.ofPartner 9 "" "" "" 0)) (SendsPreviewed (.ofPartner 7 "" "" "" 0)
      (.ofPartner 9 "" "" "" 0)) ({ screen := ({}, {}) }, {}) [.didSelect (some "cat"), .putFile 0 true,
        .downloadURL 0 (some "/aa"), .cancelImageBtnClicked, .didSelect (some "dog"), .putFile 0 false,
        .postImageBtnclicked, .screen (.statusReply 0 ["online"] 100)] := by
  rintro ⟨-, -, -, -, -, -, -, h, -⟩
  let send := MessageSendVC.send (.ofPartner 7 "" "" "" 0) (.ofPartner 9 "" "" "" 0) .image "/aa" 100000 (.auto 0)
  obtain ⟨i, image, url, hi, hshown, hfound, -⟩ := h { send := send } rfl (by decide)
  cases hi
  cases hshown
  exact absurd (Prod.mk.inj (List.mem_singleton.1 hfound)).1 (by decide)

end

end PostScreen
end Traveller
