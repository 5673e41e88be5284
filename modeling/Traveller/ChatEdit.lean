import Traveller.ChatScreen
/-!
# ChatEdit — what an edit changes

An edit remembers its message as a position in the list on the screen.  The list grows at its end, but a removal shifts
what follows it and every `setParams` empties it, and neither ends the edit.  Beside each state we note the message that
`Edit` was tapped on; `edits_hit_the_chosen_message` gives the steps an edit survives, and
`edit_after_a_removal_hits_another_message` a run in which it overwrites a message of the partner.
-/
namespace Traveller
namespace MessageSendVC

/-- The message `Edit` was tapped on last, by its `msg_id`. -/
def noteChosen (chosen : Option Key) (x : Screen) (e : ScreenEvent) : Option Key :=
  match e with
  | .sheetEdit =>
    if x.2.takes e then
      match x.2.sheet.bind fun sheet => x.2.msgdataSource[sheet.indexPath]? with
      | some entry => some entry.msgId
      | none => chosen
    else chosen
  | _ => chosen

def editStep (me partner : Profile) : Screen × Option Key → ScreenEvent → Screen × Option Key :=
  Runs.noting (step me partner) noteChosen

/-- **An edit that is committed changes the message it was started on**: the index is in the list, the entry there is the
chosen message and an own one, and the write and the change of the list are at it. -/
def HitsChosen (me partner : Profile) (y : Screen × Option Key) (e : ScreenEvent) : Prop :=
  e = .sendAction → y.1.2.takes e = true → y.1.2.isEdit = true →
    ∃ entry, y.1.2.msgdataSource[y.1.2.edtIndex]? = some entry ∧ y.2 = some entry.msgId ∧ entry.me = true ∧
      (step me partner y.1 e).2.outstanding = y.1.2.outstanding ++
        [.write (editWrite me (setParamsRoom me.userId partner.userId) entry.msgId y.1.2.edtMsgSend entry.timestamp)] ∧
      (step me partner y.1 e).2.msgdataSource =
        y.1.2.msgdataSource.set y.1.2.edtIndex { entry with msgContent := y.1.2.edtMsgSend }

/-- During an edit nothing at or before the edited position is removed, and the screen does not appear again, neither
during an edit nor under a sheet that offers one. -/
def keepsTarget (x : Screen) (e : ScreenEvent) : Prop :=
  x.2.takes e = true →
    match e with
    | .sheetRemove => x.2.isEdit = true → ∀ sheet, x.2.sheet = some sheet → x.2.edtIndex < sheet.indexPath
    | .viewWillAppear _ => x.2.isEdit = false ∧ ∀ sheet, x.2.sheet = some sheet → sheet.edit = false
    | _ => True

/-- The list has an own message at the position. -/
def OwnAt (s : MessageSendVC) (i : Nat) (entry : ChatModel) : Prop :=
  s.msgdataSource[i]? = some entry ∧ entry.me = true

/-- The edit points at the chosen message, and a sheet that offers `Edit` at an own one. -/
structure EditInv (y : Screen × Option Key) : Prop where
  target : y.1.2.isEdit = true → ∃ entry, OwnAt y.1.2 y.1.2.edtIndex entry ∧ y.2 = some entry.msgId
  sheet : ∀ sheet, y.1.2.sheet = some sheet → sheet.edit = true → ∃ entry, OwnAt y.1.2 sheet.indexPath entry

theorem EditInv.hits {me partner : Profile} {y : Screen × Option Key} (h : EditInv y) (e : ScreenEvent) :
    HitsChosen me partner y e := by
  rintro rfl ht hedit
  obtain ⟨entry, ⟨hget, hme⟩, hchosen⟩ := h.target hedit
  have hstep : step me partner y.1 .sendAction = (y.1.1, sendAction me partner y.1.2) := by
    rw [step, if_pos ht]
    rfl
  refine ⟨entry, hget, hchosen, hme, ?_⟩
  rw [hstep]
  simp only [sendAction, hedit, if_true, hget, and_self]

theorem EditInv.of_grown {x x' : Screen} {chosen : Option Key} (h : EditInv (x, chosen)) (more : List ChatModel)
    (hlist : x'.2.msgdataSource = x.2.msgdataSource ++ more) (hedit : x'.2.isEdit = x.2.isEdit)
    (hindex : x'.2.edtIndex = x.2.edtIndex) (hsheet : x'.2.sheet = x.2.sheet ∨ x'.2.sheet = none) :
    EditInv (x', chosen) := by
  have hown : ∀ i entry, OwnAt x.2 i entry → OwnAt x'.2 i entry := fun i entry hi => by
    obtain ⟨hlt, -⟩ := List.getElem?_eq_some_iff.1 hi.1
    exact ⟨by rw [hlist, List.getElem?_append_left hlt]; exact hi.1, hi.2⟩
  refine ⟨fun he => ?_, fun sheet hs ho => ?_⟩
  · obtain ⟨entry, hentry, hchosen⟩ := h.target (hedit ▸ he)
    exact ⟨entry, by rw [hindex]; exact hown _ _ hentry, hchosen⟩
  · rcases hsheet with hsheet | hsheet
    · obtain ⟨entry, hentry⟩ := h.sheet sheet (hsheet ▸ hs) ho
      exact ⟨entry, hown _ _ hentry⟩
    · rw [hsheet] at hs
      cases hs

section Handlers
variable {x : Screen} {chosen : Option Key}

/-- A commit ends the edit. -/
theorem EditInv.sendAction (h : EditInv (x, chosen)) (me partner : Profile) (hnosheet : x.2.sheet = none) :
    EditInv ((x.1, MessageSendVC.sendAction me partner x.2), chosen) := by
  simp only [MessageSendVC.sendAction]
  by_cases hedit : x.2.isEdit = true
  · obtain ⟨entry, ⟨hget, -⟩, -⟩ := h.target hedit
    simp only [hedit, if_true, hget]
    refine ⟨fun he => (by cases he), fun sheet hsheet _ => ?_⟩
    rw [hnosheet] at hsheet
    cases hsheet
  · rw [if_neg hedit]
    split
    · exact h
    · exact h.of_grown [] (List.append_nil _).symm rfl rfl (.inl rfl)

/-- The sheet of an own message offers `Edit` at it. -/
theorem EditInv.longpress (h : EditInv (x, chosen)) (indexPath : Nat) :
    EditInv ((x.1, MessageSendVC.longpress indexPath x.2), chosen) := by
  simp only [MessageSendVC.longpress]
  split
  · exact h
  · rename_i entry hget
    split
    · rename_i hme
      refine ⟨h.target, fun sheet hsheet _ => ?_⟩
      cases hsheet
      exact ⟨entry, hget, hme⟩
    · exact h

/-- `Edit` remembers where the chosen message is. -/
theorem EditInv.sheetEdit {sheet : Sheet} {entry : ChatModel} (hsheet : x.2.sheet = some sheet)
    (hentry : OwnAt x.2 sheet.indexPath entry) : EditInv ((x.1, MessageSendVC.sheetEdit x.2), some entry.msgId) := by
  simp only [MessageSendVC.sheetEdit, hsheet, hentry.1]
  exact ⟨fun _ => ⟨entry, hentry, rfl⟩, fun _ h => by cases h⟩

/-- A removal behind the chosen message leaves it where it is. -/
theorem EditInv.sheetRemove (h : EditInv (x, chosen)) (me partner : Profile) {sheet : Sheet} (hsheet : x.2.sheet = some sheet)
    (hbehind : x.2.isEdit = true → x.2.edtIndex < sheet.indexPath) :
    EditInv ((x.1, MessageSendVC.sheetRemove me partner x.2), chosen) := by
  simp only [MessageSendVC.sheetRemove, hsheet]
  cases hget : x.2.msgdataSource[sheet.indexPath]? with
  | none => exact ⟨h.target, fun _ h => by cases h⟩
  | some entry =>
    refine ⟨fun he => ?_, fun _ h => by cases h⟩
    obtain ⟨target, ⟨htarget, hme⟩, hchosen⟩ := h.target he
    refine ⟨target, ⟨?_, hme⟩, hchosen⟩
    rw [List.getElem?_eraseIdx, if_pos (hbehind he)]
    exact htarget

end Handlers

theorem EditInv.step {me partner : Profile} {y : Screen × Option Key} (h : EditInv y) {e : ScreenEvent}
    (hok : keepsTarget y.1 e) : EditInv (editStep me partner y e) := by
  obtain ⟨x, chosen⟩ := y
  cases hs : ofSends e with
  | true =>
    have hsame := step_sameEdit me partner x hs
    have hchosen : noteChosen chosen x e = chosen := by cases e <;> first | rfl | cases hs
    rw [editStep, Runs.noting, hchosen]
    exact h.of_grown [] (by rw [hsame.msgdataSource, List.append_nil]) hsame.isEdit hsame.edtIndex
      (.inl hsame.sheet)
  | false =>
    by_cases ht : x.2.takes e = true
    case neg =>
      have hchosen : noteChosen chosen x e = chosen := by
        cases e <;> first | rfl | exact if_neg ht
      rwa [editStep, Runs.noting, step_of_not_takes me partner ht, hchosen]
    have hok := hok ht
    rw [editStep, Runs.noting, MessageSendVC.step, if_pos ht]
    cases e with
    | statusReply _ _ _ => cases hs
    | settle _ _ => cases hs
    | viewWillAppear now =>
      obtain ⟨hedit, hoffers⟩ : x.2.isEdit = false ∧ ∀ sheet, x.2.sheet = some sheet → sheet.edit = false := hok
      refine ⟨fun he => ?_, fun sheet hsheet ho => ?_⟩
      · exact absurd (hedit.symm.trans he) (by decide)
      · rw [hoffers sheet hsheet] at ho
        cases ho
    | sendAction =>
      simp only [takes, Bool.and_eq_true, Option.isNone_iff_eq_none] at ht
      exact h.sendAction me partner ht.2
    | childAdded key snapshot => exact h.of_grown [parseMsg me.userId key snapshot] rfl rfl rfl (.inl rfl)
    | longpress indexPath => exact h.longpress indexPath
    | sheetEdit =>
      simp only [takes, Bool.and_eq_true, Option.any_eq_true] at ht
      obtain ⟨hcrash, sheet, hsheet, hoffers⟩ := ht
      obtain ⟨entry, hentry⟩ := h.sheet sheet hsheet hoffers
      have htakes : x.2.takes .sheetEdit = true := by simp [takes, hcrash, hsheet, hoffers]
      have hchosen : noteChosen chosen x .sheetEdit = some entry.msgId := by
        simp only [noteChosen, htakes, if_true, hsheet, Option.bind_some, hentry.1]
      rw [hchosen]
      exact EditInv.sheetEdit hsheet hentry
    | sheetRemove =>
      simp only [takes, Bool.and_eq_true, Option.isSome_iff_exists] at ht
      obtain ⟨-, sheet, hsheet⟩ := ht
      exact h.sheetRemove me partner hsheet fun he => hok he sheet hsheet
    | sheetCancel => exact h.of_grown [] (List.append_nil _).symm rfl rfl (.inr rfl)
    | _ => exact h.of_grown [] (List.append_nil _).symm rfl rfl (.inl rfl)

/-- **In every run whose steps keep the edited position, each edit that is committed hits the message chosen.** -/
theorem edits_hit_the_chosen_message (me partner : Profile) (fb : Firebase) (es : List ScreenEvent)
    (hes : Runs.AllSteps (editStep me partner) (fun y e => keepsTarget y.1 e) ((fb, {}), none) es) :
    Runs.AllSteps (editStep me partner) (HitsChosen me partner) ((fb, {}), none) es :=
  Runs.allSteps_of_invariant EditInv (fun _ _ h hok => h.step hok) (fun _ _ h _ => h.hits _)
    ⟨fun he => (by cases he), fun _ hs => (by cases hs)⟩ hes

theorem edits_hit_the_chosen_message_one :
    Runs.AllSteps (editStep (.ofPartner 9 "Ann" "" "" 0) (.ofPartner 7 "Bob" "" "" 0))
      (HitsChosen (.ofPartner 9 "Ann" "" "" 0) (.ofPartner 7 "Bob" "" "" 0)) (({}, {}), none)
      [.childAdded (.auto 4) (.ofFields [("message", some "mine"), ("sender_id", some "9")]), .longpress 0, .sheetEdit,
        .sendAction] :=
  edits_hit_the_chosen_message (.ofPartner 9 "Ann" "" "" 0) (.ofPartner 7 "Bob" "" "" 0) {} _
    ⟨fun _ => trivial, fun _ => trivial, fun _ => trivial, fun _ => trivial, trivial⟩

/-- `Edit` on the second of two own messages, `Remove` on the first: the commit overwrites the message of the partner that
has moved to the remembered position. -/
theorem edit_after_a_removal_hits_another_message :
    ¬ Runs.AllSteps (editStep (.ofPartner 9 "Ann" "" "" 0) (.ofPartner 7 "Bob" "" "" 0))
      (HitsChosen (.ofPartner 9 "Ann" "" "" 0) (.ofPartner 7 "Bob" "" "" 0)) (({}, {}), none)
      ([.viewWillAppear 1,
        .childAdded (.auto 4) (.ofFields [("message", some "first"), ("sender_id", some "9")]),
        .childAdded (.auto 5) (.ofFields [("message", some "second"), ("sender_id", some "9")]),
        .childAdded (.auto 6) (.ofFields [("message", some "theirs"), ("sender_id", some "7")]),
        .longpress 1, .sheetEdit, .longpress 0, .sheetRemove] ++ [.sendAction]) := by
  intro h
  obtain ⟨entry, hget, hchosen, -⟩ := h.last rfl (by decide) (by decide)
  have hsame := congrArg (Option.map ChatModel.msgId) hget
  rw [Option.map_some, ← hchosen] at hsame
  revert hsame
  decide

end MessageSendVC
end Traveller
