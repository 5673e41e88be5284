import Traveller.ChatEdit
import Traveller.ChatRefines
/-!
# ChatOwn — what keeps edits and removals on own rows

A long press opens the sheet on an own row only, but the sheet and the edit remember the row by its position.  As long as no
screen appears again under a sheet or during an edit, and no removal is made at or before the row that is edited, the
positions stay on own rows: no screen traps, and the chat refines the conversations (`acts_on_own_of_keepsRows`).
-/
namespace Traveller
namespace MessageSendVC

/-- During an edit nothing at or before the edited row is removed, and the screen does not appear again, neither during an
edit nor under a sheet. -/
def KeepsRows (s : MessageSendVC) : ScreenEvent → Prop
  | .sheetRemove => s.isEdit = true → ∀ sheet, s.sheet = some sheet → s.edtIndex < sheet.indexPath
  | .viewWillAppear _ => s.isEdit = false ∧ s.sheet = none
  | _ => True

/-- The edit and the sheet are at own rows, and nothing has trapped. -/
structure OwnRows (s : MessageSendVC) : Prop where
  edit : s.isEdit = true → ∃ entry, OwnAt s s.edtIndex entry
  sheet : ∀ sheet, s.sheet = some sheet → ∃ entry, OwnAt s sheet.indexPath entry
  alive : s.crashed = false

section Step
variable {me partner : Profile} {fb : Firebase} {s s' : MessageSendVC} {e : ScreenEvent}

/-- A list that only grows keeps the own rows where they are. -/
theorem OwnRows.of_grown (h : OwnRows s) (more : List ChatModel) (hlist : s'.msgdataSource = s.msgdataSource ++ more)
    (hedit : s'.isEdit = s.isEdit) (hindex : s'.edtIndex = s.edtIndex) (hsheet : s'.sheet = s.sheet ∨ s'.sheet = none)
    (hcrashed : s'.crashed = s.crashed) : OwnRows s' := by
  have hown : ∀ i entry, OwnAt s i entry → OwnAt s' i entry := fun i entry hi => by
    obtain ⟨hlt, -⟩ := List.getElem?_eq_some_iff.1 hi.1
    exact ⟨by rw [hlist, List.getElem?_append_left hlt]; exact hi.1, hi.2⟩
  refine ⟨fun he => ?_, fun sheet hs => ?_, hcrashed.trans h.alive⟩
  · obtain ⟨entry, hentry⟩ := h.edit (hedit ▸ he)
    exact ⟨entry, by rw [hindex]; exact hown _ _ hentry⟩
  · rcases hsheet with hsheet | hsheet
    · obtain ⟨entry, hentry⟩ := h.sheet sheet (hsheet ▸ hs)
      exact ⟨entry, hown _ _ hentry⟩
    · rw [hsheet] at hs
      cases hs

/-- **A step keeps the edit and the sheet on own rows.** -/
theorem OwnRows.step (h : OwnRows s) (hok : s.takes e = true → s.KeepsRows e) :
    OwnRows (MessageSendVC.step me partner (fb, s) e).2 := by
  by_cases ht : s.takes e = true
  case neg =>
    rw [step_of_not_takes (x := (fb, s)) me partner ht]
    exact h
  have hok := hok ht
  cases hof : ofSends e with
  | true =>
    have hsame := step_sameEdit me partner (fb, s) hof
    exact h.of_grown [] (by rw [hsame.msgdataSource, List.append_nil]) hsame.isEdit hsame.edtIndex (.inl hsame.sheet)
      hsame.crashed
  | false =>
    rw [MessageSendVC.step, if_pos ht]
    cases e with
    | statusReply _ _ _ => cases hof
    | settle _ _ => cases hof
    | viewWillAppear now =>
      obtain ⟨hedit, hsheet⟩ : s.isEdit = false ∧ s.sheet = none := hok
      refine ⟨fun he => ?_, fun sheet hs => ?_, h.alive⟩
      · exact absurd (hedit.symm.trans he) (by decide)
      · exact absurd (hsheet.symm.trans hs) (by simp)
    | sendAction =>
      have hnosheet : s.sheet = none := by
        simp only [takes, Bool.and_eq_true, Option.isNone_iff_eq_none] at ht
        exact ht.2
      simp only [act, sendAction]
      by_cases hedit : s.isEdit = true
      · obtain ⟨entry, hget, -⟩ := h.edit hedit
        simp only [hedit, if_true, hget]
        exact ⟨fun he => (by cases he), fun sheet hs => absurd (hnosheet.symm.trans hs) (by simp), h.alive⟩
      · rw [if_neg hedit]
        split
        · exact h
        · exact h.of_grown [] (List.append_nil _).symm rfl rfl (.inl rfl) rfl
    | childAdded key snapshot => exact h.of_grown [parseMsg me.userId key snapshot] rfl rfl rfl (.inl rfl) rfl
    | longpress indexPath =>
      simp only [act, longpress]
      split
      · exact h
      · rename_i entry hget
        split
        · rename_i hme
          refine ⟨h.edit, fun sheet hsheet => ?_, h.alive⟩
          cases hsheet
          exact ⟨entry, hget, hme⟩
        · exact h
    | sheetEdit =>
      simp only [act, sheetEdit]
      cases hsheet : s.sheet with
      | none => exact h
      | some sheet =>
        obtain ⟨entry, hget, hme⟩ := h.sheet sheet hsheet
        simp only [hget]
        exact ⟨fun _ => ⟨entry, hget, hme⟩, fun _ hs => (by cases hs), h.alive⟩
    | sheetRemove =>
      simp only [act, sheetRemove]
      cases hsheet : s.sheet with
      | none => exact h
      | some sheet =>
        obtain ⟨entry, hget, -⟩ := h.sheet sheet hsheet
        simp only [hget]
        refine ⟨fun he => ?_, fun _ hs => (by cases hs), h.alive⟩
        obtain ⟨target, htarget, hme⟩ := h.edit he
        refine ⟨target, ?_, hme⟩
        rw [List.getElem?_eraseIdx, if_pos (hok he sheet hsheet)]
        exact htarget
    | sheetCancel => exact h.of_grown [] (List.append_nil _).symm rfl rfl (.inr rfl) rfl
    | _ => exact h.of_grown [] (List.append_nil _).symm rfl rfl (.inl rfl) rfl

end Step
end MessageSendVC

namespace Chats

/-- On every device. -/
def KeepsRows (y : Chats) : ChatsEvent → Prop
  | .device (.screen i e) => ∀ c, y.devices.chats[i]? = some c → c.vc.takes e = true → c.vc.KeepsRows e
  | _ => True

def OwnRows (y : Chats) : Prop := ∀ c ∈ y.devices.chats, c.vc.OwnRows

theorem OwnRows.step {y : Chats} (h : y.OwnRows) {e : ChatsEvent} (hok : y.KeepsRows e) : (y.step e).OwnRows := by
  have hstep := y.step_stepped e
  generalize y.step e = y' at hstep ⊢
  intro c hc
  cases hstep with
  | opened storedPassword me partner hl =>
    rcases List.mem_append.1 hc with hc | hc
    · exact h c hc
    · rw [List.mem_singleton.1 hc]
      exact ⟨fun he => (by cases he), fun _ hs => (by cases hs), rfl⟩
  | screen i c' se hi hactor hl hse =>
    rcases mem_put hc with hc | rfl
    · exact h c hc
    · refine (h c' (List.mem_of_getElem? hi)).step ?_
      rcases hse with ⟨rfl, -⟩ | ⟨key, snapshot, rfl, -⟩
      · exact hok c' hi
      · exact fun _ => trivial
  | _ => exact h c hc

end Chats
end Traveller
