import Traveller.ChatList
/-!
# ChatDecline — which row a decline takes away

`declineBtnClicked` marks the partner at once and takes his row away in a later block, by the position it had.  We number the
rows as they come (`Rows`) and keep, for every block on the main queue, the number of the row that was declined.

`on_target_iff_undisturbed`: every block on the queue points at the row that was declined, in every state of a run, exactly
if no row at or before one that waits for its block goes first.  Then each block takes its own row away, and none traps; and
since a block that is off its row stays so (`Off.step`), in a run in which all blocks have run the condition is exact for that too.
-/
namespace Traveller

/-- In a list without duplicates an element stays at its position exactly if what is removed is behind it. -/
theorem getElem?_eraseIdx_iff {α : Type*} {l : List α} (hl : l.Nodup) {j : Nat} {x : α} (hj : l[j]? = some x) (i : Nat) :
    (l.eraseIdx i)[j]? = some x ↔ j < i := by
  rw [List.getElem?_eraseIdx]
  split
  · rename_i hlt
    exact iff_of_true hj hlt
  · rename_i hge
    refine iff_of_false (fun hnext => ?_) hge
    obtain ⟨hlt, rfl⟩ := List.getElem?_eq_some_iff.1 hj
    have := (List.getElem?_inj hlt hl).1 (hj.trans hnext.symm)
    omega

/-- What stands before a position does so when something is removed. -/
theorem before_eraseIdx {α : Type*} {l : List α} {i : Nat} {x : α} (h : ∀ p, l[p]? = some x → p < i) (j : Nat) :
    ∀ p, (l.eraseIdx j)[p]? = some x → p < i := by
  intro p hp
  rw [List.getElem?_eraseIdx] at hp
  split at hp
  · exact h p hp
  · exact Nat.lt_of_succ_lt (h (p + 1) hp)

/-- What is removed at a position or before it takes the element there to a position before. -/
theorem eraseIdx_before {α : Type*} {l : List α} (hl : l.Nodup) {i : Nat} {x : α} (hi : l[i]? = some x) {j : Nat}
    (hji : j ≤ i) : ∀ p, (l.eraseIdx j)[p]? = some x → p < i := by
  intro p hp
  obtain ⟨hlt, -⟩ := List.getElem?_eq_some_iff.1 hi
  rw [List.getElem?_eraseIdx] at hp
  split at hp
  · rename_i hpj
    exact Nat.lt_of_lt_of_le hpj hji
  · have := (List.getElem?_inj hlt hl).1 (hi.trans hp.symm)
    omega

namespace ChatVC

/-- The numbers of the rows shown, and of the declined rows whose blocks are on the queue. -/
structure Rows where
  shown : List Nat := []
  next : Nat := 0
  declined : List Nat := []
  deriving DecidableEq, Repr

section
variable (number : String → Option Int) (getStrDateshort : String → String) (me : Int)

/-- A row that comes gets a new number; one that goes takes its number away. -/
def noteRows (r : Rows) (s : ChatVC) (e : ListEvent) : Rows :=
  if s.crashed then r
  else
    match e with
    | .viewWillAppear true => { r with shown := [] }
    | .childAdded handle key =>
      if (childAdded number getStrDateshort me handle key s).dsAllChats.length = s.dsAllChats.length then r
      else { r with shown := r.shown ++ [r.next], next := r.next + 1 }
    | .deleteBtnClicked index => { r with shown := r.shown.eraseIdx index }
    | .declineBtnClicked index => { r with declined := r.declined ++ (r.shown[index]?).toList }
    | .declined =>
      match s.declining with
      | [] => r
      | index :: _ => { r with shown := r.shown.eraseIdx index, declined := r.declined.tail }
    | _ => r

abbrev stepRows : ChatVC × Rows → ListEvent → ChatVC × Rows :=
  Runs.noting (step number getStrDateshort me) (noteRows number getStrDateshort me)

/-- **Every block on the queue points at the row that was declined.** -/
def OnTarget (y : ChatVC × Rows) : Prop := y.1.declining.map (y.2.shown[·]?) = y.2.declined.map some

instance (y : ChatVC × Rows) : Decidable (OnTarget y) := inferInstanceAs (Decidable (_ = _))

/-- **No row goes at or before one that waits for its block**: by a deletion, by an earlier block, or with all others when
the screen appears. -/
def Undisturbed (y : ChatVC × Rows) : ListEvent → Prop
  | .viewWillAppear true => y.1.crashed = false → y.1.declining = []
  | .deleteBtnClicked index => y.1.crashed = false → ∀ i ∈ y.1.declining, i < index
  | .declined => y.1.crashed = false → ∀ index rest, y.1.declining = index :: rest → ∀ i ∈ rest, i < index
  | _ => True

/-- A block takes away the row that was declined, and traps nothing. -/
def TakesItsRow (y : ChatVC × Rows) (e : ListEvent) : Prop :=
  e = .declined → y.1.crashed = false → ∀ index rest, y.1.declining = index :: rest →
    (∃ t, y.2.shown[index]? = some t ∧ y.2.declined.head? = some t) ∧
      (y.1.step number getStrDateshort me e).dsAllChats = y.1.dsAllChats.eraseIdx index ∧
      (y.1.step number getStrDateshort me e).crashed = false

/-- A block on the queue is off its row: that row, if it is still shown, is before the position the block points at. -/
def Off (y : ChatVC × Rows) : Prop :=
  ∃ k i t : Nat, y.1.declining[k]? = some i ∧ y.2.declined[k]? = some t ∧ t < y.2.next ∧
    ∀ p : Nat, y.2.shown[p]? = some t → p < i

/-- The rows have numbers, each its own, and the blocks are on target. -/
structure Numbered (y : ChatVC × Rows) : Prop where
  length : y.2.shown.length = y.1.dsAllChats.length
  nodup : y.2.shown.Nodup
  bound : ∀ t ∈ y.2.shown, t < y.2.next
  onTarget : OnTarget y

end

section Steps
variable {number : String → Option Int} {getStrDateshort : String → String} {me : Int} {y : ChatVC × Rows} {e : ListEvent}

/-- What the blocks point at, and what they are for. -/
theorem OnTarget.get (h : OnTarget y) {i : Nat} (hi : i ∈ y.1.declining) : ∃ t, y.2.shown[i]? = some t := by
  have hmem : y.2.shown[i]? ∈ y.2.declined.map some := h ▸ List.mem_map_of_mem hi
  obtain ⟨t, -, ht⟩ := List.mem_map.1 hmem
  exact ⟨t, ht.symm⟩

/-- **Positions stay on target exactly behind what is removed before them.** -/
theorem eraseIdx_onTarget {shown : List Nat} (hnodup : shown.Nodup) {is : List Nat} {ts : List Nat}
    (h : is.map (shown[·]?) = ts.map some) (index : Nat) :
    is.map ((shown.eraseIdx index)[·]?) = ts.map some ↔ ∀ i ∈ is, i < index := by
  rw [← h, List.map_inj_left]
  refine forall₂_congr fun i hi => ?_
  have hmem : shown[i]? ∈ ts.map some := h ▸ List.mem_map_of_mem hi
  obtain ⟨t, -, ht⟩ := List.mem_map.1 hmem
  rw [← ht]
  exact getElem?_eraseIdx_iff hnodup ht.symm index

/-- A step that leaves the rows and the queue alone. -/
theorem Numbered.of_same {y' : ChatVC × Rows} (h : Numbered y) (hlength : y'.1.dsAllChats.length = y.1.dsAllChats.length)
    (hdeclining : y'.1.declining = y.1.declining) (hrows : y'.2 = y.2) : Numbered y' := by
  refine ⟨?_, hrows ▸ h.nodup, hrows ▸ h.bound, ?_⟩
  · rw [hrows, hlength]
    exact h.length
  · rw [OnTarget, hrows, hdeclining]
    exact h.onTarget

/-- A row that comes is behind all others. -/
theorem Numbered.childAdded (h : Numbered y) {s' : ChatVC} {row : AllChatModel} (hrows : s'.dsAllChats = y.1.dsAllChats ++ [row])
    (hdeclining : s'.declining = y.1.declining) :
    Numbered (s', { y.2 with shown := y.2.shown ++ [y.2.next], next := y.2.next + 1 }) where
  length := by simp only [List.length_append, hrows, h.length, List.length_singleton]
  nodup := by
    refine List.nodup_append.2 ⟨h.nodup, List.nodup_singleton _, fun t ht t' ht' heq => ?_⟩
    rw [List.mem_singleton.1 ht'] at heq
    exact Nat.lt_irrefl _ (heq ▸ h.bound t ht)
  bound t ht := by
    rcases List.mem_append.1 ht with ht | ht
    · exact Nat.lt_succ_of_lt (h.bound t ht)
    · rw [List.mem_singleton.1 ht]
      exact Nat.lt_succ_self _
  onTarget := by
    rw [OnTarget, hdeclining, ← h.onTarget, List.map_inj_left]
    intro i hi
    obtain ⟨t, ht⟩ := h.onTarget.get hi
    obtain ⟨hlt, -⟩ := List.getElem?_eq_some_iff.1 ht
    exact List.getElem?_append_left hlt

/-- A row goes, the blocks of the others stay. -/
theorem Numbered.eraseIdx (h : Numbered y) {s' : ChatVC} {index : Nat} {declined : List Nat}
    (hrows : s'.dsAllChats = y.1.dsAllChats.eraseIdx index)
    (htarget : s'.declining.map ((y.2.shown.eraseIdx index)[·]?) = declined.map some) :
    Numbered (s', { y.2 with shown := y.2.shown.eraseIdx index, declined := declined }) where
  length := by simp only [List.length_eraseIdx, hrows, h.length]
  nodup := h.nodup.eraseIdx index
  bound t ht := h.bound t (List.mem_of_mem_eraseIdx ht)
  onTarget := htarget

/-- The head of the queue and the number of its row. -/
theorem OnTarget.head (h : OnTarget y) {index : Nat} {rest : List Nat} (hd : y.1.declining = index :: rest) :
    ∃ t ts, y.2.declined = t :: ts ∧ y.2.shown[index]? = some t ∧ rest.map (y.2.shown[·]?) = ts.map some := by
  rw [OnTarget, hd] at h
  cases hts : y.2.declined with
  | nil =>
    rw [hts] at h
    cases h
  | cons t ts =>
    rw [hts, List.map_cons, List.map_cons] at h
    obtain ⟨hhead, hrest⟩ := List.cons.inj h
    exact ⟨t, ts, rfl, hhead, hrest⟩

/-- A block on target takes a row away. -/
theorem Numbered.declined (h : Numbered y) {index : Nat} {rest : List Nat} (hd : y.1.declining = index :: rest) :
    y.1.declined = { y.1 with dsAllChats := y.1.dsAllChats.eraseIdx index, declining := rest } := by
  obtain ⟨t, ts, -, hshown, -⟩ := h.onTarget.head hd
  obtain ⟨hlt, -⟩ := List.getElem?_eq_some_iff.1 hshown
  simp only [ChatVC.declined, hd]
  rw [if_pos (h.length ▸ hlt)]

/-- A write that lands leaves the rows, and nothing happens after a trap. -/
theorem stepRows_idle (he : (∃ a b op i, e = .lands a b op i) ∨ y.1.crashed = true) :
    (stepRows number getStrDateshort me y e).1.dsAllChats = y.1.dsAllChats ∧
      (stepRows number getStrDateshort me y e).1.declining = y.1.declining ∧
      (stepRows number getStrDateshort me y e).2 = y.2 := by
  cases e with
  | lands a b op i =>
    have hnote : noteRows number getStrDateshort me y.2 y.1 (.lands a b op i) = y.2 := ite_self _
    simp only [stepRows, Runs.noting, hnote, step]
    split <;> simp only [and_self]
  | _ =>
    have htrap : y.1.crashed = true := he.resolve_left (by simp)
    simp only [stepRows, Runs.noting, noteRows, step, htrap, if_true, and_self]

theorem stepRows_act (he : ¬ ∃ a b op i, e = .lands a b op i) (halive : y.1.crashed = false) :
    stepRows number getStrDateshort me y e =
      (y.1.act number getStrDateshort me e, noteRows number getStrDateshort me y.2 y.1 e) := by
  cases e with
  | lands a b op i => exact absurd ⟨a, b, op, i, rfl⟩ he
  | _ => simp only [stepRows, Runs.noting, step, halive, Bool.false_eq_true, if_false]

/-- **A step that disturbs no block keeps all on target.** -/
theorem Numbered.step (h : Numbered y) (hok : Undisturbed y e) : Numbered (stepRows number getStrDateshort me y e) := by
  by_cases he : (∃ a b op i, e = .lands a b op i) ∨ y.1.crashed = true
  · obtain ⟨hrows, hdeclining, hnote⟩ := @stepRows_idle number getStrDateshort me y e he
    exact h.of_same (congrArg _ hrows) hdeclining hnote
  rw [not_or, Bool.not_eq_true] at he
  obtain ⟨hlands, halive⟩ := he
  rw [stepRows_act hlands halive]
  simp only [noteRows, halive, Bool.false_eq_true, if_false]
  cases e with
  | lands a b op i => exact absurd ⟨a, b, op, i, rfl⟩ hlands
  | viewWillAppear isValid =>
    cases isValid with
    | false => exact h.of_same rfl rfl rfl
    | true =>
      have hnone : y.1.declining = [] := hok halive
      have htarget := h.onTarget
      rw [OnTarget, hnone, List.map_nil, eq_comm, List.map_eq_nil_iff] at htarget
      refine ⟨rfl, List.nodup_nil, fun _ ht => absurd ht List.not_mem_nil, ?_⟩
      simp only [OnTarget, act, if_true, userlistListner, hnone, htarget, List.map_nil]
  | viewDidDisappear =>
    simp only [act, viewDidDisappear]
    split <;> exact h.of_same rfl rfl rfl
  | childAdded handle key =>
    simp only [act, ChatVC.childAdded]
    split
    · cases parseUserList number getStrDateshort (y.1.view.below (entryNode me key)).record with
      | none =>
        simp only [Option.toList_none, List.append_nil, if_true]
        exact h.of_same rfl rfl rfl
      | some row =>
        rw [if_neg (by simp)]
        exact h.childAdded rfl rfl
    · rw [if_pos rfl]
      exact h
  | childRemoved handle key =>
    simp only [act, ChatVC.childRemoved]
    split <;> exact h.of_same rfl rfl rfl
  | deleteBtnClicked index =>
    simp only [act, ChatVC.deleteBtnClicked]
    cases hrow : y.1.dsAllChats[index]? with
    | none =>
      have hge : y.2.shown.length ≤ index := h.length ▸ List.getElem?_eq_none_iff.1 hrow
      rw [List.eraseIdx_of_length_le hge]
      exact h.of_same rfl rfl rfl
    | some row => exact h.eraseIdx rfl ((eraseIdx_onTarget h.nodup h.onTarget index).2 (hok halive))
  | declineBtnClicked index =>
    simp only [act, ChatVC.declineBtnClicked]
    cases hrow : y.1.dsAllChats[index]? with
    | none =>
      have hge : y.2.shown.length ≤ index := h.length ▸ List.getElem?_eq_none_iff.1 hrow
      rw [List.getElem?_eq_none hge, Option.toList_none, List.append_nil]
      exact h.of_same rfl rfl rfl
    | some row =>
      obtain ⟨hlt, -⟩ := List.getElem?_eq_some_iff.1 hrow
      refine ⟨h.length, h.nodup, h.bound, ?_⟩
      have hget := List.getElem?_eq_getElem (h.length ▸ hlt : index < y.2.shown.length)
      have htarget := h.onTarget
      simp only [OnTarget, List.map_append, hget, Option.toList_some, List.map_cons, List.map_nil] at htarget ⊢
      rw [htarget]
  | declined =>
    simp only [act]
    cases hd : y.1.declining with
    | nil =>
      simp only [ChatVC.declined, hd]
      exact h
    | cons index rest =>
      obtain ⟨t, ts, hdeclined, -, hrest⟩ := h.onTarget.head hd
      rw [h.declined hd, hdeclined]
      exact h.eraseIdx rfl ((eraseIdx_onTarget h.nodup hrest index).2 (hok halive index rest hd))
  | settle i ok =>
    simp only [act, settle]
    split <;> exact h.of_same rfl rfl rfl

theorem deleteBtnClicked_declining (s : ChatVC) (index : Nat) : (s.deleteBtnClicked me index).declining = s.declining := by
  rw [ChatVC.deleteBtnClicked]
  split <;> rfl

/-- The number of the row a block is for. -/
theorem getElem?_onTarget {shown is ts : List Nat} (h : is.map (shown[·]?) = ts.map some) {k i : Nat} (hk : is[k]? = some i) :
    ∃ t, ts[k]? = some t ∧ shown[i]? = some t := by
  have hget := congrArg (·[k]?) h
  simp only [List.getElem?_map, hk, Option.map_some] at hget
  obtain ⟨t, ht, heq⟩ := Option.map_eq_some_iff.1 hget.symm
  exact ⟨t, ht, heq.symm⟩

/-- **A step that disturbs a block leaves one off its row.** -/
theorem Numbered.off (h : Numbered y) (hbad : ¬ Undisturbed y e) : Off (stepRows number getStrDateshort me y e) := by
  have halive : y.1.crashed = false := by
    by_contra htrap
    refine hbad ?_
    unfold Undisturbed
    split <;> first | trivial | exact fun h' => absurd h' htrap
  have hlands : ¬ ∃ a b op i, e = .lands a b op i := by
    rintro ⟨a, b, op, i, rfl⟩
    exact hbad trivial
  rw [stepRows_act hlands halive]
  simp only [noteRows, halive, Bool.false_eq_true, if_false]
  cases e with
  | viewWillAppear isValid =>
    cases isValid with
    | false => exact absurd trivial hbad
    | true =>
      obtain ⟨-, hsome⟩ := Classical.not_imp.1 hbad
      obtain ⟨i, hi⟩ := List.exists_mem_of_ne_nil _ hsome
      obtain ⟨k, hk⟩ := List.mem_iff_getElem?.1 hi
      obtain ⟨t, ht, hshown⟩ := getElem?_onTarget h.onTarget hk
      exact ⟨k, i, t, hk, ht, h.bound t (List.mem_of_getElem? hshown), fun p hp => by cases hp⟩
  | deleteBtnClicked index =>
    simp only [Undisturbed, halive, true_imp_iff, not_forall, Nat.not_lt] at hbad
    obtain ⟨i, hi, hle⟩ := hbad
    obtain ⟨k, hk⟩ := List.mem_iff_getElem?.1 hi
    obtain ⟨t, ht, hshown⟩ := getElem?_onTarget h.onTarget hk
    exact ⟨k, i, t, (congrArg (·[k]?) (deleteBtnClicked_declining y.1 index)).trans hk, ht,
      h.bound t (List.mem_of_getElem? hshown), eraseIdx_before h.nodup hshown hle⟩
  | declined =>
    simp only [Undisturbed, halive, true_imp_iff, not_forall, Nat.not_lt] at hbad
    obtain ⟨index, rest, hd, i, hi, hle⟩ := hbad
    obtain ⟨t', ts, hdeclined, -, hrest⟩ := h.onTarget.head hd
    obtain ⟨k, hk⟩ := List.mem_iff_getElem?.1 hi
    obtain ⟨t, ht, hshown⟩ := getElem?_onTarget hrest hk
    simp only [act, h.declined hd, hd, hdeclined, List.tail_cons]
    exact ⟨k, i, t, hk, ht, h.bound t (List.mem_of_getElem? hshown), eraseIdx_before h.nodup hshown hle⟩
  | _ => exact absurd trivial hbad

/-- Its position is not that of its row. -/
theorem Off.not_onTarget (h : Off y) : ¬ OnTarget y := by
  obtain ⟨k, i, t, hk, ht, -, hbefore⟩ := h
  intro htarget
  obtain ⟨t', ht', hshown⟩ := getElem?_onTarget htarget hk
  obtain rfl := Option.some.inj (ht.symm.trans ht')
  exact absurd (hbefore i hshown) (Nat.lt_irrefl i)

/-- A step that leaves the rows and the queue alone. -/
theorem Off.of_same {y' : ChatVC × Rows} (h : Off y) (hdeclining : y'.1.declining = y.1.declining) (hrows : y'.2 = y.2) :
    Off y' := by
  rw [Off, hdeclining, hrows]
  exact h

/-- **A block off its row stays so until it runs**, and then it does not take its row. -/
theorem Off.step (h : Off y) (hok : TakesItsRow number getStrDateshort me y e) :
    Off (stepRows number getStrDateshort me y e) := by
  by_cases he : (∃ a b op i, e = .lands a b op i) ∨ y.1.crashed = true
  · obtain ⟨-, hdeclining, hnote⟩ := @stepRows_idle number getStrDateshort me y e he
    exact h.of_same hdeclining hnote
  rw [not_or, Bool.not_eq_true] at he
  obtain ⟨hlands, halive⟩ := he
  rw [stepRows_act hlands halive]
  simp only [noteRows, halive, Bool.false_eq_true, if_false]
  obtain ⟨k, i, t, hk, ht, hbound, hbefore⟩ := h
  have hsame : ∀ s' : ChatVC, s'.declining = y.1.declining → Off (s', y.2) := fun s' hdeclining =>
    Off.of_same ⟨k, i, t, hk, ht, hbound, hbefore⟩ hdeclining rfl
  cases e with
  | lands a b op i => exact absurd ⟨a, b, op, i, rfl⟩ hlands
  | viewWillAppear isValid =>
    cases isValid with
    | false => exact hsame _ rfl
    | true => exact ⟨k, i, t, hk, ht, hbound, fun p hp => by cases hp⟩
  | viewDidDisappear =>
    simp only [act, viewDidDisappear]
    split <;> exact hsame _ rfl
  | childAdded handle key =>
    have hdeclining : (y.1.childAdded number getStrDateshort me handle key).declining = y.1.declining := by
      rw [ChatVC.childAdded]
      split <;> rfl
    simp only [act]
    split
    · exact hsame _ hdeclining
    · refine ⟨k, i, t, (congrArg (·[k]?) hdeclining).trans hk, ht, Nat.lt_succ_of_lt hbound, fun p hp => ?_⟩
      -- the row that comes has another number
      rcases Nat.lt_or_ge p y.2.shown.length with hlt | hge
      · exact hbefore p (by rwa [List.getElem?_append_left hlt] at hp)
      · rw [List.getElem?_append_right hge] at hp
        have heq := List.mem_singleton.1 (List.mem_of_getElem? hp)
        exact absurd heq (Nat.ne_of_lt hbound)
  | childRemoved handle key =>
    simp only [act, ChatVC.childRemoved]
    split <;> exact hsame _ rfl
  | deleteBtnClicked index =>
    exact ⟨k, i, t, (congrArg (·[k]?) (deleteBtnClicked_declining y.1 index)).trans hk, ht, hbound,
      before_eraseIdx hbefore index⟩
  | declineBtnClicked index =>
    have hqueue : (y.1.declineBtnClicked me index).declining[k]? = some i := by
      rw [ChatVC.declineBtnClicked]
      split
      · exact hk
      · exact (List.getElem?_append_left (List.getElem?_eq_some_iff.1 hk).1).trans hk
    exact ⟨k, i, t, hqueue, (List.getElem?_append_left (List.getElem?_eq_some_iff.1 ht).1).trans ht, hbound, hbefore⟩
  | declined =>
    cases hd : y.1.declining with
    | nil =>
      rw [hd] at hk
      cases hk
    | cons index rest =>
      obtain ⟨⟨t', hshown, hhead⟩, -, -⟩ := hok rfl halive index rest hd
      have hqueue : (y.1.act number getStrDateshort me .declined).declining = rest := by
        simp only [act, ChatVC.declined, hd]
        split <;> rfl
      cases k with
      | zero =>
        -- the block that runs would take its row from where it is not
        rw [hd] at hk
        obtain rfl := Option.some.inj hk
        rw [List.head?_eq_getElem?, ht] at hhead
        obtain rfl := Option.some.inj hhead
        exact absurd (hbefore index hshown) (Nat.lt_irrefl _)
      | succ k =>
        rw [hd] at hk
        refine ⟨k, i, t, hqueue ▸ hk, ?_, hbound, before_eraseIdx hbefore index⟩
        rw [List.getElem?_tail]
        exact ht
  | settle j ok =>
    simp only [act, settle]
    split <;> exact hsame _ rfl

end Steps

section
variable (number : String → Option Int) (getStrDateshort : String → String) (me : Int)

/-- **A decline takes its own row away**: every block on the queue points at the row that was declined, in every state of a
run, exactly if no row goes at or before one that waits for its block; then each block takes the declined row away, and none
traps; and in a run in which all blocks have run, they do so exactly then. -/
theorem on_target_iff_undisturbed (db : Database) (es : List ListEvent) :
    (Runs.AllStates (stepRows number getStrDateshort me) OnTarget ({ db := db }, {}) es ↔
      Runs.AllSteps (stepRows number getStrDateshort me) Undisturbed ({ db := db }, {}) es) ∧
    (Runs.AllSteps (stepRows number getStrDateshort me) Undisturbed ({ db := db }, {}) es →
      Runs.AllSteps (stepRows number getStrDateshort me) (TakesItsRow number getStrDateshort me) ({ db := db }, {}) es) ∧
    ((Runs.run (stepRows number getStrDateshort me) ({ db := db }, {}) es).1.declining = [] →
      (Runs.AllSteps (stepRows number getStrDateshort me) (TakesItsRow number getStrDateshort me) ({ db := db }, {}) es ↔
        Runs.AllSteps (stepRows number getStrDateshort me) Undisturbed ({ db := db }, {}) es)) := by
  have hinit : Numbered ({ db := db }, {}) := ⟨rfl, List.nodup_nil, fun _ ht => absurd ht List.not_mem_nil, rfl⟩
  have htakes : Runs.AllSteps (stepRows number getStrDateshort me) Undisturbed ({ db := db }, {}) es →
      Runs.AllSteps (stepRows number getStrDateshort me) (TakesItsRow number getStrDateshort me) ({ db := db }, {}) es := by
    refine Runs.allSteps_of_invariant Numbered (fun _ _ h hok => h.step hok) (fun y e h _ => ?_) hinit
    rintro rfl halive index rest hd
    obtain ⟨t, ts, hdeclined, hshown, -⟩ := h.onTarget.head hd
    refine ⟨⟨t, hshown, by rw [hdeclined, List.head?_cons]⟩, ?_⟩
    simp only [step, halive, Bool.false_eq_true, if_false, act, h.declined hd, and_self]
  refine ⟨?_, htakes, fun hempty => ⟨fun hall => ?_, htakes⟩⟩
  · exact Runs.allStates_iff_allSteps Numbered (fun _ _ h _ hok => h.step hok)
      (fun _ h => h.onTarget) (fun _ _ h _ hbad => (h.off hbad).not_onTarget) hinit (Runs.allSteps_trivial _ _ _)
  · rcases Runs.inv_or_bad Numbered (fun _ _ h hok => h.step hok) (fun _ _ h hbad => h.off hbad)
      (fun _ _ h hok => h.step hok) hinit hall with ⟨hok, -⟩ | ⟨-, k, i, t, hk, -⟩
    · exact hok
    · rw [hempty] at hk
      cases hk

end

/-- Two rows declined before the first block runs: the second block is behind the end of the list, and traps. -/
example :
    (Runs.run (step String.toInt? id 7) {} [.viewWillAppear true,
      .lands (.ofPartner 9 "Ann" "" "" 0) (.ofPartner 7 "Bob" "" "" 0) (.send (.sendBtnClicked "hi") 1000 (.auto 0)) 2,
      .lands (.ofPartner 8 "Eve" "" "" 0) (.ofPartner 7 "Bob" "" "" 0) (.send (.sendBtnClicked "hi") 2000 (.auto 1)) 2,
      .childAdded 0 (.child "u9"), .childAdded 0 (.child "u8"), .declineBtnClicked 0, .declineBtnClicked 1, .declined,
      .declined]).crashed = true := rfl

end ChatVC
end Traveller
