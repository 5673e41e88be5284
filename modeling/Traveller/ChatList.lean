import Traveller.ChatWrites
import Traveller.Runs
/-!
# ChatList — `ChatVC`, the list of chats

The screen listens to `.childAdded` of its user's list while it is shown, and appends a row for every entry it is told of.
Only its own taps take rows away: nothing listens to the entries others remove.  Beside it anybody's chat operations land in
the database, one write at a time.

`one_row_of_keepsRows`: a partner has one row, and one only while his entry is there, in every run in which no entry is
removed while it has a row and the screen appears without a listener of its own.
-/
namespace Traveller

/-- A listener to the entries of a list, and the keys it was told of. -/
structure UserlistObserver where
  handle : Nat
  told : List Key := []
  deriving DecidableEq, Repr

/-- `ChatVC` beside the database.  `declining` are the blocks `declineBtnClicked` has left on the main queue. -/
structure ChatVC where
  db : Database := .empty
  dsAllChats : List AllChatModel := []
  userlistHandle : Option Nat := none
  observers : List UserlistObserver := []
  nextHandle : Nat := 0
  declining : List Nat := []
  outstanding : List DbWrite := []
  crashed : Bool := false
  deriving DecidableEq, Repr

/-- What happens: to the screen, or in the database.  `lands` is a write of any operation of `a` about `b`; `childRemoved`
is the database's own event, which no handler takes. -/
inductive ListEvent where
  | viewWillAppear (isValid : Bool)
  | viewDidDisappear
  | childAdded (handle : Nat) (key : Key)
  | childRemoved (handle : Nat) (key : Key)
  | deleteBtnClicked (index : Nat)
  | declineBtnClicked (index : Nat)
  | declined
  | settle (i : Nat) (ok : Bool)
  | lands (a b : Profile) (op : ChatOp) (i : Nat)

/-- The entry of a key in a user's list. -/
def entryNode (me : Int) (key : Key) : Path := [.child "list", .child (listroomId me), key]

/-- The entry of a partner. -/
def partnerEntry (me partner : Int) : Path := entryNode me (.child (listroomId partner))

namespace ChatVC

section
variable (number : String → Option Int) (getStrDateshort : String → String) (me : Int)

/-- The database as the device sees it: its own outstanding writes are in it. -/
def view (s : ChatVC) : Database := s.db.applyAll s.outstanding

def Present (db : Database) (key : Key) : Prop := (db.below (entryNode me key)).leaves ≠ []

instance (db : Database) (key : Key) : Decidable (Present me db key) := inferInstanceAs (Decidable (_ ≠ _))

/-- `userlistListner`: the list is emptied, and a new listener fills it. -/
def userlistListner (s : ChatVC) : ChatVC :=
  { s with
    dsAllChats := []
    userlistHandle := some s.nextHandle
    observers := s.observers ++ [{ handle := s.nextHandle }]
    nextHandle := s.nextHandle + 1 }

/-- `viewDidDisappear`: the last listener goes. -/
def viewDidDisappear (s : ChatVC) : ChatVC :=
  match s.userlistHandle with
  | none => s
  | some handle => { s with observers := s.observers.filter (·.handle ≠ handle) }

def tell (handle : Nat) (f : List Key → List Key) (s : ChatVC) : List UserlistObserver :=
  s.observers.map fun o => if o.handle = handle then { o with told := f o.told } else o

/-- The handler of `getUserList`; an entry that cannot be read adds no row. -/
def childAdded (handle : Nat) (key : Key) (s : ChatVC) : ChatVC :=
  if Present me s.view key ∧ ∃ o ∈ s.observers, o.handle = handle ∧ key ∉ o.told then
    { s with
      observers := s.tell handle (key :: ·)
      dsAllChats := s.dsAllChats ++
        (parseUserList number getStrDateshort (s.view.below (entryNode me key)).record).toList }
  else s

def childRemoved (handle : Nat) (key : Key) (s : ChatVC) : ChatVC :=
  if Present me s.view key then s else { s with observers := s.tell handle (·.filter (· ≠ key)) }

def deleteBtnClicked (index : Nat) (s : ChatVC) : ChatVC :=
  match s.dsAllChats[index]? with
  | none => { s with crashed := true }
  | some row =>
    { s with
      outstanding := s.outstanding ++ Traveller.deleteBtnClicked me row.id
      dsAllChats := s.dsAllChats.eraseIdx index }

/-- `declineBtnClicked`; the row goes in a later block, by the position it had. -/
def declineBtnClicked (index : Nat) (s : ChatVC) : ChatVC :=
  match s.dsAllChats[index]? with
  | none => { s with crashed := true }
  | some row =>
    { s with
      outstanding := s.outstanding ++ Traveller.declineBtnClicked me row.id
      declining := s.declining ++ [index] }

def declined (s : ChatVC) : ChatVC :=
  match s.declining with
  | [] => s
  | index :: rest =>
    if index < s.dsAllChats.length then { s with dsAllChats := s.dsAllChats.eraseIdx index, declining := rest }
    else { s with declining := rest, crashed := true }

def settle (i : Nat) (ok : Bool) (s : ChatVC) : ChatVC :=
  match s.outstanding[i]? with
  | none => s
  | some w => { s with db := if ok then s.db.apply w else s.db, outstanding := s.outstanding.eraseIdx i }

def act (s : ChatVC) : ListEvent → ChatVC
  | .viewWillAppear isValid => if isValid then userlistListner s else s
  | .viewDidDisappear => viewDidDisappear s
  | .childAdded handle key => childAdded number getStrDateshort me handle key s
  | .childRemoved handle key => childRemoved me handle key s
  | .deleteBtnClicked index => deleteBtnClicked me index s
  | .declineBtnClicked index => declineBtnClicked me index s
  | .declined => declined s
  | .settle i ok => settle i ok s
  | .lands .. => s

/-- One step; nothing happens on the screen after a trap. -/
def step (s : ChatVC) : ListEvent → ChatVC
  | .lands a b op i =>
    match (op.writes a b)[i]? with
    | none => s
    | some w => { s with db := s.db.apply w }
  | e => if s.crashed then s else act number getStrDateshort me s e

/-- A partner has at most one row. -/
def OneRow (s : ChatVC) : Prop := (s.dsAllChats.map AllChatModel.id).Nodup

/-- A partner with a row has his entry. -/
def Backed (s : ChatVC) : Prop := ∀ row ∈ s.dsAllChats, Present me s.db (.child (listroomId row.id))

/-- Everything is delivered. -/
def Delivered (s : ChatVC) : Prop :=
  s.outstanding = [] ∧ s.declining = [] ∧ ∀ o ∈ s.observers, ∀ key, key ∈ o.told ↔ Present me s.db key

/-- **No entry goes behind its row**: nobody removes the entry of a partner who has a row, and the screen appears without a
listener of its own. -/
def KeepsRows (s : ChatVC) : ListEvent → Prop
  | .viewWillAppear isValid => isValid = true → s.observers = []
  | .lands a b op i => ∀ row ∈ s.dsAllChats, (op.writes a b)[i]? ≠ some (.remove (partnerEntry me row.id))
  | _ => True

/-- An entry with an id is named by it. -/
def NamedById (db : Database) : Prop :=
  ∀ key v, db.get (entryNode me key ++ [.child "id"]) = some v → ∃ i : Int, v = toString i ∧ key = .child (listroomId i)

end

/-! ## The writes to a list -/

section Writes
variable (me : Int)

/-- What a write does to the list of `me`: nothing, or an entry with its id is written, removed or marked. -/
inductive ListWrite : DbWrite → Prop where
  | elsewhere {w : DbWrite} (h : ¬ PathTree.Overlap w.path [.child "list", .child (listroomId me)]) : ListWrite w
  | entry (i : Int) (r : Record) (hid : r.field "id" = some (toString i)) : ListWrite (.set (partnerEntry me i) r)
  | remove (i : Int) : ListWrite (.remove (partnerEntry me i))
  | block (i : Int) : ListWrite (.put (partnerEntry me i ++ [.child "isBlock"]) "true")

theorem own_list (a : Int) (key : Key) (p : Path) :
    a = me ∨ ¬ PathTree.Overlap (entryNode a key ++ p) [.child "list", .child (listroomId me)] := by
  by_cases h : a = me
  · exact .inl h
  · refine .inr fun ho => h ?_
    simp only [entryNode, List.cons_append, PathTree.overlap_cons] at ho
    exact listroomId_inj.1 (Key.child.inj ho.2.1)

theorem listWrite_remove (a b : Int) : ListWrite me (.remove (listPath (listroomId a) (listroomId b))) := by
  rcases own_list me a (.child (listroomId b)) [] with rfl | h
  · exact .remove b
  · exact .elsewhere h

theorem listWrite_set (a b : Int) (r : Record) (hid : r.field "id" = some (toString b)) :
    ListWrite me (.set (listPath (listroomId a) (listroomId b)) r) := by
  rcases own_list me a (.child (listroomId b)) [] with rfl | h
  · exact .entry b r hid
  · exact .elsewhere h

theorem listWrite_message (room : String) (p : Path) {w : DbWrite} (hw : w.path = messagePath room ++ p) :
    ListWrite me w := by
  refine .elsewhere ?_
  rw [hw]
  simp [messagePath, PathTree.overlap_cons]

theorem listWrite_delete (a b : Int) : ∀ w ∈ Traveller.deleteBtnClicked a b, ListWrite me w := by
  intro w hw
  simp only [Traveller.deleteBtnClicked, List.mem_cons, List.not_mem_nil, or_false] at hw
  rcases hw with rfl | rfl | rfl
  · exact listWrite_remove me a b
  · exact listWrite_remove me b a
  · exact listWrite_message me _ [] (List.append_nil _).symm

theorem listWrite_decline (a b : Int) : ∀ w ∈ Traveller.declineBtnClicked a b, ListWrite me w := by
  intro w hw
  rw [List.mem_singleton.1 hw]
  rcases own_list me a (.child (listroomId b)) [.child "isBlock"] with rfl | h
  · exact .block b
  · exact .elsewhere h

theorem listWrite_status (a b : Int) (online : String) (timeNow : Int) (key : Key) :
    ∀ w ∈ setStatus4me a b online timeNow key, ListWrite me w := by
  intro w hw
  simp only [setStatus4me, List.mem_cons, List.not_mem_nil, or_false] at hw
  rcases hw with rfl | rfl <;> exact .elsewhere (by simp [statusPath, PathTree.overlap_cons])

theorem field_id_listObject (via : SendVia) (a b : Profile) (timeNow : Int) (key : Key) :
    (via.send a b timeNow key).listObject.field "id" = some (toString b.userId) ∧
      (via.send a b timeNow key).listObject1.field "id" = some (toString a.userId) := by
  cases via <;> simp [SendVia.send, MessageSendVC.send, TripDetailVC.send]

/-- **Every operation writes entries under their ids.** -/
theorem listWrite_op (a b : Profile) (op : ChatOp) : ∀ w ∈ op.writes a b, ListWrite me w := by
  intro w hw
  cases op with
  | setParams timeNow key => exact listWrite_status me _ _ _ _ _ w hw
  | viewDidDisappear timeNow key => exact listWrite_status me _ _ _ _ _ w hw
  | addTappedLeftBtn timeNow key =>
    rcases List.mem_append.1 hw with hw | hw
    · exact listWrite_status me _ _ _ _ _ w hw
    · rw [List.mem_singleton.1 hw]
      exact .elsewhere (by simp [requestPath, PathTree.overlap_cons])
  | send via timeNow key =>
    obtain ⟨hid, hid1⟩ := field_id_listObject via a b timeNow key
    simp only [ChatOp.writes, Send.writes, List.mem_cons, List.not_mem_nil, or_false] at hw
    rcases hw with rfl | rfl | rfl
    · exact listWrite_message me _ _ rfl
    · rw [Send.write, Send.path, SendVia.send_me, SendVia.send_partner]
      exact listWrite_set me _ _ _ hid
    · rw [Send.write, Send.path, SendVia.send_me, SendVia.send_partner]
      exact listWrite_set me _ _ _ hid1
  | edit msgId text timestamp =>
    rw [List.mem_singleton.1 hw]
    exact listWrite_message me _ _ rfl
  | remove msgId =>
    rw [List.mem_singleton.1 hw]
    exact listWrite_message me _ _ rfl
  | deleteBtnClicked => exact listWrite_delete me _ _ w hw
  | declineBtnClicked => exact listWrite_decline me _ _ w hw

end Writes

/-! ## The id in an entry -/

section Ids
variable {me : Int} {w : DbWrite}

theorem not_overlap_entry {key key' : Key} (h : key ≠ key') (p q : Path) :
    ¬ PathTree.Overlap (entryNode me key ++ p) (entryNode me key' ++ q) := by
  simp [entryNode, PathTree.overlap_cons, h]

/-- The id that is stored in an entry. -/
def idAt (me : Int) (db : Database) (key : Key) : Option String := db.get (entryNode me key ++ [.child "id"])

/-- **A write and the id in an entry**: it is kept, removed with the entry or written with it. -/
theorem idAt_apply (hw : ListWrite me w) (db : Database) (key : Key) :
    idAt me (db.apply w) key = idAt me db key ∨
      (w = .remove (entryNode me key) ∧ idAt me (db.apply w) key = none) ∨
      ∃ i r, key = .child (listroomId i) ∧ w = .set (entryNode me key) r ∧ idAt me (db.apply w) key = some (toString i) := by
  have hkeep : ∀ (i : Int) (p : Path), key ≠ .child (listroomId i) → w.path = partnerEntry me i ++ p →
      idAt me (db.apply w) key = idAt me db key := fun i p hkey hpath => by
    refine PathTree.Tree.get_apply_of_not_overlap ?_
    rw [hpath]
    exact not_overlap_entry (Ne.symm hkey) p _
  cases hw with
  | elsewhere h =>
    refine .inl (PathTree.Tree.get_apply_of_not_overlap ?_)
    exact PathTree.not_overlap_append h (key :: [.child "id"])
  | entry i r hid =>
    by_cases hkey : key = .child (listroomId i)
    · subst hkey
      refine .inr (.inr ⟨i, r, rfl, rfl, ?_⟩)
      rw [idAt, partnerEntry, PathTree.Tree.get_set]
      exact hid
    · exact .inl (hkeep i [] hkey (List.append_nil _).symm)
  | remove i =>
    by_cases hkey : key = .child (listroomId i)
    · subst hkey
      exact .inr (.inl ⟨rfl, PathTree.Tree.get_remove _ _ _⟩)
    · exact .inl (hkeep i [] hkey (List.append_nil _).symm)
  | block i =>
    by_cases hkey : key = .child (listroomId i)
    · subst hkey
      refine .inl (PathTree.Tree.get_apply_of_not_overlap ?_)
      rw [PathTree.Write.path_put, partnerEntry, PathTree.overlap_append]
      simp [PathTree.overlap_cons]
    · exact .inl (hkeep i [.child "isBlock"] hkey rfl)

theorem NamedById.apply {db : Database} (h : NamedById me db) (hw : ListWrite me w) : NamedById me (db.apply w) := by
  intro key v hv
  rcases idAt_apply hw db key with hsame | ⟨-, hnone⟩ | ⟨i, r, hkey, -, hsome⟩
  · exact h key v (hsame.symm.trans hv)
  · exact absurd (hnone.symm.trans hv) (by simp)
  · exact ⟨i, (Option.some.inj (hsome.symm.trans hv)).symm, hkey⟩

/-- A write of the screen's own: of a deletion or a decline. -/
def OwnWrite (me : Int) (w : DbWrite) : Prop :=
  ∃ i, w ∈ Traveller.deleteBtnClicked me i ∨ w ∈ Traveller.declineBtnClicked me i

theorem OwnWrite.listWrite (h : OwnWrite me w) : ListWrite me w := by
  obtain ⟨i, h | h⟩ := h
  · exact listWrite_delete me _ _ w h
  · exact listWrite_decline me _ _ w h

/-- An own write removes the id of an entry or leaves it. -/
theorem idAt_apply_own (hw : OwnWrite me w) (db : Database) (key : Key) :
    idAt me (db.apply w) key = if w = .remove (entryNode me key) then none else idAt me db key := by
  rcases idAt_apply hw.listWrite db key with hsame | ⟨hremove, hnone⟩ | ⟨i, r, -, hset, -⟩
  · split
    · rename_i hremove
      rw [hremove]
      exact PathTree.Tree.get_remove _ _ _
    · exact hsame
  · rw [if_pos hremove, hnone]
  · obtain ⟨j, h | h⟩ := hw
    · simp [Traveller.deleteBtnClicked, hset] at h
    · simp [Traveller.declineBtnClicked, hset] at h

/-- **The id in an entry as the device sees it.** -/
theorem idAt_view {ws : List DbWrite} (key : Key) : ∀ {db : Database}, (∀ w ∈ ws, OwnWrite me w) →
    idAt me (db.applyAll ws) key = if .remove (entryNode me key) ∈ ws then none else idAt me db key := by
  induction ws with
  | nil => exact fun _ => rfl
  | cons w ws ih =>
    intro db hws
    rw [PathTree.Tree.applyAll_cons, ih fun w' hw' => hws w' (List.mem_cons_of_mem w hw'),
      idAt_apply_own (hws w List.mem_cons_self)]
    by_cases hmem : .remove (entryNode me key) ∈ ws
    · rw [if_pos hmem, if_pos (List.mem_cons_of_mem w hmem)]
    · rw [if_neg hmem]
      by_cases hw : w = .remove (entryNode me key)
      · rw [if_pos hw, if_pos (hw ▸ List.mem_cons_self)]
      · rw [if_neg hw, if_neg]
        intro h
        rcases List.mem_cons.1 h with h | h
        · exact hw h.symm
        · exact hmem h

theorem present_of_idAt {db : Database} {key : Key} (h : idAt me db key ≠ none) : Present me db key := by
  intro hnone
  refine h ?_
  rw [idAt, ← PathTree.Tree.get_below, PathTree.Tree.get, hnone]
  rfl

/-- A row is read from an entry with an id. -/
theorem idAt_of_parseUserList {number : String → Option Int} {getStrDateshort : String → String} {db : Database} {key : Key}
    {row : AllChatModel}
    (h : parseUserList number getStrDateshort (db.below (entryNode me key)).record = some row) :
    ∃ v, idAt me db key = some v ∧ row.id = (number v).getD 0 := by
  cases hid : Record.field (db.below (entryNode me key)).record "id" with
  | none =>
    rw [parseUserList, hid] at h
    cases h
  | some v =>
    refine ⟨v, ?_, ?_⟩
    · rw [← hid, idAt, ← PathTree.Tree.lookup_record_below]
      rfl
    · simp only [parseUserList, hid, Option.bind_eq_bind, Option.bind_some, Option.bind_eq_some_iff, Option.pure_def,
        Option.some.injEq] at h
      obtain ⟨_, -, _, -, _, -, _, -, _, -, _, -, rfl⟩ := h
      rfl

end Ids

/-! ## The invariant -/

section Inv
variable (me : Int)

/-- A partner with a row has an entry with an id, which no own removal is on its way to, and every listener was told of. -/
structure Inv (s : ChatVC) : Prop where
  named : NamedById me s.db
  own : ∀ w ∈ s.outstanding, OwnWrite me w
  oneRow : OneRow s
  kept : ∀ row ∈ s.dsAllChats,
    idAt me s.db (.child (listroomId row.id)) ≠ none ∧ .remove (partnerEntry me row.id) ∉ s.outstanding
  oneListener : ∀ o ∈ s.observers, ∀ o' ∈ s.observers, o = o'
  told : ∀ o ∈ s.observers, ∀ row ∈ s.dsAllChats, .child (listroomId row.id) ∈ o.told

variable {me} {s : ChatVC}

/-- A partner with a row is there as the device sees it. -/
theorem Inv.present (h : Inv me s) {row : AllChatModel} (hrow : row ∈ s.dsAllChats) :
    Present me s.view (.child (listroomId row.id)) := by
  obtain ⟨hid, hremove⟩ := h.kept row hrow
  refine present_of_idAt ?_
  rw [view, idAt_view _ h.own]
  exact fun hnone => hid ((if_neg hremove).symm.trans hnone)

theorem Inv.oneListener_tell (h : Inv me s) (handle : Nat) (f : List Key → List Key) :
    ∀ o ∈ s.tell handle f, ∀ o' ∈ s.tell handle f, o = o' := by
  intro o ho o' ho'
  obtain ⟨p, hp, rfl⟩ := List.mem_map.1 ho
  obtain ⟨p', hp', rfl⟩ := List.mem_map.1 ho'
  rw [h.oneListener p hp p' hp']

theorem Inv.userlistListner (h : Inv me s) (hnone : s.observers = []) : Inv me s.userlistListner where
  named := h.named
  own := h.own
  oneRow := List.nodup_nil
  kept _ hrow := absurd hrow List.not_mem_nil
  oneListener o ho o' ho' := by
    simp only [ChatVC.userlistListner, hnone, List.nil_append, List.mem_singleton] at ho ho'
    rw [ho, ho']
  told _ _ _ hrow := absurd hrow List.not_mem_nil

theorem Inv.viewDidDisappear (h : Inv me s) : Inv me s.viewDidDisappear := by
  cases hs : s.userlistHandle with
  | none =>
    rw [ChatVC.viewDidDisappear, hs]
    exact h
  | some handle =>
    rw [ChatVC.viewDidDisappear, hs]
    exact ⟨h.named, h.own, h.oneRow, h.kept,
      fun o ho o' ho' => h.oneListener o (List.mem_of_mem_filter ho) o' (List.mem_of_mem_filter ho'),
      fun o ho => h.told o (List.mem_of_mem_filter ho)⟩

/-- The partner of a row that is new to the listener has no row yet. -/
theorem Inv.childAdded {number : String → Option Int} (hnumber : ∀ n : Int, number (toString n) = some n)
    (getStrDateshort : String → String) (h : Inv me s) (handle : Nat) (key : Key) :
    Inv me (s.childAdded number getStrDateshort me handle key) := by
  rw [ChatVC.childAdded]
  split
  case isFalse => exact h
  rename_i hnew
  obtain ⟨-, o, ho, hhandle, hkey⟩ := hnew
  have htold : ∀ p ∈ s.tell handle (key :: ·), key ∈ p.told ∧ ∀ row ∈ s.dsAllChats, .child (listroomId row.id) ∈ p.told := by
    intro p hp
    obtain ⟨q, hq, rfl⟩ := List.mem_map.1 hp
    obtain rfl := h.oneListener o ho q hq
    rw [if_pos hhandle]
    exact ⟨List.mem_cons_self, fun row hrow => List.mem_cons_of_mem _ (h.told o ho row hrow)⟩
  cases hparse : parseUserList number getStrDateshort (s.view.below (entryNode me key)).record with
  | none =>
    have hrows : s.dsAllChats ++ (none : Option AllChatModel).toList = s.dsAllChats := List.append_nil _
    rw [hrows]
    exact ⟨h.named, h.own, h.oneRow, h.kept, h.oneListener_tell _ _, fun p hp => (htold p hp).2⟩
  | some row =>
    obtain ⟨v, hv, hrowid⟩ := idAt_of_parseUserList hparse
    rw [view, idAt_view key h.own] at hv
    obtain ⟨hremove, hv⟩ : .remove (entryNode me key) ∉ s.outstanding ∧ idAt me s.db key = some v := by
      split at hv
      · cases hv
      · rename_i hremove
        exact ⟨hremove, hv⟩
    obtain ⟨i, rfl, rfl⟩ := h.named key v hv
    obtain rfl : row.id = i := by rw [hrowid, hnumber, Option.getD_some]
    have hnot : row.id ∉ s.dsAllChats.map AllChatModel.id := fun hmem => by
      obtain ⟨row', hrow', hid⟩ := List.mem_map.1 hmem
      have := h.told o ho row' hrow'
      rw [hid] at this
      exact hkey this
    refine ⟨h.named, h.own, ?_, fun row' hrow' => ?_, h.oneListener_tell _ _, fun p hp row' hrow' => ?_⟩
    · rw [OneRow, List.map_append]
      exact List.nodup_append.2 ⟨h.oneRow, List.nodup_singleton _, fun a ha b hb hab => by
        rw [List.mem_singleton.1 (hb : b ∈ [row.id])] at hab
        exact hnot (hab ▸ ha)⟩
    · rcases List.mem_append.1 hrow' with hrow' | hrow'
      · exact h.kept row' hrow'
      · rw [List.mem_singleton.1 (hrow' : row' ∈ [row])]
        refine ⟨?_, hremove⟩
        rw [hv]
        exact Option.some_ne_none _
    · rcases List.mem_append.1 hrow' with hrow' | hrow'
      · exact (htold p hp).2 row' hrow'
      · rw [List.mem_singleton.1 (hrow' : row' ∈ [row])]
        exact (htold p hp).1

theorem Inv.childRemoved (h : Inv me s) (handle : Nat) (key : Key) : Inv me (s.childRemoved me handle key) := by
  rw [ChatVC.childRemoved]
  split
  case isTrue => exact h
  rename_i hgone
  refine ⟨h.named, h.own, h.oneRow, h.kept, h.oneListener_tell _ _, fun o ho row hrow => ?_⟩
  obtain ⟨p, hp, rfl⟩ := List.mem_map.1 ho
  have htold := h.told p hp row hrow
  split
  · refine List.mem_filter.2 ⟨htold, decide_eq_true fun heq => hgone ?_⟩
    rw [← heq]
    exact h.present hrow
  · exact htold

/-- The rows beside the one that is taken away are of other partners. -/
theorem OneRow.eraseIdx (h : OneRow s) {index : Nat} {row : AllChatModel} (hrow : s.dsAllChats[index]? = some row) :
    ((s.dsAllChats.eraseIdx index).map AllChatModel.id).Nodup ∧
      ∀ row' ∈ s.dsAllChats.eraseIdx index, row' ∈ s.dsAllChats ∧ row'.id ≠ row.id := by
  obtain ⟨hi, rfl⟩ := List.getElem?_eq_some_iff.1 hrow
  have hperm := (List.getElem_cons_eraseIdx_perm hi).map AllChatModel.id
  have hnodup := (List.nodup_cons.1 (hperm.nodup_iff.2 h))
  refine ⟨hnodup.2, fun row' hrow' => ⟨List.mem_of_mem_eraseIdx hrow', fun heq => hnodup.1 ?_⟩⟩
  rw [← heq]
  exact List.mem_map.2 ⟨row', hrow', rfl⟩

theorem Inv.deleteBtnClicked (h : Inv me s) (index : Nat) : Inv me (s.deleteBtnClicked me index) := by
  cases hrow : s.dsAllChats[index]? with
  | none =>
    simp only [ChatVC.deleteBtnClicked, hrow]
    exact ⟨h.named, h.own, h.oneRow, h.kept, h.oneListener, h.told⟩
  | some row =>
    simp only [ChatVC.deleteBtnClicked, hrow]
    obtain ⟨hnodup, hother⟩ := h.oneRow.eraseIdx hrow
    refine ⟨h.named, fun w hw => ?_, hnodup, fun row' hrow' => ?_, h.oneListener,
      fun o ho row' hrow' => h.told o ho row' (hother row' hrow').1⟩
    · rcases List.mem_append.1 hw with hw | hw
      · exact h.own w hw
      · exact ⟨row.id, .inl hw⟩
    · obtain ⟨hmem, hne⟩ := hother row' hrow'
      obtain ⟨hid, hremove⟩ := h.kept row' hmem
      refine ⟨hid, fun hw => ?_⟩
      rcases List.mem_append.1 hw with hw | hw
      · exact hremove hw
      · simp only [Traveller.deleteBtnClicked, partnerEntry, entryNode, listPath, messagePath, List.mem_cons,
          PathTree.Write.remove.injEq, List.cons.injEq, Key.child.injEq, listroomId_inj, and_true, true_and,
          List.not_mem_nil, or_false] at hw
        rcases hw with hw | ⟨hrow, hme⟩ | ⟨hw, -⟩
        · exact hne hw
        · exact hne (hme.trans hrow)
        · exact absurd hw (by decide)

theorem Inv.declineBtnClicked (h : Inv me s) (index : Nat) : Inv me (s.declineBtnClicked me index) := by
  cases hrow : s.dsAllChats[index]? with
  | none =>
    simp only [ChatVC.declineBtnClicked, hrow]
    exact ⟨h.named, h.own, h.oneRow, h.kept, h.oneListener, h.told⟩
  | some row =>
    simp only [ChatVC.declineBtnClicked, hrow]
    refine ⟨h.named, fun w hw => ?_, h.oneRow, fun row' hrow' => ⟨(h.kept row' hrow').1, fun hw => ?_⟩, h.oneListener, h.told⟩
    · rcases List.mem_append.1 hw with hw | hw
      · exact h.own w hw
      · exact ⟨row.id, .inr hw⟩
    · rcases List.mem_append.1 hw with hw | hw
      · exact (h.kept row' hrow').2 hw
      · cases List.mem_singleton.1 hw

theorem Inv.declined (h : Inv me s) : Inv me s.declined := by
  cases hd : s.declining with
  | nil =>
    simp only [ChatVC.declined, hd]
    exact h
  | cons index rest =>
    simp only [ChatVC.declined, hd]
    split
    · have hsub : (s.dsAllChats.eraseIdx index).Sublist s.dsAllChats := List.eraseIdx_sublist _ _
      exact ⟨h.named, h.own, List.Nodup.sublist (hsub.map AllChatModel.id) h.oneRow,
        fun row hrow => h.kept row (hsub.subset hrow), h.oneListener, fun o ho row hrow => h.told o ho row (hsub.subset hrow)⟩
    · exact ⟨h.named, h.own, h.oneRow, h.kept, h.oneListener, h.told⟩

theorem Inv.settle (h : Inv me s) (i : Nat) (ok : Bool) : Inv me (s.settle i ok) := by
  cases hw : s.outstanding[i]? with
  | none =>
    simp only [ChatVC.settle, hw]
    exact h
  | some w =>
    simp only [ChatVC.settle, hw]
    have hmem : w ∈ s.outstanding := List.mem_of_getElem? hw
    have hsub : ∀ w' ∈ s.outstanding.eraseIdx i, w' ∈ s.outstanding := fun w' hw' => List.mem_of_mem_eraseIdx hw'
    refine ⟨?_, fun w' hw' => h.own w' (hsub w' hw'), h.oneRow, fun row hrow => ?_, h.oneListener, h.told⟩
    · cases ok with
      | true => exact h.named.apply (h.own w hmem).listWrite
      | false => exact h.named
    · obtain ⟨hid, hremove⟩ := h.kept row hrow
      refine ⟨?_, fun hw' => hremove (hsub _ hw')⟩
      cases ok with
      | false => exact hid
      | true =>
        simp only [if_true]
        rw [idAt_apply_own (h.own w hmem), if_neg]
        · exact hid
        · rintro rfl
          exact hremove hmem

/-- A write that lands and removes no entry with a row. -/
theorem Inv.lands (h : Inv me s) {w : DbWrite} (hw : ListWrite me w)
    (hkeeps : ∀ row ∈ s.dsAllChats, w ≠ .remove (partnerEntry me row.id)) : Inv me { s with db := s.db.apply w } := by
  refine ⟨h.named.apply hw, h.own, h.oneRow, fun row hrow => ⟨?_, (h.kept row hrow).2⟩, h.oneListener, h.told⟩
  rcases idAt_apply hw s.db (.child (listroomId row.id)) with hsame | ⟨hremove, -⟩ | ⟨i, r, -, -, hsome⟩
  · rw [hsame]
    exact (h.kept row hrow).1
  · exact absurd hremove (hkeeps row hrow)
  · rw [hsome]
    exact Option.some_ne_none _

theorem Inv.step {number : String → Option Int} (hnumber : ∀ n : Int, number (toString n) = some n)
    (getStrDateshort : String → String) (h : Inv me s) {e : ListEvent} (hok : KeepsRows me s e) :
    Inv me (s.step number getStrDateshort me e) := by
  have hact : (∀ a b op i, e ≠ .lands a b op i) → Inv me (s.act number getStrDateshort me e) := fun hlands => by
    cases e with
    | viewWillAppear isValid =>
      cases isValid with
      | true => exact h.userlistListner (hok rfl)
      | false => exact h
    | viewDidDisappear => exact h.viewDidDisappear
    | childAdded handle key => exact h.childAdded hnumber getStrDateshort handle key
    | childRemoved handle key => exact h.childRemoved handle key
    | deleteBtnClicked index => exact h.deleteBtnClicked index
    | declineBtnClicked index => exact h.declineBtnClicked index
    | declined => exact h.declined
    | settle i ok => exact h.settle i ok
    | lands a b op i => exact absurd rfl (hlands a b op i)
  cases e with
  | lands a b op i =>
    cases hw : (op.writes a b)[i]? with
    | none =>
      simp only [ChatVC.step, hw]
      exact h
    | some w =>
      simp only [ChatVC.step, hw]
      exact h.lands (listWrite_op me a b op w (List.mem_of_getElem? hw)) fun row hrow heq => hok row hrow (heq ▸ hw)
  | _ =>
    change Inv me (if s.crashed then s else s.act number getStrDateshort me _)
    split
    · exact h
    · exact hact (by simp)

theorem Inv.init {db : Database} (hdb : NamedById me db) : Inv me { db := db } where
  named := hdb
  own _ hw := absurd hw List.not_mem_nil
  oneRow := List.nodup_nil
  kept _ hrow := absurd hrow List.not_mem_nil
  oneListener _ ho := absurd ho List.not_mem_nil
  told _ ho := absurd ho List.not_mem_nil

end Inv

/-! ## The theorem -/

section
variable (number : String → Option Int) (getStrDateshort : String → String) (me : Int)

/-- **A partner has one row, and only while his entry is there**, in every run in which no entry goes behind its row. -/
theorem one_row_of_keepsRows (hnumber : ∀ n : Int, number (toString n) = some n) (db : Database) (hdb : NamedById me db)
    (es : List ListEvent) (hes : Runs.AllSteps (step number getStrDateshort me) (KeepsRows me) { db := db } es) :
    OneRow (Runs.run (step number getStrDateshort me) { db := db } es) ∧
      (Delivered me (Runs.run (step number getStrDateshort me) { db := db } es) →
        Backed me (Runs.run (step number getStrDateshort me) { db := db } es)) := by
  have h := Runs.run_invariant (Inv me) (fun _ _ h hok => h.step hnumber getStrDateshort hok) (Inv.init hdb) hes
  exact ⟨h.oneRow, fun _ row hrow => present_of_idAt (h.kept row hrow).1⟩

end

/-- The rule at a list with one partner, with `String.toInt?` for the number formatter. -/
theorem one_row_of_keepsRows_7 :
    OneRow (Runs.run (step String.toInt? id 7) {} [.viewWillAppear true,
      .lands (.ofPartner 9 "Ann" "" "" 0) (.ofPartner 7 "Bob" "" "" 0) (.send (.sendBtnClicked "hi") 1000 (.auto 0)) 2,
      .childAdded 0 (.child "u9"), .viewDidDisappear, .viewWillAppear true, .childAdded 1 (.child "u9")]) := by
  refine (one_row_of_keepsRows String.toInt? id 7 (fun n => Int.toInt?_repr n) .empty (fun _ _ hv => by cases hv) _ ?_).1
  exact ⟨fun _ => rfl, fun _ hrow => absurd hrow List.not_mem_nil, trivial, trivial, fun _ => rfl, trivial, trivial⟩

/-- The partner deletes the chat while it is shown, and writes again: his row stays, without an entry at first, and then there
are two. -/
theorem deleted_chat_comes_back_twice :
    let ann := Profile.ofPartner 9 "Ann" "" "" 0
    let bob := Profile.ofPartner 7 "Bob" "" "" 0
    let written : ListEvent := .lands ann bob (.send (.sendBtnClicked "hi") 1000 (.auto 0)) 2
    let s := Runs.run (step String.toInt? id 7) {} [.viewWillAppear true, written, .childAdded 0 (.child "u9"),
      .lands ann bob .deleteBtnClicked 1, .childRemoved 0 (.child "u9")]
    (Delivered 7 s ∧ ¬ Backed 7 s) ∧
      ¬ OneRow (Runs.run (step String.toInt? id 7) s [written, .childAdded 0 (.child "u9")]) := by
  intro ann bob written s
  let row : AllChatModel := ⟨("9".toInt?).getD 0, "Ann", "", "", "1000", "hi", ("0".toInt?).getD 0⟩
  have hs : s = { dsAllChats := [row], userlistHandle := some 0, observers := [{ handle := 0 }], nextHandle := 1 } := rfl
  rw [hs]
  have hrows : (Runs.run (step String.toInt? id 7)
      { dsAllChats := [row], userlistHandle := some 0, observers := [{ handle := 0 }], nextHandle := 1 }
      [written, .childAdded 0 (.child "u9")]).dsAllChats = [row, row] := rfl
  have hgone : ∀ key, ¬ Present 7 .empty key := fun key hkey => hkey rfl
  refine ⟨⟨⟨rfl, rfl, fun o ho key => ?_⟩, fun h => ?_⟩, ?_⟩
  · rw [List.mem_singleton.1 ho]
    exact iff_of_false List.not_mem_nil (hgone key)
  · exact hgone _ (h row (List.mem_singleton_self row))
  · rw [OneRow, hrows]
    simp

end ChatVC
end Traveller
