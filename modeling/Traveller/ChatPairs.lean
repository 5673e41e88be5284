import Traveller.ChatSystem
/-!
# ChatPairs — a chat is in both lists or in neither

A send writes the entry of either user's list, one after the other, and a deletion removes both, each by a write of its own.
`in_both_or_neither`: once nothing of the two is under way, they have each other's entries or neither has, in every run of all
devices in which no send of the two overlaps a deletion of their chat and neither a removal nor the last write of a send
fails.
-/
namespace Traveller

/-- The list of `u` has an entry of `v`. -/
def Entry (u v : Int) (db : Database) : Prop := db.get (listPath (listroomId u) (listroomId v) ++ [.child "id"]) ≠ none

instance (u v : Int) (db : Database) : Decidable (Entry u v db) := inferInstanceAs (Decidable (_ ≠ _))

/-- The send is one of the two senders'. -/
def SentBy (s : Send) : Prop :=
  ∃ (via : SendVia) (me partner : Profile) (timeNow : Int) (key : Key), s = via.send me partner timeNow key

/-- The removal of an entry. -/
def removeEntry (u v : Int) : DbWrite := .remove (listPath (listroomId u) (listroomId v))

namespace Flight

/-- The flight's send is between the two. -/
def OfPair (f : Flight) (a b : Int) : Prop := SamePair f.send.me f.send.partner a b

/-- The write of the flight makes the entry of `v` in the list of `u`. -/
def Makes (f : Flight) (u v : Int) : Prop :=
  f.stage = .meList ∧ f.send.me = u ∧ f.send.partner = v ∨ f.stage = .partnerList ∧ f.send.partner = u ∧ f.send.me = v

end Flight

theorem removeEntry_inj {u v u' v' : Int} : removeEntry u v = removeEntry u' v' ↔ u = u' ∧ v = v' := by
  simp [removeEntry, listPath, listroomId_inj]

/-! ## Writes and entries -/

section Entries
variable {u v : Int} {db : Database} {w : DbWrite}

theorem entry_congr (h : ¬ PathTree.Overlap w.path (listPath (listroomId u) (listroomId v) ++ [.child "id"])) :
    Entry u v (db.apply w) ↔ Entry u v db := by
  rw [Entry, PathTree.Tree.get_apply_of_not_overlap h, Entry]

theorem entry_congr_of_elsewhere (h : ∀ user partner, ¬ PathTree.Overlap w.path (listPath user partner)) :
    Entry u v (db.apply w) ↔ Entry u v db :=
  entry_congr (PathTree.not_overlap_append (h _ _) _)

theorem not_overlap_entries {u' v' : Int} (h : ¬ (u' = u ∧ v' = v)) (p q : Path) :
    ¬ PathTree.Overlap (listPath (listroomId u') (listroomId v') ++ p) (listPath (listroomId u) (listroomId v) ++ q) :=
  PathTree.not_overlap_below (mt overlap_listPath.1 (by rwa [listroomId_inj, listroomId_inj])) p q

theorem entry_set {r : Record} (hid : r.field "id" ≠ none) :
    Entry u v (db.apply (.set (listPath (listroomId u) (listroomId v)) r)) := by
  rw [Entry, PathTree.Tree.get_set]
  exact hid

theorem not_entry_remove : ¬ Entry u v (db.apply (removeEntry u v)) := fun h => h (PathTree.Tree.get_remove _ _ _)

theorem entry_remove_other {u' v' : Int} (h : ¬ (u' = u ∧ v' = v)) :
    Entry u v (db.apply (removeEntry u' v')) ↔ Entry u v db := by
  refine entry_congr ?_
  have hpath := not_overlap_entries h [] [.child "id"]
  rwa [List.append_nil] at hpath

/-- **The write of a send makes its entry and touches no other.** -/
theorem entry_flight {f : Flight} (hf : SentBy f.send) :
    (f.Makes u v → Entry u v (db.apply f.write)) ∧ (¬ f.Makes u v → (Entry u v (db.apply f.write) ↔ Entry u v db)) := by
  obtain ⟨send, stage⟩ := f
  obtain ⟨via, me, partner, timeNow, key, rfl⟩ := hf
  have hid : (via.send me partner timeNow key).listObject.field "id" ≠ none ∧
      (via.send me partner timeNow key).listObject1.field "id" ≠ none := by
    cases via <;> simp [SendVia.send, MessageSendVC.send, TripDetailVC.send]
  have hother : ∀ (u' v' : Int) (r : Record), ¬ (u' = u ∧ v' = v) →
      (Entry u v (db.apply (.set (listPath (listroomId u') (listroomId v')) r)) ↔ Entry u v db) := fun u' v' r hne => by
    refine entry_congr ?_
    have hpath := not_overlap_entries hne [] [.child "id"]
    rwa [List.append_nil] at hpath
  simp only [Flight.Makes, Flight.write, Send.write]
  cases stage with
  | message =>
    refine ⟨by simp, fun _ => entry_congr_of_elsewhere fun user partner' ho => ?_⟩
    exact not_overlap_messagePath_listPath _ _ _ _ ho
  | meList =>
    refine ⟨?_, fun hne => hother _ _ _ (by simpa using hne)⟩
    rintro (⟨-, rfl, rfl⟩ | ⟨h, -⟩)
    · exact entry_set hid.1
    · cases h
  | partnerList =>
    refine ⟨?_, fun hne => hother _ _ _ (by simpa using hne)⟩
    rintro (⟨h, -⟩ | ⟨-, rfl, rfl⟩)
    · cases h
    · exact entry_set hid.2

end Entries

namespace Chats

/-! ## What is under way -/

/-- A write of the flight is outstanding. -/
def UnderWay (y : Chats) (f : Flight) : Prop :=
  (∃ c ∈ y.devices.chats, Pending.send f ∈ c.vc.outstanding) ∨ f ∈ y.devices.trips

/-- The removals of an entry that are outstanding. -/
def removals (y : Chats) (u v : Int) : Nat := (y.lists.map Prod.snd).count (removeEntry u v)

/-- The flight's write fails. -/
def Fails (y : Chats) (f : Flight) : ChatsEvent → Prop
  | .device (.screen i (.settle j ok)) =>
    ok = false ∧ ∃ c, y.devices.chats[i]? = some c ∧ c.vc.outstanding[j]? = some (.send f)
  | .device (.tripSettle i ok) => ok = false ∧ y.devices.trips[i]? = some f
  | _ => False

/-- No send of the two is under way, or no removal of an entry of theirs. -/
def Apart (a b : Int) (y : Chats) : Prop :=
  (∀ f, y.UnderWay f → ¬ f.OfPair a b) ∨ y.removals a b = 0 ∧ y.removals b a = 0

/-- **Sends and deletions of the two keep apart**, and neither a removal nor the last write of a send fails. -/
structure KeepsPair (a b : Int) (y : Chats) (e : ChatsEvent) : Prop where
  apart : (y.step e).Apart a b
  sends : ∀ f, y.UnderWay f → f.OfPair a b → f.stage = .partnerList → ¬ y.Fails f e
  lists : ∀ i user w, e = .listSettle i false → y.lists[i]? = some (user, w) → w ≠ removeEntry a b ∧ w ≠ removeEntry b a

/-- Nothing of the two is under way. -/
def AtRest (a b : Int) (y : Chats) : Prop :=
  (∀ f, y.UnderWay f → ¬ f.OfPair a b) ∧ y.removals a b = 0 ∧ y.removals b a = 0

/-- **The two have each other's entries, or neither has.** -/
def BothOrNeither (a b : Int) (y : Chats) : Prop := y.AtRest a b → (Entry a b y.db ↔ Entry b a y.db)

/-- Screens write to a list by sends only. -/
def Plain (y : Chats) : Prop :=
  ∀ c ∈ y.devices.chats, ∀ w, .write w ∈ c.vc.outstanding → ∀ user friend, ¬ PathTree.Overlap w.path (listPath user friend)

/-- The invariant: an entry without its counterpart has a last write or a removal to come. -/
structure EntryInv (a b : Int) (y : Chats) : Prop where
  unblocked : y.Unblocked
  plain : y.Plain
  sent : ∀ f, y.UnderWay f → SentBy f.send
  lists : ∀ l ∈ y.lists, ∃ me partner, l.2 ∈ Traveller.deleteBtnClicked me partner ∨
    l.2 ∈ Traveller.declineBtnClicked me partner
  apart : y.Apart a b
  own : ∀ f, y.UnderWay f → f.OfPair a b → f.stage = .partnerList → Entry f.send.me f.send.partner y.db
  half : ∀ u v, SamePair u v a b → Entry u v y.db → Entry v u y.db ∨
    (∃ f, y.UnderWay f ∧ f.send.me = u ∧ f.send.partner = v ∧ f.stage = .partnerList) ∨ 0 < y.removals u v
  count : ∀ u v, SamePair u v a b → Entry u v y.db → y.removals v u ≤ y.removals u v

theorem EntryInv.bothOrNeither {a b : Int} {y : Chats} (h : EntryInv a b y) : BothOrNeither a b y := by
  rintro ⟨hsends, hab, hba⟩
  have hone : ∀ u v, SamePair u v a b → y.removals u v = 0 → Entry u v y.db → Entry v u y.db := by
    intro u v hpair hnone hentry
    rcases h.half u v hpair hentry with hother | ⟨f, hf, rfl, rfl, -⟩ | hremoval
    · exact hother
    · exact absurd hpair (hsends f hf)
    · omega
  exact ⟨hone a b (.inl ⟨rfl, rfl⟩) hab, hone b a (.inr ⟨rfl, rfl⟩) hba⟩

/-! ## What a step does to the sends -/

/-- **What a step does beside the lists**: the landed flight's write makes its entry, and the next write of its send is under
way; the other flights stay under way or fail, and what is newly under way is at its first write. -/
structure SendsMoved (y : Chats) (e : ChatsEvent) (y' : Chats) (landed : Option Flight) : Prop where
  lists : y'.lists = y.lists
  entries : ∀ u v, Entry u v y'.db ↔ Entry u v y.db ∨ ∃ f ∈ landed, f.Makes u v
  next : ∀ f ∈ landed, y.UnderWay f ∧ ∀ f', f.next = some f' → y'.UnderWay f'
  kept : ∀ f, y.UnderWay f → y'.UnderWay f ∨ y.Fails f e ∨ f ∈ landed
  fresh : ∀ f, y'.UnderWay f → y.UnderWay f ∨ f.stage = .message ∧ SentBy f.send ∨ ∃ g ∈ landed, g.next = some f

section Moved
variable {a b : Int} {y y' : Chats} {e : ChatsEvent} {landed : Option Flight}

/-- A flight whose next one makes the last write has just made the sender's entry. -/
theorem makes_of_next {f f' : Flight} (hn : f.next = some f') (hstage : f'.stage = .partnerList) :
    f.Makes f'.send.me f'.send.partner := by
  obtain ⟨send, stage⟩ := f
  cases stage <;> simp only [Flight.next, Stage.next, Option.map_some, Option.map_none, Option.some.injEq] at hn
  · subst hn
    cases hstage
  · subst hn
    exact .inl ⟨rfl, rfl, rfl⟩
  · cases hn

theorem Makes.ofPair {f : Flight} {u v : Int} (h : f.Makes u v) (hpair : SamePair u v a b) : f.OfPair a b := by
  rcases h with ⟨-, rfl, rfl⟩ | ⟨-, rfl, rfl⟩
  · exact hpair
  · rcases hpair with ⟨h, h'⟩ | ⟨h, h'⟩
    · exact .inr ⟨h', h⟩
    · exact .inl ⟨h', h⟩

theorem SendsMoved.removals (hm : SendsMoved y e y' landed) (u v : Int) : y'.removals u v = y.removals u v := by
  rw [Chats.removals, hm.lists, Chats.removals]

/-- **The sends keep the invariant.** -/
theorem EntryInv.moved (h : EntryInv a b y) (hm : SendsMoved y e y' landed) (hunblocked : y'.Unblocked)
    (hplain : y'.Plain) (hapart : y'.Apart a b)
    (hsends : ∀ f, y.UnderWay f → f.OfPair a b → f.stage = .partnerList → ¬ y.Fails f e) : EntryInv a b y' := by
  have hmono : ∀ u v, Entry u v y.db → Entry u v y'.db := fun u v hentry => (hm.entries u v).2 (.inl hentry)
  have hswap : ∀ {u v : Int}, SamePair u v a b → SamePair v u a b := fun hpair =>
    hpair.elim (fun h => .inr ⟨h.2, h.1⟩) fun h => .inl ⟨h.2, h.1⟩
  -- where a send of the two lands, no removal of theirs is outstanding
  have hnone : ∀ u v, SamePair u v a b → ∀ f ∈ landed, f.Makes u v → y.removals v u = 0 := by
    intro u v hpair f hf hmakes
    rcases h.apart with hno | ⟨hab, hba⟩
    · exact absurd (Makes.ofPair hmakes hpair) (hno f (hm.next f hf).1)
    · rcases hpair with ⟨rfl, rfl⟩ | ⟨rfl, rfl⟩
      · exact hba
      · exact hab
  refine ⟨hunblocked, hplain, fun f hf => ?_, hm.lists ▸ h.lists, hapart, fun f hf hpair hstage => ?_,
    fun u v hpair hentry => ?_, fun u v hpair hentry => ?_⟩
  · rcases hm.fresh f hf with hf | ⟨-, hsent⟩ | ⟨g, hg, hn⟩
    · exact h.sent f hf
    · exact hsent
    · rw [(Flight.of_next hn).1]
      exact h.sent g (hm.next g hg).1
  · rcases hm.fresh f hf with hf | ⟨hmessage, -⟩ | ⟨g, hg, hn⟩
    · exact hmono _ _ (h.own f hf hpair hstage)
    · rw [hmessage] at hstage
      cases hstage
    · exact (hm.entries _ _).2 (.inr ⟨g, hg, makes_of_next hn hstage⟩)
  · rw [hm.removals]
    rcases (hm.entries u v).1 hentry with hentry | ⟨f, hf, ⟨hstage, rfl, rfl⟩ | ⟨hstage, rfl, rfl⟩⟩
    · rcases h.half u v hpair hentry with hother | ⟨f, hf, rfl, rfl, hstage⟩ | hremoval
      · exact .inl (hmono _ _ hother)
      · rcases hm.kept f hf with hf' | hfails | hlanded
        · exact .inr (.inl ⟨f, hf', rfl, rfl, hstage⟩)
        · exact absurd hfails (hsends f hf hpair hstage)
        · exact .inl ((hm.entries _ _).2 (.inr ⟨f, hlanded, .inr ⟨hstage, rfl, rfl⟩⟩))
      · exact .inr (.inr hremoval)
    · -- the sender's entry: the write of the partner's is next
      have hn : f.next = some { f with stage := .partnerList } := by simp [Flight.next, hstage, Stage.next]
      exact .inr (.inl ⟨_, (hm.next f hf).2 _ hn, rfl, rfl, rfl⟩)
    · exact .inl (hmono _ _ (h.own f (hm.next f hf).1 (hswap hpair) hstage))
  · rw [hm.removals, hm.removals]
    rcases (hm.entries u v).1 hentry with hentry | ⟨f, hf, hmakes⟩
    · exact h.count u v hpair hentry
    · rw [hnone u v hpair f hf hmakes]
      exact Nat.zero_le _

end Moved

/-! ## The steps -/

/-- No screen writes to a list but by a send. -/
theorem issued_not_list {me partner : Profile} {x : Screen} {se : ScreenEvent} {w : DbWrite}
    (hw : w ∈ MessageSendVC.issued me partner x se) (user friend : String) :
    ¬ PathTree.Overlap w.path (listPath user friend) := by
  have hstatus : ∀ (online : String) (now : Int) (key : Key),
      ∀ w ∈ setStatus4me me.userId partner.userId online now key, ¬ PathTree.Overlap w.path (listPath user friend) := by
    intro online now key w hw
    simp only [setStatus4me, List.mem_cons, List.not_mem_nil, or_false] at hw
    rcases hw with rfl | rfl <;> simp [statusPath, listPath, PathTree.overlap_cons]
  cases se with
  | viewWillAppear now => exact hstatus _ _ _ w hw
  | viewDidDisappear now => exact hstatus _ _ _ w hw
  | addTappedLeftBtn now =>
    rcases List.mem_append.1 hw with hw | hw
    · exact hstatus _ _ _ w hw
    · rw [List.mem_singleton.1 hw]
      simp [requestPath, listPath, PathTree.overlap_cons]
  | sendAction =>
    simp only [MessageSendVC.issued] at hw
    split at hw
    · obtain ⟨entry, -, rfl⟩ := List.mem_map.1 hw
      exact not_overlap_messagePath_listPath _ _ _ _
    · cases hw
  | sheetRemove =>
    obtain ⟨entry, -, rfl⟩ := List.mem_map.1 hw
    exact not_overlap_messagePath_listPath _ _ _ _
  | _ => cases hw

section Steps
variable {y : Chats} {e : ChatsEvent} {a b : Int}

/-- What a landed write does to the entries. -/
theorem entry_landed {p : Pending} {u v : Int} {db : Database} (hsent : ∀ f, p = .send f → SentBy f.send)
    (hplain : ∀ w, p = .write w → ∀ user friend, ¬ PathTree.Overlap w.path (listPath user friend)) :
    Entry u v (db.apply p.dbWrite) ↔ Entry u v db ∨ ∃ f, p = .send f ∧ f.Makes u v := by
  cases p with
  | write w =>
    rw [Pending.dbWrite, entry_congr_of_elsewhere (hplain w rfl)]
    simp
  | send f =>
    obtain ⟨hmakes, hother⟩ := @entry_flight u v db f (hsent f rfl)
    by_cases hf : f.Makes u v
    · exact ⟨fun _ => .inr ⟨f, rfl, hf⟩, fun _ => hmakes hf⟩
    · refine ⟨fun h => .inl ((hother hf).1 h), ?_⟩
      rintro (h | ⟨g, hg, hmakes⟩)
      · exact (hother hf).2 h
      · exact absurd (Pending.send.inj hg ▸ hmakes) hf

/-- A step of a screen. -/
theorem moved_screen {i : Nat} {c : OpenChat} {se : ScreenEvent} (h : EntryInv a b y) (hi : y.devices.chats[i]? = some c)
    (hse : e = .device (.screen i se) ∨ ∀ j ok, se ≠ .settle j ok) :
    ∃ landed, SendsMoved y e
      { y with devices := y.devices.put i c (MessageSendVC.step c.me c.partner (y.devices.fb, c.vc) se) } landed := by
  have hc := List.mem_of_getElem? hi
  have hb := h.unblocked c hc
  obtain ⟨hlt, hget⟩ := List.getElem?_eq_some_iff.1 hi
  have hdb := (MessageSendVC.step_fb c.me c.partner y.devices.fb hb se).1
  have hsettles := fun f => @MessageSendVC.step_settles c.me c.partner (y.devices.fb, c.vc) hb se (.send f)
  have hpending := MessageSendVC.step_pending c.me c.partner (x := (y.devices.fb, c.vc)) hb se
  have hnext := fun f f' => @MessageSendVC.step_next c.me c.partner (y.devices.fb, c.vc) se f f'
  generalize MessageSendVC.step c.me c.partner (y.devices.fb, c.vc) se = x at hdb hsettles hpending hnext ⊢
  have hmem : ∀ c', c' ∈ (y.devices.put i c x).chats ↔ c' ∈ y.devices.chats.eraseIdx i ∨ c' = { c with vc := x.2 } :=
    fun c' => by
      have hperm := List.set_perm_cons_eraseIdx hlt ({ c with vc := x.2 } : OpenChat)
      rw [Devices.put, hperm.mem_iff, List.mem_cons, or_comm]
  have hmem' : ∀ c', c' ∈ y.devices.chats ↔ c' ∈ y.devices.chats.eraseIdx i ∨ c' = c := fun c' => by
    rw [← (List.getElem_cons_eraseIdx_perm hlt).mem_iff, hget, List.mem_cons, or_comm]
  have hnew : ∀ f, .send f ∈ x.2.outstanding → UnderWay { y with devices := y.devices.put i c x } f := fun f hf =>
    .inl ⟨_, (hmem _).2 (.inr rfl), hf⟩
  have hlanded : ∀ f, f ∈ (c.vc.lands se).bind Pending.flight? ↔ c.vc.lands se = some (.send f) := fun f => by
    cases hl : c.vc.lands se with
    | none => simp
    | some p => cases p <;> simp [Pending.flight?]
  refine ⟨(c.vc.lands se).bind Pending.flight?, rfl, fun u v => ?_, fun f hf => ?_, fun f hf => ?_, fun f hf => ?_⟩
  · simp only [Chats.db, Devices.put, hdb, hlanded]
    cases hl : c.vc.lands se with
    | none => simp
    | some p =>
      have hp := Devices.lands_mem hl
      simp only [Option.map_some, Option.elim_some, Option.some.injEq]
      exact entry_landed (fun f hf => h.sent f (.inl ⟨c, hc, hf ▸ hp⟩)) fun w hw => h.plain c hc w (hw ▸ hp)
  · rw [hlanded] at hf
    exact ⟨.inl ⟨c, hc, Devices.lands_mem hf⟩, fun f' hn => hnew f' (hnext f f' hf hn)⟩
  · rcases hf with ⟨c', hc', hf⟩ | hf
    · rcases (hmem' c').1 hc' with hc' | rfl
      · exact .inl (.inl ⟨c', (hmem c').2 (.inl hc'), hf⟩)
      · rcases hsettles f hf with hkept | ⟨j, rfl, hj⟩ | hl
        · exact .inl (hnew f hkept)
        · rcases hse with rfl | hne
          · exact .inr (.inl ⟨rfl, c', hi, hj⟩)
          · exact absurd rfl (hne j false)
        · exact .inr (.inr ((hlanded f).2 hl))
    · exact .inl (.inr hf)
  · rcases hf with ⟨c', hc', hf⟩ | hf
    · rcases (hmem c').1 hc' with hc' | rfl
      · exact .inl (.inl ⟨c', (hmem' c').2 (.inl hc'), hf⟩)
      · cases hpending _ hf with
        | kept hkept => exact .inl (.inl ⟨c, hc, hkept⟩)
        | started j snapshot now he msgtype attachment hkey =>
          exact .inr (.inl ⟨rfl, .doSend msgtype attachment, c.me, c.partner, _, _, rfl⟩)
        | next hl hn => exact .inr (.inr ⟨_, (hlanded _).2 hl, hn⟩)
    · exact .inl (.inr hf)

/-- A settled send of a trip screen. -/
theorem moved_tripSettle {i : Nat} {ok : Bool} {f : Flight} (h : EntryInv a b y) (hi : y.devices.trips[i]? = some f) :
    SendsMoved y (.device (.tripSettle i ok))
      { y with devices :=
        { y.devices with
          fb := if ok then y.devices.fb.apply f.write else y.devices.fb
          trips := y.devices.trips.eraseIdx i ++ if ok then f.next.toList else [] } }
      (if ok then some f else none) := by
  have hf := List.mem_of_getElem? hi
  obtain ⟨hlt, hget⟩ := List.getElem?_eq_some_iff.1 hi
  have hmem : ∀ g, g ∈ y.devices.trips ↔ g ∈ y.devices.trips.eraseIdx i ∨ g = f := fun g => by
    rw [← (List.getElem_cons_eraseIdx_perm hlt).mem_iff, hget, List.mem_cons, or_comm]
  cases ok with
  | false =>
    refine ⟨rfl, fun u v => by simp [Chats.db], fun g hg => by simp at hg, fun g hg => ?_, fun g hg => ?_⟩
    · rcases hg with hg | hg
      · exact .inl (.inl hg)
      · rcases (hmem g).1 hg with hg | rfl
        · exact .inl (.inr (List.mem_append_left _ hg))
        · exact .inr (.inl ⟨rfl, hi⟩)
    · rcases hg with hg | hg
      · exact .inl (.inl hg)
      · exact .inl (.inr ((hmem g).2 (.inl (by simpa using hg))))
  | true =>
    refine ⟨rfl, fun u v => ?_, fun g hg => ?_, fun g hg => ?_, fun g hg => ?_⟩
    · have hentry := @entry_landed (.send f) u v y.db
        (fun g hg => h.sent g (.inr (Pending.send.inj hg ▸ hf))) fun w hw => by cases hw
      simpa [Chats.db, Pending.dbWrite, Firebase.apply] using hentry
    · obtain rfl : f = g := by simpa using hg
      exact ⟨.inr hf, fun f' hn => .inr (List.mem_append_right _ (by simp [hn]))⟩
    · rcases hg with hg | hg
      · exact .inl (.inl hg)
      · rcases (hmem g).1 hg with hg | rfl
        · exact .inl (.inr (List.mem_append_left _ hg))
        · exact .inr (.inr rfl)
    · rcases hg with hg | hg
      · exact .inl (.inl hg)
      · rcases List.mem_append.1 hg with hg | hg
        · exact .inl (.inr ((hmem g).2 (.inl hg)))
        · exact .inr (.inr ⟨f, rfl, Option.mem_toList.1 hg⟩)

theorem Plain.step (h : y.Plain) (hunblocked : y.Unblocked) (e : ChatsEvent) : (y.step e).Plain := by
  have hstep := y.step_stepped e
  generalize y.step e = y' at hstep ⊢
  intro c hc w hw user friend
  cases hstep with
  | opened storedPassword me partner hl =>
    rcases List.mem_append.1 hc with hc | hc
    · exact h c hc w hw user friend
    · rw [List.mem_singleton.1 hc] at hw
      cases hw
  | screen i c' se hi hactor hl hse =>
    have hc' := List.mem_of_getElem? hi
    rcases mem_put hc with hc | rfl
    · exact h c hc w hw user friend
    · cases MessageSendVC.step_pending c'.me c'.partner (x := (y.devices.fb, c'.vc)) (hunblocked c' hc') se _ hw with
      | kept hkept => exact h c' hc' w hkept user friend
      | issued hissued => exact issued_not_list hissued user friend
  | _ => exact h c hc w hw user friend

/-- A deletion issues a removal of either entry, a decline of neither. -/
theorem count_issued {me partner : Int} {ws : List DbWrite}
    (hws : ws = Traveller.deleteBtnClicked me partner ∨ ws = Traveller.declineBtnClicked me partner) (u v : Int) :
    ws.count (removeEntry u v) = ws.count (removeEntry v u) := by
  rcases hws with rfl | rfl
  · have hroom : ∀ u v, (PathTree.Write.remove (messagePath (deleteRoom me partner)) : DbWrite) ≠ removeEntry u v := by
      simp [removeEntry, messagePath, listPath]
    have hone : ∀ u v, (Traveller.deleteBtnClicked me partner).count (removeEntry u v) =
        (if removeEntry partner me = removeEntry u v then 1 else 0) +
          if removeEntry me partner = removeEntry u v then 1 else 0 := fun u v => by
      simp only [Traveller.deleteBtnClicked, List.count_cons, List.count_nil, beq_iff_eq, hroom, if_false, Nat.zero_add]
      rfl
    rw [hone, hone]
    simp only [removeEntry_inj]
    split_ifs <;> omega
  · have hput : ∀ u v, (Traveller.declineBtnClicked me partner).count (removeEntry u v) = 0 := fun u v => by
      simp [Traveller.declineBtnClicked, removeEntry]
    rw [hput, hput]

/-- A write of the chat list removes an entry or leaves all entries. -/
theorem list_write {me partner : Int} {w : DbWrite}
    (hw : w ∈ Traveller.deleteBtnClicked me partner ∨ w ∈ Traveller.declineBtnClicked me partner) (u v : Int) (db : Database) :
    Entry u v (db.apply w) ↔ Entry u v db ∧ w ≠ removeEntry u v := by
  have hremove : ∀ u' v', (Entry u v (db.apply (removeEntry u' v')) ↔ Entry u v db ∧ removeEntry u' v' ≠ removeEntry u v) :=
    fun u' v' => by
      by_cases h : u' = u ∧ v' = v
      · obtain ⟨rfl, rfl⟩ := h
        exact ⟨fun h => absurd h not_entry_remove, fun h => absurd rfl h.2⟩
      · rw [entry_remove_other h, Ne, removeEntry_inj]
        exact ⟨fun he => ⟨he, h⟩, And.left⟩
  simp only [Traveller.deleteBtnClicked, Traveller.declineBtnClicked, List.mem_cons, List.not_mem_nil, or_false] at hw
  rcases hw with (rfl | rfl | rfl) | rfl
  · exact hremove me partner
  · exact hremove partner me
  · rw [entry_congr_of_elsewhere fun user friend => by simp [listPath, messagePath, PathTree.overlap_cons]]
    simp [removeEntry, messagePath, listPath]
  · have hother : ¬ PathTree.Overlap (listPath (listroomId me) (listroomId partner) ++ [.child "isBlock"])
        (listPath (listroomId u) (listroomId v) ++ [.child "id"]) := by
      simp [listPath, PathTree.overlap_cons]
    have hsame : Entry u v (db.apply (.put (listPath (listroomId me) (listroomId partner) ++ [.child "isBlock"]) "true")) ↔
        Entry u v db := entry_congr hother
    simpa [removeEntry] using hsame

/-- **The chat lists keep the invariant.** -/
theorem EntryInv.issued {me partner : Int} {ws : List DbWrite} (h : EntryInv a b y)
    (hws : ws = Traveller.deleteBtnClicked me partner ∨ ws = Traveller.declineBtnClicked me partner)
    (hapart : Apart a b { y with lists := y.lists ++ ws.map fun w => (me, w) }) :
    EntryInv a b { y with lists := y.lists ++ ws.map fun w => (me, w) } := by
  have hremovals : ∀ u v, removals { y with lists := y.lists ++ ws.map fun w => (me, w) } u v =
      y.removals u v + ws.count (removeEntry u v) := fun u v => by
    simp [removals, List.map_append, Function.comp_def, List.count_append]
  refine ⟨h.unblocked, h.plain, h.sent, fun l hl => ?_, hapart, h.own, fun u v hpair hentry => ?_,
    fun u v hpair hentry => ?_⟩
  · rcases List.mem_append.1 hl with hl | hl
    · exact h.lists l hl
    · obtain ⟨w, hw, rfl⟩ := List.mem_map.1 hl
      rcases hws with rfl | rfl
      · exact ⟨me, partner, .inl hw⟩
      · exact ⟨me, partner, .inr hw⟩
  · rw [hremovals]
    exact (h.half u v hpair hentry).imp_right (Or.imp_right (Nat.lt_of_lt_of_le · (Nat.le_add_right _ _)))
  · rw [hremovals, hremovals, count_issued hws u v]
    exact Nat.add_le_add_right (h.count u v hpair hentry) _

theorem EntryInv.listSettle {i : Nat} {ok : Bool} {user : Int} {w : DbWrite} (h : EntryInv a b y)
    (hi : y.lists[i]? = some (user, w)) (hok : ok = false → w ≠ removeEntry a b ∧ w ≠ removeEntry b a) :
    EntryInv a b
      { y with
        devices := { y.devices with fb := if ok then y.devices.fb.apply w else y.devices.fb }
        lists := y.lists.eraseIdx i } := by
  generalize hy' : (Chats.mk { y.devices with fb := if ok then y.devices.fb.apply w else y.devices.fb }
    (y.lists.eraseIdx i)) = y'
  obtain ⟨me, partner, hw⟩ := h.lists _ (List.mem_of_getElem? hi)
  have hunderWay : ∀ f, y'.UnderWay f ↔ y.UnderWay f := fun f => by
    subst hy'
    exact Iff.rfl
  have hlands : ∀ u v, SamePair u v a b → w = removeEntry u v → ok = true := by
    intro u v hpair hremove
    by_contra hfails
    obtain ⟨hab, hba⟩ := hok (Bool.eq_false_iff.2 hfails)
    rcases hpair with ⟨rfl, rfl⟩ | ⟨rfl, rfl⟩
    · exact hab hremove
    · exact hba hremove
  have hentries : ∀ u v, SamePair u v a b → (Entry u v y'.db ↔ Entry u v y.db ∧ w ≠ removeEntry u v) := by
    intro u v hpair
    subst hy'
    cases ok with
    | true => exact list_write hw u v y.db
    | false => exact ⟨fun he => ⟨he, fun hremove => absurd (hlands u v hpair hremove) (by decide)⟩, And.left⟩
  have hremovals : ∀ u v, y.removals u v = y'.removals u v + if w = removeEntry u v then 1 else 0 := by
    intro u v
    obtain ⟨hlt, hget⟩ := List.getElem?_eq_some_iff.1 hi
    have hperm := (List.getElem_cons_eraseIdx_perm hlt).symm.map Prod.snd
    rw [removals, hperm.count_eq, List.map_cons, hget, List.count_cons, ← hy']
    simp only [removals, beq_iff_eq]
  have hsend : ∀ f, y.UnderWay f → f.OfPair a b → w ≠ removeEntry f.send.me f.send.partner := by
    rintro f hf hpair hremove
    have hpos := hremovals f.send.me f.send.partner
    rw [if_pos hremove] at hpos
    rcases h.apart with hno | ⟨hab, hba⟩
    · exact hno f hf hpair
    · rcases hpair with ⟨hme, hpartner⟩ | ⟨hme, hpartner⟩ <;> rw [hme, hpartner] at hpos <;> omega
  refine ⟨?_, ?_, fun f hf => h.sent f ((hunderWay f).1 hf), fun l hl => ?_, ?_, fun f hf hpair hstage => ?_,
    fun u v hpair hentry => ?_, fun u v hpair hentry => ?_⟩
  · subst hy'
    exact h.unblocked
  · subst hy'
    exact h.plain
  · subst hy'
    exact h.lists l (List.mem_of_mem_eraseIdx hl)
  · refine h.apart.imp (fun hno f hf => hno f ((hunderWay f).1 hf)) fun ⟨hab, hba⟩ => ?_
    have hab' := hremovals a b
    have hba' := hremovals b a
    omega
  · rw [hunderWay] at hf
    exact (hentries _ _ hpair).2 ⟨h.own f hf hpair hstage, hsend f hf hpair⟩
  · obtain ⟨hentry, hkeep⟩ := (hentries u v hpair).1 hentry
    have hswap : SamePair v u a b := hpair.elim (fun h => .inr ⟨h.2, h.1⟩) fun h => .inl ⟨h.2, h.1⟩
    have huv := hremovals u v
    rw [if_neg hkeep] at huv
    rcases h.half u v hpair hentry with hother | ⟨f, hf, hflight⟩ | hremoval
    · by_cases hremove : w = removeEntry v u
      · -- the other entry goes: a removal of this one is still to come
        have hvu := hremovals v u
        have hcount := h.count u v hpair hentry
        rw [if_pos hremove] at hvu
        exact .inr (.inr (by omega))
      · exact .inl ((hentries v u hswap).2 ⟨hother, hremove⟩)
    · exact .inr (.inl ⟨f, (hunderWay f).2 hf, hflight⟩)
    · exact .inr (.inr (by omega))
  · obtain ⟨hentry, hkeep⟩ := (hentries u v hpair).1 hentry
    have huv := hremovals u v
    have hvu := hremovals v u
    have hcount := h.count u v hpair hentry
    rw [if_neg hkeep] at huv
    omega

/-- **A step keeps the invariant.** -/
theorem EntryInv.step (h : EntryInv a b y) (hok : y.KeepsPair a b e) : EntryInv a b (y.step e) := by
  have hunblocked := h.unblocked.step e
  have hplain := h.plain.step h.unblocked e
  have hapart := hok.apart
  have hsends := hok.sends
  have hlists := hok.lists
  have hstep := y.step_stepped e
  generalize y.step e = y' at hstep hunblocked hplain hapart ⊢
  cases hstep with
  | idle hl => exact h
  | opened storedPassword me partner hl =>
    refine @EntryInv.moved a b y _ _ none h ⟨rfl, fun u v => by simp [db], fun f hf => (by cases hf), fun f hf => .inl ?_,
      fun f hf => .inl ?_⟩ hunblocked hplain hapart hsends
    · exact hf.imp_left fun ⟨c, hc, hf⟩ => ⟨c, List.mem_append_left _ hc, hf⟩
    · refine hf.imp_left ?_
      rintro ⟨c, hc, hf⟩
      rcases List.mem_append.1 hc with hc | hc
      · exact ⟨c, hc, hf⟩
      · rw [List.mem_singleton.1 hc] at hf
        cases hf
  | screen i c se hi hactor hl hse =>
    have hse' : e = .device (.screen i se) ∨ ∀ j ok, se ≠ .settle j ok := by
      rcases hse with ⟨he, -⟩ | ⟨key, snapshot, rfl, -⟩
      · exact .inl he
      · exact .inr fun _ _ => by simp
    obtain ⟨landed, hm⟩ := moved_screen h hi hse'
    exact h.moved hm hunblocked hplain hapart hsends
  | tripSend storedPassword me partner msg now hl =>
    refine @EntryInv.moved a b y _ _ none h ⟨rfl, fun u v => by simp [db], fun f hf => (by cases hf), fun f hf => .inl ?_,
      fun f hf => ?_⟩ hunblocked hplain hapart hsends
    · exact hf.imp_right (List.mem_append_left _)
    · rcases hf with hf | hf
      · exact .inl (.inl hf)
      · rcases List.mem_append.1 hf with hf | hf
        · exact .inl (.inr hf)
        · rw [List.mem_singleton.1 hf]
          exact .inr (.inl ⟨rfl, .sendBtnClicked msg, _, _, _, _, rfl⟩)
  | tripSettle i ok f hi hactor hl he =>
    subst he
    exact h.moved (moved_tripSettle h hi) hunblocked hplain hapart hsends
  | issued me partner ws hl hws => exact h.issued hws hapart
  | listSettle i ok user w hi hactor hl he =>
    subst he
    exact h.listSettle hi fun hfails => hlists i user w (by rw [hfails]) hi

end Steps

theorem EntryInv.init {a b : Int} (fb : Firebase) (h : Entry a b fb.db ↔ Entry b a fb.db) :
    EntryInv a b { devices := { fb := fb } } where
  unblocked _ hc := absurd hc List.not_mem_nil
  plain _ hc := absurd hc List.not_mem_nil
  sent f hf := by rcases hf with ⟨c, hc, -⟩ | hf; exacts [absurd hc List.not_mem_nil, absurd hf List.not_mem_nil]
  lists _ hl := absurd hl List.not_mem_nil
  apart := .inr ⟨rfl, rfl⟩
  own f hf := by rcases hf with ⟨c, hc, -⟩ | hf; exacts [absurd hc List.not_mem_nil, absurd hf List.not_mem_nil]
  half u v hpair hentry := by
    rcases hpair with ⟨rfl, rfl⟩ | ⟨rfl, rfl⟩
    · exact .inl (h.1 hentry)
    · exact .inl (h.2 hentry)
  count _ _ _ _ := Nat.le_refl _

/-- **A chat is in both lists or in neither**: whenever nothing of two users is under way, they have each other's entries or
neither has, in every run of all devices in which no send of the two overlaps a deletion of their chat and neither a removal
nor the last write of a send fails. -/
theorem in_both_or_neither (a b : Int) (fb : Firebase) (hstart : Entry a b fb.db ↔ Entry b a fb.db) (es : List ChatsEvent)
    (hok : Runs.AllSteps step (KeepsPair a b) { devices := { fb := fb } } es) :
    Runs.AllStates step (BothOrNeither a b) { devices := { fb := fb } } es :=
  Runs.allStates_of_invariant (EntryInv a b) (fun _ _ h hok => h.step hok) (fun _ h => h.bothOrNeither) (.init fb hstart) hok

theorem not_underWay {y : Chats} (hchats : y.devices.chats = []) (htrips : y.devices.trips = []) (f : Flight) :
    ¬ y.UnderWay f := by
  rintro (⟨c, hc, -⟩ | hf)
  · rw [hchats] at hc
    cases hc
  · rw [htrips] at hf
    cases hf

set_option maxRecDepth 10000 in
theorem in_both_or_neither_sent_and_deleted :
    Runs.AllStates step (BothOrNeither 7 9) {}
      [.device (.sendBtnClicked "" { id := 7 } (.ofPartner 9 "Ann" "" "" 0) "hi" 1), .device (.tripSettle 0 true),
        .device (.tripSettle 0 true), .device (.tripSettle 0 true), .deleteBtnClicked 9 7, .listSettle 0 true,
        .listSettle 0 true] :=
  in_both_or_neither 7 9 {} (by decide) _
    ⟨⟨.inr (by decide), fun _ _ _ _ h => h, fun _ _ _ h => (by cases h)⟩,
      ⟨.inr (by decide), fun _ _ _ _ h => (by cases h.1), fun _ _ _ h => (by cases h)⟩,
      ⟨.inr (by decide), fun _ _ _ _ h => (by cases h.1), fun _ _ _ h => (by cases h)⟩,
      ⟨.inr (by decide), fun _ _ _ _ h => (by cases h.1), fun _ _ _ h => (by cases h)⟩,
      ⟨.inl fun f hf => absurd hf (not_underWay rfl rfl f), fun _ _ _ _ h => h, fun _ _ _ h => (by cases h)⟩,
      ⟨.inl fun f hf => absurd hf (not_underWay rfl rfl f), fun _ _ _ _ h => h, fun _ _ _ h => (by cases h)⟩,
      ⟨.inl fun f hf => absurd hf (not_underWay rfl rfl f), fun _ _ _ _ h => h, fun _ _ _ h => (by cases h)⟩, trivial⟩

set_option maxRecDepth 10000 in
/-- A deletion while the last write of a send is under way: the partner is left with an entry that the sender has not. -/
example :
    ¬ BothOrNeither 7 9 (Runs.run step {}
      [.device (.sendBtnClicked "" { id := 7 } (.ofPartner 9 "Ann" "" "" 0) "hi" 1), .device (.tripSettle 0 true),
        .device (.tripSettle 0 true), .deleteBtnClicked 7 9, .listSettle 0 true, .listSettle 0 true, .listSettle 0 true,
        .device (.tripSettle 0 true)]) := fun h =>
  absurd (h ⟨fun f hf => absurd hf (not_underWay rfl rfl f), by decide, by decide⟩) (by decide)

end Chats
end Traveller
