import Mathlib.Data.Sym.Sym2
import Traveller.ChatStored
import Traveller.NodeTables
/-!
# ChatSystem — every device and the database

The devices of any number of users: chat screens, sends from the trip screen, and the deletions and declines of the chat
list.  A device listens to what its own database shows, and that is the server's with writes of its own on top that have not
been answered, so the listener is told of the server's rooms under any of them.

A step changes the database by one write at most (`step_db`), and what a screen waits for after a step it waited for before,
or has just issued (`step_pending`).
-/
namespace Traveller

/-- The devices, and the writes of the chat lists with the user whose they are. -/
structure Chats where
  devices : Devices := {}
  lists : List (Int × DbWrite) := []

/-- What happens.  A listener is told of a message by `childAdded`, at any time; it is given the record the server has at that
moment, never an older one, under the outstanding writes of its device that the event names. -/
inductive ChatsEvent where
  | device (e : DeviceEvent)
  | childAdded (i : Nat) (key : Key) (shown : List DbWrite)
  | deleteBtnClicked (me partner : Int)
  | declineBtnClicked (me partner : Int)
  | listSettle (i : Nat) (ok : Bool)

namespace Chats

def db (y : Chats) : Database := y.devices.fb.db

/-- The writes of a user that are outstanding. -/
def outstanding (y : Chats) (user : Int) : List DbWrite :=
  y.devices.outstanding user ++ (y.lists.filter (·.1 = user)).map Prod.snd

def step (y : Chats) : ChatsEvent → Chats
  | .device (.childAdded _ _) => y
  | .device e => { y with devices := y.devices.step e }
  | .childAdded i key shown =>
    match y.devices.chats[i]? with
    | none => y
    | some c =>
      let snapshot := (y.db.applyAll shown).below (roomNode c.me.userId c.partner.userId key)
      if (∀ w ∈ shown, w ∈ y.outstanding c.me.userId) ∧ snapshot.leaves ≠ [] then
        { y with devices :=
          y.devices.put i c (MessageSendVC.step c.me c.partner (y.devices.fb, c.vc) (.childAdded key snapshot.record)) }
      else y
  | .deleteBtnClicked me partner =>
    { y with lists := y.lists ++ (Traveller.deleteBtnClicked me partner).map fun w => (me, w) }
  | .declineBtnClicked me partner =>
    { y with lists := y.lists ++ (Traveller.declineBtnClicked me partner).map fun w => (me, w) }
  | .listSettle i ok =>
    match y.lists[i]? with
    | none => y
    | some (_, w) =>
      { y with
        devices := { y.devices with fb := if ok then y.devices.fb.apply w else y.devices.fb }
        lists := y.lists.eraseIdx i }

/-- The user on whose device the step is. -/
def actor (y : Chats) : ChatsEvent → Option Int
  | .device (.didSelectItemAt _ me _) => some me.id
  | .device (.screen i _) => (y.devices.chats[i]?).map (·.me.userId)
  | .device (.childAdded i _) => (y.devices.chats[i]?).map (·.me.userId)
  | .device (.sendBtnClicked _ me _ _ _) => some me.id
  | .device (.tripSettle i _) => (y.devices.trips[i]?).map (·.send.me)
  | .childAdded i _ _ => (y.devices.chats[i]?).map (·.me.userId)
  | .deleteBtnClicked me _ => some me
  | .declineBtnClicked me _ => some me
  | .listSettle i _ => (y.lists[i]?).map Prod.fst

/-- The outstanding write that succeeds in the step. -/
def lands (y : Chats) : ChatsEvent → Option DbWrite
  | .device (.screen i e) => (y.devices.chats[i]?).bind fun c => (c.vc.lands e).map Pending.dbWrite
  | .device (.tripSettle i true) => (y.devices.trips[i]?).map Flight.write
  | .listSettle i true => (y.lists[i]?).map Prod.snd
  | _ => none

/-- No screen knows of a block. -/
def Unblocked (y : Chats) : Prop := ∀ c ∈ y.devices.chats, c.vc.isBlock = "false"

end Chats

/-! ## Where an outstanding write comes from -/

namespace MessageSendVC

/-- **What a screen waits for after a step**: what it waited for before, a write the event issues, the first write of a send
that starts, or the next one of a send whose last write has succeeded. -/
inductive PendingFrom (me partner : Profile) (x : Screen) (e : ScreenEvent) (x' : Screen) : Pending → Prop where
  | kept {p : Pending} (h : p ∈ x.2.outstanding) : PendingFrom me partner x e x' p
  | issued {w : DbWrite} (h : w ∈ issued me partner x e) : PendingFrom me partner x e x' (.write w)
  | started (i : Nat) (snapshot : List String) (now : Int) (he : e = .statusReply i snapshot now) (msgtype : MsgType)
      (attachment : String) (hkey : x'.1.nextKey = x.1.nextKey + 1) : PendingFrom me partner x e x'
        (.send { send := send me partner msgtype attachment (now * 1000) (.auto x.1.nextKey) })
  | next {f f' : Flight} (h : x.2.lands e = some (.send f)) (hn : f.next = some f') : PendingFrom me partner x e x' (.send f')

theorem step_pending (me partner : Profile) {x : Screen} (hb : x.2.isBlock = "false") (e : ScreenEvent) :
    ∀ p ∈ (step me partner x e).2.outstanding, PendingFrom me partner x e (step me partner x e) p := by
  intro p hp
  by_cases ht : x.2.takes e = true
  case neg =>
    rw [step_of_not_takes me partner ht] at hp
    exact .kept hp
  cases hof : ofSends e with
  | false =>
    rw [(step_quiet me partner hof ht).outstanding] at hp
    rcases List.mem_append.1 hp with hp | hp
    · exact .kept hp
    · obtain ⟨w, hw, rfl⟩ := List.mem_map.1 hp
      exact .issued hw
  | true =>
    cases e with
    | statusReply i snapshot now =>
      cases step_answer me partner hb ht with
      | nothing hfb hb' ho hl hidle => exact .kept (ho ▸ hp)
      | leak hfb hb' ho hl hl' htext hempty => exact .kept (ho ▸ hp)
      | start msgtype attachment hdb hkey hb' ho hl hl' hwhat hhas =>
        rw [ho] at hp
        rcases List.mem_append.1 hp with hp | hp
        · exact .kept hp
        · rw [List.mem_singleton.1 hp]
          exact .started i snapshot now rfl msgtype attachment hkey
    | settle i ok =>
      cases step_completion me partner ht with
      | nothing hi hx =>
        rw [hx] at hp
        exact .kept hp
      | write w hi hfb hb' hl hs ho => exact .kept (List.mem_of_mem_eraseIdx (ho ▸ hp))
      | send f rest hi hfb hb' hl hs hs' ho =>
        rw [ho] at hp
        rcases List.mem_append.1 hp with hp | hp
        · exact .kept (List.mem_of_mem_eraseIdx hp)
        · cases ok with
          | false => cases hp
          | true =>
            obtain ⟨f', hf', rfl⟩ := List.mem_map.1 hp
            exact .next (by simp only [lands, ht, if_true, hi]) (Option.mem_toList.1 hf')
    | _ => cases hof

/-- **A write stays outstanding until it is answered.** -/
theorem step_settles (me partner : Profile) {x : Screen} (hb : x.2.isBlock = "false") (e : ScreenEvent) {p : Pending}
    (hp : p ∈ x.2.outstanding) :
    p ∈ (step me partner x e).2.outstanding ∨
      (∃ j, e = .settle j false ∧ x.2.outstanding[j]? = some p) ∨ x.2.lands e = some p := by
  by_cases ht : x.2.takes e = true
  case neg =>
    rw [step_of_not_takes me partner ht]
    exact .inl hp
  cases hof : ofSends e with
  | false =>
    rw [(step_quiet me partner hof ht).outstanding]
    exact .inl (List.mem_append_left _ hp)
  | true =>
    cases e with
    | statusReply i snapshot now =>
      left
      cases step_answer me partner hb ht with
      | nothing hfb hb' ho hl hidle => exact ho ▸ hp
      | leak hfb hb' ho hl hl' htext hempty => exact ho ▸ hp
      | start msgtype attachment hdb hkey hb' ho hl hl' hwhat hhas =>
        rw [ho]
        exact List.mem_append_left _ hp
    | settle i ok =>
      have hkeep : ∀ q, x.2.outstanding[i]? = some q → p ∈ x.2.outstanding.eraseIdx i ∨ p = q := fun q hq => by
        obtain ⟨hi, hget⟩ := List.getElem?_eq_some_iff.1 hq
        have hmem := (List.getElem_cons_eraseIdx_perm hi).symm.mem_iff.1 hp
        rw [hget] at hmem
        exact (List.mem_cons.1 hmem).symm
      have hsettled : ∀ q, x.2.outstanding[i]? = some q → p = q → ok = true → x.2.lands (.settle i ok) = some p := by
        rintro q hq rfl rfl
        simp only [lands, ht, if_true, hq]
      cases step_completion me partner ht with
      | nothing hi hx =>
        rw [hx]
        exact .inl hp
      | write w hi hfb hb' hl hs ho =>
        rw [ho]
        rcases hkeep _ hi with hmem | heq
        · exact .inl hmem
        · cases ok with
          | false => exact .inr (.inl ⟨i, rfl, heq ▸ hi⟩)
          | true => exact .inr (.inr (hsettled _ hi heq rfl))
      | send f rest hi hfb hb' hl hs hs' ho =>
        rw [ho]
        rcases hkeep _ hi with hmem | heq
        · exact .inl (List.mem_append_left _ hmem)
        · cases ok with
          | false => exact .inr (.inl ⟨i, rfl, heq ▸ hi⟩)
          | true => exact .inr (.inr (hsettled _ hi heq rfl))
    | _ => cases hof

/-- The next write of a send is outstanding as soon as its last one has succeeded. -/
theorem step_next (me partner : Profile) {x : Screen} {e : ScreenEvent} {f f' : Flight} (hl : x.2.lands e = some (.send f))
    (hn : f.next = some f') : .send f' ∈ (step me partner x e).2.outstanding := by
  unfold lands at hl
  split at hl
  case h_2 => cases hl
  case h_1 =>
    split at hl
    case isFalse => cases hl
    case isTrue ht =>
      cases step_completion me partner ht with
      | nothing hi hx => exact absurd (hi.symm.trans hl) (by simp)
      | write w hi hfb hb' hl' hs ho =>
        rw [hi] at hl
        cases hl
      | send g rest hi hfb hb' hl' hs hs' ho =>
        rw [hi] at hl
        obtain rfl := Pending.send.inj (Option.some.inj hl)
        rw [ho, hn]
        exact List.mem_append_right _ (List.mem_singleton_self _)

/-- A block of a screen stays as it is. -/
theorem step_isBlock (me partner : Profile) {x : Screen} (hb : x.2.isBlock = "false") (e : ScreenEvent) :
    (step me partner x e).2.isBlock = "false" := by
  by_cases ht : x.2.takes e = true
  case neg =>
    rw [step_of_not_takes me partner ht]
    exact hb
  cases hof : ofSends e with
  | false => exact (step_quiet me partner hof ht).isBlock.trans hb
  | true =>
    cases e with
    | statusReply i snapshot now =>
      cases step_answer me partner hb ht with
      | nothing hfb hb' ho hl hidle => exact hb'.trans hb
      | leak hfb hb' ho hl hl' htext hempty => exact hb'.trans hb
      | start msgtype attachment hdb hkey hb' ho hl hl' hwhat hhas => exact hb'.trans hb
    | settle i ok =>
      cases step_completion me partner ht with
      | nothing hi hx => rw [hx]; exact hb
      | write w hi hfb hb' hl hs ho => exact hb'.trans hb
      | send f rest hi hfb hb' hl hs hs' ho => exact hb'.trans hb
    | _ => cases hof

/-- A step of a screen changes the database by the write that lands, and takes no key back. -/
theorem step_fb (me partner : Profile) (fb : Firebase) {s : MessageSendVC} (hb : s.isBlock = "false") (e : ScreenEvent) :
    (step me partner (fb, s) e).1.db = ((s.lands e).map Pending.dbWrite).elim fb.db fb.db.apply ∧
      fb.nextKey ≤ (step me partner (fb, s) e).1.nextKey := by
  cases screen_moved me partner fb hb e with
  | quiet hdb hkey hf hl => exact ⟨by rw [hl]; exact hdb, hkey⟩
  | start f hstage hnew hdb hkey hf hl => exact ⟨by rw [hl]; exact hdb, by rw [hkey]; exact Nat.le_succ _⟩
  | stop f hfb hf hl => exact ⟨by rw [hl, hfb]; rfl, by rw [hfb]⟩
  | land p rest hl hfb hf hf' => exact ⟨by rw [hl, hfb]; rfl, by rw [hfb]; exact Nat.le_refl _⟩

end MessageSendVC

namespace Chats

/-! ## What a step can do -/

/-- What the listener of a chat screen is told: a record its device shows. -/
def Told (y : Chats) (c : OpenChat) (key : Key) (snapshot : Record) : Prop :=
  ∃ shown, (∀ w ∈ shown, w ∈ y.outstanding c.me.userId) ∧
    ((y.db.applyAll shown).below (roomNode c.me.userId c.partner.userId key)).leaves ≠ [] ∧
    snapshot = ((y.db.applyAll shown).below (roomNode c.me.userId c.partner.userId key)).record

/-- **What a step can do.** -/
inductive Stepped (y : Chats) (e : ChatsEvent) : Chats → Prop where
  | idle (hl : y.lands e = none) : Stepped y e y
  | opened (storedPassword : String) (me : UserJson) (partner : Profile) (hl : y.lands e = none) : Stepped y e
      { y with devices := { y.devices with chats := y.devices.chats ++ [{ me := .ofJson storedPassword me, partner }] } }
  | screen (i : Nat) (c : OpenChat) (se : ScreenEvent) (hi : y.devices.chats[i]? = some c)
      (hactor : y.actor e = some c.me.userId) (hl : y.lands e = (c.vc.lands se).map Pending.dbWrite)
      (hse : e = .device (.screen i se) ∧ (∀ key snapshot, se ≠ .childAdded key snapshot) ∨
        ∃ key snapshot, se = .childAdded key snapshot ∧ y.Told c key snapshot) : Stepped y e
      { y with devices := y.devices.put i c (MessageSendVC.step c.me c.partner (y.devices.fb, c.vc) se) }
  | tripSend (storedPassword : String) (me : UserJson) (partner : Profile) (msg : String) (now : Int)
      (hl : y.lands e = none) : Stepped y e
      { y with devices :=
        { y.devices with
          fb := { y.devices.fb with nextKey := y.devices.fb.nextKey + 1 }
          trips := y.devices.trips ++
            [⟨TripDetailVC.send (.ofJson storedPassword me) partner msg (now * 1000) (.auto y.devices.fb.nextKey),
              .message⟩] } }
  | tripSettle (i : Nat) (ok : Bool) (f : Flight) (hi : y.devices.trips[i]? = some f) (hactor : y.actor e = some f.send.me)
      (hl : y.lands e = if ok then some f.write else none) (he : e = .device (.tripSettle i ok)) : Stepped y e
      { y with devices :=
        { y.devices with
          fb := if ok then y.devices.fb.apply f.write else y.devices.fb
          trips := y.devices.trips.eraseIdx i ++ if ok then f.next.toList else [] } }
  | issued (me partner : Int) (ws : List DbWrite) (hl : y.lands e = none)
      (hws : ws = Traveller.deleteBtnClicked me partner ∨ ws = Traveller.declineBtnClicked me partner) : Stepped y e
      { y with lists := y.lists ++ ws.map fun w => (me, w) }
  | listSettle (i : Nat) (ok : Bool) (user : Int) (w : DbWrite) (hi : y.lists[i]? = some (user, w))
      (hactor : y.actor e = some user) (hl : y.lands e = if ok then some w else none) (he : e = .listSettle i ok) :
      Stepped y e
      { y with
        devices := { y.devices with fb := if ok then y.devices.fb.apply w else y.devices.fb }
        lists := y.lists.eraseIdx i }

theorem step_stepped (y : Chats) (e : ChatsEvent) : Stepped y e (y.step e) := by
  cases e with
  | device e =>
    cases e with
    | didSelectItemAt storedPassword me partner => exact .opened storedPassword me partner rfl
    | childAdded i key => exact .idle rfl
    | screen i e =>
      cases hi : y.devices.chats[i]? with
      | none =>
        have hstep : y.step (.device (.screen i e)) = y := by
          have hdevices : y.devices.step (.screen i e) = y.devices := by cases e <;> simp only [Devices.step, hi]
          simp only [step, hdevices]
        rw [hstep]
        exact .idle (by simp only [lands, hi, Option.bind_none])
      | some c =>
        by_cases hadded : ∃ key snapshot, e = .childAdded key snapshot
        · obtain ⟨key, snapshot, rfl⟩ := hadded
          exact .idle (by simp only [lands, hi, Option.bind_some, MessageSendVC.lands, Option.map_none])
        have hne : ∀ key snapshot, e ≠ .childAdded key snapshot := fun key snapshot he => hadded ⟨key, snapshot, he⟩
        have hstep := Devices.step_screen (y := y.devices) hne hi
        simp only [step, hstep]
        exact .screen i c e hi (by simp only [actor, hi, Option.map_some])
          (by simp only [lands, hi, Option.bind_some]) (.inl ⟨rfl, hne⟩)
    | sendBtnClicked storedPassword me partner msg now =>
      simp only [step, Devices.step]
      split
      · exact .idle rfl
      · exact .tripSend storedPassword me partner msg now rfl
    | tripSettle i ok =>
      have hl : y.lands (.device (.tripSettle i ok)) = if ok then (y.devices.trips[i]?).map Flight.write else none := by
        cases ok <;> rfl
      simp only [step, Devices.step]
      cases hi : y.devices.trips[i]? with
      | none => exact .idle (by rw [hl, hi]; exact ite_self none)
      | some f =>
        exact .tripSettle i ok f hi (by simp only [actor, hi, Option.map_some]) (by rw [hl, hi, Option.map_some]) rfl
  | childAdded i key shown =>
    simp only [step]
    cases hi : y.devices.chats[i]? with
    | none => exact .idle rfl
    | some c =>
      simp only []
      split
      · rename_i htold
        exact .screen i c _ hi (by simp only [actor, hi, Option.map_some]) rfl
          (.inr ⟨key, _, rfl, shown, htold.1, htold.2, rfl⟩)
      · exact .idle rfl
  | deleteBtnClicked me partner => exact .issued me partner _ rfl (.inl rfl)
  | declineBtnClicked me partner => exact .issued me partner _ rfl (.inr rfl)
  | listSettle i ok =>
    have hl : y.lands (.listSettle i ok) = if ok then (y.lists[i]?).map Prod.snd else none := by cases ok <;> rfl
    simp only [step]
    cases hi : y.lists[i]? with
    | none => exact .idle (by rw [hl, hi]; exact ite_self none)
    | some l =>
      exact .listSettle i ok l.1 l.2 hi (by simp only [actor, hi, Option.map_some]) (by rw [hl, hi, Option.map_some]) rfl

section Step
variable {y : Chats} {e : ChatsEvent}

theorem mem_put {c c' : OpenChat} {i : Nat} {x : Screen} (h : c' ∈ (y.devices.put i c x).chats) :
    c' ∈ y.devices.chats ∨ c' = { c with vc := x.2 } := List.mem_or_eq_of_mem_set h

/-- **A step changes the database by the write that lands**, and takes no key back. -/
theorem step_db (h : y.Unblocked) (e : ChatsEvent) :
    (y.step e).db = (y.lands e).elim y.db y.db.apply ∧ y.devices.fb.nextKey ≤ (y.step e).devices.fb.nextKey := by
  have hsettle : ∀ (ok : Bool) (w : DbWrite), (if ok then y.devices.fb.apply w else y.devices.fb).db =
      (if ok then some w else none).elim y.db y.db.apply ∧
        y.devices.fb.nextKey ≤ (if ok then y.devices.fb.apply w else y.devices.fb).nextKey := fun ok w => by
    cases ok
    · exact ⟨rfl, Nat.le_refl _⟩
    · exact ⟨rfl, Nat.le_refl _⟩
  have hstep := y.step_stepped e
  generalize y.step e = y' at hstep ⊢
  cases hstep with
  | idle hl => rw [hl]; exact ⟨rfl, Nat.le_refl _⟩
  | opened storedPassword me partner hl => rw [hl]; exact ⟨rfl, Nat.le_refl _⟩
  | screen i c se hi hactor hl hse =>
    rw [hl]
    exact MessageSendVC.step_fb c.me c.partner y.devices.fb (h c (List.mem_of_getElem? hi)) se
  | tripSend storedPassword me partner msg now hl => rw [hl]; exact ⟨rfl, Nat.le_succ _⟩
  | tripSettle i ok f hi hactor hl => rw [hl]; exact hsettle ok f.write
  | issued me partner ws hl hws => rw [hl]; exact ⟨rfl, Nat.le_refl _⟩
  | listSettle i ok user w hi hactor hl => rw [hl]; exact hsettle ok w

theorem Unblocked.step (h : y.Unblocked) (e : ChatsEvent) : (y.step e).Unblocked := by
  have hstep := y.step_stepped e
  generalize y.step e = y' at hstep ⊢
  intro c hc
  cases hstep with
  | opened storedPassword me partner hl =>
    rcases List.mem_append.1 hc with hc | hc
    · exact h c hc
    · rw [List.mem_singleton.1 hc]
  | screen i c' se hi hactor hl hse =>
    rcases mem_put hc with hc | rfl
    · exact h c hc
    · exact MessageSendVC.step_isBlock c'.me c'.partner (h c' (List.mem_of_getElem? hi)) se
  | _ => exact h c hc

end Step

end Chats
end Traveller
