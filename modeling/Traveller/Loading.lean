import Mathlib.Data.List.Nodup
import Mathlib.Data.List.Perm.Basic
import Traveller.Runs
/-!
# Loading — a list filled by the answers to requests that overlap

A load empties the list when it is asked for, and the items of its answer are appended when it is answered; a write empties
the list when it is answered.  Requests are numbered in the order they are issued and answered in any order, by a failure or
with items.

`Orderly` says in which order of loads, answers, empty answers and failures such a list shows one answer: no load's items come on
top of others, and the last request under way is answered by what may come last.  `showsOneReply_of_orderly` carries the law
over to any system that simulates such a list.
-/
namespace Loading

variable {α : Type*}

/-- The list, and the requests under way: the number of each, and whether its answer empties the list. -/
structure State (α : Type*) where
  rows : List α := []
  requests : List (Nat × Bool) := []
  issued : Nat := 0

inductive Event (α : Type*) where
  | load
  | write
  | answer (i : Nat) (reply : Option (List α))

def step (s : State α) : Event α → State α
  | .load => { rows := [], requests := s.requests ++ [(s.issued, false)], issued := s.issued + 1 }
  | .write => { s with requests := s.requests ++ [(s.issued, true)], issued := s.issued + 1 }
  | .answer i reply =>
    match s.requests[i]?, reply with
    | none, _ => s
    | some _, none => { s with requests := s.requests.eraseIdx i }
    | some (_, clears), some items =>
      { s with requests := s.requests.eraseIdx i, rows := (if clears then [] else s.rows) ++ items }

/-- What is noted: the items each request was answered with, whether items have come since the list was emptied, of the requests
that have succeeded the one issued last, and whether since its answer the list was emptied or items of an earlier one came. -/
structure History (α : Type*) where
  replies : Nat → Option (List α) := fun _ => none
  filled : Bool := false
  latest : Option Nat := none
  overtaken : Bool := false

namespace History

def emptied (h : History α) : History α := { h with filled := false, overtaken := true }

/-- Every request that has succeeded was issued before. -/
def newest (h : History α) (n : Nat) : Bool := h.latest.all (· < n)

def took (h : History α) (n : Nat) (items : List α) : History α where
  replies := Function.update h.replies n (some items)
  filled := !items.isEmpty || h.filled
  latest := if h.newest n then some n else h.latest
  overtaken := !h.newest n && (!items.isEmpty || h.overtaken)

/-- **The last success stands**: nothing has come in its way since, or, where it brought no items, none have come. -/
def Stands (h : History α) : Prop :=
  ∀ n, h.latest = some n → (h.replies n = some [] → h.filled = false) ∧ (h.replies n ≠ some [] → h.overtaken = false)

end History

def note (h : History α) (s : State α) : Event α → History α
  | .load => h.emptied
  | .write => h
  | .answer i reply =>
    match s.requests[i]?, reply with
    | some (n, clears), some items => (if clears then h.emptied else h).took n items
    | _, _ => h

/-- **The list shows one reply**: after a success the rows are the items of one reply, and once nothing is under way they are
those of the request issued last among the ones that succeeded. -/
def ShowsOneReply (y : State α × History α) (e : Event α) : Prop :=
  let y' := Runs.noting step note y e
  (∀ i items, e = .answer i (some items) → y.1.requests[i]? ≠ none → ∃ n, y'.2.replies n = some y'.1.rows) ∧
    (y'.1.requests = [] → ∀ n, y'.2.latest = some n → y'.2.replies n = some y'.1.rows)

/-- The last request under way may be answered so: with items if it is the newest, with none if it is and none are there or else
the last success stands, with a failure if that stands. -/
def Ends (h : History α) (n : Nat) (clears : Bool) : Option (List α) → Prop
  | none => h.Stands
  | some [] =>
    if h.newest n then clears = true ∨ h.filled = false
    else (if clears then h.emptied else h).Stands
  | some (_ :: _) => h.newest n = true

/-- **In order**: a load is answered with items only while none are there, and the last request under way is answered by what may
come last. -/
def Orderly (y : State α × History α) : Event α → Prop
  | .answer i reply =>
    match y.1.requests[i]? with
    | none => True
    | some (n, clears) =>
      (clears = false → reply.any (!·.isEmpty) = true → y.2.filled = false) ∧ (y.1.requests.length = 1 → Ends y.2 n clears reply)
  | _ => True

/-! ## What is shown -/

/-- The rows are what came since the list was emptied, and those of the last success unless something came in its way. -/
structure History.Shows (h : History α) (rows : List α) : Prop where
  nil : h.filled = false → rows = []
  one : h.filled = true → ∃ n, h.replies n = some rows
  replied : ∀ n, h.latest = some n → h.replies n ≠ none
  stands : ∀ n, h.latest = some n → h.replies n ≠ some [] → h.overtaken = false → h.replies n = some rows

namespace History
variable {h : History α} {rows items : List α} {n : Nat}

theorem Shows.emptied (hshows : h.Shows rows) : h.emptied.Shows [] where
  nil _ := rfl
  one hfilled := Bool.noConfusion hfilled
  replied := hshows.replied
  stands _ _ _ hover := Bool.noConfusion hover

/-- **A success that stands is shown.** -/
theorem Shows.latest (hshows : h.Shows rows) (hstands : h.Stands) (hn : h.latest = some n) : h.replies n = some rows := by
  obtain ⟨hempty, hitems⟩ := hstands n hn
  by_cases hnil : h.replies n = some []
  · rw [hnil, hshows.nil (hempty hnil)]
  · exact hshows.stands n hn hnil (hitems hnil)

@[simp] theorem replies_took_self (h : History α) (n : Nat) (items : List α) : (h.took n items).replies n = some items :=
  Function.update_self ..

theorem replies_took_of_ne (h : History α) {m n : Nat} (hne : m ≠ n) (items : List α) :
    (h.took n items).replies m = h.replies m := Function.update_of_ne hne ..

/-- An answer with items comes on top of nothing. -/
theorem Shows.took (hshows : h.Shows rows) (hnew : h.replies n = none) (hitems : items ≠ [] → h.filled = false) :
    (h.took n items).Shows (rows ++ items) := by
  have hne : ∀ m, h.replies m ≠ none → m ≠ n := fun m hm heq => hm (heq ▸ hnew)
  have hclear : items ≠ [] → rows = [] := fun hsome => hshows.nil (hitems hsome)
  have hnothing : (!items.isEmpty) = false → items = [] := by simp
  refine ⟨fun hfilled => ?_, fun hfilled => ?_, fun m hm => ?_, fun m hm hnil hover => ?_⟩
  · obtain ⟨hempty, hfilled⟩ := Bool.or_eq_false_iff.1 hfilled
    rw [hshows.nil hfilled, hnothing hempty, List.append_nil]
  · cases items with
    | nil =>
      obtain ⟨m, hm⟩ := hshows.one hfilled
      exact ⟨m, by rw [replies_took_of_ne h (hne m (by simp [hm])), hm, List.append_nil]⟩
    | cons item items => exact ⟨n, by rw [replies_took_self, hclear (List.cons_ne_nil _ _), List.nil_append]⟩
  · simp only [History.took] at hm
    split at hm
    · rw [← Option.some.inj hm, replies_took_self]
      exact Option.some_ne_none _
    · rw [replies_took_of_ne h (hne m (hshows.replied m hm))]
      exact hshows.replied m hm
  · simp only [History.took] at hm hover
    split at hm
    · obtain rfl := Option.some.inj hm
      rw [replies_took_self] at hnil ⊢
      rw [hclear fun heq => hnil (congrArg some heq), List.nil_append]
    · rename_i hold
      have hm' := hne m (hshows.replied m hm)
      rw [replies_took_of_ne h hm'] at hnil ⊢
      rw [Bool.eq_false_iff.2 hold, Bool.not_false, Bool.true_and, Bool.or_eq_false_iff] at hover
      rw [hshows.stands m hm hnil hover.2, hnothing hover.1, List.append_nil]

/-- What an answer that may come last leaves is the last success. -/
theorem Shows.ends {clears : Bool} (hshows : (if clears then h.emptied else h).Shows rows) (hnew : h.replies n = none)
    (hitems : items ≠ [] → (if clears then h.emptied else h).filled = false) (hends : Ends h n clears (some items)) {m : Nat}
    (hm : ((if clears then h.emptied else h).took n items).latest = some m) :
    ((if clears then h.emptied else h).took n items).replies m = some (rows ++ items) := by
  have hsame : (if clears then h.emptied else h).latest = h.latest ∧
      (if clears then h.emptied else h).replies = h.replies := by cases clears <;> exact ⟨rfl, rfl⟩
  have hnewest : (if clears then h.emptied else h).newest n = h.newest n := by rw [newest, hsame.1, newest]
  simp only [History.took, hnewest] at hm
  by_cases hlast : h.newest n = true
  · rw [if_pos hlast] at hm
    obtain rfl := Option.some.inj hm
    have hclear : (if clears then h.emptied else h).filled = false := by
      cases items with
      | nil =>
        simp only [Ends, if_pos hlast] at hends
        cases clears with
        | true => rfl
        | false => exact hends.resolve_left Bool.false_ne_true
      | cons item items => exact hitems (List.cons_ne_nil _ _)
    rw [replies_took_self, hshows.nil hclear, List.nil_append]
  · rw [if_neg hlast] at hm
    have hm' : m ≠ n := by
      rintro rfl
      exact hshows.replied m hm (hsame.2 ▸ hnew)
    cases items with
    | nil =>
      simp only [Ends, if_neg hlast] at hends
      rw [replies_took_of_ne _ hm', List.append_nil]
      exact hshows.latest hends hm
    | cons item items => exact absurd hends hlast

end History

/-- The rows are shown for a reason, the requests under way have numbers of their own, and when there are none the last success
is shown. -/
structure Inv (y : State α × History α) : Prop where
  shows : y.2.Shows y.1.rows
  pending : ∀ q ∈ y.1.requests, q.1 < y.1.issued ∧ y.2.replies q.1 = none
  nodup : (y.1.requests.map Prod.fst).Nodup
  fresh : ∀ n, y.1.issued ≤ n → y.2.replies n = none
  rest : y.1.requests = [] → ∀ n, y.2.latest = some n → y.2.replies n = some y.1.rows

/-- A request is added under a new number. -/
theorem Inv.ask {s : State α} {h : History α} (hinv : Inv (s, h)) (clears : Bool) :
    (∀ q ∈ s.requests ++ [(s.issued, clears)], q.1 < s.issued + 1 ∧ h.replies q.1 = none) ∧
      ((s.requests ++ [(s.issued, clears)]).map Prod.fst).Nodup ∧ ∀ n, s.issued + 1 ≤ n → h.replies n = none := by
  refine ⟨fun q hq => ?_, ?_, fun n hn => hinv.fresh n (Nat.le_of_succ_le hn)⟩
  · rcases List.mem_append.1 hq with hq | hq
    · exact ⟨Nat.lt_succ_of_lt (hinv.pending q hq).1, (hinv.pending q hq).2⟩
    · obtain rfl := List.mem_singleton.1 hq
      exact ⟨Nat.lt_succ_self _, hinv.fresh _ (Nat.le_refl _)⟩
  · rw [List.map_append, List.map_singleton]
    refine List.nodup_append.2 ⟨hinv.nodup, List.nodup_singleton _, fun n hn m hm => ?_⟩
    obtain ⟨q, hq, rfl⟩ := List.mem_map.1 hn
    obtain rfl := List.mem_singleton.1 hm
    exact Nat.ne_of_lt (hinv.pending q hq).1

/-- The request that is answered is none of those that stay under way. -/
theorem Inv.others {s : State α} {h : History α} (hinv : Inv (s, h)) {i n : Nat} {clears : Bool}
    (hi : s.requests[i]? = some (n, clears)) : ∀ q ∈ s.requests.eraseIdx i, q.1 ≠ n := by
  obtain ⟨hlt, hget⟩ := List.getElem?_eq_some_iff.1 hi
  have hperm := (List.getElem_cons_eraseIdx_perm hlt).map Prod.fst
  have hnodup := hperm.nodup_iff.2 hinv.nodup
  rw [hget, List.map_cons, List.nodup_cons] at hnodup
  exact fun q hq heq => hnodup.1 (List.mem_map.2 ⟨q, hq, heq⟩)

theorem Inv.erase {s : State α} {h : History α} (hinv : Inv (s, h)) (i : Nat) :
    (∀ q ∈ s.requests.eraseIdx i, q.1 < s.issued ∧ h.replies q.1 = none) ∧
      ((s.requests.eraseIdx i).map Prod.fst).Nodup :=
  ⟨fun q hq => hinv.pending q (List.mem_of_mem_eraseIdx hq),
    hinv.nodup.sublist ((List.eraseIdx_sublist s.requests i).map _)⟩

theorem length_eq_one_of_eraseIdx {β : Type*} {l : List β} {i : Nat} {b : β} (hi : l[i]? = some b) (h : l.eraseIdx i = []) :
    l.length = 1 := by
  have hlt := (List.getElem?_eq_some_iff.1 hi).1
  have hlength := List.length_eraseIdx_of_lt hlt
  rw [h, List.length_nil] at hlength
  omega

/-- **A success keeps the invariant**: the list is emptied where the answer does so, and takes the items. -/
theorem Inv.answer {s : State α} {h : History α} (hinv : Inv (s, h)) {i n : Nat} {clears : Bool} {items : List α}
    (hi : s.requests[i]? = some (n, clears)) (hok : Orderly (s, h) (.answer i (some items))) :
    Inv (Runs.noting step note (s, h) (.answer i (some items))) := by
  obtain ⟨hpending, hnodup⟩ := hinv.erase i
  have hn := hinv.pending (n, clears) (List.mem_of_getElem? hi)
  simp only [Orderly, hi, Option.any_some, Bool.not_eq_true', List.isEmpty_eq_false_iff] at hok
  have hreplies : (if clears then h.emptied else h).replies = h.replies := by cases clears <;> rfl
  have hshows : (if clears then h.emptied else h).Shows (if clears then [] else s.rows) := by
    cases clears with
    | true => exact hinv.shows.emptied
    | false => exact hinv.shows
  have hitems : items ≠ [] → (if clears then h.emptied else h).filled = false := by
    cases clears with
    | true => exact fun _ => rfl
    | false => exact hok.1 rfl
  have hother : ∀ m, m ≠ n → ((if clears then h.emptied else h).took n items).replies m = h.replies m := fun m hm => by
    rw [History.replies_took_of_ne _ hm, hreplies]
  simp only [Runs.noting, Loading.step, note, hi]
  refine ⟨hshows.took (hreplies ▸ hn.2) hitems, fun q hq => ⟨(hpending q hq).1, ?_⟩, hnodup, fun m hm => ?_, fun hdone m => ?_⟩
  · exact (hother q.1 (hinv.others hi q hq)).trans (hpending q hq).2
  · exact (hother m (Nat.ne_of_gt (Nat.lt_of_lt_of_le hn.1 hm))).trans (hinv.fresh m hm)
  · exact hshows.ends hn.2 hitems (hok.2 (length_eq_one_of_eraseIdx hi hdone))

theorem Inv.step {y : State α × History α} (hinv : Inv y) {e : Event α} (hok : Orderly y e) :
    Inv (Runs.noting step note y e) := by
  obtain ⟨s, h⟩ := y
  cases e with
  | load =>
    obtain ⟨hpending, hnodup, hfresh⟩ := hinv.ask false
    exact ⟨hinv.shows.emptied, hpending, hnodup, hfresh, fun hdone => absurd hdone (by simp [Runs.noting, Loading.step])⟩
  | write =>
    obtain ⟨hpending, hnodup, hfresh⟩ := hinv.ask true
    exact ⟨hinv.shows, hpending, hnodup, hfresh, fun hdone => absurd hdone (by simp [Runs.noting, Loading.step])⟩
  | answer i reply =>
    cases hi : s.requests[i]? with
    | none => simpa [Runs.noting, Loading.step, note, hi] using hinv
    | some q =>
      obtain ⟨n, clears⟩ := q
      cases reply with
      | some items => exact hinv.answer hi hok
      | none =>
        obtain ⟨hpending, hnodup⟩ := hinv.erase i
        simp only [Orderly, hi] at hok
        simp only [Runs.noting, Loading.step, note, hi]
        exact ⟨hinv.shows, hpending, hnodup, hinv.fresh, fun hdone m hm =>
          hinv.shows.latest (hok.2 (length_eq_one_of_eraseIdx hi hdone)) hm⟩

theorem Inv.showsOneReply {y : State α × History α} (hinv : Inv y) {e : Event α} (hok : Orderly y e) :
    ShowsOneReply y e := by
  have hinv' := hinv.step hok
  refine ⟨fun i items he hi => ?_, hinv'.rest⟩
  obtain ⟨q, hq⟩ := Option.ne_none_iff_exists'.1 hi
  obtain ⟨n, clears⟩ := q
  subst he
  by_cases hfilled : (Runs.noting Loading.step note y (.answer i (some items))).2.filled = true
  · exact hinv'.shows.one hfilled
  · -- nothing is there: the answer brought nothing
    have hrows := hinv'.shows.nil (Bool.eq_false_iff.2 hfilled)
    simp only [Runs.noting_snd, note, hq, History.took, Bool.or_eq_true, not_or, Bool.not_eq_true', Bool.not_eq_false] at hfilled
    obtain rfl := List.isEmpty_iff.1 hfilled.1
    refine ⟨n, ?_⟩
    rw [hrows]
    simp only [Runs.noting_snd, note, hq, History.replies_took_self]

/-! ## Systems that simulate a list -/

section Simulation
variable {σ ε : Type*} {f : σ → ε → σ} {loading : σ → State α} {event : σ → ε → Option (Event α)}

/-- **Every step is a step of the list, or leaves it as it is.** -/
def Simulates (f : σ → ε → σ) (loading : σ → State α) (event : σ → ε → Option (Event α)) : Prop :=
  ∀ s e, loading (f s e) = (event s e).elim (loading s) (step (loading s))

variable (loading event)

def noteVia (h : History α) (s : σ) (e : ε) : History α := (event s e).elim h (note h (loading s))

/-- The property of the list at the event of the step, if it is one. -/
def Via (P : State α × History α → Event α → Prop) (y : σ × History α) (e : ε) : Prop :=
  ∀ e', event y.1 e = some e' → P (loading y.1, y.2) e'

variable {loading event}

/-- **A system that simulates a list shows one reply in every run that is in order.** -/
theorem showsOneReply_of_orderly (hsim : Simulates f loading event) {s : σ} (hstart : Inv (loading s, ({} : History α)))
    {es : List ε} (hes : Runs.AllSteps (Runs.noting f (noteVia loading event)) (Via loading event Orderly) (s, {}) es) :
    Runs.AllSteps (Runs.noting f (noteVia loading event)) (Via loading event ShowsOneReply) (s, {}) es := by
  refine Runs.allSteps_of_invariant (fun y : σ × History α => Inv (loading y.1, y.2)) (fun y e hinv hok => ?_)
    (fun y e hinv hok e' he => hinv.showsOneReply (hok e' he)) hstart hes
  rw [Runs.noting]
  dsimp only
  rw [hsim, noteVia]
  cases he : event y.1 e with
  | none => exact hinv
  | some e' => exact hinv.step (hok e' he)

end Simulation
end Loading
