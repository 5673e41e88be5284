import Traveller.Indicators
import Traveller.ListReplies
/-!
# LoadIndicators — the indicators of requests that overlap

The four screens that load lists show an indicator with every request and hide one with every answer, and a screen that
disappears hides one.  The screen remembers the last indicator only: one that is on the view when another is added is never
taken away.

`indicators_gone_iff`: once all requests are answered there is no indicator, exactly in the runs in which no request starts
while an indicator is shown.
-/
namespace Traveller

/-- What a screen that loads does to its indicators: every request shows one, every answer hides one. -/
def indicate {α : Type*} (s : Loading.State α) (base : BaseVC) : Loading.Event α → BaseVC
  | .load | .write => base.showLoadingView
  | .answer i _ => if i < s.requests.length then base.hideLoadingView else base

/-- What happens to a screen, and that it disappears. -/
inductive ViewEvent (ε : Type*) where
  | happens (e : ε)
  | viewDidDisappear

section
variable {α σ ε : Type*} (f : σ → ε → σ) (loading : σ → Loading.State α) (event : σ → ε → Option (Loading.Event α))

/-- The screen beside its indicators. -/
def stepView (y : σ × BaseVC) : ViewEvent ε → σ × BaseVC
  | .happens e => (f y.1 e, (event y.1 e).elim y.2 (indicate (loading y.1) y.2))
  | .viewDidDisappear => (y.1, y.2.viewDidDisappear)

/-- **No request starts while an indicator is shown.** -/
def StartsClear (y : σ × BaseVC) : ViewEvent ε → Prop
  | .happens e => event y.1 e = some .load ∨ event y.1 e = some .write → y.2.view = []
  | .viewDidDisappear => True

/-- The one indicator that may be shown is the remembered one, and it is gone when nothing is under way. -/
structure OneShown (y : σ × BaseVC) : Prop where
  shown : ∀ hud ∈ y.2.view, y.2.hud = some hud
  bound : ∀ hud ∈ y.2.view, hud < y.2.added
  idle : (loading y.1).requests = [] → y.2.view = []

/-- An indicator is shown that is not the remembered one. -/
def Left (y : σ × BaseVC) : Prop := ∃ hud ∈ y.2.view, y.2.hud ≠ some hud ∧ hud < y.2.added

end

namespace BaseVC
variable {s : BaseVC} {hud : Nat}

theorem mem_hideLoadingView : hud ∈ s.hideLoadingView.view ↔ hud ∈ s.view ∧ s.hud ≠ some hud := by
  rw [hideLoadingView]
  split
  · rename_i hud' hsome
    rw [hsome, List.mem_filter, decide_eq_true_eq, Ne, Ne, Option.some.injEq, eq_comm]
  · rename_i hnone
    rw [hnone]
    exact ⟨fun h => ⟨h, Option.some_ne_none hud ∘ Eq.symm⟩, And.left⟩

@[simp] theorem hud_hideLoadingView (s : BaseVC) : s.hideLoadingView.hud = s.hud := by
  rw [hideLoadingView]
  split <;> rfl

@[simp] theorem added_hideLoadingView (s : BaseVC) : s.hideLoadingView.added = s.added := by
  rw [hideLoadingView]
  split <;> rfl

end BaseVC

section
variable {α σ ε : Type*} {f : σ → ε → σ} {loading : σ → Loading.State α} {event : σ → ε → Option (Loading.Event α)}
variable {y : σ × BaseVC} {e : ViewEvent ε}

theorem OneShown.hide (h : OneShown loading y) : y.2.hideLoadingView.view = [] :=
  List.eq_nil_iff_forall_not_mem.2 fun hud hmem =>
    have ⟨hview, hne⟩ := BaseVC.mem_hideLoadingView.1 hmem
    hne (h.shown hud hview)

/-- The requests after a step: one more, one less, or as many. -/
theorem requests_step (hsim : Loading.Simulates f loading event) (s : σ) (e : ε) :
    (∀ e', event s e = some e' → (e' = .load ∨ e' = .write) → (loading (f s e)).requests ≠ []) ∧
      (event s e = none → loading (f s e) = loading s) := by
  refine ⟨fun e' he hstart => ?_, fun he => ?_⟩
  · rw [hsim, he]
    rcases hstart with rfl | rfl <;> simp [Loading.step]
  · rw [hsim, he]
    rfl

/-- **A step keeps the one indicator** where no request starts while one is shown. -/
theorem OneShown.step (hsim : Loading.Simulates f loading event) (h : OneShown loading y) (hok : StartsClear event y e) :
    OneShown loading (stepView f loading event y e) := by
  have hhidden : ∀ s, OneShown loading (s, y.2.hideLoadingView) := fun s => by
    have hnone := h.hide
    exact ⟨fun hud hmem => by simp [hnone] at hmem, fun hud hmem => by simp [hnone] at hmem, fun _ => hnone⟩
  cases e with
  | viewDidDisappear =>
    rw [stepView, BaseVC.viewDidDisappear]
    exact hhidden y.1
  | happens e =>
    simp only [stepView]
    have hshow : y.2.view = [] → (loading (f y.1 e)).requests ≠ [] →
        OneShown loading (f y.1 e, y.2.showLoadingView) := fun hclear hrequests => by
      have hview : y.2.showLoadingView.view = [y.2.added] := by rw [BaseVC.showLoadingView, hclear, List.nil_append]
      refine ⟨fun hud hmem => ?_, fun hud hmem => ?_, fun hidle => absurd hidle hrequests⟩
      · rw [hview, List.mem_singleton] at hmem
        rw [hmem]
        rfl
      · rw [hview, List.mem_singleton] at hmem
        rw [hmem]
        exact Nat.lt_succ_self _
    obtain ⟨hstarts, hsame⟩ := requests_step hsim y.1 e
    cases he : event y.1 e with
    | none => exact ⟨h.shown, h.bound, fun hidle => h.idle (hsame he ▸ hidle)⟩
    | some e' =>
      cases e' with
      | load => exact hshow (hok (.inl he)) (hstarts _ he (.inl rfl))
      | write => exact hshow (hok (.inr he)) (hstarts _ he (.inr rfl))
      | answer i reply =>
        simp only [Option.elim_some, indicate]
        split
        · exact hhidden _
        · rename_i hnot
          refine ⟨h.shown, h.bound, fun hidle => h.idle ?_⟩
          have hloading : loading (f y.1 e) = loading y.1 := by
            rw [hsim, he]
            simp [Loading.step, List.getElem?_eq_none (Nat.not_lt.1 hnot)]
          rw [← hloading]
          exact hidle

/-- An indicator that is left stays. -/
theorem Left.step (h : Left y) (e : ViewEvent ε) : Left (stepView f loading event y e) := by
  obtain ⟨hud, hmem, hne, hlt⟩ := h
  have hhide : ∀ s : σ, Left (s, y.2.hideLoadingView) := fun s =>
    ⟨hud, BaseVC.mem_hideLoadingView.2 ⟨hmem, hne⟩, by simpa using hne, by simpa using hlt⟩
  have hshow : ∀ s : σ, Left (s, y.2.showLoadingView) := fun s =>
    ⟨hud, List.mem_append_left _ hmem, fun heq => Nat.ne_of_gt hlt (Option.some.inj heq), Nat.lt_succ_of_lt hlt⟩
  cases e with
  | viewDidDisappear =>
    rw [stepView, BaseVC.viewDidDisappear]
    exact hhide y.1
  | happens e =>
    simp only [stepView]
    cases event y.1 e with
    | none => exact ⟨hud, hmem, hne, hlt⟩
    | some e' =>
      cases e' with
      | load => exact hshow _
      | write => exact hshow _
      | answer i reply =>
        simp only [Option.elim_some, indicate]
        split
        · exact hhide _
        · exact ⟨hud, hmem, hne, hlt⟩

/-- A request that starts while an indicator is shown leaves it. -/
theorem OneShown.left (h : OneShown loading y) (hbad : ¬ StartsClear event y e) : Left (stepView f loading event y e) := by
  cases e with
  | viewDidDisappear => exact absurd trivial hbad
  | happens e =>
    obtain ⟨hstart, hview⟩ := Classical.not_imp.1 hbad
    obtain ⟨hud, hmem⟩ := List.exists_mem_of_ne_nil _ hview
    have hlt := h.bound hud hmem
    have hshow : Left (f y.1 e, y.2.showLoadingView) :=
      ⟨hud, List.mem_append_left _ hmem, fun heq => Nat.ne_of_gt hlt (Option.some.inj heq), Nat.lt_succ_of_lt hlt⟩
    rcases hstart with he | he <;> simpa only [stepView, he, Option.elim_some, indicate] using hshow

/-- **When the indicators of a screen that loads are gone**: once nothing is under way, exactly if no request started while
one was shown. -/
theorem view_empty_iff (hsim : Loading.Simulates f loading event) {s : σ} (es : List (ViewEvent ε))
    (hdone : (loading (Runs.run (stepView f loading event) (s, {}) es).1).requests = []) :
    (Runs.run (stepView f loading event) (s, {}) es).2.view = [] ↔
      Runs.AllSteps (stepView f loading event) (StartsClear event) (s, {}) es := by
  have hinit : OneShown loading (s, ({} : BaseVC)) :=
    ⟨fun _ hmem => absurd hmem List.not_mem_nil, fun _ hmem => absurd hmem List.not_mem_nil, fun _ => rfl⟩
  rcases Runs.inv_or_bad (OneShown loading) (fun _ _ h hok => h.step hsim hok) (fun _ _ h hbad => h.left hbad)
    (fun _ e h _ => h.step e) hinit (Runs.allSteps_trivial _ _ _) with ⟨hok, h⟩ | ⟨hnot, hud, hmem, -⟩
  · exact iff_of_true (h.idle hdone) hok
  · exact iff_of_false (fun hempty => by rw [hempty] at hmem; cases hmem) hnot

end

/-- Of a screen that loads: once all is answered there is no indicator, exactly if no request started while one was shown. -/
def GoneIffClear {α σ ε : Type*} (f : σ → ε → σ) (loading : σ → Loading.State α) (event : σ → ε → Option (Loading.Event α))
    (s : σ) : Prop :=
  ∀ es : List (ViewEvent ε), (loading (Runs.run (stepView f loading event) (s, {}) es).1).requests = [] →
    ((Runs.run (stepView f loading event) (s, {}) es).2.view = [] ↔
      Runs.AllSteps (stepView f loading event) (StartsClear event) (s, {}) es)

/-- **The four screens take all their indicators away** exactly in the runs in which no request starts while one is shown. -/
theorem indicators_gone_iff {α : Type*} (rateUser : Option Int) :
    GoneIffClear SearchVC.step SearchVC.loading SearchVC.event ({} : SearchVC α) ∧
      (∀ tableView, GoneIffClear MyTripVC.step (MyTripVC.loading tableView) (MyTripVC.event tableView) ({} : MyTripVC α)) ∧
      GoneIffClear RateUserVC.step RateUserVC.loading RateUserVC.event ({ rateUser := rateUser } : RateUserVC α) ∧
      GoneIffClear RatingVC.step RatingVC.loading RatingVC.event ({} : RatingVC α) :=
  ⟨view_empty_iff SearchVC.simulates, fun tableView => view_empty_iff (MyTripVC.simulates tableView),
    view_empty_iff RateUserVC.simulates, view_empty_iff RatingVC.simulates⟩

end Traveller
