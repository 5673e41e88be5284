import Mathlib.Tactic.Common
/-!
# Runs — event systems, their runs, and the rules for properties of runs

An event system is a total step function `step : σ → ε → σ`; what is left open in the program (the user, the network,
the clock) is in the events.  `run` folds a list of events; `AllSteps P` says that every step of a run meets `P`, read at
the state the step is taken in, and `AllStates P` that every state reached does, the first one included.

Three rules carry the proofs of a development on top: an invariant kept by every step that meets a condition holds at the
end of every run whose steps meet it (`run_invariant`), with it every step has what the invariant gives
(`allSteps_of_invariant`), and where a step outside the condition loses the property, the condition is exact
(`allStates_iff_allSteps`).  A history is a value that notes what happened without being read by the
system (`noting`); it changes no run (`run_noting`).
-/
namespace Runs

variable {σ ε γ : Type*}

def run (step : σ → ε → σ) (s : σ) (es : List ε) : σ := es.foldl step s

/-- **Every step of the run meets `P`**, at the state it is taken in. -/
def AllSteps (step : σ → ε → σ) (P : σ → ε → Prop) : σ → List ε → Prop
  | _, [] => True
  | s, e :: es => P s e ∧ AllSteps step P (step s e) es

/-- **Every state the run passes meets `P`**, the first and the last included. -/
def AllStates (step : σ → ε → σ) (P : σ → Prop) : σ → List ε → Prop
  | s, [] => P s
  | s, e :: es => P s ∧ AllStates step P (step s e) es

instance AllSteps.decidable (step : σ → ε → σ) (P : σ → ε → Prop) [∀ s e, Decidable (P s e)] :
    ∀ (s : σ) (es : List ε), Decidable (AllSteps step P s es)
  | _, [] => inferInstanceAs (Decidable True)
  | s, e :: es =>
    have := AllSteps.decidable step P (step s e) es
    inferInstanceAs (Decidable (P s e ∧ AllSteps step P (step s e) es))

instance AllStates.decidable (step : σ → ε → σ) (P : σ → Prop) [∀ s, Decidable (P s)] :
    ∀ (s : σ) (es : List ε), Decidable (AllStates step P s es)
  | s, [] => inferInstanceAs (Decidable (P s))
  | s, e :: es =>
    have := AllStates.decidable step P (step s e) es
    inferInstanceAs (Decidable (P s ∧ AllStates step P (step s e) es))

section Basic
variable (step : σ → ε → σ)

@[simp] theorem run_nil (s : σ) : run step s [] = s := rfl

@[simp] theorem run_cons (s : σ) (e : ε) (es : List ε) : run step s (e :: es) = run step (step s e) es := rfl

variable {step} {P : σ → ε → Prop}

theorem AllSteps.last {s : σ} {es : List ε} {e : ε} (h : AllSteps step P s (es ++ [e])) : P (run step s es) e := by
  induction es generalizing s with
  | nil => exact h.1
  | cons e' es ih => exact ih h.2

theorem allSteps_trivial (step : σ → ε → σ) (s : σ) (es : List ε) : AllSteps step (fun _ _ => True) s es := by
  induction es generalizing s with
  | nil => trivial
  | cons e es ih => exact ⟨trivial, ih _⟩

theorem allSteps_of_forall (step : σ → ε → σ) (s : σ) {R : ε → Prop} {es : List ε} (h : ∀ e ∈ es, R e) :
    AllSteps step (fun _ e => R e) s es := by
  induction es generalizing s with
  | nil => trivial
  | cons e es ih => exact ⟨h e List.mem_cons_self, ih _ fun e' he' => h e' (List.mem_cons_of_mem _ he')⟩

theorem AllStates.head {P : σ → Prop} {s : σ} {es : List ε} (h : AllStates step P s es) : P s := by
  cases es with
  | nil => exact h
  | cons e es => exact h.1

theorem AllStates.last {P : σ → Prop} {s : σ} {es : List ε} (h : AllStates step P s es) : P (run step s es) := by
  induction es generalizing s with
  | nil => exact h
  | cons e es ih => exact ih h.2

theorem AllStates.imp {P Q : σ → Prop} (hPQ : ∀ s, P s → Q s) {s : σ} {es : List ε} (h : AllStates step P s es) :
    AllStates step Q s es := by
  induction es generalizing s with
  | nil => exact hPQ s h
  | cons e es ih => exact ⟨hPQ s h.1, ih h.2⟩

theorem allStates_append {P : σ → Prop} {s : σ} {es es' : List ε} :
    AllStates step P s (es ++ es') ↔ AllStates step P s es ∧ AllStates step P (run step s es) es' := by
  induction es generalizing s with
  | nil => exact ⟨fun h => ⟨h.head, h⟩, fun h => h.2⟩
  | cons e es ih =>
    constructor
    · rintro ⟨hs, h⟩
      exact ⟨⟨hs, (ih.1 h).1⟩, (ih.1 h).2⟩
    · rintro ⟨⟨hs, h⟩, h'⟩
      exact ⟨hs, ih.2 ⟨h, h'⟩⟩

/-- Two runs whose states are related step by step have what the relation carries over. -/
theorem AllStates.of_related {P : σ → Prop} {R : σ → σ → Prop} (hP : ∀ s t, R s t → P s → P t)
    (hR : ∀ s t e, R s t → R (step s e) (step t e)) {s t : σ} {es : List ε} (hst : R s t) (h : AllStates step P s es) :
    AllStates step P t es := by
  induction es generalizing s t with
  | nil => exact hP s t hst h
  | cons e es ih => exact ⟨hP s t hst h.1, ih (hR s t e hst) h.2⟩

end Basic

/-! ## Invariants -/

section Invariant
variable {step : σ → ε → σ} {ok P : σ → ε → Prop} (Inv : σ → Prop) {Q : σ → Prop}

/-- **The invariant rule**: what every step meeting `ok` keeps holds at the end of every run whose steps meet `ok`. -/
theorem run_invariant (hstep : ∀ s e, Inv s → ok s e → Inv (step s e)) {s : σ} {es : List ε} (hs : Inv s)
    (hok : AllSteps step ok s es) : Inv (run step s es) := by
  induction es generalizing s with
  | nil => exact hs
  | cons e es ih => exact ih (hstep s e hs hok.1) hok.2

theorem allSteps_of_invariant (hstep : ∀ s e, Inv s → ok s e → Inv (step s e)) (hP : ∀ s e, Inv s → ok s e → P s e)
    {s : σ} {es : List ε} (hs : Inv s) (hok : AllSteps step ok s es) : AllSteps step P s es := by
  induction es generalizing s with
  | nil => trivial
  | cons e es ih => exact ⟨hP s e hs hok.1, ih (hstep s e hs hok.1) hok.2⟩

theorem allStates_of_invariant (hstep : ∀ s e, Inv s → ok s e → Inv (step s e)) (hQ : ∀ s, Inv s → Q s) {s : σ}
    {es : List ε} (hs : Inv s) (hok : AllSteps step ok s es) : AllStates step Q s es := by
  induction es generalizing s with
  | nil => exact hQ s hs
  | cons e es ih => exact ⟨hQ s hs, ih (hstep s e hs hok.1) hok.2⟩

/-- Where the invariant makes two properties of a step the same, the runs that have them are the same. -/
theorem allSteps_congr (hstep : ∀ s e, Inv s → Inv (step s e)) (hiff : ∀ s e, Inv s → (P s e ↔ ok s e)) {s : σ}
    {es : List ε} (hs : Inv s) : AllSteps step P s es ↔ AllSteps step ok s es := by
  induction es generalizing s with
  | nil => exact Iff.rfl
  | cons e es ih => exact and_congr (hiff s e hs) (ih (hstep s e hs))

/-- **When the condition is exact**: a step outside `ok`, taken where the invariant holds, ends in a state without `Q`. -/
theorem allStates_iff_allSteps {scope : σ → ε → Prop}
    (hstep : ∀ s e, Inv s → scope s e → ok s e → Inv (step s e)) (hQ : ∀ s, Inv s → Q s)
    (hbad : ∀ s e, Inv s → scope s e → ¬ ok s e → ¬ Q (step s e)) {s : σ} {es : List ε} (hs : Inv s)
    (hscope : AllSteps step scope s es) : AllStates step Q s es ↔ AllSteps step ok s es := by
  induction es generalizing s with
  | nil => exact ⟨fun _ => trivial, fun _ => hQ s hs⟩
  | cons e es ih =>
    constructor
    · rintro ⟨-, hrest⟩
      have hok : ok s e := Classical.byContradiction fun hn => hbad s e hs hscope.1 hn hrest.head
      exact ⟨hok, (ih (hstep s e hs hscope.1 hok) hscope.2).1 hrest⟩
    · rintro ⟨hok, hrest⟩
      exact ⟨hQ s hs, (ih (hstep s e hs hscope.1 hok) hscope.2).2 hrest⟩

/-- Where a step outside the condition does what no step in scope undoes, a run has kept the invariant or done that. -/
theorem inv_or_bad {Bad : σ → Prop} {scope : σ → ε → Prop} (hstep : ∀ s e, Inv s → ok s e → Inv (step s e))
    (hbad : ∀ s e, Inv s → ¬ ok s e → Bad (step s e)) (hkeep : ∀ s e, Bad s → scope s e → Bad (step s e)) {s : σ}
    {es : List ε} (hs : Inv s) (hscope : AllSteps step scope s es) :
    AllSteps step ok s es ∧ Inv (run step s es) ∨ ¬ AllSteps step ok s es ∧ Bad (run step s es) := by
  induction es generalizing s with
  | nil => exact .inl ⟨trivial, hs⟩
  | cons e es ih =>
    by_cases hok : ok s e
    · exact (ih (hstep s e hs hok) hscope.2).imp (fun h => ⟨⟨hok, h.1⟩, h.2⟩) fun h => ⟨fun hall => h.1 hall.2, h.2⟩
    · have hlost : Bad (run step (step s e) es) := run_invariant Bad hkeep (hbad s e hs hok) hscope.2
      exact .inr ⟨fun hall => hok hall.1, hlost⟩

end Invariant

/-! ## Histories -/

/-- The system beside a history: `note` reads the state and the event of each step, the step does not read the history. -/
def noting (step : σ → ε → σ) (note : γ → σ → ε → γ) (s : σ × γ) (e : ε) : σ × γ := (step s.1 e, note s.2 s.1 e)

@[simp] theorem noting_fst (step : σ → ε → σ) (note : γ → σ → ε → γ) (s : σ × γ) (e : ε) :
    (noting step note s e).1 = step s.1 e := rfl

@[simp] theorem noting_snd (step : σ → ε → σ) (note : γ → σ → ε → γ) (s : σ × γ) (e : ε) :
    (noting step note s e).2 = note s.2 s.1 e := rfl

/-- **A history changes no run.** -/
theorem run_noting (step : σ → ε → σ) (note : γ → σ → ε → γ) (s : σ × γ) (es : List ε) :
    (run (noting step note) s es).1 = run step s.1 es := by
  induction es generalizing s with
  | nil => rfl
  | cons e es ih => exact ih _

end Runs
