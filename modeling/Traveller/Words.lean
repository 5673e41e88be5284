import Mathlib.Data.List.TakeWhile
/-!
# Words — the maximal runs of a list

A list split at the elements without a property, the empty pieces dropped: what is left are the maximal runs of elements that
have it, in their order (`words_eq_runs`).  Runs that were joined by an element without the property are found again
(`words_intercalate`).
-/
namespace Words

variable {α : Type*}

/-- The list split at the elements without `p`, the empty pieces dropped. -/
def words (p : α → Bool) (l : List α) : List (List α) := (l.splitOnP fun c => !p c).filter fun w => !w.isEmpty

/-- A part of a list, with what is before it and what is after it. -/
structure Run (α : Type*) where
  before : List α
  run : List α
  after : List α

/-- **A maximal run of `l`**: all its elements have `p`, and its neighbours do not. -/
structure Run.IsMaximal (p : α → Bool) (l : List α) (r : Run α) : Prop where
  whole : r.before ++ (r.run ++ r.after) = l
  ne_nil : r.run ≠ []
  all : ∀ c ∈ r.run, p c = true
  before : ∀ c ∈ r.before.getLast?, p c = false
  after : ∀ c ∈ r.after.head?, p c = false

section Words
variable {p : α → Bool}

@[simp] theorem words_nil : words p [] = [] := rfl

theorem words_cons_of_not {c : α} (hc : p c = false) (l : List α) : words p (c :: l) = words p l := by
  simp [words, List.splitOnP_cons_eq_if_modifyHead, hc]

/-- A first run with what is not in it. -/
theorem words_append {w l : List α} (hne : w ≠ []) (hw : ∀ c ∈ w, p c = true) (hl : ∀ c ∈ l.head?, p c = false) :
    words p (w ++ l) = w :: words p l := by
  have hnot : ∀ c ∈ w, (!p c) = false := fun c hc => by rw [hw c hc]; rfl
  have hkept : (!w.isEmpty) = true := by simpa using hne
  cases l with
  | nil =>
    rw [List.append_nil, words, List.splitOnP_eq_singleton hnot, List.filter_cons, if_pos hkept]
    rfl
  | cons c l =>
    have hc : p c = false := hl c rfl
    rw [words_cons_of_not hc, words, List.splitOnP_append_cons_of_forall_mem hnot c (by simp [hc]), List.filter_cons,
      if_pos hkept]
    rfl

/-- **Runs joined by an element without the property are found again.** -/
theorem words_intercalate {sep : α} (hsep : p sep = false) {ws : List (List α)} (hne : ∀ w ∈ ws, w ≠ [])
    (hws : ∀ w ∈ ws, ∀ c ∈ w, p c = true) : words p ([sep].intercalate ws) = ws := by
  induction ws with
  | nil => rfl
  | cons w ws ih =>
    have hw := hws w List.mem_cons_self
    have hrest := ih (fun w' h => hne w' (List.mem_cons_of_mem _ h)) fun w' h => hws w' (List.mem_cons_of_mem _ h)
    cases ws with
    | nil => simpa using words_append (hne w List.mem_cons_self) hw (l := []) (fun _ h => by cases h)
    | cons w' ws =>
      have hjoin : [sep].intercalate (w :: w' :: ws) = w ++ sep :: [sep].intercalate (w' :: ws) := by
        simp [List.intercalate_cons_cons]
      rw [hjoin, words_append (hne w List.mem_cons_self) hw (fun c h => by cases h; exact hsep), words_cons_of_not hsep,
        hrest]

end Words

/-! ## Maximal runs -/

namespace Run
variable {p : α → Bool}

/-- The run, seen from a list that has `pre` in front. -/
def shift (pre : List α) (r : Run α) : Run α := ⟨pre ++ r.before, r.run, r.after⟩

/-- An element without `p` in front changes nothing but where the runs are. -/
theorem isMaximal_cons_of_not {c : α} (hc : p c = false) {l : List α} {r : Run α} :
    r.IsMaximal p (c :: l) ↔ ∃ r' : Run α, r'.IsMaximal p l ∧ r = r'.shift [c] := by
  constructor
  · rintro ⟨hwhole, hne, hall, hbefore, hafter⟩
    obtain ⟨before, run, after⟩ := r
    cases before with
    | nil =>
      cases run with
      | nil => exact absurd rfl hne
      | cons c' run =>
        obtain ⟨rfl, -⟩ := List.cons.inj hwhole
        exact absurd (hall _ List.mem_cons_self) (by simp [hc])
    | cons c' before =>
      obtain ⟨rfl, hrest⟩ := List.cons.inj hwhole
      refine ⟨⟨before, run, after⟩, ⟨hrest, hne, hall, fun d hd => hbefore d ?_, hafter⟩, rfl⟩
      cases before with
      | nil => cases hd
      | cons => exact hd
  · rintro ⟨⟨before, run, after⟩, ⟨hwhole, hne, hall, hbefore, hafter⟩, rfl⟩
    refine ⟨congrArg (c :: ·) hwhole, hne, hall, fun d hd => ?_, hafter⟩
    cases before with
    | nil =>
      cases hd
      exact hc
    | cons d' before => exact hbefore d hd

/-- **A run in front is one maximal run; the others are those of the rest.** -/
theorem isMaximal_append {w l : List α} (hne : w ≠ []) (hw : ∀ c ∈ w, p c = true) (hl : ∀ c ∈ l.head?, p c = false)
    {r : Run α} :
    r.IsMaximal p (w ++ l) ↔ r = ⟨[], w, l⟩ ∨ ∃ r' : Run α, r'.IsMaximal p l ∧ r = r'.shift w := by
  constructor
  · rintro ⟨hwhole, hne', hall, hbefore, hafter⟩
    obtain ⟨before, run, after⟩ := r
    rcases List.append_eq_append_iff.1 hwhole with ⟨t, rfl, hrest⟩ | ⟨t, rfl, hrest⟩
    · -- The run begins in `w`, and so at its beginning.
      have hnil : before = [] := by
        by_contra hb
        have hlast := List.getLast_mem hb
        have hnot := hbefore _ (List.getLast?_eq_some_getLast hb)
        rw [hw _ (List.mem_append_left _ hlast)] at hnot
        cases hnot
      subst hnil
      rcases List.append_eq_append_iff.1 hrest with ⟨t', rfl, rfl⟩ | ⟨t', rfl, rfl⟩
      · cases t' with
        | nil => exact .inl (by simp)
        | cons c t' =>
          have hnot := hafter c rfl
          rw [hw c (by simp)] at hnot
          cases hnot
      · cases t' with
        | nil => exact .inl (by simp)
        | cons c t' =>
          have hnot := hl c rfl
          rw [hall c (by simp)] at hnot
          cases hnot
    · refine .inr ⟨⟨t, run, after⟩, ⟨hrest.symm, hne', hall, fun c hc => hbefore c ?_, hafter⟩, rfl⟩
      rw [List.getLast?_append, Option.mem_def.1 hc, Option.some_or]
      exact rfl
  · rintro (rfl | ⟨⟨before, run, after⟩, ⟨rfl, hne', hall, hbefore, hafter⟩, rfl⟩)
    · exact ⟨rfl, hne, hw, fun c hc => (by cases hc), hl⟩
    · refine ⟨List.append_assoc .., hne', hall, fun c hc => ?_, hafter⟩
      cases before with
      | nil =>
        -- A run of the rest does not begin at its beginning.
        cases run with
        | nil => exact absurd rfl hne'
        | cons d run =>
          have hnot := hl d rfl
          rw [hall d List.mem_cons_self] at hnot
          cases hnot
      | cons d before =>
        refine hbefore c ?_
        have hc : (w ++ d :: before).getLast? = some c := hc
        simpa [List.getLast?_append, List.getLast?_cons] using hc

end Run

/-- A list that begins with an element of a run begins with a whole run. -/
theorem exists_run_append {p : α → Bool} {c : α} (hc : p c = true) (l : List α) :
    ∃ w l', c :: l = w ++ l' ∧ (w ≠ [] ∧ ∀ d ∈ w, p d = true) ∧ ∀ d ∈ l'.head?, p d = false := by
  refine ⟨(c :: l).takeWhile p, (c :: l).dropWhile p, (List.takeWhile_append_dropWhile ..).symm, ⟨?_, ?_⟩, ?_⟩
  · simp [hc]
  · exact fun d hd => List.mem_takeWhile_imp hd
  · intro d hd
    have hnot := List.head?_dropWhile_not p (c :: l)
    rw [Option.mem_def.1 hd] at hnot
    exact hnot

/-- **The words of a list are its maximal runs, in their order.** -/
theorem words_eq_runs (p : α → Bool) (l : List α) :
    ∃ rs : List (Run α), rs.Pairwise (fun r r' => r.before.length < r'.before.length) ∧
      (∀ r, r ∈ rs ↔ r.IsMaximal p l) ∧ words p l = rs.map Run.run := by
  induction hn : l.length using Nat.strong_induction_on generalizing l with
  | _ n ih =>
  have hshift : ∀ (pre l' : List α), l'.length < n → ∃ rs : List (Run α),
      rs.Pairwise (fun r r' => r.before.length < r'.before.length) ∧ (∀ r ∈ rs, pre.length ≤ r.before.length) ∧
      (∀ r, r ∈ rs ↔ ∃ r' : Run α, r'.IsMaximal p l' ∧ r = r'.shift pre) ∧ words p l' = rs.map Run.run := by
    intro pre l' hlt
    obtain ⟨rs, hsorted, hmem, hwords⟩ := ih _ hlt l' rfl
    refine ⟨rs.map (Run.shift pre), ?_, ?_, fun r => ?_, ?_⟩
    · rw [List.pairwise_map]
      exact hsorted.imp fun hlt' => by simpa [Run.shift] using hlt'
    · intro r hr
      obtain ⟨r', -, rfl⟩ := List.mem_map.1 hr
      simp [Run.shift]
    · simp only [List.mem_map, hmem, eq_comm]
    · rw [hwords, List.map_map]
      rfl
  cases l with
  | nil =>
    refine ⟨[], .nil, fun r => ⟨fun h => absurd h List.not_mem_nil, fun h => absurd ?_ h.ne_nil⟩, rfl⟩
    exact (List.append_eq_nil_iff.1 (List.append_eq_nil_iff.1 h.whole).2).1
  | cons c l =>
    cases hc : p c with
    | false =>
      obtain ⟨rs, hsorted, -, hmem, hwords⟩ := hshift [c] l (by simp [← hn])
      exact ⟨rs, hsorted, fun r => (hmem r).trans (Run.isMaximal_cons_of_not hc).symm,
        (words_cons_of_not hc l).trans hwords⟩
    | true =>
      -- The first run is taken off as a whole.
      obtain ⟨w, l', hl, hw, hl'⟩ := exists_run_append hc l
      rw [hl] at hn ⊢
      have hpos : 0 < w.length := List.length_pos_iff.2 hw.1
      obtain ⟨rs, hsorted, hle, hmem, hwords⟩ := hshift w l' (by simp [← hn, hpos])
      refine ⟨⟨[], w, l'⟩ :: rs, List.pairwise_cons.2 ⟨fun r hr => Nat.lt_of_lt_of_le hpos (hle r hr), hsorted⟩,
        fun r => ?_, ?_⟩
      · rw [List.mem_cons, hmem, Run.isMaximal_append hw.1 hw.2 hl']
      · rw [words_append hw.1 hw.2 hl', hwords, List.map_cons]

end Words
