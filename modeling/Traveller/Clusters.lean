import Mathlib.Data.List.Basic
/-!
# Clusters — a list cut where an element does not join what is before it

The rules that cut a text into characters look at the scalars before a place and at the next one (`joins`), so the clusters of a
list depend on what it stands behind.  A list is cut at a place where the next element does not join (`clusters_append`), and what
is before matters only as far as the rules look (`clusters_congr`).  Where no rule looks back across a separator, and the
separator stands apart from what it separates, the clusters of parts joined by it are the clusters of the parts
(`clusters_intercalate`).
-/
namespace Clusters

variable {α : Type*}

/-- The clusters of `cur ++ l`, which stands behind `before`; `cur` is what there is of the first. -/
def gather (joins : List α → α → Bool) (before cur : List α) : List α → List (List α)
  | [] => [cur]
  | c :: l =>
    if joins (before ++ cur) c then gather joins before (cur ++ [c]) l else cur :: gather joins (before ++ cur) [c] l

/-- **The clusters of a list** that stands behind `before`: its first element begins one, and each that does not join what is
before it does. -/
def clusters (joins : List α → α → Bool) (before : List α) : List α → List (List α)
  | [] => []
  | c :: l => gather joins before [c] l

/-- No rule looks back across `sep`. -/
structure Separates (joins : List α → α → Bool) (sep : α) : Prop where
  behind : ∀ before c, joins (before ++ [sep]) c = joins [sep] c
  across : ∀ before rest c, rest ≠ [] → joins (before ++ sep :: rest) c = joins rest c

section
variable {joins : List α → α → Bool} {before l l' : List α} {c d : α}

theorem flatten_gather (before cur l : List α) : (gather joins before cur l).flatten = cur ++ l := by
  induction l generalizing before cur with
  | nil => simp [gather]
  | cons c l ih =>
    rw [gather]
    split
    · rw [ih, List.append_assoc, List.singleton_append]
    · rw [List.flatten_cons, ih, List.singleton_append]

/-- **The clusters are the list.** -/
@[simp] theorem flatten_clusters (before l : List α) : (clusters joins before l).flatten = l := by
  cases l with
  | nil => rfl
  | cons c l => exact flatten_gather before [c] l

theorem gather_append (cur : List α) (h : joins (before ++ (cur ++ l)) d = false) :
    gather joins before cur (l ++ d :: l') = gather joins before cur l ++ gather joins (before ++ (cur ++ l)) [d] l' := by
  induction l generalizing before cur with
  | nil =>
    rw [List.append_nil] at h
    simp [gather, h]
  | cons c l ih =>
    rw [List.cons_append, gather, gather]
    have hsame : cur ++ c :: l = cur ++ [c] ++ l := List.append_cons cur c l
    split
    · rw [hsame] at h ⊢
      exact ih (cur ++ [c]) h
    · rw [← List.append_assoc] at h ⊢
      rw [ih [c] h]
      rfl

/-- **A list is cut where the next element does not join.** -/
theorem clusters_append (hl : l ≠ []) (h : joins (before ++ l) d = false) :
    clusters joins before (l ++ d :: l') = clusters joins before l ++ clusters joins (before ++ l) (d :: l') := by
  cases l with
  | nil => exact absurd rfl hl
  | cons c l => exact gather_append [c] h

theorem gather_congr {before' : List α} (h : ∀ t c, t ≠ [] → joins (before ++ t) c = joins (before' ++ t) c) {cur : List α}
    (hcur : cur ≠ []) (l : List α) : gather joins before cur l = gather joins before' cur l := by
  induction l generalizing before before' cur with
  | nil => rfl
  | cons c l ih =>
    have hstep : ∀ t c, t ≠ [] → joins (before ++ cur ++ t) c = joins (before' ++ cur ++ t) c := fun t c ht => by
      rw [List.append_assoc, List.append_assoc]
      exact h _ c (List.append_ne_nil_of_right_ne_nil _ ht)
    rw [gather, gather, h cur c hcur, ih h (List.append_ne_nil_of_left_ne_nil hcur _), ih hstep (List.cons_ne_nil c [])]

/-- **What is before matters only as far as the rules look.** -/
theorem clusters_congr {before' : List α} (h : ∀ t c, t ≠ [] → joins (before ++ t) c = joins (before' ++ t) c) (l : List α) :
    clusters joins before l = clusters joins before' l := by
  cases l with
  | nil => rfl
  | cons c l => exact gather_congr h (List.cons_ne_nil c []) l

/-- Elements that do not join each other are clusters of their own. -/
theorem clusters_of_apart {P : α → Prop} (h : ∀ before c d, P c → P d → joins (before ++ [c]) d = false)
    (hl : ∀ c ∈ l, P c) : clusters joins before l = l.map fun c => [c] := by
  cases l with
  | nil => rfl
  | cons c l =>
    rw [clusters]
    induction l generalizing before c with
    | nil => rfl
    | cons d l ih =>
      have hnot : joins (before ++ [c]) d = false :=
        h before c d (hl c List.mem_cons_self) (hl d (List.mem_cons_of_mem c List.mem_cons_self))
      rw [gather, hnot, if_neg Bool.false_ne_true, ih d fun e he => hl e (List.mem_cons_of_mem c he)]
      rfl

end

section
variable {joins : List α → α → Bool} {sep : α}

/-- The same of parts behind what no rule looks at. -/
theorem clusters_intercalate_of_before (hsep : Separates joins sep) {before : List α}
    (hbefore : ∀ t c, t ≠ [] → joins (before ++ t) c = joins ([] ++ t) c) {ws : List (List α)} (hne : ∀ w ∈ ws, w ≠ [])
    (hfront : ∀ w ∈ ws.tail, ∀ c ∈ w.head?, joins [sep] c = false) (hback : ∀ w ∈ ws.dropLast, joins w sep = false) :
    clusters joins before ([sep].intercalate ws) = [[sep]].intercalate (ws.map (clusters joins [])) := by
  induction ws generalizing before with
  | nil => rfl
  | cons w ws ih =>
    cases ws with
    | nil => simpa using clusters_congr hbefore w
    | cons w' ws =>
      have hw := hne w List.mem_cons_self
      have hrest : ∀ v ∈ w' :: ws, v ≠ [] := fun v hv => hne v (List.mem_cons_of_mem w hv)
      obtain ⟨c, l, rfl⟩ := List.exists_cons_of_ne_nil (hrest w' List.mem_cons_self)
      obtain ⟨l', hl'⟩ : ∃ l', [sep].intercalate ((c :: l) :: ws) = c :: l' := by
        cases ws <;> simp [List.intercalate_cons_cons]
      have hcut : joins (before ++ w) sep = false := by
        rw [hbefore w sep hw]
        exact hback w List.mem_cons_self
      have hnext : joins (before ++ w ++ [sep]) c = false := by
        rw [hsep.behind]
        exact hfront (c :: l) List.mem_cons_self c rfl
      have hacross : ∀ t d, t ≠ [] → joins (before ++ w ++ [sep] ++ t) d = joins ([] ++ t) d := fun t d ht => by
        rw [List.append_assoc _ [sep] t]
        exact hsep.across _ t d ht
      have hsame := ih hacross hrest (fun v hv => hfront v (List.mem_of_mem_tail hv)) fun v hv =>
        hback v (List.mem_cons_of_mem w hv)
      have hjoin : [sep].intercalate (w :: (c :: l) :: ws) = w ++ sep :: [sep].intercalate ((c :: l) :: ws) := by
        simp [List.intercalate_cons_cons]
      have hone : clusters joins (before ++ w) ([sep] ++ c :: l') =
          [[sep]] ++ clusters joins (before ++ w ++ [sep]) (c :: l') := clusters_append (List.cons_ne_nil sep []) hnext
      rw [hjoin, clusters_append hw hcut, clusters_congr hbefore w, hl']
      rw [hl'] at hsame
      rw [show sep :: c :: l' = [sep] ++ c :: l' from rfl, hone, hsame]
      simp [List.intercalate_cons_cons]

/-- **Parts that a separator stands apart from are cut as they are alone.** -/
theorem clusters_intercalate (hsep : Separates joins sep) {ws : List (List α)} (hne : ∀ w ∈ ws, w ≠ [])
    (hfront : ∀ w ∈ ws.tail, ∀ c ∈ w.head?, joins [sep] c = false) (hback : ∀ w ∈ ws.dropLast, joins w sep = false) :
    clusters joins [] ([sep].intercalate ws) = [[sep]].intercalate (ws.map (clusters joins [])) :=
  clusters_intercalate_of_before hsep (fun _ _ _ => rfl) hne hfront hback

end

end Clusters
