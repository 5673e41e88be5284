import Mathlib.Data.List.Basic
import Mathlib.Data.List.Dedup
import Mathlib.Tactic.Common
/-!
# PathTree — a tree of values addressed by paths

A tree is kept as its leaves, each a path and a value.  A client changes it by writes at a path: a record of named
values, one value, or a removal, each replacing everything at and below the path.  `below p` is the subtree at `p`.

Two laws carry every proof about such a tree: a write at a path that does not overlap `p` leaves the subtree at `p` alone
(`below_apply_of_not_overlap`), and a write below `p` is a write of the subtree (`below_apply_under`).
-/
namespace PathTree

variable {K V : Type*}

/-- **Two paths overlap** when one is a prefix of the other: only then can a write at one change what is at the other. -/
def Overlap (p q : List K) : Prop := p <+: q ∨ q <+: p

theorem Overlap.symm {p q : List K} (h : Overlap p q) : Overlap q p := Or.symm h

theorem Overlap.refl (p : List K) : Overlap p p := .inl (List.prefix_refl p)

theorem overlap_cons {k l : K} {p q : List K} : Overlap (k :: p) (l :: q) ↔ k = l ∧ Overlap p q := by
  unfold Overlap
  rw [List.cons_prefix_cons, List.cons_prefix_cons]
  constructor
  · rintro (⟨rfl, h⟩ | ⟨rfl, h⟩)
    · exact ⟨rfl, .inl h⟩
    · exact ⟨rfl, .inr h⟩
  · rintro ⟨rfl, h | h⟩
    · exact .inl ⟨rfl, h⟩
    · exact .inr ⟨rfl, h⟩

@[simp] theorem overlap_nil (p : List K) : Overlap [] p := .inl (List.nil_prefix)

theorem overlap_append (p q r : List K) : Overlap (p ++ q) (p ++ r) ↔ Overlap q r := by
  unfold Overlap
  rw [List.prefix_append_right_inj, List.prefix_append_right_inj]

theorem not_overlap_append {p q : List K} (h : ¬ Overlap p q) (r : List K) : ¬ Overlap p (q ++ r) := by
  rintro (hp | hq)
  · rcases List.prefix_or_prefix_of_prefix hp (List.prefix_append q r) with h' | h'
    · exact h (.inl h')
    · exact h (.inr h')
  · exact h (.inr ((List.prefix_append q r).trans hq))

/-- **What is below two paths that do not overlap does not overlap.** -/
theorem not_overlap_below {p q : List K} (h : ¬ Overlap p q) (r s : List K) : ¬ Overlap (p ++ r) (q ++ s) := fun ho =>
  not_overlap_append (fun ho' => not_overlap_append h s ho'.symm) r ho.symm

section Rest
variable [DecidableEq K]

instance (p q : List K) : Decidable (Overlap p q) := inferInstanceAs (Decidable (_ ∨ _))

/-- What is left of `q` below `p`. -/
def rest : List K → List K → Option (List K)
  | [], q => some q
  | _ :: _, [] => none
  | k :: p, l :: q => if k = l then rest p q else none

theorem rest_eq_some {p q r : List K} : rest p q = some r ↔ q = p ++ r := by
  induction p generalizing q with
  | nil => simp [rest, eq_comm]
  | cons k p ih =>
    cases q with
    | nil => simp [rest]
    | cons l q =>
      simp only [rest, List.cons_append, List.cons.injEq]
      split
      · rename_i h
        rw [ih, h]
        simp
      · rename_i h
        simp [Ne.symm h]

@[simp] theorem rest_append (p q : List K) : rest p (p ++ q) = some q := rest_eq_some.2 rfl

theorem rest_eq_none {p q : List K} (h : ¬ p <+: q) : rest p q = none := by
  cases hr : rest p q with
  | none => rfl
  | some r => exact absurd ⟨r, (rest_eq_some.1 hr).symm⟩ h

end Rest

/-! ## Trees and writes -/

/-- A tree, as its leaves. -/
structure Tree (K V : Type*) where
  leaves : List (List K × V)
  deriving DecidableEq, Repr

/-- A write: a record of named values, one value, or a removal. -/
inductive Write (K V : Type*) where
  | set (path : List K) (record : List (K × V))
  | put (path : List K) (value : V)
  | remove (path : List K)
  deriving DecidableEq, Repr

namespace Write

def path : Write K V → List K
  | set p _ => p
  | put p _ => p
  | remove p => p

def under (p : List K) : Write K V → Write K V
  | set q r => set (p ++ q) r
  | put q v => put (p ++ q) v
  | remove q => remove (p ++ q)

@[simp] theorem path_set (p : List K) (r : List (K × V)) : (set p r).path = p := rfl
@[simp] theorem path_put (p : List K) (v : V) : (put p v).path = p := rfl
@[simp] theorem path_remove (p : List K) : (remove p : Write K V).path = p := rfl

end Write

namespace Tree
variable [DecidableEq K]

def empty : Tree K V := ⟨[]⟩

/-- **A write replaces what is at and below its path**; a value above the path is replaced too, except by a removal. -/
def apply (t : Tree K V) : Write K V → Tree K V
  | .set p r => ⟨t.leaves.filter (fun l => decide (¬ Overlap p l.1)) ++ r.map (fun kv => (p ++ [kv.1], kv.2))⟩
  | .put p v => ⟨t.leaves.filter (fun l => decide (¬ Overlap p l.1)) ++ [(p, v)]⟩
  | .remove p => ⟨t.leaves.filter (fun l => decide (¬ p <+: l.1))⟩

def below (t : Tree K V) (p : List K) : Tree K V :=
  ⟨t.leaves.filterMap (fun l => (rest p l.1).map (fun q => (q, l.2)))⟩

def get (t : Tree K V) (p : List K) : Option V := (t.leaves.find? (fun l => decide (l.1 = p))).map Prod.snd

/-- The values directly below the root, with their names. -/
def record (t : Tree K V) : List (K × V) :=
  t.leaves.filterMap (fun l => match l.1 with | [k] => some (k, l.2) | _ => none)

/-- The values named `f` in the records below the root. -/
def column (t : Tree K V) (f : K) : List V :=
  t.leaves.filterMap (fun l => match l.1 with | [_, g] => if g = f then some l.2 else none | _ => none)

/-- The names of what is directly below the root. -/
def children (t : Tree K V) : List K := (t.leaves.filterMap fun l => l.1.head?).dedup

def applyAll (t : Tree K V) (ws : List (Write K V)) : Tree K V := ws.foldl apply t

@[simp] theorem applyAll_nil (t : Tree K V) : t.applyAll [] = t := rfl
@[simp] theorem applyAll_cons (t : Tree K V) (w : Write K V) (ws : List (Write K V)) :
    t.applyAll (w :: ws) = (t.apply w).applyAll ws := rfl

theorem applyAll_append (t : Tree K V) (ws ws' : List (Write K V)) :
    t.applyAll (ws ++ ws') = (t.applyAll ws).applyAll ws' := List.foldl_append

theorem mem_of_get {t : Tree K V} {p : List K} {v : V} (h : t.get p = some v) : (p, v) ∈ t.leaves := by
  obtain ⟨l, hl, rfl⟩ := Option.map_eq_some_iff.1 h
  have hp : l.1 = p := by simpa using List.find?_some hl
  rw [← hp]
  exact List.mem_of_find?_eq_some hl

theorem get_below (t : Tree K V) (p q : List K) : (t.below p).get q = t.get (p ++ q) := by
  unfold get below
  obtain ⟨leaves⟩ := t
  induction leaves with
  | nil => rfl
  | cons l ls ih =>
    by_cases hl : p <+: l.1
    · obtain ⟨r, hr⟩ := hl
      simp only [List.filterMap_cons, ← hr, rest_append, Option.map_some, List.find?_cons, List.append_cancel_left_eq]
      by_cases hrq : r = q
      · simp [hrq]
      · simpa [hrq] using ih
    · have hne : ¬ l.1 = p ++ q := fun h => hl ⟨q, h.symm⟩
      simpa [List.filterMap_cons, rest_eq_none hl, List.find?_cons, hne] using ih

/-! ## The frame law -/

theorem lookup_record (t : Tree K V) (k : K) : t.record.lookup k = t.get [k] := by
  obtain ⟨leaves⟩ := t
  unfold record get
  induction leaves with
  | nil => rfl
  | cons l ls ih =>
    obtain ⟨p, v⟩ := l
    cases p with
    | nil => simpa [List.find?_cons] using ih
    | cons k' p =>
      cases p with
      | nil =>
        by_cases hk : k' = k
        · simp [hk]
        · have hb : (k == k') = false := by simpa using Ne.symm hk
          simpa [List.find?_cons, List.lookup_cons, hk, hb] using ih
      | cons k'' p => simpa [List.find?_cons] using ih

theorem lookup_record_below (t : Tree K V) (p : List K) (k : K) : (t.below p).record.lookup k = t.get (p ++ [k]) := by
  rw [lookup_record, get_below]

private theorem filterMap_filter_of_imp {α β : Type*} (f : α → Option β) (g : α → Bool)
    (h : ∀ a, f a ≠ none → g a = true) (l : List α) : (l.filter g).filterMap f = l.filterMap f := by
  induction l with
  | nil => rfl
  | cons a l ih =>
    by_cases hg : g a = true
    · rw [List.filter_cons_of_pos hg, List.filterMap_cons, List.filterMap_cons, ih]
    · rw [List.filter_cons_of_neg hg, List.filterMap_cons, ih]
      have : f a = none := Classical.byContradiction fun hn => hg (h a hn)
      rw [this]

private theorem overlap_of_rest_map {α : Type*} {p q : List K} {f : List K → α}
    (h : (rest p q).map f ≠ none) : ∃ r, q = p ++ r := by
  cases hr : rest p q with
  | none => simp [hr] at h
  | some r => exact ⟨r, rest_eq_some.1 hr⟩

/-- **The frame law**: a write at a path that does not overlap `p` leaves the subtree at `p` alone. -/
theorem below_apply_of_not_overlap {t : Tree K V} {w : Write K V} {p : List K} (h : ¬ Overlap w.path p) :
    (t.apply w).below p = t.below p := by
  have hnew : ∀ (r : List K), rest p (w.path ++ r) = none := fun r => by
    apply rest_eq_none
    intro hp
    exact not_overlap_append (fun h' => h h'.symm) r (.inl hp)
  have hkeep : ∀ (l : List K × V), ((rest p l.1).map fun q => (q, l.2)) ≠ none → ¬ Overlap w.path l.1 := by
    intro l hl
    obtain ⟨r, hr⟩ := overlap_of_rest_map hl
    rw [hr]
    exact not_overlap_append h r
  cases w with
  | set q r =>
    simp only [Write.path_set] at hnew hkeep
    simp only [below, apply, List.filterMap_append, List.filterMap_map, Function.comp_def, hnew, Option.map_none,
      List.filterMap_none, List.append_nil]
    rw [filterMap_filter_of_imp _ _ (fun l hl => by simpa using hkeep l hl)]
  | put q v =>
    have hq := hnew []
    simp only [Write.path_put, List.append_nil] at hq hkeep
    simp only [below, apply, List.filterMap_append, List.filterMap_cons, List.filterMap_nil, hq, Option.map_none,
      List.append_nil]
    rw [filterMap_filter_of_imp _ _ (fun l hl => by simpa using hkeep l hl)]
  | remove q =>
    simp only [Write.path_remove] at hkeep
    simp only [below, apply]
    rw [filterMap_filter_of_imp _ _ (fun l hl => by simpa using fun h' => hkeep l hl (.inl h'))]

theorem below_applyAll_of_not_overlap {p : List K} : ∀ {ws : List (Write K V)} {t : Tree K V},
    (∀ w ∈ ws, ¬ Overlap w.path p) → (t.applyAll ws).below p = t.below p
  | [], _, _ => rfl
  | w :: ws, t, h => by
    rw [applyAll_cons, below_applyAll_of_not_overlap (fun w' hw' => h w' (List.mem_cons_of_mem w hw')),
      below_apply_of_not_overlap (h w List.mem_cons_self)]

/-- Filtering the leaves by a test that reads the whole path is filtering the subtree's by the test below `p`. -/
private theorem strip_filter (p : List K) (g g' : List K → Bool) (hg : ∀ q, g (p ++ q) = g' q) :
    ∀ ls : List (List K × V),
      (ls.filter (fun l => g l.1)).filterMap (fun l => (rest p l.1).map fun q => (q, l.2)) =
        (ls.filterMap (fun l => (rest p l.1).map fun q => (q, l.2))).filter (fun l => g' l.1)
  | [] => rfl
  | l :: ls => by
    have ih := strip_filter p g g' hg ls
    cases hr : rest p l.1 with
    | none => by_cases hl : g l.1 = true <;> simp [hl, hr, ih]
    | some r =>
      have hgr : g l.1 = g' r := by rw [rest_eq_some.1 hr, hg]
      by_cases hl : g' r = true <;> simp [hgr, hl, hr, ih]

/-- **A write below `p` is a write of the subtree at `p`.** -/
theorem below_apply_under (t : Tree K V) (w : Write K V) (p : List K) :
    (t.apply (w.under p)).below p = (t.below p).apply w := by
  have hover : ∀ q l : List K, decide (¬ Overlap (p ++ q) (p ++ l)) = decide (¬ Overlap q l) := fun q l =>
    decide_eq_decide.2 (not_congr (overlap_append p q l))
  have hpre : ∀ q l : List K, decide (¬ p ++ q <+: p ++ l) = decide (¬ q <+: l) := fun q l =>
    decide_eq_decide.2 (not_congr (List.prefix_append_right_inj p))
  cases w with
  | set q r =>
    simp only [Write.under, apply, below, List.filterMap_append, List.filterMap_map, Function.comp_def,
      List.append_assoc, rest_append, Option.map_some]
    rw [strip_filter p (fun l => decide (¬ Overlap (p ++ q) l)) (fun l => decide (¬ Overlap q l)) (hover q)]
    simp
  | put q v =>
    simp only [Write.under, apply, below, List.filterMap_append, List.filterMap_cons, List.filterMap_nil, rest_append,
      Option.map_some]
    rw [strip_filter p (fun l => decide (¬ Overlap (p ++ q) l)) (fun l => decide (¬ Overlap q l)) (hover q)]
  | remove q =>
    simp only [Write.under, apply, below]
    rw [strip_filter p (fun l => decide (¬ p ++ q <+: l)) (fun l => decide (¬ q <+: l)) (hpre q)]

/-- **What a write leaves below `p` depends on what was there**, and on nothing else of the tree. -/
theorem below_apply_congr {t t' : Tree K V} {p : List K} (h : t.below p = t'.below p) (w : Write K V) :
    (t.apply w).below p = (t'.apply w).below p := by
  have hleaves := congrArg leaves h
  simp only [below] at hleaves
  have hkept : ∀ g : List K → Bool, (t.leaves.filter fun l => g l.1).filterMap (fun l => (rest p l.1).map fun q => (q, l.2)) =
      (t'.leaves.filter fun l => g l.1).filterMap fun l => (rest p l.1).map fun q => (q, l.2) := fun g => by
    rw [strip_filter p g (fun q => g (p ++ q)) fun _ => rfl, strip_filter p g (fun q => g (p ++ q)) fun _ => rfl, hleaves]
  cases w with
  | set q r =>
    simp only [below, apply, List.filterMap_append]
    rw [hkept fun l => decide (¬ Overlap q l)]
  | put q v =>
    simp only [below, apply, List.filterMap_append]
    rw [hkept fun l => decide (¬ Overlap q l)]
  | remove q =>
    simp only [below, apply]
    rw [hkept fun l => decide (¬ q <+: l)]

theorem below_applyAll_congr {p : List K} {ws : List (Write K V)} :
    ∀ {t t' : Tree K V}, t.below p = t'.below p → (t.applyAll ws).below p = (t'.applyAll ws).below p := by
  induction ws with
  | nil => exact id
  | cons w ws ih =>
    intro t t' h
    rw [applyAll_cons, applyAll_cons]
    exact ih (below_apply_congr h w)

/-- **Only the writes that meet a path matter there.** -/
theorem below_applyAll_filter {p : List K} {here : Write K V → Bool} {ws : List (Write K V)} :
    ∀ {t : Tree K V}, (∀ w ∈ ws, ¬ here w = true → ¬ Overlap w.path p) →
      (t.applyAll ws).below p = (t.applyAll (ws.filter here)).below p := by
  induction ws with
  | nil => exact fun _ => rfl
  | cons w ws ih =>
    intro t hws
    have hw := hws w List.mem_cons_self
    rw [applyAll_cons, ih fun w' hw' => hws w' (List.mem_cons_of_mem w hw'), List.filter_cons]
    by_cases hhere : here w = true
    · rw [if_pos hhere, applyAll_cons]
    · rw [if_neg hhere]
      exact below_applyAll_congr (below_apply_of_not_overlap (hw hhere))

/-! ## What a write leaves at its own path -/

theorem apply_set_nil (t : Tree K V) (r : List (K × V)) : t.apply (.set [] r) = ⟨r.map fun kv => ([kv.1], kv.2)⟩ := by
  simp [apply]

theorem below_remove (t : Tree K V) (p : List K) : (t.apply (.remove p)).below p = empty := by
  have h := below_apply_under t (.remove []) p
  rw [Write.under, List.append_nil] at h
  rw [h]
  simp [apply, empty]

theorem get_remove (t : Tree K V) (p q : List K) : (t.apply (.remove p)).get (p ++ q) = none := by
  rw [← get_below, below_remove]
  rfl

/-- A record written is all there is at and below its path. -/
theorem below_set (t : Tree K V) (p : List K) (r : List (K × V)) :
    (t.apply (.set p r)).below p = ⟨r.map fun kv => ([kv.1], kv.2)⟩ := by
  have h := below_apply_under t (.set [] r) p
  rw [Write.under, List.append_nil] at h
  rw [h, apply_set_nil]

/-- **A record written is the record read back.** -/
theorem record_below_set (t : Tree K V) (p : List K) (r : List (K × V)) :
    ((t.apply (.set p r)).below p).record = r := by
  rw [below_set]
  simp [record, List.filterMap_map]

private theorem find_singletons (k : K) : ∀ r : List (K × V),
    ((r.map fun kv => ([kv.1], kv.2)).find? (fun l => decide (l.1 = [k]))).map Prod.snd = r.lookup k
  | [] => rfl
  | (k', v) :: r => by
    have ih := find_singletons k r
    rw [List.map_cons, List.find?_cons, List.lookup_cons]
    by_cases hk : k' = k
    · simp [hk]
    · have hk' : (k == k') = false := by simpa using Ne.symm hk
      simpa [hk, hk'] using ih

theorem get_set (t : Tree K V) (p : List K) (r : List (K × V)) (k : K) :
    (t.apply (.set p r)).get (p ++ [k]) = r.lookup k := by
  rw [← get_below, below_set]
  exact find_singletons k r

/-- **A value not overlapped by a write is kept.** -/
theorem get_apply_of_not_overlap {t : Tree K V} {w : Write K V} {p : List K} (h : ¬ Overlap w.path p) :
    (t.apply w).get p = t.get p := by
  have h1 := get_below (t.apply w) p []
  have h2 := get_below t p []
  rw [List.append_nil] at h1 h2
  rw [← h1, ← h2, below_apply_of_not_overlap h]

/-- **A record written under a new name** adds its values to the columns and takes nothing away. -/
theorem column_set_fresh {t : Tree K V} {k : K} (hk : ∀ l ∈ t.leaves, l.1.head? ≠ some k) (r : List (K × V)) (f : K) :
    (t.apply (.set [k] r)).column f = t.column f ++ (r.filter (fun kv => decide (kv.1 = f))).map Prod.snd := by
  have hold : ∀ ls : List (List K × V), (∀ l ∈ ls, l.1.head? ≠ some k) →
      (ls.filter (fun l => decide (¬ Overlap [k] l.1))).filterMap
          (fun l => match l.1 with | [_, g] => if g = f then some l.2 else none | _ => none) =
        ls.filterMap (fun l => match l.1 with | [_, g] => if g = f then some l.2 else none | _ => none) := by
    intro ls hls
    rw [List.filterMap_filter]
    refine List.filterMap_congr fun l hl => ?_
    have hhead := hls l hl
    match h : l.1 with
    | [] => simp
    | k' :: q =>
      have hne : ¬ k = k' := by
        rintro rfl
        exact hhead (by rw [h]; rfl)
      simp [overlap_cons, hne]
  have hnew : ∀ r : List (K × V), (r.map fun kv => ([k] ++ [kv.1], kv.2)).filterMap
      (fun l => match l.1 with | [_, g] => if g = f then some l.2 else none | _ => none) =
        (r.filter (fun kv => decide (kv.1 = f))).map Prod.snd := by
    intro r
    induction r with
    | nil => rfl
    | cons kv r ih =>
      by_cases hf : kv.1 = f
      · simpa [hf] using ih
      · simpa [hf] using ih
  simp only [column, apply, List.filterMap_append]
  rw [hold t.leaves hk, hnew]

/-- A tree that has one record. -/
theorem children_set_empty (k : K) (kv : K × V) (r : List (K × V)) :
    ((empty : Tree K V).apply (.set [k] (kv :: r))).children = [k] := by
  have hhead : ((kv :: r).map fun kv => ([k] ++ [kv.1], kv.2)).filterMap (fun l => l.1.head?) =
      List.replicate (r.length + 1) k := by
    rw [List.filterMap_map]
    simp [Function.comp_def, List.map_const', List.replicate_succ]
  rw [children, apply, empty, List.filter_nil, List.nil_append, hhead]
  exact List.replicate_dedup (Nat.succ_ne_zero _)

theorem mem_leaves_set {t : Tree K V} {p : List K} {r : List (K × V)} {l : List K × V}
    (hl : l ∈ (t.apply (.set p r)).leaves) : l ∈ t.leaves ∨ ∃ k, l.1 = p ++ [k] := by
  simp only [apply, List.mem_append, List.mem_filter, List.mem_map] at hl
  rcases hl with ⟨h, -⟩ | ⟨kv, -, rfl⟩
  · exact .inl h
  · exact .inr ⟨kv.1, rfl⟩

end Tree
end PathTree
