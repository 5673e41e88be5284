import Mathlib.Logic.Function.Basic
import Traveller.PathTree
/-!
# NodeTables — the nodes of a tree as a table

A family of nodes of a tree, no two of which overlap, is a table: `table node t` is what `t` has at each node.  A record
written at a node is an update of its row, a removal clears the row, a removal above clears the rows below it, and a write
that meets no node is none of the table's business.
-/
namespace PathTree

variable {K V ι : Type*}

/-- **No two of the nodes overlap.** -/
def Apart (node : ι → List K) : Prop := ∀ i j, Overlap (node i) (node j) → i = j

namespace Tree

/-- What a record is as a tree. -/
def ofRecord (r : List (K × V)) : Tree K V := ⟨r.map fun kv => ([kv.1], kv.2)⟩

@[simp] theorem record_ofRecord (r : List (K × V)) : (ofRecord r).record = r := by
  simp [ofRecord, record, List.filterMap_map]

theorem ofRecord_leaves_ne_nil {r : List (K × V)} : (ofRecord r).leaves ≠ [] ↔ r ≠ [] := by
  simp [ofRecord]

variable [DecidableEq K]

/-- **The table of a tree**: what is stored at each node. -/
def table (node : ι → List K) (t : Tree K V) : ι → Option (Tree K V) := fun i =>
  if (t.below (node i)).leaves = [] then none else some (t.below (node i))

section Table
variable {node : ι → List K} {t : Tree K V} {w : Write K V}

theorem table_congr {t' : Tree K V} {i : ι} (h : t'.below (node i) = t.below (node i)) : t'.table node i = t.table node i := by
  simp only [table, h]

theorem table_elsewhere (h : ∀ i, ¬ Overlap w.path (node i)) : (t.apply w).table node = t.table node :=
  funext fun i => table_congr (below_apply_of_not_overlap (h i))

/-- A write at a node changes no other row. -/
theorem table_of_ne (h : Apart node) {i j : ι} (hw : w.path = node i) (hj : j ≠ i) :
    (t.apply w).table node j = t.table node j := by
  refine table_congr (below_apply_of_not_overlap ?_)
  rw [hw]
  exact fun ho => hj (h i j ho).symm

variable [DecidableEq ι]

theorem table_set (h : Apart node) (i : ι) {r : List (K × V)} (hr : r ≠ []) :
    (t.apply (.set (node i) r)).table node = Function.update (t.table node) i (some (ofRecord r)) := by
  funext j
  by_cases hj : j = i
  · subst hj
    rw [Function.update_self, table, below_set, if_neg]
    · rfl
    · exact ofRecord_leaves_ne_nil.2 hr
  · rw [Function.update_of_ne hj]
    exact table_of_ne h rfl hj

theorem table_remove (h : Apart node) (i : ι) :
    (t.apply (.remove (node i))).table node = Function.update (t.table node) i none := by
  funext j
  by_cases hj : j = i
  · subst hj
    rw [Function.update_self, table, below_remove]
    exact if_pos rfl
  · rw [Function.update_of_ne hj]
    exact table_of_ne h rfl hj

omit [DecidableEq ι] in
/-- **A removal above the nodes** clears the rows below it and leaves the others. -/
theorem table_remove_above {p : List K} {i : ι} (hp : p <+: node i ∨ ¬ Overlap p (node i)) :
    (t.apply (.remove p)).table node i = if p <+: node i then none else t.table node i := by
  by_cases hi : p <+: node i
  · rw [if_pos hi, table, if_pos]
    obtain ⟨q, hq⟩ := hi
    rw [← hq]
    have hbelow : ∀ l ∈ (t.apply (.remove p)).leaves, rest (p ++ q) l.1 = none := fun l hl => by
      refine rest_eq_none fun hpre => ?_
      have hl' : ¬ p <+: l.1 := by simpa [apply] using (List.mem_filter.1 hl).2
      exact hl' ((List.prefix_append p q).trans hpre)
    simp only [below]
    exact List.filterMap_eq_nil_iff.2 fun l hl => by rw [hbelow l hl]; rfl
  · rw [if_neg hi]
    exact table_congr (below_apply_of_not_overlap (hp.resolve_left hi))

end Table
end Tree
end PathTree
