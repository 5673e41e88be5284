import Mathlib.Computability.Language
import Mathlib.Data.List.TakeWhile
/-!
# Patterns — the language of a pattern of brackets

A pattern is made of brackets, which stand for one letter of some ranges, of sequences, and of repetitions with a least and
maybe a greatest number.  Its `language` is what matches as a whole.  A repeated bracket is told letter by letter
(`mem_rep_bracket`), and where a letter ends a bracket's run and is not in it, the run is up to its first occurrence
(`split_iff`).
-/

inductive Pattern (α : Type*) where
  | bracket (ranges : List (α × α))
  | seq (p q : Pattern α)
  | rep (p : Pattern α) (least : Nat) (greatest : Option Nat)
  deriving DecidableEq, Repr

namespace Pattern

section
variable {α : Type*} [LE α]

/-- The letter is in one of the ranges. -/
def InRanges (ranges : List (α × α)) (c : α) : Prop := ∃ r ∈ ranges, r.1 ≤ c ∧ c ≤ r.2

instance [DecidableLE α] (ranges : List (α × α)) (c : α) : Decidable (InRanges ranges c) :=
  inferInstanceAs (Decidable (∃ r ∈ ranges, _))

def language : Pattern α → Language α
  | bracket ranges => {w | ∃ c, InRanges ranges c ∧ w = [c]}
  | seq p q => p.language * q.language
  | rep p least greatest => {w | ∃ n, least ≤ n ∧ (∀ m ∈ greatest, n ≤ m) ∧ w ∈ p.language ^ n}

/-- A fixed number of letters of one bracket. -/
theorem mem_pow_bracket (ranges : List (α × α)) {n : Nat} {w : List α} :
    w ∈ (bracket ranges).language ^ n ↔ w.length = n ∧ ∀ c ∈ w, InRanges ranges c := by
  induction n generalizing w with
  | zero =>
    rw [pow_zero, Language.mem_one, List.length_eq_zero_iff]
    exact ⟨fun h => ⟨h, fun c hc => by rw [h] at hc; cases hc⟩, And.left⟩
  | succ n ih =>
    rw [pow_succ', Language.mem_mul]
    constructor
    · rintro ⟨u, ⟨c, hc, rfl⟩, v, hv, rfl⟩
      obtain ⟨rfl, hletters⟩ := ih.1 hv
      exact ⟨rfl, List.forall_mem_cons.2 ⟨hc, hletters⟩⟩
    · rintro ⟨hlength, hw⟩
      obtain ⟨c, v, rfl⟩ := List.exists_cons_of_length_eq_add_one hlength
      obtain ⟨hc, hv⟩ := List.forall_mem_cons.1 hw
      exact ⟨[c], ⟨c, hc, rfl⟩, v, ih.2 ⟨by simpa using hlength, hv⟩, rfl⟩

/-- **A repeated bracket** matches letter by letter. -/
theorem mem_rep_bracket {ranges : List (α × α)} {least : Nat} {greatest : Option Nat} {w : List α} :
    w ∈ (rep (bracket ranges) least greatest).language ↔
      least ≤ w.length ∧ (∀ m ∈ greatest, w.length ≤ m) ∧ ∀ c ∈ w, InRanges ranges c := by
  constructor
  · rintro ⟨n, hleast, hgreatest, hw⟩
    obtain ⟨rfl, hletters⟩ := (mem_pow_bracket ranges).1 hw
    exact ⟨hleast, hgreatest, hletters⟩
  · rintro ⟨hleast, hgreatest, hw⟩
    exact ⟨w.length, hleast, hgreatest, (mem_pow_bracket ranges).2 ⟨rfl, hw⟩⟩

/-- A bracketed letter between two parts. -/
theorem mem_seq_bracket {p q : Pattern α} {ranges : List (α × α)} {w : List α} :
    w ∈ (seq p (seq (bracket ranges) q)).language ↔
      ∃ u ∈ p.language, ∃ c, InRanges ranges c ∧ ∃ v ∈ q.language, w = u ++ c :: v := by
  constructor
  · rintro ⟨u, hu, -, ⟨-, ⟨c, hc, rfl⟩, v, hv, rfl⟩, rfl⟩
    exact ⟨u, hu, c, hc, v, hv, rfl⟩
  · rintro ⟨u, hu, c, hc, v, hv, rfl⟩
    exact ⟨u, hu, _, ⟨_, ⟨c, hc, rfl⟩, v, hv, rfl⟩, rfl⟩

end

/-- **A word is split at the first occurrence of a letter.** -/
theorem split_iff {α : Type*} [DecidableEq α] {c : α} {w u v : List α} :
    w = u ++ c :: v ∧ c ∉ u ↔ c ∈ w ∧ u = w.takeWhile (· ≠ c) ∧ v = w.drop (u.length + 1) := by
  constructor
  · rintro ⟨rfl, hu⟩
    have hall : ∀ a ∈ u, decide (a ≠ c) = true := fun a ha => decide_eq_true fun h => hu (h ▸ ha)
    refine ⟨by simp, ?_, ?_⟩
    · rw [List.takeWhile_append_of_pos hall]
      simp
    · simp
  · rintro ⟨hw, rfl, rfl⟩
    constructor
    · induction w with
      | nil => cases hw
      | cons a w ih =>
        by_cases ha : a = c
        · simp [ha]
        · have hw := (List.mem_cons.1 hw).resolve_left (Ne.symm ha)
          simpa [ha] using ih hw
    · exact fun hc => absurd rfl (of_decide_eq_true (List.all_eq_true.1 List.all_takeWhile c hc))

/-- Behind the first occurrence there is nothing where there is none. -/
theorem mem_of_drop_ne_nil {α : Type*} [DecidableEq α] {c : α} {w : List α}
    (h : w.drop ((w.takeWhile (· ≠ c)).length + 1) ≠ []) : c ∈ w := by
  by_contra hc
  have hall : ∀ a ∈ w, decide (a ≠ c) = true := fun a ha => decide_eq_true fun heq => hc (heq ▸ ha)
  rw [List.takeWhile_eq_self_iff.2 hall, List.drop_eq_nil_of_le (Nat.le_succ _)] at h
  exact h rfl

end Pattern
