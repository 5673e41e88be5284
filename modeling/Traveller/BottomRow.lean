import Mathlib.Tactic.Common
/-!
# BottomRow — how a table finds the row it scrolls to

`scrollToBottomRow` starts at the last section and goes up as long as the path it has made is not valid.  The search ends in
every table and asks for existing sections only.  It finds the last row there is, with one exception that the source names: come
down to section 0 it takes the first row of it (`scrollToBottomRow_finds`).  The table of a chat has a section of one row for
every message, and is scrolled to the last (`scrollToBottomRow_ofMessages`).
-/
namespace Traveller

/-- `UITableView`, as its data source describes it: the number of rows of each section. -/
structure UITableView where
  rows : List Nat
  deriving DecidableEq, Repr

structure IndexPath where
  row : Int
  inSection : Int
  deriving DecidableEq, Repr

inductive SearchFault where
  | noSuchSection | outOfFuel
  deriving DecidableEq, Repr

namespace UITableView

def numberOfSections (t : UITableView) : Int := t.rows.length

/-- UIKit has no answer for a section that does not exist. -/
def numberOfRows (t : UITableView) (inSection : Int) : Except SearchFault Int :=
  match t.rows[inSection.toNat]? with
  | some n => if 0 ≤ inSection then .ok n else .error .noSuchSection
  | none => .error .noSuchSection

def indexPathIsValid (t : UITableView) (indexPath : IndexPath) : Except SearchFault Bool :=
  if indexPath.inSection < t.numberOfSections then do
    let rows ← t.numberOfRows indexPath.inSection
    return indexPath.row < rows
  else .ok false

/-- The loop, from the path it is at. -/
def search (t : UITableView) : Nat → IndexPath → Except SearchFault IndexPath
  | 0, _ => .error .outOfFuel
  | fuel + 1, indexPath => do
    if ← t.indexPathIsValid indexPath then return indexPath
    let inSection := max (indexPath.inSection - 1) 0
    let row := max ((← t.numberOfRows inSection) - 1) 0
    if inSection = 0 then return { row := 0, inSection := 0 }
    t.search fuel { row, inSection }

/-- Where the table is scrolled to, if anywhere. -/
def scrollToBottomRow (t : UITableView) (fuel : Nat) : Except SearchFault (Option IndexPath) := do
  if 0 < t.numberOfSections then
    let inSection := max (t.numberOfSections - 1) 0
    let row := max ((← t.numberOfRows inSection) - 1) 0
    let indexPath ← t.search fuel { row, inSection }
    return if ← t.indexPathIsValid indexPath then some indexPath else none
  else return none

/-! ## What the loop finds -/

variable {t : UITableView} {i n : Nat}

theorem numberOfRows_of_getElem? (h : t.rows[i]? = some n) : t.numberOfRows i = .ok n := by
  simp [numberOfRows, h]

theorem indexPathIsValid_of_getElem? (h : t.rows[i]? = some n) (row : Int) :
    t.indexPathIsValid { row, inSection := i } = .ok (decide (row < n)) := by
  have hi : (i : Int) < t.numberOfSections := Int.ofNat_lt.2 (List.getElem?_eq_some_iff.1 h).1
  simp only [indexPathIsValid, if_pos hi, numberOfRows_of_getElem? h]
  rfl

/-- The path the loop makes in a section with `n` rows. -/
def lastPath (i n : Nat) : IndexPath := { row := max ((n : Int) - 1) 0, inSection := i }

@[simp] theorem lastPath_succ (i n : Nat) : lastPath i (n + 1) = { row := n, inSection := i } := by simp [lastPath]

@[simp] theorem lastPath_zero (i : Nat) : lastPath i 0 = { row := 0, inSection := i } := rfl

/-- The path in a section is valid exactly if the section has a row. -/
theorem indexPathIsValid_lastPath (h : t.rows[i]? = some n) : t.indexPathIsValid (lastPath i n) = .ok (decide (n ≠ 0)) := by
  rw [lastPath, indexPathIsValid_of_getElem? h]
  cases n with
  | zero => rfl
  | succ n =>
    have hlt : max (((n + 1 : Nat) : Int) - 1) 0 < ((n + 1 : Nat) : Int) := by omega
    rw [decide_eq_true hlt, decide_eq_true n.succ_ne_zero]

theorem search_nonempty (h : t.rows[i]? = some (n + 1)) (fuel : Nat) :
    t.search (fuel + 1) (lastPath i (n + 1)) = .ok (lastPath i (n + 1)) := by
  rw [search, indexPathIsValid_lastPath h]
  rfl

/-- From an empty section the loop goes to the section above, or ends at the first row of section 0. -/
theorem search_empty (h : t.rows[i]? = some 0) (hup : t.rows[i - 1]? = some n) (fuel : Nat) :
    t.search (fuel + 1) (lastPath i 0) =
      if i - 1 = 0 then .ok { row := 0, inSection := 0 } else t.search fuel (lastPath (i - 1) n) := by
  have hsection : max ((lastPath i 0).inSection - 1) 0 = ((i - 1 : Nat) : Int) := by
    simp only [lastPath_zero]
    omega
  rw [search, indexPathIsValid_lastPath h]
  simp only [hsection, numberOfRows_of_getElem? hup]
  simp [bind, Except.bind, pure, Except.pure, lastPath]

/-- **The last section that has a row**, and its number of rows less one. -/
structure IsBottom (t : UITableView) (i n : Nat) : Prop where
  rows : t.rows[i]? = some (n + 1)
  empty : ∀ j, i < j → j < t.rows.length → t.rows[j]? = some 0

/-- **Where the loop ends**: at the last row of the last section that has one, or come down to section 0 at its first row. -/
theorem search_finds (hi : t.rows[i]? = some n) (hempty : ∀ j, i < j → j < t.rows.length → t.rows[j]? = some 0) :
    ∃ path, (∀ fuel, i < fuel → t.search fuel (lastPath i n) = .ok path) ∧
      ((∃ j m, t.IsBottom j m ∧ path = { row := m, inSection := j } ∧ (j = i ∨ j ≠ 0)) ∨
        path = { row := 0, inSection := 0 } ∧ (i = 0 → n = 0) ∧ ∀ j, 0 < j → j < t.rows.length → t.rows[j]? = some 0) := by
  have hfuel : ∀ {P : Nat → Prop} {k : Nat}, (∀ fuel, k ≤ fuel → P (fuel + 1)) → ∀ fuel, k < fuel → P fuel := by
    intro P k h fuel hk
    obtain ⟨fuel, rfl⟩ := Nat.exists_eq_succ_of_ne_zero (Nat.ne_zero_of_lt hk)
    exact h fuel (Nat.le_of_lt_succ hk)
  induction i generalizing n with
  | zero =>
    cases n with
    | succ n => exact ⟨_, hfuel fun fuel _ => search_nonempty hi fuel, .inl ⟨0, n, ⟨hi, hempty⟩, lastPath_succ 0 n, .inl rfl⟩⟩
    | zero => exact ⟨_, hfuel fun fuel _ => search_empty hi hi fuel, .inr ⟨rfl, fun _ => rfl, hempty⟩⟩
  | succ i ih =>
    cases n with
    | succ n =>
      exact ⟨_, hfuel fun fuel _ => search_nonempty hi fuel, .inl ⟨_, n, ⟨hi, hempty⟩, lastPath_succ _ n, .inl rfl⟩⟩
    | zero =>
      have hlt : i < t.rows.length := Nat.lt_of_succ_lt (List.getElem?_eq_some_iff.1 hi).1
      have hup : t.rows[i + 1 - 1]? = some t.rows[i] := List.getElem?_eq_getElem hlt
      -- with this section, all from the one above on are empty
      have hempty' : ∀ j, i < j → j < t.rows.length → t.rows[j]? = some 0 := fun j hj hjlen => by
        rcases Nat.eq_or_lt_of_le (Nat.succ_le_of_lt hj) with rfl | hj'
        · exact hi
        · exact hempty j hj' hjlen
      by_cases hzero : i = 0
      · subst hzero
        exact ⟨_, hfuel fun fuel _ => search_empty hi hup fuel, .inr ⟨rfl, fun h => absurd h (by decide), hempty'⟩⟩
      · have hturn : ∀ fuel, t.search (fuel + 1) (lastPath (i + 1) 0) = t.search fuel (lastPath i t.rows[i]) := fun fuel => by
          rw [search_empty hi hup, if_neg (by exact hzero), Nat.add_sub_cancel]
        obtain ⟨path, hpath, hfound⟩ := ih hup hempty'
        refine ⟨path, hfuel fun fuel hk => by rw [hturn, hpath fuel hk], ?_⟩
        rcases hfound with ⟨j, m, hbottom, heq, hj⟩ | ⟨heq, -, hrest⟩
        · exact .inl ⟨j, m, hbottom, heq, .inr (hj.elim (fun h => h ▸ hzero) id)⟩
        · exact .inr ⟨heq, fun h => absurd h (Nat.succ_ne_zero i), hrest⟩

/-! ## Where the table is scrolled to -/

theorem IsBottom.indexPathIsValid {j : Nat} (h : t.IsBottom j n) {row : Nat} (hrow : row ≤ n) :
    t.indexPathIsValid { row, inSection := j } = .ok true := by
  rw [indexPathIsValid_of_getElem? h.rows]
  simpa using Int.lt_add_one_of_le (Int.ofNat_le.2 hrow)

theorem scrollToBottomRow_eq (hn : t.rows[t.rows.length - 1]? = some n) (fuel : Nat) :
    t.scrollToBottomRow fuel = (do
      let indexPath ← t.search fuel (lastPath (t.rows.length - 1) n)
      return if ← t.indexPathIsValid indexPath then some indexPath else none) := by
  have hlen : t.rows.length - 1 < t.rows.length := (List.getElem?_eq_some_iff.1 hn).1
  have hpos : 0 < t.numberOfSections := Int.ofNat_lt.2 (Nat.zero_lt_of_lt hlen)
  have hsection : max (t.numberOfSections - 1) 0 = ((t.rows.length - 1 : Nat) : Int) := by
    unfold numberOfSections
    omega
  simp only [scrollToBottomRow, if_pos hpos, hsection, numberOfRows_of_getElem? hn]
  rfl

/-- A table whose sections from 1 on are empty: section 0 is the last with a row, or there is no row. -/
theorem isBottom_zero (hpos : 0 < t.rows.length) (hempty : ∀ j, 0 < j → j < t.rows.length → t.rows[j]? = some 0) :
    (∃ n, t.IsBottom 0 n) ∨ t.rows[0]? = some 0 ∧ ∀ n ∈ t.rows, n = 0 := by
  have hzero : t.rows[0]? = some t.rows[0] := List.getElem?_eq_getElem hpos
  cases hn : t.rows[0] with
  | succ n => exact .inl ⟨n, by rw [hzero, hn], hempty⟩
  | zero =>
    rw [hn] at hzero
    refine .inr ⟨hzero, fun n hmem => ?_⟩
    obtain ⟨j, hj⟩ := List.mem_iff_getElem?.1 hmem
    by_cases hj0 : j = 0
    · rw [hj0, hzero] at hj
      exact (Option.some.inj hj).symm
    · rw [hempty j (Nat.pos_of_ne_zero hj0) (List.getElem?_eq_some_iff.1 hj).1] at hj
      exact (Option.some.inj hj).symm

theorem IsBottom.ne_zero {j : Nat} (h : t.IsBottom j n) : ¬ ∀ m ∈ t.rows, m = 0 := fun hall =>
  absurd (hall (n + 1) (List.mem_of_getElem? h.rows)) (Nat.succ_ne_zero n)

/-- Once the search has ended, the table is scrolled to where it ended if that is valid. -/
theorem scrollToBottomRow_of_search {path : IndexPath} {valid : Bool} (hn : t.rows[t.rows.length - 1]? = some n) {fuel : Nat}
    (hpath : t.search fuel (lastPath (t.rows.length - 1) n) = .ok path) (hvalid : t.indexPathIsValid path = .ok valid) :
    t.scrollToBottomRow fuel = .ok (if valid then some path else none) := by
  rw [scrollToBottomRow_eq hn, hpath]
  simp only [bind, Except.bind, hvalid]
  rfl

/-- A path in the bottom section, of its last row or one before it, is where the table is scrolled to. -/
theorem IsBottom.scrollToBottomRow {j m row : Nat} (h : t.IsBottom j m) (hrow : row ≤ m)
    (hn : t.rows[t.rows.length - 1]? = some n) {fuel : Nat}
    (hpath : t.search fuel (lastPath (t.rows.length - 1) n) = .ok { row, inSection := j }) :
    t.scrollToBottomRow fuel = .ok (some { row, inSection := j }) :=
  scrollToBottomRow_of_search hn hpath (h.indexPathIsValid hrow)

/-- **The search ends in every table, without a fault, and finds the bottom**: the table is scrolled nowhere exactly if no section
has a row, and else to the last row of the last section that has one; only where that is section 0, and other sections were
searched before it, to the first. -/
theorem scrollToBottomRow_finds (t : UITableView) :
    ∃ target, (∀ fuel, t.rows.length ≤ fuel → t.scrollToBottomRow fuel = .ok target) ∧
      (target = none ↔ ∀ n ∈ t.rows, n = 0) ∧
      ∀ path, target = some path → ∃ i n, t.IsBottom i n ∧
        path = { row := if i = 0 ∧ 1 < t.rows.length then 0 else (n : Int), inSection := i } := by
  by_cases hpos : 0 < t.rows.length
  · have hn : t.rows[t.rows.length - 1]? = some t.rows[t.rows.length - 1] := List.getElem?_eq_getElem (by omega)
    obtain ⟨path, hpath, hfound⟩ := search_finds hn fun j _ _ => by omega
    have hends : ∀ fuel, t.rows.length ≤ fuel → t.search fuel (lastPath (t.rows.length - 1) _) = .ok path :=
      fun fuel hfuel => hpath fuel (by omega)
    rcases hfound with ⟨j, m, hbottom, rfl, hj⟩ | ⟨rfl, hlast, hrest⟩
    · refine ⟨_, fun fuel hfuel => hbottom.scrollToBottomRow (Nat.le_refl m) hn (hends fuel hfuel),
        by simp [hbottom.ne_zero], fun _ h => ?_⟩
      obtain rfl := Option.some.inj h
      refine ⟨j, m, hbottom, ?_⟩
      rw [if_neg (by omega)]
    · rcases isBottom_zero hpos hrest with ⟨m, hbottom⟩ | ⟨hzero, hall⟩
      · refine ⟨_, fun fuel hfuel => hbottom.scrollToBottomRow (Nat.zero_le m) hn (hends fuel hfuel),
          by simp [hbottom.ne_zero], fun _ h => ?_⟩
        obtain rfl := Option.some.inj h
        refine ⟨0, m, hbottom, ?_⟩
        have hmany : 1 < t.rows.length := by
          by_contra hone
          have hlen : t.rows.length - 1 = 0 := by omega
          rw [hlast hlen, hlen, hbottom.rows] at hn
          exact absurd (Option.some.inj hn) (Nat.succ_ne_zero m)
        rw [if_pos ⟨rfl, hmany⟩]
        rfl
      · have hinvalid : t.indexPathIsValid { row := 0, inSection := 0 } = .ok false := indexPathIsValid_of_getElem? hzero 0
        exact ⟨none, fun fuel hfuel => scrollToBottomRow_of_search hn (hends fuel hfuel) hinvalid, by simpa using hall,
          fun _ h => by cases h⟩
  · have hnil : t.rows = [] := List.length_eq_zero_iff.1 (by omega)
    refine ⟨none, fun fuel _ => ?_, by simp [hnil], fun _ h => by cases h⟩
    simp [scrollToBottomRow, numberOfSections, hnil, pure, Except.pure]

/-- **Two rows above an empty section**: the table is scrolled to the first of them, whatever time the loop is given. -/
theorem scrollToBottomRow_first : IsBottom ⟨[2, 0]⟩ 0 1 ∧
    scrollToBottomRow ⟨[2, 0]⟩ 2 = .ok (some { row := 0, inSection := 0 }) ∧
    ∀ fuel, scrollToBottomRow ⟨[2, 0]⟩ fuel ≠ .ok (some { row := 1, inSection := 0 }) := by
  refine ⟨⟨rfl, fun j hj hlen => ?_⟩, rfl, fun fuel h => ?_⟩
  · obtain rfl : j = 1 := by simp at hlen; omega
    rfl
  · cases fuel with
    | zero => cases h
    | succ fuel =>
      have hfirst : scrollToBottomRow ⟨[2, 0]⟩ (fuel + 1) = .ok (some { row := 0, inSection := 0 }) := rfl
      rw [hfirst] at h
      exact absurd h (by decide)

/-- The table of `MessageSendVC`: a section for every message, each of one row. -/
def ofMessages {α : Type*} (msgdataSource : List α) : UITableView where
  rows := msgdataSource.map fun _ => 1

/-- **A chat is scrolled to its last message**, at once. -/
theorem scrollToBottomRow_ofMessages {α : Type*} (msgdataSource : List α) {fuel : Nat} (hfuel : 0 < fuel) :
    (ofMessages msgdataSource).scrollToBottomRow fuel =
      .ok (if msgdataSource = [] then none else some { row := 0, inSection := ((msgdataSource.length - 1 : Nat) : Int) }) := by
  obtain ⟨fuel, rfl⟩ := Nat.exists_eq_succ_of_ne_zero (Nat.ne_of_gt hfuel)
  by_cases hnil : msgdataSource = []
  · subst hnil
    rfl
  · have hlength : (ofMessages msgdataSource).rows.length = msgdataSource.length := List.length_map _
    have hlast : (ofMessages msgdataSource).rows[(ofMessages msgdataSource).rows.length - 1]? = some (0 + 1) := by
      have hlt : msgdataSource.length - 1 < msgdataSource.length := Nat.sub_one_lt (by simpa using hnil)
      rw [hlength, ofMessages, List.getElem?_map, List.getElem?_eq_getElem hlt]
      rfl
    have hbottom : IsBottom (ofMessages msgdataSource) ((ofMessages msgdataSource).rows.length - 1) 0 :=
      ⟨hlast, fun j hj hlen => by omega⟩
    rw [if_neg hnil, ← hlength]
    exact hbottom.scrollToBottomRow (Nat.le_refl 0) hlast (search_nonempty hlast fuel)

end UITableView
end Traveller
