import Mathlib.Algebra.Order.Ring.Rat
import Mathlib.Data.List.TakeWhile
import Mathlib.Tactic.Common
/-!
# DecimalText — decimal numbers read from texts

A number is read from a text with one separator between its whole part and its fraction, and only if the whole text is one.
A whole number is read whatever the separator is (`read_toString`); a text with a point only where the point is the separator
(`IsPlain.read_eq_none`).
-/
namespace DecimalText

/-- The number without its sign: digits, and where the separator is there the digits behind it. -/
def readUnsigned (sep : Char) (s : List Char) : Option Rat :=
  let whole := s.takeWhile Char.isDigit
  match s.dropWhile Char.isDigit with
  | [] => if whole = [] then none else some (Nat.ofDigitChars 10 whole 0)
  | c :: fraction =>
    if c = sep ∧ fraction.all Char.isDigit ∧ (whole ≠ [] ∨ fraction ≠ []) then
      some (Nat.ofDigitChars 10 whole 0 + Nat.ofDigitChars 10 fraction 0 / 10 ^ fraction.length)
    else none

def read (sep : Char) : List Char → Option Rat
  | '-' :: s => (readUnsigned sep s).map fun r => -r
  | s => readUnsigned sep s

/-- **Plain decimal notation**: digits, a point, digits, and a minus sign in front or none. -/
def IsPlain (s : List Char) : Prop :=
  ∃ whole fraction : List Char, whole ≠ [] ∧ fraction ≠ [] ∧ whole.all Char.isDigit = true ∧ fraction.all Char.isDigit = true ∧
    (s = whole ++ '.' :: fraction ∨ s = '-' :: (whole ++ '.' :: fraction))

section
variable {sep : Char} {whole fraction : List Char}

theorem takeWhile_digits (hw : whole.all Char.isDigit = true) {c : Char} (hc : c.isDigit = false) (rest : List Char) :
    (whole ++ c :: rest).takeWhile Char.isDigit = whole ∧ (whole ++ c :: rest).dropWhile Char.isDigit = c :: rest := by
  have hall : ∀ d ∈ whole, d.isDigit = true := List.all_eq_true.1 hw
  rw [List.takeWhile_append_of_pos hall, List.dropWhile_append_of_pos hall]
  simp [hc]

theorem readUnsigned_whole (hw : whole.all Char.isDigit = true) (hne : whole ≠ []) :
    readUnsigned sep whole = some (Nat.ofDigitChars 10 whole 0 : Rat) := by
  have hall : ∀ d ∈ whole, d.isDigit = true := List.all_eq_true.1 hw
  have htake : whole.takeWhile Char.isDigit = whole := List.takeWhile_eq_self_iff.2 hall
  have hdrop : whole.dropWhile Char.isDigit = [] := List.dropWhile_eq_nil_iff.2 hall
  simp only [readUnsigned, htake, hdrop, if_neg hne]

theorem readUnsigned_fraction (hw : whole.all Char.isDigit = true) (hf : fraction.all Char.isDigit = true) (hne : whole ≠ [])
    (hsep : sep.isDigit = false) :
    readUnsigned sep (whole ++ sep :: fraction) =
      some (Nat.ofDigitChars 10 whole 0 + Nat.ofDigitChars 10 fraction 0 / 10 ^ fraction.length : Rat) := by
  obtain ⟨htake, hdrop⟩ := takeWhile_digits hw hsep fraction
  simp only [readUnsigned, htake, hdrop]
  rw [if_pos ⟨trivial, hf, .inl hne⟩]

theorem readUnsigned_eq_none (hw : whole.all Char.isDigit = true) {c : Char} (hc : c.isDigit = false) (hsep : c ≠ sep)
    (rest : List Char) : readUnsigned sep (whole ++ c :: rest) = none := by
  obtain ⟨htake, hdrop⟩ := takeWhile_digits hw hc rest
  simp only [readUnsigned, htake, hdrop]
  exact if_neg fun h => hsep h.1

/-- A text that begins with a digit has no sign. -/
theorem read_of_digits (hw : whole.all Char.isDigit = true) (hne : whole ≠ []) (rest : List Char) :
    read sep (whole ++ rest) = readUnsigned sep (whole ++ rest) := by
  cases whole with
  | nil => exact absurd rfl hne
  | cons c whole =>
    have hc : c.isDigit = true := List.all_eq_true.1 hw c List.mem_cons_self
    rw [List.cons_append, read]
    rintro s heq
    obtain ⟨rfl, -⟩ := List.cons.inj heq
    exact absurd hc (by decide)

theorem all_isDigit_toDigits (n : Nat) : (Nat.toDigits 10 n).all Char.isDigit = true :=
  List.all_eq_true.2 fun _ hc => Nat.isDigit_of_mem_toDigits (by decide) (by decide) hc

/-- **A whole number is read back**, whatever the separator. -/
theorem read_toString (n : Int) : read sep (toString n).toList = some (n : Rat) := by
  have hread : ∀ m : Nat, readUnsigned sep (Nat.toDigits 10 m) = some (m : Rat) := fun m => by
    rw [readUnsigned_whole (all_isDigit_toDigits m) Nat.toDigits_ne_nil, Nat.ofDigitChars_ten_toDigits]
  rw [Int.toString_eq_repr, Int.repr_eq_if]
  split
  · rename_i hn
    have hpos : read sep (Nat.toDigits 10 n.toNat ++ []) = readUnsigned sep (Nat.toDigits 10 n.toNat ++ []) :=
      read_of_digits (all_isDigit_toDigits n.toNat) Nat.toDigits_ne_nil []
    rw [List.append_nil] at hpos
    rw [Nat.toList_repr, hpos, hread]
    exact congrArg some (by exact_mod_cast Int.toNat_of_nonneg hn)
  · rename_i hn
    rw [String.toList_append, Nat.toList_repr]
    have hneg : ((-n).toNat : Int) = -n := Int.toNat_of_nonneg (by omega)
    have hvalue : (((-n).toNat : Nat) : Rat) = -n := by exact_mod_cast hneg
    calc read sep ("-".toList ++ Nat.toDigits 10 (-n).toNat)
        = (readUnsigned sep (Nat.toDigits 10 (-n).toNat)).map fun r => -r := rfl
      _ = some (n : Rat) := by rw [hread, Option.map_some, hvalue, neg_neg]

theorem toString_ne_empty (n : Int) : toString n ≠ "" := fun h => by
  have hread : read '.' (toString n).toList = some (n : Rat) := read_toString n
  rw [h] at hread
  cases hread

/-- A plain text is read where the point is the separator. -/
theorem IsPlain.read_point {s : List Char} (h : IsPlain s) : ∃ r, read '.' s = some r := by
  obtain ⟨whole, fraction, hne, -, hw, hf, rfl | rfl⟩ := h
  · rw [read_of_digits hw hne, readUnsigned_fraction hw hf hne (by decide)]
    exact ⟨_, rfl⟩
  · rw [read, readUnsigned_fraction hw hf hne (by decide)]
    exact ⟨_, rfl⟩

/-- **A plain text is not read where the separator is another.** -/
theorem IsPlain.read_eq_none {s : List Char} (h : IsPlain s) (hsep : sep ≠ '.') : read sep s = none := by
  obtain ⟨whole, fraction, hne, -, hw, -, rfl | rfl⟩ := h
  · rw [read_of_digits hw hne, readUnsigned_eq_none hw (by decide) hsep.symm]
  · rw [read, readUnsigned_eq_none hw (by decide) hsep.symm, Option.map_none]

theorem IsPlain.ne_nil {s : List Char} (h : IsPlain s) : s ≠ [] := by
  obtain ⟨whole, fraction, -, -, -, -, rfl | rfl⟩ := h <;> simp

end
end DecimalText
