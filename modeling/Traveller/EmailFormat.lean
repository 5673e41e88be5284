import Traveller.ForgotPin
import Traveller.Patterns
/-!
# EmailFormat — the addresses `isValidEmail` takes

`isValidEmail` matches an address against a pattern; the model of it cuts the address at the first `@` and at the last `.`.
`isValidEmail_iff_matches`: the two take the same addresses.
-/
namespace Traveller

/-- `emailRegEx`: `[A-Z0-9a-z._%+-]+@[A-Za-z0-9.-]+\.[A-Za-z]{2,64}`. -/
def emailRegEx : Pattern Char :=
  .seq (.rep (.bracket [('A', 'Z'), ('0', '9'), ('a', 'z'), ('.', '.'), ('_', '_'), ('%', '%'), ('+', '+'), ('-', '-')]) 1 none)
    (.seq (.bracket [('@', '@')])
      (.seq (.rep (.bracket [('A', 'Z'), ('a', 'z'), ('0', '9'), ('.', '.'), ('-', '-')]) 1 none)
        (.seq (.bracket [('.', '.')]) (.rep (.bracket [('A', 'Z'), ('a', 'z')]) 2 (some 64)))))

theorem inRanges_cons {a b c : Char} {ranges : List (Char × Char)} :
    Pattern.InRanges ((a, b) :: ranges) c ↔ (a ≤ c ∧ c ≤ b) ∨ Pattern.InRanges ranges c := by
  simp [Pattern.InRanges]

theorem inRanges_self {a c : Char} {ranges : List (Char × Char)} :
    Pattern.InRanges ((a, a) :: ranges) c ↔ c = a ∨ Pattern.InRanges ranges c := by
  rw [inRanges_cons]
  exact or_congr_left ⟨fun h => Char.le_antisymm h.2 h.1, fun h => ⟨h ▸ Char.le_refl _, h ▸ Char.le_refl _⟩⟩

theorem not_inRanges_nil (c : Char) : ¬ Pattern.InRanges [] c := by simp [Pattern.InRanges]

theorem isAlpha_iff {c : Char} : c.isAlpha = true ↔ ('A' ≤ c ∧ c ≤ 'Z') ∨ ('a' ≤ c ∧ c ≤ 'z') := by
  have halpha : c.isAlpha = (c.isUpper || c.isLower) := rfl
  have hupper : c.isUpper = decide ('A' ≤ c ∧ c ≤ 'Z') := rfl
  have hlower : c.isLower = (decide ('a' ≤ c) && decide (c ≤ 'z')) := rfl
  rw [halpha, hupper, hlower]
  simp

theorem isAlphanum_iff {c : Char} :
    c.isAlphanum = true ↔ (('A' ≤ c ∧ c ≤ 'Z') ∨ ('a' ≤ c ∧ c ≤ 'z')) ∨ ('0' ≤ c ∧ c ≤ '9') := by
  rw [Char.isAlphanum, Bool.or_eq_true, isAlpha_iff]
  simp [Char.isDigit, Char.le_def]

/-! ## The three brackets -/

theorem user_iff {c : Char} : Pattern.InRanges [('A', 'Z'), ('0', '9'), ('a', 'z'), ('.', '.'), ('_', '_'), ('%', '%'), ('+', '+'),
    ('-', '-')] c ↔ (c.isAlphanum || c ∈ ['.', '_', '%', '+', '-']) = true := by
  rw [Bool.or_eq_true, isAlphanum_iff, decide_eq_true_eq]
  simp only [inRanges_cons (a := 'A'), inRanges_cons (a := '0'), inRanges_cons (a := 'a'), inRanges_self, not_inRanges_nil,
    List.mem_cons, List.not_mem_nil, or_false]
  tauto

theorem host_iff {c : Char} : Pattern.InRanges [('A', 'Z'), ('a', 'z'), ('0', '9'), ('.', '.'), ('-', '-')] c ↔
    (c.isAlphanum || c ∈ ['.', '-']) = true := by
  rw [Bool.or_eq_true, isAlphanum_iff, decide_eq_true_eq]
  simp only [inRanges_cons (a := 'A'), inRanges_cons (a := '0'), inRanges_cons (a := 'a'), inRanges_self, not_inRanges_nil,
    List.mem_cons, List.not_mem_nil, or_false, or_assoc]

theorem tld_iff {c : Char} : Pattern.InRanges [('A', 'Z'), ('a', 'z')] c ↔ c.isAlpha = true := by
  rw [isAlpha_iff, inRanges_cons, inRanges_cons]
  simp only [not_inRanges_nil, or_false]

/-- What matches: a user of the first bracket before an `@`, a host of the second, and behind a `.` letters of the third. -/
theorem mem_emailRegEx {w : List Char} : w ∈ emailRegEx.language ↔ ∃ user host tld : List Char,
    w = user ++ '@' :: (host ++ '.' :: tld) ∧
      (user ≠ [] ∧ ∀ c ∈ user, (c.isAlphanum || c ∈ ['.', '_', '%', '+', '-']) = true) ∧
      (host ≠ [] ∧ ∀ c ∈ host, (c.isAlphanum || c ∈ ['.', '-']) = true) ∧
      (2 ≤ tld.length ∧ tld.length ≤ 64) ∧ ∀ c ∈ tld, c.isAlpha = true := by
  simp only [emailRegEx, Pattern.mem_seq_bracket, Pattern.mem_rep_bracket, user_iff, host_iff, tld_iff, inRanges_self,
    not_inRanges_nil, or_false, Nat.one_le_iff_ne_zero, ne_eq, List.length_eq_zero_iff, Option.mem_def, reduceCtorEq,
    Option.some.injEq]
  constructor
  · rintro ⟨user, ⟨huser, -, husers⟩, -, rfl, -, ⟨host, ⟨hhost, -, hhosts⟩, -, rfl, tld, ⟨hleast, hgreatest, htlds⟩, rfl⟩, rfl⟩
    exact ⟨user, host, tld, rfl, ⟨huser, husers⟩, ⟨hhost, hhosts⟩, ⟨hleast, hgreatest 64 rfl⟩, htlds⟩
  · rintro ⟨user, host, tld, rfl, ⟨huser, husers⟩, ⟨hhost, hhosts⟩, ⟨hleast, hgreatest⟩, htlds⟩
    exact ⟨user, ⟨huser, fun _ h => (by cases h), husers⟩, _, rfl, _, ⟨host, ⟨hhost, fun _ h => (by cases h), hhosts⟩, _, rfl, tld,
      ⟨hleast, fun m h => (by cases h; exact hgreatest), htlds⟩, rfl⟩, rfl⟩

/-- **`isValidEmail` takes the addresses that match**, cut at the first `@` and the last `.`. -/
theorem isValidEmail_iff_matches (email : String) : isValidEmail email = true ↔ email.toList ∈ emailRegEx.language := by
  rw [mem_emailRegEx]
  generalize hw : email.toList = w
  have hcut : isValidEmail email = true ↔ ∃ user domain host tld : List Char,
      user = w.takeWhile (· ≠ '@') ∧ domain = (w.drop (user.length + 1)).reverse ∧
      tld = domain.takeWhile (· ≠ '.') ∧ host = domain.drop (tld.length + 1) ∧
      (user ≠ [] ∧ ∀ c ∈ user, (c.isAlphanum || c ∈ ['.', '_', '%', '+', '-']) = true) ∧
      (host ≠ [] ∧ ∀ c ∈ host, (c.isAlphanum || c ∈ ['.', '-']) = true) ∧
      (2 ≤ tld.length ∧ tld.length ≤ 64) ∧ ∀ c ∈ tld, c.isAlpha = true := by
    simp only [isValidEmail, hw, Bool.and_eq_true, decide_eq_true_eq, List.all_eq_true, and_assoc]
    constructor
    · exact fun h => ⟨_, _, _, _, rfl, rfl, rfl, rfl, h⟩
    · rintro ⟨-, -, -, -, rfl, rfl, rfl, rfl, h⟩
      exact h
  rw [hcut]
  constructor
  · rintro ⟨user, domain, host, tld, huser, hdomain, htld, hhost, husers, hhosts, hlength, htlds⟩
    have hdot : '.' ∈ domain := Pattern.mem_of_drop_ne_nil (by rw [← htld, ← hhost]; exact hhosts.1)
    have hat : '@' ∈ w := Pattern.mem_of_drop_ne_nil (by
      rw [← huser]
      intro hnil
      rw [hdomain, hnil] at hdot
      cases hdot)
    obtain ⟨hsplit, -⟩ := Pattern.split_iff.2 ⟨hat, huser, rfl⟩
    obtain ⟨hsplit', -⟩ := Pattern.split_iff.2 ⟨hdot, htld, hhost⟩
    refine ⟨user, host.reverse, tld.reverse, ?_, husers, ⟨by simpa using hhosts.1, fun c hc => hhosts.2 c (by simpa using hc)⟩,
      by simpa using hlength, fun c hc => htlds c (by simpa using hc)⟩
    rw [← List.reverse_eq_iff, hsplit'] at hdomain
    rw [hsplit, ← hdomain]
    simp
  · rintro ⟨user, host, tld, hsplit, husers, hhosts, hlength, htlds⟩
    have hat : '@' ∉ user := fun hc => absurd (husers.2 _ hc) (by decide)
    have hdot : '.' ∉ tld.reverse := fun hc => absurd (htlds _ (by simpa using hc)) (by decide)
    obtain ⟨-, huser, hdomain⟩ := Pattern.split_iff.1 ⟨hsplit, hat⟩
    have hreverse : (host ++ '.' :: tld).reverse = tld.reverse ++ '.' :: host.reverse := by simp
    obtain ⟨-, htld, hhost⟩ := Pattern.split_iff.1 ⟨hreverse, hdot⟩
    refine ⟨user, _, host.reverse, tld.reverse, huser, by rw [← hdomain], htld, hhost, husers,
      ⟨by simpa using hhosts.1, fun c hc => hhosts.2 c (by simpa using hc)⟩, by simpa using hlength,
      fun c hc => htlds c (by simpa using hc)⟩

end Traveller
