import Mathlib.Algebra.Order.Field.Basic
import Mathlib.Tactic.Common
/-!
# FitBox — the largest scale at which a rectangle fits a box

A rectangle of `w` by `h` is drawn in a box of `W` by `H`, never enlarged: `scale` is the largest factor up to one at which both
sides fit (`le_scale_iff`).  It is one exactly where the rectangle fits as it is, and else one side touches the box.
-/
namespace FitBox

variable {K : Type*} [Field K] [LinearOrder K]

def scale (w h W H : K) : K := min 1 (min (W / w) (H / h))

variable [IsStrictOrderedRing K] {w h W H s : K}

/-- **The scale is the largest that fits.** -/
theorem le_scale_iff (hw : 0 < w) (hh : 0 < h) : s ≤ scale w h W H ↔ s ≤ 1 ∧ s * w ≤ W ∧ s * h ≤ H := by
  rw [scale, le_min_iff, le_min_iff, le_div_iff₀ hw, le_div_iff₀ hh]

theorem scale_fits (hw : 0 < w) (hh : 0 < h) : scale w h W H ≤ 1 ∧ scale w h W H * w ≤ W ∧ scale w h W H * h ≤ H :=
  (le_scale_iff hw hh).1 le_rfl

theorem scale_eq_one_iff (hw : 0 < w) (hh : 0 < h) : scale w h W H = 1 ↔ w ≤ W ∧ h ≤ H := by
  have hone : scale w h W H = 1 ↔ 1 ≤ scale w h W H := ⟨fun heq => heq.ge, fun hle => le_antisymm (scale_fits hw hh).1 hle⟩
  rw [hone, le_scale_iff hw hh, one_mul, one_mul, and_iff_right le_rfl]

omit [IsStrictOrderedRing K] in
/-- Where the rectangle is scaled, a side touches the box. -/
theorem scale_touches (hw : 0 < w) (hh : 0 < h) (hne : scale w h W H ≠ 1) :
    scale w h W H * w = W ∨ scale w h W H * h = H := by
  have hlt : min (W / w) (H / h) < 1 := by
    by_contra hge
    exact hne (min_eq_left (not_lt.1 hge))
  rw [scale, min_eq_right hlt.le]
  rcases min_choice (W / w) (H / h) with hmin | hmin <;> rw [hmin]
  · exact .inl (div_mul_cancel₀ W hw.ne')
  · exact .inr (div_mul_cancel₀ H hh.ne')

/-- A relatively taller rectangle that does not fit is scaled by its height. -/
theorem scale_eq_height (hw : 0 < w) (hh : 0 < h) (hratio : w * H ≤ W * h) (hlarge : H < h ∨ W < w) : scale w h W H = H / h := by
  have hle : H / h ≤ W / w := by
    rw [div_le_div_iff₀ hh hw, mul_comm H w]
    exact hratio
  have hone : H / h ≤ 1 := by
    rcases hlarge with hlarge | hlarge
    · exact ((div_lt_one hh).2 hlarge).le
    · exact hle.trans ((div_lt_one hw).2 hlarge).le
  rw [scale, min_eq_right hle, min_eq_right hone]

/-- A relatively wider one is scaled by its width. -/
theorem scale_eq_width (hw : 0 < w) (hh : 0 < h) (hratio : W * h ≤ w * H) (hlarge : H < h ∨ W < w) : scale w h W H = W / w := by
  have hcomm : scale w h W H = scale h w H W := by rw [scale, scale, min_comm (W / w)]
  rw [hcomm]
  exact scale_eq_height hh hw (by rwa [mul_comm h, mul_comm H]) hlarge.symm

end FitBox
