import Mathlib.Algebra.Order.Ring.Rat
import Mathlib.Algebra.Field.Rat
import Traveller.FitBox
/-!
# ImageSizes — how large an image is drawn

`resize` and its copies draw an image into a context whose size they compute from the image's and the bounds.  The size is the
image's at the largest scale that fits the bounds (`drawnSize_eq_scale`), from which it follows that the image fits them and is
neither distorted nor enlarged (`resize_fits`).
-/
namespace Traveller

/-- `CGSize`, in exact arithmetic. -/
structure CGSize where
  width : Rat
  height : Rat
  deriving DecidableEq, Repr

/-- The size of `rect`, as all four functions compute it. -/
def drawnSize (size : CGSize) (maxHeight maxWidth : Rat) : CGSize :=
  let imgRatio := size.width / size.height
  let maxRatio := maxWidth / maxHeight
  if size.height > maxHeight ∨ size.width > maxWidth then
    if imgRatio < maxRatio then { width := maxHeight / size.height * size.width, height := maxHeight }
    else if imgRatio > maxRatio then { width := maxWidth, height := maxWidth / size.width * size.height }
    else { width := maxWidth, height := maxHeight }
  else size

def resize (size : CGSize) (maxHeight : Rat := 4000) (maxWidth : Rat := 4000) : CGSize := drawnSize size maxHeight maxWidth

def resizeImage (size : CGSize) (maxHeight : Rat := 4000) (maxWidth : Rat := 4000) : CGSize :=
  drawnSize size maxHeight maxWidth

def resizeImag1 (size : CGSize) (maxHeight : Rat := 500) (maxWidth : Rat := 500) : CGSize := drawnSize size maxHeight maxWidth

def resizeImage4Normalization (size : CGSize) (maxHeight : Rat := 4000) (maxWidth : Rat := 4000) : CGSize :=
  drawnSize size maxHeight maxWidth

/-- **An image drawn in a box**: inside it, undistorted, not enlarged, as it is where it fits, and else touching a side. -/
structure FitsBox (size drawn : CGSize) (maxHeight maxWidth : Rat) : Prop where
  width_le_max : drawn.width ≤ maxWidth
  height_le_max : drawn.height ≤ maxHeight
  undistorted : drawn.width * size.height = size.width * drawn.height
  width_le : drawn.width ≤ size.width
  height_le : drawn.height ≤ size.height
  eq_of_fits : size.width ≤ maxWidth → size.height ≤ maxHeight → drawn = size
  touches : ¬ (size.width ≤ maxWidth ∧ size.height ≤ maxHeight) → drawn.width = maxWidth ∨ drawn.height = maxHeight

section
variable {size : CGSize} {maxHeight maxWidth : Rat}

/-- **The image is drawn at the largest scale that fits**: in each branch the side that is set is the one that decides. -/
theorem drawnSize_eq_scale (hw : 0 < size.width) (hh : 0 < size.height) (hH : 0 < maxHeight) :
    drawnSize size maxHeight maxWidth =
      { width := FitBox.scale size.width size.height maxWidth maxHeight * size.width
        height := FitBox.scale size.width size.height maxWidth maxHeight * size.height } := by
  unfold drawnSize
  simp only [gt_iff_lt, div_lt_div_iff₀ hh hH, div_lt_div_iff₀ hH hh]
  split
  · rename_i hlarge
    split
    · rename_i hratio
      rw [FitBox.scale_eq_height hw hh hratio.le hlarge, div_mul_cancel₀ _ hh.ne']
    · split
      · rename_i hratio
        rw [FitBox.scale_eq_width hw hh hratio.le hlarge, div_mul_cancel₀ _ hw.ne']
      · rename_i hge hle
        have hratio : size.width * maxHeight = maxWidth * size.height := le_antisymm (not_lt.1 hle) (not_lt.1 hge)
        have hsame := (FitBox.scale_eq_height hw hh hratio.le hlarge).symm.trans (FitBox.scale_eq_width hw hh hratio.ge hlarge)
        rw [FitBox.scale_eq_height hw hh hratio.le hlarge, div_mul_cancel₀ _ hh.ne', hsame, div_mul_cancel₀ _ hw.ne']
  · rename_i hsmall
    have hone : FitBox.scale size.width size.height maxWidth maxHeight = 1 :=
      (FitBox.scale_eq_one_iff hw hh).2 ⟨not_lt.1 fun h => hsmall (.inr h), not_lt.1 fun h => hsmall (.inl h)⟩
    rw [hone, one_mul, one_mul]

theorem fitsBox_drawnSize (hw : 0 < size.width) (hh : 0 < size.height) (hH : 0 < maxHeight) :
    FitsBox size (drawnSize size maxHeight maxWidth) maxHeight maxWidth := by
  rw [drawnSize_eq_scale hw hh hH]
  obtain ⟨hone, hwidth, hheight⟩ := FitBox.scale_fits (W := maxWidth) (H := maxHeight) hw hh
  exact
    { width_le_max := hwidth
      height_le_max := hheight
      undistorted := by rw [mul_comm _ size.width, mul_assoc]
      width_le := mul_le_of_le_one_left hw.le hone
      height_le := mul_le_of_le_one_left hh.le hone
      eq_of_fits := fun hW hH => by rw [(FitBox.scale_eq_one_iff hw hh).2 ⟨hW, hH⟩, one_mul, one_mul]
      touches := fun hlarge => FitBox.scale_touches hw hh (mt (FitBox.scale_eq_one_iff hw hh).1 hlarge) }

end

/-- **Resizing fits the box without distortion**, in each of the four copies. -/
theorem resize_fits (size : CGSize) (maxHeight maxWidth : Rat) (hw : 0 < size.width) (hh : 0 < size.height)
    (hH : 0 < maxHeight) :
    ∀ drawn ∈ [resize size maxHeight maxWidth, resizeImage size maxHeight maxWidth, resizeImag1 size maxHeight maxWidth,
      resizeImage4Normalization size maxHeight maxWidth], FitsBox size drawn maxHeight maxWidth := by
  have hfits : FitsBox size (drawnSize size maxHeight maxWidth) maxHeight maxWidth := fitsBox_drawnSize hw hh hH
  simpa [resize, resizeImage, resizeImag1, resizeImage4Normalization] using hfits

/-- A picture of 6000 by 3000 in the box of an upload. -/
theorem resize_fits_wide :
    (0 : Rat) < 6000 ∧ ∀ drawn ∈ [resize ⟨6000, 3000⟩ 4000 4000, resizeImage ⟨6000, 3000⟩ 4000 4000,
      resizeImag1 ⟨6000, 3000⟩ 4000 4000, resizeImage4Normalization ⟨6000, 3000⟩ 4000 4000],
      FitsBox ⟨6000, 3000⟩ drawn 4000 4000 :=
  ⟨by decide, resize_fits ⟨6000, 3000⟩ 4000 4000 (by decide) (by decide) (by decide)⟩

end Traveller
