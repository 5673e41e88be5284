import Mathlib.Data.Nat.Bits
import Mathlib.Logic.Function.Basic
import Traveller.Runs
import Traveller.TripItems
/-!
# ItemChecks — the check boxes of a new trip and the flags behind them

`NewTripVC` keeps a flag for each box.  A handler inverts the flag and shows it in the box; the select-all handler and an
appearance of the screen write the boxes and leave the flags.  So a tap flips the box it is on exactly if the flag has come to
agree with it: where the box was last written by its own handler, or the taps counted so far happen to have the same parity
(`taps_flip_iff`).
-/
namespace Traveller

theorem mem_checkBoxs (box : ItemBox) : box ∈ checkBoxs := by cases box <;> decide

theorem ItemBox.label_injective : Function.Injective ItemBox.label := by
  intro box box' h
  cases box <;> cases box' <;> first | rfl | exact absurd h (by decide)

/-- `NewTripVC`, with its boxes and their flags. -/
structure NewTripChecks where
  isCheck : ItemBox → Bool := fun _ => false
  isSelectall : Bool := false
  checkBox : ItemBox → Bool := fun _ => false
  cusSelectall : Bool := false

namespace NewTripChecks
variable (s : NewTripChecks)

def setCheckBox (checkbox : ItemBox) (checked : Bool) : NewTripChecks :=
  { s with checkBox := Function.update s.checkBox checkbox checked }

/-- The loop over `check_boxs`. -/
def setCheckBoxs (checked : Bool) : NewTripChecks := checkBoxs.foldl (fun s checkbox => s.setCheckBox checkbox checked) s

/-- `setUI` and `setSelectAllCheck`. -/
def viewWillAppear : NewTripChecks := { s.setCheckBoxs false with cusSelectall := false }

def checkallBtnClicked : NewTripChecks :=
  { s with isSelectall := !s.isSelectall, cusSelectall := !s.isSelectall }.setCheckBoxs (!s.isSelectall)

/-- The body of the twelve handlers. -/
def itemBtnClicked (item : ItemBox) : NewTripChecks :=
  { s with isCheck := Function.update s.isCheck item (!s.isCheck item) }.setCheckBox item (!s.isCheck item)

def docBtnClicked : NewTripChecks := s.itemBtnClicked .document
def medicineBtnClicked : NewTripChecks := s.itemBtnClicked .medicine
def makeupBtnClicked : NewTripChecks := s.itemBtnClicked .makeup
def moneyBtnClicked : NewTripChecks := s.itemBtnClicked .money
def foodBtnClicked : NewTripChecks := s.itemBtnClicked .food
def mobileBtnClicked : NewTripChecks := s.itemBtnClicked .mobile
def laptopBtnClicked : NewTripChecks := s.itemBtnClicked .laptop
def electronicsBtnClicked : NewTripChecks := s.itemBtnClicked .electroinics
def booksBtnClicked : NewTripChecks := s.itemBtnClicked .books
def toysBtnClicked : NewTripChecks := s.itemBtnClicked .toys
def clothesBtnClicked : NewTripChecks := s.itemBtnClicked .clothes
def shoesBtnClicked : NewTripChecks := s.itemBtnClicked .shoes

/-- The handler of an item's button. -/
def btnClicked : ItemBox → NewTripChecks
  | .document => s.docBtnClicked
  | .medicine => s.medicineBtnClicked
  | .makeup => s.makeupBtnClicked
  | .money => s.moneyBtnClicked
  | .food => s.foodBtnClicked
  | .mobile => s.mobileBtnClicked
  | .laptop => s.laptopBtnClicked
  | .electroinics => s.electronicsBtnClicked
  | .books => s.booksBtnClicked
  | .toys => s.toysBtnClicked
  | .clothes => s.clothesBtnClicked
  | .shoes => s.shoesBtnClicked

theorem btnClicked_eq (item : ItemBox) : s.btnClicked item = s.itemBtnClicked item := by cases item <;> rfl

theorem setCheckBoxs_eq (checked : Bool) : s.setCheckBoxs checked = { s with checkBox := fun _ => checked } := by
  have hboxes : ∀ (boxes : List ItemBox) (t : NewTripChecks), boxes.foldl (fun s box => s.setCheckBox box checked) t =
      { t with checkBox := fun box => if box ∈ boxes then checked else t.checkBox box } := by
    intro boxes
    induction boxes with
    | nil => simp
    | cons box boxes ih =>
      intro t
      rw [List.foldl_cons, ih]
      congr 1
      funext other
      by_cases hother : other = box <;> simp [setCheckBox, hother]
  rw [setCheckBoxs, hboxes]
  simp [mem_checkBoxs]

theorem viewWillAppear_eq : s.viewWillAppear = { s with checkBox := fun _ => false, cusSelectall := false } := by
  rw [viewWillAppear, setCheckBoxs_eq]

theorem checkallBtnClicked_eq : s.checkallBtnClicked =
    { s with isSelectall := !s.isSelectall, cusSelectall := !s.isSelectall, checkBox := fun _ => !s.isSelectall } := by
  rw [checkallBtnClicked, setCheckBoxs_eq]

/-- What `saveBtnClicked` takes from the boxes. -/
def items : List String := selectedItems Constants.items (checkBoxs.map s.checkBox)

/-- **A trip is saved with the items whose boxes are on.** -/
theorem label_mem_items (item : ItemBox) : item.label ∈ s.items ↔ s.checkBox item = true := by
  rw [items, mem_selectedItems]
  simp only [items_eq_labels, List.getElem?_map, Option.map_eq_some_iff]
  constructor
  · rintro ⟨i, ⟨box, hbox, hon⟩, ⟨box', hbox', hlabel⟩⟩
    rw [hbox] at hbox'
    obtain rfl := Option.some.inj hbox'
    rwa [← ItemBox.label_injective hlabel]
  · intro hon
    obtain ⟨i, hi⟩ := List.mem_iff_getElem?.1 (mem_checkBoxs item)
    exact ⟨i, ⟨item, hi, hon⟩, ⟨item, hi, rfl⟩⟩

end NewTripChecks

/-! ## Taps -/

inductive CheckEvent where
  | viewWillAppear
  | checkallBtnClicked
  | btnClicked (item : ItemBox)
  deriving DecidableEq, Repr

namespace NewTripChecks

def step (s : NewTripChecks) : CheckEvent → NewTripChecks
  | .viewWillAppear => s.viewWillAppear
  | .checkallBtnClicked => s.checkallBtnClicked
  | .btnClicked item => s.btnClicked item

end NewTripChecks

/-- What a box was last written by, if anything: its own handler, the select-all handler or an appearance. -/
inductive BoxWriter where
  | own | all | appearance
  deriving DecidableEq, Repr

/-- The taps so far, and the last writer of each box. -/
structure CheckHistory where
  own : ItemBox → Nat := fun _ => 0
  all : Nat := 0
  writer : ItemBox → BoxWriter := fun _ => .own
  appeared : Bool := false

namespace CheckHistory

def note (h : CheckHistory) (_ : NewTripChecks) : CheckEvent → CheckHistory
  | .viewWillAppear => { h with writer := fun _ => .appearance, appeared := true }
  | .checkallBtnClicked => { h with all := h.all + 1, writer := fun _ => .all, appeared := false }
  | .btnClicked item =>
    { h with own := Function.update h.own item (h.own item + 1), writer := Function.update h.writer item .own }

/-- The select-all button has been tapped an even number of times, if the screen has appeared since. -/
def AllInStep (h : CheckHistory) : Prop := h.appeared = true → h.all.bodd = false

/-- A box written by select-all has been tapped as often as all boxes together, up to an even number; one cleared by an appearance
an even number of times. -/
def ItemInStep (h : CheckHistory) (item : ItemBox) : Prop :=
  match h.writer item with
  | .own => True
  | .all => (h.own item).bodd = h.all.bodd
  | .appearance => (h.own item).bodd = false

/-- What a box shows. -/
def shown (h : CheckHistory) (item : ItemBox) : Bool :=
  match h.writer item with
  | .own => (h.own item).bodd
  | .all => h.all.bodd
  | .appearance => false

end CheckHistory

namespace NewTripChecks

abbrev noting : NewTripChecks × CheckHistory → CheckEvent → NewTripChecks × CheckHistory :=
  Runs.noting step CheckHistory.note

/-- **A tap flips what it is on**: the flag its handler inverts is what the box shows, the tapped box alone is inverted, and
select-all sets every box to the inverse of what its own shows. -/
def Flips (y : NewTripChecks × CheckHistory) (e : CheckEvent) : Prop :=
  match e with
  | .viewWillAppear => True
  | .checkallBtnClicked => y.1.isSelectall = y.1.cusSelectall ∧ ∀ item, (y.1.step e).checkBox item = !y.1.cusSelectall
  | .btnClicked item => y.1.isCheck item = y.1.checkBox item ∧ y.1.isSelectall = y.1.cusSelectall ∧
      (y.1.step e).checkBox = Function.update y.1.checkBox item (!y.1.checkBox item)

/-- The taps so far are in step with the boxes. -/
def InStep (y : NewTripChecks × CheckHistory) : CheckEvent → Prop
  | .viewWillAppear => True
  | .checkallBtnClicked => y.2.AllInStep
  | .btnClicked item => y.2.ItemInStep item ∧ y.2.AllInStep

/-- Flags and boxes, as the history tells them. -/
structure Inv (y : NewTripChecks × CheckHistory) : Prop where
  isCheck : ∀ item, y.1.isCheck item = (y.2.own item).bodd
  isSelectall : y.1.isSelectall = y.2.all.bodd
  checkBox : ∀ item, y.1.checkBox item = y.2.shown item
  cusSelectall : y.1.cusSelectall = (!y.2.appeared && y.2.all.bodd)

theorem Inv.step {y : NewTripChecks × CheckHistory} (h : Inv y) (e : CheckEvent) : Inv (noting y e) := by
  obtain ⟨hflag, hselect, hbox, hcus⟩ := h
  cases e with
  | viewWillAppear =>
    constructor <;>
      simp [NewTripChecks.step, viewWillAppear_eq, CheckHistory.note, CheckHistory.shown, hflag, hselect]
  | checkallBtnClicked =>
    constructor <;>
      simp [NewTripChecks.step, checkallBtnClicked_eq, CheckHistory.note, CheckHistory.shown, hflag, hselect]
  | btnClicked tapped =>
    have hupdate : ∀ item, Function.update y.1.isCheck tapped (!y.1.isCheck tapped) item =
        (Function.update y.2.own tapped (y.2.own tapped + 1) item).bodd := fun item => by
      by_cases hitem : item = tapped <;> simp [hitem, hflag]
    constructor
    · simpa [NewTripChecks.step, btnClicked_eq, itemBtnClicked, setCheckBox, CheckHistory.note] using hupdate
    · simpa [NewTripChecks.step, btnClicked_eq, itemBtnClicked, setCheckBox, CheckHistory.note] using hselect
    · intro item
      by_cases hitem : item = tapped
      · subst hitem
        simp [NewTripChecks.step, btnClicked_eq, itemBtnClicked, setCheckBox, CheckHistory.note, CheckHistory.shown, hflag]
      · simpa [NewTripChecks.step, btnClicked_eq, itemBtnClicked, setCheckBox, CheckHistory.note, CheckHistory.shown, hitem]
          using hbox item
    · simpa [NewTripChecks.step, btnClicked_eq, itemBtnClicked, setCheckBox, CheckHistory.note] using hcus

/-- The flag of an item agrees with its box exactly if the taps are in step. -/
theorem Inv.isCheck_eq_iff {y : NewTripChecks × CheckHistory} (h : Inv y) (item : ItemBox) :
    y.1.isCheck item = y.1.checkBox item ↔ y.2.ItemInStep item := by
  rw [h.isCheck, h.checkBox, CheckHistory.ItemInStep, CheckHistory.shown]
  cases y.2.writer item <;> simp

theorem Inv.isSelectall_eq_iff {y : NewTripChecks × CheckHistory} (h : Inv y) :
    y.1.isSelectall = y.1.cusSelectall ↔ y.2.AllInStep := by
  rw [h.isSelectall, h.cusSelectall, CheckHistory.AllInStep]
  cases y.2.appeared <;> simp

theorem Inv.flips_iff {y : NewTripChecks × CheckHistory} (h : Inv y) (e : CheckEvent) : Flips y e ↔ InStep y e := by
  cases e with
  | viewWillAppear => exact Iff.rfl
  | checkallBtnClicked =>
    rw [Flips, InStep, ← h.isSelectall_eq_iff]
    refine and_iff_left_of_imp fun hsame item => ?_
    simp [NewTripChecks.step, checkallBtnClicked_eq, hsame]
  | btnClicked item =>
    rw [Flips, InStep, ← h.isCheck_eq_iff, ← h.isSelectall_eq_iff, ← and_assoc]
    refine and_iff_left_of_imp fun hsame => ?_
    simp [NewTripChecks.step, btnClicked_eq, itemBtnClicked, setCheckBox, hsame.1]

/-- **Every tap flips what it is on exactly in the runs whose taps are in step.** -/
theorem taps_flip_iff (es : List CheckEvent) :
    Runs.AllSteps noting Flips ({}, {}) es ↔ Runs.AllSteps noting InStep ({}, {}) es := by
  have hinit : Inv ({}, {}) := by constructor <;> simp [CheckHistory.shown]
  exact Runs.allSteps_congr Inv (fun _ e h => h.step e) (fun _ e h => h.flips_iff e) hinit

/-- **The first tap after select-all does nothing**: the box of the documents stays on. -/
theorem tap_after_select_all :
    (Runs.run step {} [.viewWillAppear, .checkallBtnClicked, .btnClicked .document]).checkBox .document = true ∧
      ¬ Runs.AllSteps noting Flips ({}, {}) [.viewWillAppear, .checkallBtnClicked, .btnClicked .document] := by
  refine ⟨by decide, ?_⟩
  rintro ⟨-, -, ⟨hflag, -⟩, -⟩
  exact absurd hflag (by decide)

end NewTripChecks
end Traveller
