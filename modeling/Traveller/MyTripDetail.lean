import Traveller.DecimalText
import Traveller.SessionApi
import Traveller.TripItems
/-!
# MyTripDetail — a trip shown and updated

The screen writes the weight and the price of a trip into its fields and reads them again when the trip is updated.  They are
written with a point, in every country, and read with the separator of the device; what cannot be read counts as zero.  A trip
that is updated untouched keeps its weight exactly on a device that has a point, or where it had none
(`update_changes_nothing_iff`).
-/
namespace Traveller

/-- `Float`, of which the screen sees how a value is written and what value a number is rounded to: the text of a value gives it
back.  Zero is one value, as it is for `==`. -/
structure Floats where
  Value : Type
  zero : Value
  description : Value → String
  floatValue : Rat → Value
  floatValue_description : ∀ x r, DecimalText.read '.' (description x).toList = some r → floatValue r = x

/-- A trip of the server, field by field as SwiftyJSON reads it. -/
structure TravelJson (F : Floats) where
  travelId : Int
  weight : F.Value
  price : Int
  items : String
  des : String

/-- `TravelModel`, with what the screen reads of it. -/
structure TravelModel (F : Floats) where
  travelId : Int
  weight : Option F.Value
  price : Option Int
  items : Option (List String)
  des : Option String

/-- `init(_ json:)`. -/
def TravelModel.ofJson (U : Characters) {F : Floats} (json : TravelJson F) : TravelModel F where
  travelId := json.travelId
  weight := some json.weight
  price := some json.price
  items := some (decodeItems U json.items)
  des := some json.des

/-! ## The screen -/

structure MyTripDetail (F : Floats) where
  one : TravelModel F
  edtWeight : String
  edtPrice : String
  checkBoxs : List Bool
  txvFromTraveler : String

/-- A call of `updateMyTrips`. -/
structure UpdateMyTrips (F : Floats) where
  travelId : Int
  weight : F.Value
  price : Int
  items : String
  des : String

namespace MyTripDetail
variable {F : Floats}

def setUI (U : Characters) (one : TravelModel F) : MyTripDetail F where
  one := one
  edtWeight := F.description (one.weight.getD F.zero)
  edtPrice := toString (one.price.getD 0)
  checkBoxs := showItems U Constants.items (one.items.getD [])
  txvFromTraveler := one.des.getD ""

section
variable (sep : Char)

/-- `toInt`: `intValue` drops what is behind the separator. -/
def toInt (s : String) : Option Int := (DecimalText.read sep s.toList).map fun r => r.num.tdiv r.den

def toFloat (F : Floats) (s : String) : Option F.Value := (DecimalText.read sep s.toList).map F.floatValue

/-- The call `upateTripBtnClicked` makes, on a device with the decimal separator `sep`. -/
def upateTripBtnClicked (s : MyTripDetail F) : Option (UpdateMyTrips F) :=
  if s.edtWeight = "" then none
  else if s.edtPrice = "" then none
  else if selectedItems Constants.items s.checkBoxs = [] then none
  else some
    { travelId := s.one.travelId
      weight := (toFloat sep F s.edtWeight).getD F.zero
      price := (toInt sep s.edtPrice).getD 0
      items := joinedItems Constants.items s.checkBoxs
      des := s.txvFromTraveler }

/-- **The screen feeds the app**: it makes its call where the app sends the texts it was made from. -/
theorem sends_upateTripBtnClicked (a : App) (s : MyTripDetail F) :
    a.sends (.upateTripBtnClicked s.one.travelId s.edtWeight s.edtPrice (selectedItems Constants.items s.checkBoxs)
        s.txvFromTraveler) =
      (s.upateTripBtnClicked sep).map fun q => .updateMyTrips a.session.thisuser.userId q.travelId s.edtWeight s.edtPrice
        (selectedItems Constants.items s.checkBoxs) q.des := by
  simp only [App.sends, upateTripBtnClicked, Bool.or_eq_true, decide_eq_true_eq, List.isEmpty_iff, ite_or,
    apply_ite (Option.map _), Option.map_none, Option.map_some]

/-! ## An update without changes -/

/-- **Opened and updated, the trip is sent as it is**: with the same weight, price and description, and with its items. -/
def UpdatesSame (U : Characters) (one : TravelModel F) : Prop :=
  ∃ q, (setUI U one).upateTripBtnClicked sep = some q ∧ q.travelId = one.travelId ∧ some q.weight = one.weight ∧
    some q.price = one.price ∧ (∀ item, item ∈ decodeItems U q.items ↔ item ∈ one.items.getD []) ∧ some q.des = one.des

variable {sep}

/-- **A price is read as it was written.** -/
theorem toInt_toString (n : Int) : toInt sep (toString n) = some n := by
  rw [toInt, DecimalText.read_toString, Option.map_some]
  simp

theorem toFloat_description {weight : F.Value} (h : DecimalText.IsPlain (F.description weight).toList) :
    toFloat sep F (F.description weight) = if sep = '.' then some weight else none := by
  by_cases hsep : sep = '.'
  · subst hsep
    obtain ⟨r, hr⟩ := h.read_point
    rw [toFloat, hr, Option.map_some, F.floatValue_description weight r hr, if_pos rfl]
  · rw [toFloat, h.read_eq_none hsep, Option.map_none, if_neg hsep]

theorem upateTripBtnClicked_setUI (U : Characters) {json : TravelJson F}
    (hplain : DecimalText.IsPlain (F.description json.weight).toList)
    (hitems : ∀ item ∈ decodeItems U json.items, item ∈ Constants.items) :
    (setUI U (.ofJson U json)).upateTripBtnClicked sep =
      if decodeItems U json.items = [] then none
      else some
        { travelId := json.travelId
          weight := if sep = '.' then json.weight else F.zero
          price := json.price
          items := joinedItems Constants.items (showItems U Constants.items (decodeItems U json.items))
          des := json.des } := by
  have hweight : F.description json.weight ≠ "" := fun h => hplain.ne_nil (by rw [h]; rfl)
  have hprice : toString json.price ≠ "" := DecimalText.toString_ne_empty json.price
  have hnil : selectedItems Constants.items (showItems U Constants.items (decodeItems U json.items)) = [] ↔
      decodeItems U json.items = [] := by
    simp only [List.eq_nil_iff_forall_not_mem, mem_selectedItems_showItems (labelTable_items U).distinct hitems]
  simp only [upateTripBtnClicked, setUI, TravelModel.ofJson, Option.getD_some, if_neg hweight, if_neg hprice, hnil,
    toInt_toString, toFloat_description hplain]
  by_cases hsep : sep = '.' <;> simp only [hsep, if_true, if_false, Option.getD_some, Option.getD_none]

end

/-- **An update without changes changes nothing exactly where the trip has an item and the device a decimal point**, or the trip
no weight. -/
theorem update_changes_nothing_iff (U : Characters) (F : Floats) (sep : Char) (json : TravelJson F)
    (hplain : DecimalText.IsPlain (F.description json.weight).toList)
    (hitems : ∀ item ∈ decodeItems U json.items, item ∈ Constants.items) :
    UpdatesSame sep U (.ofJson U json) ↔ decodeItems U json.items ≠ [] ∧ (sep = '.' ∨ json.weight = F.zero) := by
  rw [UpdatesSame, upateTripBtnClicked_setUI U hplain hitems]
  by_cases hnil : decodeItems U json.items = []
  · simp [hnil]
  have hsame : ∀ item, item ∈ decodeItems U (joinedItems Constants.items (showItems U Constants.items
      (decodeItems U json.items))) ↔ item ∈ decodeItems U json.items := fun item => by
    rw [(labelTable_items U).decodeItems_joinedItems (commaApart_items U), mem_selectedItems_showItems (labelTable_items U).distinct hitems]
  rw [if_neg hnil]
  constructor
  · rintro ⟨q, hq, -, hweight, -⟩
    obtain rfl := Option.some.inj hq
    refine ⟨hnil, or_iff_not_imp_left.2 fun hsep => ?_⟩
    simpa [TravelModel.ofJson, hsep] using hweight.symm
  · rintro ⟨-, hweight⟩
    refine ⟨_, rfl, rfl, ?_, rfl, hsame, rfl⟩
    by_cases hsep : sep = '.'
    · simp [TravelModel.ofJson, hsep]
    · simp [TravelModel.ofJson, hsep, hweight.resolve_left hsep]

/-! ## Tenths -/

def tenthsText (n : Nat) : String := toString (n / 10) ++ "." ++ toString (n % 10)

theorem toList_tenthsText (n : Nat) :
    (tenthsText n).toList = Nat.toDigits 10 (n / 10) ++ '.' :: Nat.toDigits 10 (n % 10) := by simp [tenthsText]

theorem read_tenthsText (n : Nat) : DecimalText.read '.' (tenthsText n).toList = some ((n : Rat) / 10) := by
  have hlen : (Nat.toDigits 10 (n % 10)).length = 1 := by
    rw [Nat.toDigits_of_lt_base (Nat.mod_lt n (by decide))]
    rfl
  have hsum : (10 : Rat) * (n / 10 : Nat) + (n % 10 : Nat) = n := by exact_mod_cast Nat.div_add_mod n 10
  rw [toList_tenthsText, DecimalText.read_of_digits (DecimalText.all_isDigit_toDigits _) Nat.toDigits_ne_nil,
    DecimalText.readUnsigned_fraction (DecimalText.all_isDigit_toDigits _) (DecimalText.all_isDigit_toDigits _)
      Nat.toDigits_ne_nil (by decide), hlen,
    Nat.ofDigitChars_ten_toDigits, Nat.ofDigitChars_ten_toDigits, ← hsum]
  congr 1
  grind

/-- Weights in tenths, written with one digit behind the point. -/
def tenths : Floats where
  Value := Nat
  zero := (0 : Nat)
  description := tenthsText
  floatValue r := (10 * r).floor.toNat
  floatValue_description n r hr := by
    rw [read_tenthsText] at hr
    obtain rfl := Option.some.inj hr
    have hten : (10 : Rat) * (n / 10) = ((n : Int) : Rat) := by
      rw [Int.cast_natCast]
      grind
    rw [hten, Rat.floor_intCast, Int.toNat_natCast]

theorem isPlain_tenths (n : Nat) : DecimalText.IsPlain (tenths.description n).toList :=
  ⟨_, _, Nat.toDigits_ne_nil, Nat.toDigits_ne_nil, DecimalText.all_isDigit_toDigits _,
    DecimalText.all_isDigit_toDigits _, .inl (toList_tenthsText n)⟩

/-- A trip with food, of five and a half kilos. -/
def food : TravelJson tenths := { travelId := 7, weight := (55 : Nat), price := 20, items := "Food", des := "no glass" }

theorem update_changes_nothing_food :
    UpdatesSame '.' .basic (.ofJson .basic food) ↔
      decodeItems .basic food.items ≠ [] ∧ ('.' = '.' ∨ food.weight = tenths.zero) :=
  update_changes_nothing_iff .basic tenths '.' food (isPlain_tenths 55) (by decide)

/-- **On a device with a decimal comma the food weighs nothing when it has been updated.** -/
theorem food_loses_its_weight :
    DecimalText.IsPlain (tenths.description food.weight).toList ∧
      (∀ item ∈ decodeItems .basic food.items, item ∈ Constants.items) ∧
      ((setUI .basic (.ofJson .basic food)).upateTripBtnClicked ',').map UpdateMyTrips.weight = some tenths.zero ∧
      ¬ UpdatesSame ',' .basic (.ofJson .basic food) := by
  have hitems : ∀ item ∈ decodeItems .basic food.items, item ∈ Constants.items := by decide
  have hsent : (setUI .basic (.ofJson .basic food)).upateTripBtnClicked ',' = _ :=
    upateTripBtnClicked_setUI .basic (isPlain_tenths 55) hitems
  rw [if_neg (by decide : decodeItems .basic food.items ≠ [])] at hsent
  refine ⟨isPlain_tenths 55, hitems, by rw [hsent]; rfl, ?_⟩
  rintro ⟨q, hq, -, hweight, -⟩
  rw [hsent] at hq
  obtain rfl := Option.some.inj hq
  exact absurd (Option.some.inj hweight) (show ¬ (0 : Nat) = 55 by decide)

end MyTripDetail
end Traveller
