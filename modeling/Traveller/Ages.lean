import Traveller.Calendar
import Traveller.DecimalText
import Traveller.Users
/-!
# Ages — the age on a user's page

`RateUserVC` prints the birthday with one date format and lets `getAgeFromString` read it with another.  A text of the first never
has the second, so that no birthday is read and no age is shown: the page is right exactly for a user who is not one year old
(`usercontent_shows_age_iff`).  Where the formats agree the age is the number of completed years (`getAgeFromString_of_read`,
`greenwich_shows_age`).
-/
namespace Traveller

/-- The fields of the program's date formats. -/
inductive DateField where
  | MMM | MM | dd | yyyy | HH | mm
  deriving DecidableEq, Repr

/-- A field, or a character that stands for itself. -/
inductive FormatPiece where
  | field (f : DateField)
  | text (c : Char)
  deriving DecidableEq, Repr

abbrev DateFormat := List FormatPiece

/-- `yyyy-MM-dd`. -/
def DateFormat.yearMonthDay : DateFormat :=
  [.field .yyyy, .text '-', .field .MM, .text '-', .field .dd]

/-- `MMM-dd-yyyy HH:mm`. -/
def DateFormat.monthDayYearTime : DateFormat :=
  [.field .MMM, .text '-', .field .dd, .text '-', .field .yyyy, .text ' ', .field .HH, .text ':', .field .mm]

/-- **A text has a format**: the name of a month stands in it for `MMM`, digits for every other field. -/
inductive HasFormat (digit : Char → Bool) (months : List (List Char)) : DateFormat → List Char → Prop where
  | nil : HasFormat digit months [] []
  | text {c format s} : HasFormat digit months format s → HasFormat digit months (.text c :: format) (c :: s)
  | month {name format s} : name ∈ months → HasFormat digit months format s →
      HasFormat digit months (.field .MMM :: format) (name ++ s)
  | number {f ds format s} : f ≠ .MMM → (∀ c ∈ ds, digit c = true) → HasFormat digit months format s →
      HasFormat digit months (.field f :: format) (ds ++ s)

/-- `DateFormatter` and `Calendar` of a device, with instants in milliseconds: what the program counts on is that a text without
the format is not read, and that a difference in years is that of the years which are over. -/
structure Foundation where
  digit : Char → Bool
  months : List (List Char)
  print : DateField → Int → List Char
  date : DateFormat → List Char → Option Int
  startOfDay : Int → Int
  yearsLater : Int → Int → Int
  years : Int → Int → Int
  digit_colon : digit ':' = false
  date_eq_none : ∀ format s, ¬ HasFormat digit months format s → date format s = none
  years_spec : ∀ t t', t ≤ t' → yearsLater t (years t t') ≤ t' ∧ t' < yearsLater t (years t t' + 1)

namespace Foundation
variable (F : Foundation)

def printPiece (t : Int) : FormatPiece → List Char
  | .field f => F.print f t
  | .text c => [c]

/-- `string(from:)`. -/
def string (format : DateFormat) (t : Int) : List Char := format.flatMap (F.printPiece t)

/-- A day is written in numbers, without a colon. -/
theorem colon_notMem {s : List Char} (h : HasFormat F.digit F.months .yearMonthDay s) : ':' ∉ s := by
  have hnumber : ∀ {ds : List Char}, (∀ c ∈ ds, F.digit c = true) → ':' ∉ ds := fun hds hmem => by
    have := hds ':' hmem
    rw [F.digit_colon] at this
    cases this
  cases h with
  | number _ hy h =>
  cases h with
  | text h =>
  cases h with
  | number _ hm h =>
  cases h with
  | text h =>
  cases h with
  | number _ hd h =>
  cases h
  simp [hnumber hy, hnumber hm, hnumber hd]

theorem colon_mem_string (t : Int) : ':' ∈ F.string .monthDayYearTime t := by
  simp [string, DateFormat.monthDayYearTime, printPiece]

end Foundation

/-! ## The page -/

section
variable (F : Foundation)

/-- `tstamp` is the text of a whole number wherever the program calls it. -/
def getStrDate (tstamp : Int) (format : DateFormat := .monthDayYearTime) : String := String.ofList (F.string format tstamp)

def getDateFromDateStringwithFormat (strDate : String) (format : DateFormat) : Option Int := F.date format strDate.toList

def getAgeFromString (now : Int) (dateStr : String) : String :=
  let age := match getDateFromDateStringwithFormat F dateStr .yearMonthDay with
    | some birthday => F.years birthday now
    | none => 0
  if age = 0 then "" else toString age

/-- `lbl_usercontent` as `RateUserVC.setUI` fills it. -/
def usercontent (now : Int) (user : UserModel) : String := getAgeFromString F now (getStrDate F (user.birthday.getD 0))

/-- **The age is shown**: the years completed since the day of the birthday, and nothing before one is over. -/
def ShowsAge (birthday now : Int) (text : String) : Prop :=
  if F.yearsLater birthday 1 ≤ now then text = toString (F.years (F.startOfDay birthday) now) else text = ""

/-- A birthday in the default format is not read. -/
theorem getAgeFromString_getStrDate (now birthday : Int) : getAgeFromString F now (getStrDate F birthday) = "" := by
  have hunread : F.date .yearMonthDay (F.string .monthDayYearTime birthday) = none :=
    F.date_eq_none _ _ fun h => F.colon_notMem h (F.colon_mem_string birthday)
  simp [getAgeFromString, getDateFromDateStringwithFormat, getStrDate, hunread]

/-- In its own format it is, and the age is right. -/
theorem getAgeFromString_of_read {now birthday : Int}
    (hread : F.date .yearMonthDay (F.string .yearMonthDay birthday) = some (F.startOfDay birthday)) :
    getAgeFromString F now (getStrDate F birthday .yearMonthDay) =
      if F.years (F.startOfDay birthday) now = 0 then "" else toString (F.years (F.startOfDay birthday) now) := by
  simp only [getAgeFromString, getDateFromDateStringwithFormat, getStrDate, String.toList_ofList, hread]

/-- **The page shows the age exactly of a user who is not one year old.** -/
theorem usercontent_shows_age_iff (now : Int) (user : UserModel) :
    ShowsAge F (user.birthday.getD 0) now (usercontent F now user) ↔ ¬ F.yearsLater (user.birthday.getD 0) 1 ≤ now := by
  rw [usercontent, getAgeFromString_getStrDate, ShowsAge]
  by_cases hyear : F.yearsLater (user.birthday.getD 0) 1 ≤ now
  · rw [if_pos hyear]
    exact iff_of_false (DecimalText.toString_ne_empty _).symm (not_not_intro hyear)
  · rw [if_neg hyear]
    exact iff_of_true rfl hyear

end

/-! ## A device in Greenwich -/

section
variable (digit : Char → Bool) (months : List (List Char))

/-- The fields of a text in a format, with their values. -/
def readFields : DateFormat → List Char → Option (List (DateField × Nat))
  | [], [] => some []
  | [], _ :: _ => none
  | .text c :: format, s =>
    match s with
    | [] => none
    | d :: s => if c = d then readFields format s else none
  | .field .MMM :: format, s => do
    let i ← months.findIdx? fun name => name.isPrefixOf s
    let fields ← readFields format (s.drop (months.getD i []).length)
    return (.MMM, i + 1) :: fields
  | .field f :: format, s => do
    let fields ← readFields format (s.dropWhile digit)
    return (f, Nat.ofDigitChars 10 (s.takeWhile digit) 0) :: fields

variable {digit months}

/-- **What is read has the format.** -/
theorem hasFormat_of_readFields {format : DateFormat} {s : List Char} {fields : List (DateField × Nat)}
    (h : readFields digit months format s = some fields) : HasFormat digit months format s := by
  fun_induction readFields digit months format s generalizing fields with
  | case1 => exact .nil
  | case2 => cases h
  | case3 => cases h
  | case4 format c s ih => exact .text (ih h)
  | case5 => cases h
  | case6 format s ih =>
    obtain ⟨i, hi, hrest⟩ := Option.bind_eq_some_iff.1 h
    obtain ⟨fields', hfields, -⟩ := Option.bind_eq_some_iff.1 hrest
    obtain ⟨hlt, hprefix, -⟩ := List.findIdx?_eq_some_iff_getElem.1 hi
    have hname : months.getD i [] = months[i] := by simp [hlt]
    have hformat := ih i hfields
    rw [hname] at hformat
    rw [← List.prefix_iff_eq_append.1 (List.isPrefixOf_iff_prefix.1 hprefix)]
    exact .month (List.getElem_mem hlt) hformat
  | case7 f format s hf ih =>
    obtain ⟨fields', hfields, -⟩ := Option.bind_eq_some_iff.1 h
    rw [← List.takeWhile_append_dropWhile (p := digit) (l := s)]
    exact .number hf (fun c hc => List.mem_takeWhile_imp hc) (ih hfields)

end

def monthNames : List (List Char) :=
  ["Jan", "Feb", "Mar", "Apr", "May", "Jun", "Jul", "Aug", "Sep", "Oct", "Nov", "Dec"].map String.toList

/-- At least so many digits. -/
def digits (width : Nat) (n : Int) : List Char :=
  let ds := Nat.toDigits 10 n.toNat
  List.replicate (width - ds.length) '0' ++ ds

/-- A device in Greenwich that writes the months in English. -/
def greenwich : Foundation where
  digit := Char.isDigit
  months := monthNames
  print f t :=
    let date := Calendar.civil (Calendar.dayOf t)
    match f with
    | .MMM => monthNames.getD (date.month - 1).toNat []
    | .MM => digits 2 date.month
    | .dd => digits 2 date.day
    | .yyyy => digits 4 date.year
    | .HH => digits 2 (Calendar.timeOf t / 3600000)
    | .mm => digits 2 (Calendar.timeOf t / 60000 % 60)
  date format s := do
    let fields ← readFields Char.isDigit monthNames format s
    let value (f : DateField) (missing : Nat) : Int := ((fields.lookup f).getD missing : Nat)
    let date : Calendar.Date :=
      { year := value .yyyy 2000, month := value .MM ((fields.lookup .MMM).getD 1), day := value .dd 1 }
    if 1 ≤ date.month ∧ date.month ≤ 12 ∧ 1 ≤ date.day ∧ date.day ≤ Calendar.monthLength date.year date.month then
      return Calendar.dayNumber date * 86400000 + value .HH 0 * 3600000 + value .mm 0 * 60000
    else none
  startOfDay t := Calendar.dayOf t * 86400000
  yearsLater := Calendar.yearsLater
  years t t' := if t ≤ t' then Calendar.completedYears t t' else -Calendar.completedYears t' t
  digit_colon := by decide
  date_eq_none format s h := by
    cases hread : readFields Char.isDigit monthNames format s with
    | none => rfl
    | some fields => exact absurd (hasFormat_of_readFields hread) h
  years_spec t t' h := by
    rw [if_pos h]
    exact Calendar.completedYears_spec t t'

/-! ### What it prints and reads -/

theorem all_isDigit_digits (width : Nat) (n : Int) : (digits width n).all Char.isDigit = true := by
  rw [digits, List.all_append, Bool.and_eq_true, List.all_replicate]
  exact ⟨by simp, DecimalText.all_isDigit_toDigits n.toNat⟩

/-- Zeros in front do not count. -/
theorem ofDigitChars_digits (width : Nat) {n : Int} (hn : 0 ≤ n) : (Nat.ofDigitChars 10 (digits width n) 0 : Int) = n := by
  have hzeros : ∀ (k : Nat) (ds : List Char), Nat.ofDigitChars 10 (List.replicate k '0' ++ ds) 0 = Nat.ofDigitChars 10 ds 0 := by
    intro k ds
    induction k with
    | zero => rfl
    | succ k ih => exact ih
  rw [digits, hzeros, Nat.ofDigitChars_ten_toDigits, Int.toNat_of_nonneg hn]

section
variable {months : List (List Char)} {format : DateFormat}

/-- Digits with none behind them are the number. -/
theorem readFields_number {f : DateField} (hf : f ≠ .MMM) {ds rest : List Char} (hds : ds.all Char.isDigit = true)
    (hrest : ∀ c ∈ rest.head?, c.isDigit = false) :
    readFields Char.isDigit months (.field f :: format) (ds ++ rest) =
      (readFields Char.isDigit months format rest).map ((f, Nat.ofDigitChars 10 ds 0) :: ·) := by
  have hall : ∀ c ∈ ds, c.isDigit = true := List.all_eq_true.1 hds
  have hstop : rest.takeWhile Char.isDigit = [] ∧ rest.dropWhile Char.isDigit = rest := by
    cases rest with
    | nil => exact ⟨rfl, rfl⟩
    | cons c rest => simp [hrest c rfl]
  rw [readFields, List.takeWhile_append_of_pos hall, List.dropWhile_append_of_pos hall, hstop.1, hstop.2, List.append_nil]
  · cases readFields Char.isDigit months format rest <;> rfl
  · exact hf

theorem readFields_text (c : Char) (s : List Char) :
    readFields Char.isDigit months (.text c :: format) (c :: s) = readFields Char.isDigit months format s := by
  rw [readFields, if_pos rfl]

theorem readFields_yearMonthDay {ys ms ds : List Char} (hys : ys.all Char.isDigit = true) (hms : ms.all Char.isDigit = true)
    (hds : ds.all Char.isDigit = true) :
    readFields Char.isDigit months .yearMonthDay (ys ++ '-' :: (ms ++ '-' :: (ds ++ []))) =
      some [(.yyyy, Nat.ofDigitChars 10 ys 0), (.MM, Nat.ofDigitChars 10 ms 0), (.dd, Nat.ofDigitChars 10 ds 0)] := by
  have hdash : ∀ (s : List Char), ∀ c ∈ ('-' :: s).head?, c.isDigit = false := fun s c hc => by
    obtain rfl := Option.some.inj hc
    rfl
  rw [DateFormat.yearMonthDay, readFields_number (by decide) hys (hdash _), readFields_text,
    readFields_number (by decide) hms (hdash _), readFields_text, readFields_number (by decide) hds fun _ hc => by cases hc]
  rfl

end

/-- A day that is in the calendar is read as its beginning. -/
theorem date_yearMonthDay {s : List Char} {year month day : Nat}
    (hread : readFields Char.isDigit monthNames .yearMonthDay s = some [(.yyyy, year), (.MM, month), (.dd, day)])
    (hvalid : (Calendar.Date.mk year month day).Valid) :
    greenwich.date .yearMonthDay s = some (Calendar.dayNumber ⟨year, month, day⟩ * 86400000) := by
  have hdate : greenwich.date .yearMonthDay s =
      if 1 ≤ (month : Int) ∧ (month : Int) ≤ 12 ∧ 1 ≤ (day : Int) ∧ (day : Int) ≤ Calendar.monthLength year month then
        some (Calendar.dayNumber ⟨year, month, day⟩ * 86400000 + 0 * 3600000 + 0 * 60000)
      else none := by
    simp only [greenwich, hread]
    rfl
  rw [hdate, if_pos ⟨hvalid.month_pos, hvalid.month_le, hvalid.day_pos, hvalid.day_le⟩]
  simp

/-- **In one format a birthday is read as its day.** -/
theorem date_string {t : Int} (hyear : 0 ≤ (Calendar.civil (Calendar.dayOf t)).year) :
    greenwich.date .yearMonthDay (greenwich.string .yearMonthDay t) = some (greenwich.startOfDay t) := by
  have hvalid := Calendar.valid_civil (Calendar.dayOf t)
  have hnumber := Calendar.dayNumber_civil (Calendar.dayOf t)
  have hstring : greenwich.string .yearMonthDay t = digits 4 (Calendar.civil (Calendar.dayOf t)).year ++
      '-' :: (digits 2 (Calendar.civil (Calendar.dayOf t)).month ++
        '-' :: (digits 2 (Calendar.civil (Calendar.dayOf t)).day ++ [])) := by
    simp [Foundation.string, DateFormat.yearMonthDay, Foundation.printPiece, greenwich]
  generalize Calendar.civil (Calendar.dayOf t) = date at hyear hvalid hnumber hstring
  obtain ⟨year, month, day⟩ := date
  have hread : readFields Char.isDigit monthNames .yearMonthDay _ = some _ :=
    readFields_yearMonthDay (all_isDigit_digits 4 year) (all_isDigit_digits 2 month) (all_isDigit_digits 2 day)
  have hdate := ofDigitChars_digits 4 hyear
  have hmonth := ofDigitChars_digits 2 (Int.le_trans (by decide) hvalid.month_pos)
  have hday := ofDigitChars_digits 2 (Int.le_trans (by decide) hvalid.day_pos)
  rw [hstring, date_yearMonthDay hread (by rwa [hdate, hmonth, hday]), hdate, hmonth, hday, hnumber]
  rfl

/-- **With one format in both places the page would show the age.** -/
theorem greenwich_shows_age (now : Int) {birthday : Int} (hyear : 0 ≤ (Calendar.civil (Calendar.dayOf birthday)).year) :
    getAgeFromString greenwich now (getStrDate greenwich birthday .yearMonthDay) =
      if greenwich.years (greenwich.startOfDay birthday) now = 0 then ""
      else toString (greenwich.years (greenwich.startOfDay birthday) now) :=
  getAgeFromString_of_read greenwich (date_string hyear)

/-- The first of January 1990, in 2010. -/
def born1990 : UserModel := { birthday := some 631152000000 }

/-- **A user of twenty has no age.** -/
theorem twenty_years_are_not_shown :
    greenwich.yearsLater 631152000000 1 ≤ 1262304000000 ∧
      toString (greenwich.years (greenwich.startOfDay 631152000000) 1262304000000) = "20" ∧
      usercontent greenwich 1262304000000 born1990 = "" ∧
      ¬ ShowsAge greenwich (born1990.birthday.getD 0) 1262304000000 (usercontent greenwich 1262304000000 born1990) := by
  have hyear : greenwich.yearsLater 631152000000 1 ≤ 1262304000000 := by decide
  have hyears : greenwich.years (greenwich.startOfDay 631152000000) 1262304000000 = 20 := by decide
  have hempty : usercontent greenwich 1262304000000 born1990 = "" := getAgeFromString_getStrDate greenwich _ _
  refine ⟨hyear, by rw [hyears]; rfl, hempty, fun h => ?_⟩
  rw [hempty, ShowsAge, if_pos (by exact hyear)] at h
  exact DecimalText.toString_ne_empty _ h.symm

end Traveller
