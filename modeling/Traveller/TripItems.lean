import Mathlib.Data.List.Nodup
import Traveller.Clusters
import Traveller.Words
/-!
# TripItems — the items of a trip, and their check boxes

A trip's items are stored as one text: the labels of the boxes that are on, joined by commas.  `TravelModel.init(_ json:)` splits
it at every character that is not a letter, and a screen switches on the box of each label it finds in `Constants.items`.  A
character is a cluster of scalars: for every table of labels made of letters the boxes come back as they were where no label makes
one character with a comma before or behind it (`item_list_loses_nothing`), and else a box is lost (`item_list_loses_a_box`).
-/
namespace Traveller

def isLatin (c : Char) : Bool := c.isAlpha || c == ','

/-- Swift's characters: whether a scalar belongs to the character that the scalars before it end with, which scalars are alphabetic,
and which texts are the same, which may be written with other scalars.  The program counts on Unicode's rules for Latin letters and
for the comma, which is no letter: they are characters of their own, and no rule looks back across a comma. -/
structure Characters where
  joins : List Char → Char → Bool
  isAlphabetic : Char → Bool
  same : String → String → Bool
  apart : ∀ before c d, isLatin c = true → isLatin d = true → joins (before ++ [c]) d = false
  comma : Clusters.Separates joins ','
  comma_not_alphabetic : isAlphabetic ',' = false
  latin : ∀ c, c.isAlpha = true → isAlphabetic c = true
  same_self : ∀ s, same s s = true
  same_symm : ∀ s t, same s t = true → same t s = true
  same_latin : ∀ s t, s.toList.all Char.isAlpha = true → t.toList.all Char.isAlpha = true → same s t = true → s = t

namespace Characters
variable (U : Characters)

/-- The characters of a text. -/
def characters (s : String) : List (List Char) := Clusters.clusters U.joins [] s.toList

/-- `Character.isLetter`, which asks the first scalar. -/
def isLetter (character : List Char) : Bool := character.head?.any U.isAlphabetic

theorem isLetter_comma : U.isLetter [','] = false := U.comma_not_alphabetic

theorem characters_of_latin {s : String} (h : s.toList.all Char.isAlpha = true) : U.characters s = s.toList.map fun c => [c] := by
  refine Clusters.clusters_of_apart (P := fun c => isLatin c = true) U.apart fun c hc => ?_
  rw [isLatin, List.all_eq_true.1 h c hc, Bool.true_or]

end Characters

/-- The check boxes, in the order of `check_boxs`. -/
inductive ItemBox where
  | document | medicine | makeup | money | food | mobile | laptop | electroinics | books | toys | clothes | shoes
  deriving DecidableEq, Repr

/-- `check_boxs` of `NewTripVC`, `TripDetailVC` and `MyTripDetail`. -/
def checkBoxs : List ItemBox :=
  [.document, .medicine, .makeup, .money, .food, .mobile, .laptop, .electroinics, .books, .toys, .clothes, .shoes]

/-- The text `setUI` puts beside the box, in English. -/
def ItemBox.label : ItemBox → String
  | document => "Document"
  | medicine => "Medicine"
  | makeup => "Makeup"
  | money => "Money"
  | food => "Food"
  | mobile => "Mobile"
  | laptop => "Laptop"
  | electroinics => "Electronics"
  | books => "Books"
  | toys => "Toys"
  | clothes => "Clothes"
  | shoes => "Shoes"

def Constants.items : List String :=
  ["Document", "Medicine", "Makeup", "Money", "Food", "Mobile", "Laptop", "Electronics", "Books", "Toys", "Clothes", "Shoes"]

/-- **The table is in the order of the boxes.** -/
theorem items_eq_labels : Constants.items = checkBoxs.map ItemBox.label := rfl

/-- The `items` of `TravelModel.init(_ json:)`. -/
def decodeItems (U : Characters) (s : String) : List String :=
  (Words.words U.isLetter (U.characters s)).map fun item => String.ofList item.flatten

/-! ## The boxes and the text -/

section Boxes
variable (U : Characters) (items : List String)

/-- The loop of `saveBtnClicked` and `upateTripBtnClicked`: the labels of the boxes that are on. -/
def selectedItems (on : List Bool) : List String := ((on.zip items).filter fun box => box.1).map Prod.snd

/-- `items.joined(separator: ",")`. -/
def joinedItems (on : List Bool) : String := ",".intercalate (selectedItems items on)

/-- `getCheckedStatus` of `TripDetailVC` and `MyTripDetail`: the first position of the label, if it has one. -/
def getCheckedStatus (item : String) : Bool × Int :=
  match items.findIdx? (U.same item) with
  | some i => (true, i)
  | none => (false, -1)

/-- One turn of the loop in `setUI`. -/
def checkItem (on : List Bool) (two : String) : List Bool :=
  if (getCheckedStatus U items two).1 then on.set (getCheckedStatus U items two).2.toNat true else on

/-- `setUI` of `TripDetailVC` and `MyTripDetail`: all boxes off, then those of the trip's items on. -/
def showItems (decoded : List String) : List Bool :=
  decoded.foldl (checkItem U items) (List.replicate items.length false)

variable {U : Characters} {items : List String}

theorem checkItem_eq (on : List Bool) (two : String) :
    checkItem U items on two = match items.findIdx? (U.same two) with
      | some i => on.set i true
      | none => on := by
  unfold checkItem getCheckedStatus
  cases items.findIdx? (U.same two) with
  | none => rfl
  | some i => simp

@[simp] theorem length_checkItem (on : List Bool) (two : String) : (checkItem U items on two).length = on.length := by
  rw [checkItem_eq]
  cases items.findIdx? (U.same two) with
  | none => rfl
  | some i => exact List.length_set

theorem length_foldl_checkItem (decoded : List String) (on : List Bool) :
    (decoded.foldl (checkItem U items) on).length = on.length := by
  induction decoded generalizing on with
  | nil => rfl
  | cons two decoded ih => rw [List.foldl_cons, ih, length_checkItem]

theorem getElem?_foldl_checkItem (decoded : List String) (on : List Bool) (i : Nat) :
    (decoded.foldl (checkItem U items) on)[i]? = some true ↔
      on[i]? = some true ∨ i < on.length ∧ ∃ two ∈ decoded, items.findIdx? (U.same two) = some i := by
  induction decoded generalizing on with
  | nil => simp
  | cons two decoded ih =>
    rw [List.foldl_cons, ih, length_checkItem, checkItem_eq]
    simp only [List.mem_cons, exists_eq_or_imp]
    cases hi : items.findIdx? (U.same two) with
    | none => simp
    | some j =>
      rw [List.getElem?_set, Option.some.injEq]
      by_cases hj : j = i
      · subst hj
        by_cases hlt : j < on.length <;> simp [hlt]
      · simp [hj]

/-- **Which boxes are on**: those whose position is that of an item. -/
theorem getElem?_showItems (decoded : List String) (i : Nat) :
    (showItems U items decoded)[i]? = some true ↔
      i < items.length ∧ ∃ two ∈ decoded, items.findIdx? (U.same two) = some i := by
  rw [showItems, getElem?_foldl_checkItem, List.length_replicate]
  refine or_iff_right fun h => ?_
  rw [List.getElem?_replicate] at h
  split at h <;> cases h

theorem mem_selectedItems {on : List Bool} {item : String} :
    item ∈ selectedItems items on ↔ ∃ i : Nat, on[i]? = some true ∧ items[i]? = some item := by
  constructor
  · intro h
    obtain ⟨⟨b, _⟩, hbox, rfl⟩ := List.mem_map.1 h
    obtain ⟨hmem, rfl⟩ := List.mem_filter.1 hbox
    obtain ⟨i, hi⟩ := List.mem_iff_getElem?.1 hmem
    exact ⟨i, List.getElem?_zip_eq_some.1 hi⟩
  · rintro ⟨i, hi⟩
    have hmem : (true, item) ∈ on.zip items := List.mem_iff_getElem?.2 ⟨i, List.getElem?_zip_eq_some.2 hi⟩
    exact List.mem_map.2 ⟨(true, item), List.mem_filter.2 ⟨hmem, rfl⟩, rfl⟩

theorem selectedItems_sublist (items : List String) (on : List Bool) : (selectedItems items on).Sublist items := by
  induction on generalizing items with
  | nil => exact List.nil_sublist items
  | cons b on ih =>
    cases items with
    | nil => exact List.Sublist.refl []
    | cons item items =>
      cases b with
      | true => exact (ih items).cons_cons item
      | false => exact (ih items).cons item

/-- Where no two labels are the same a label has its one position. -/
theorem findIdx?_same (h : items.Pairwise fun label label' => U.same label label' = false) {item : String}
    (hitem : item ∈ items) {i : Nat} : items.findIdx? (U.same item) = some i ↔ items[i]? = some item := by
  have hnodup : items.Nodup := h.imp fun hnot heq => by
    rw [heq, U.same_self] at hnot
    cases hnot
  obtain ⟨j, hj, rfl⟩ := List.mem_iff_getElem.1 hitem
  have hfirst : items.findIdx? (U.same items[j]) = some j := by
    refine List.findIdx?_eq_some_iff_getElem.2 ⟨hj, U.same_self _, fun k hk hsame => ?_⟩
    have hnot := List.pairwise_iff_getElem.1 h k j (Nat.lt_trans hk hj) hj hk
    exact absurd (hnot.symm.trans (U.same_symm _ _ hsame)) (by decide)
  rw [hfirst, Option.some.injEq]
  exact ⟨fun hij => hij ▸ List.getElem?_eq_getElem hj, fun hi => (List.getElem?_inj hj hnodup).1
    ((List.getElem?_eq_getElem hj).trans hi.symm)⟩

/-- **Replaying the selected labels switches on the selected boxes.** -/
theorem showItems_selectedItems (h : items.Pairwise fun label label' => U.same label label' = false) {on : List Bool}
    (hlen : on.length = items.length) : showItems U items (selectedItems items on) = on := by
  have hsize : (showItems U items (selectedItems items on)).length = on.length := by
    rw [showItems, length_foldl_checkItem, List.length_replicate, hlen]
  have hon : ∀ i : Nat, (showItems U items (selectedItems items on))[i]? = some true ↔ on[i]? = some true := by
    intro i
    rw [getElem?_showItems]
    constructor
    · rintro ⟨-, two, hmem, hi⟩
      obtain ⟨j, honj, hj⟩ := mem_selectedItems.1 hmem
      rw [(findIdx?_same h (List.mem_of_getElem? hj)).2 hj] at hi
      obtain rfl := Option.some.inj hi
      exact honj
    · intro honi
      have hi : i < items.length := by
        rw [← hlen]
        exact (List.getElem?_eq_some_iff.1 honi).1
      have hitem : items[i]? = some items[i] := List.getElem?_eq_getElem hi
      exact ⟨hi, items[i], mem_selectedItems.2 ⟨i, honi, hitem⟩, (findIdx?_same h (List.getElem_mem hi)).2 hitem⟩
  refine List.ext_getElem hsize fun i hi hi' => ?_
  have hbox := hon i
  rw [List.getElem?_eq_getElem hi, List.getElem?_eq_getElem hi'] at hbox
  simpa using hbox

/-- Replaying items of the table and selecting them again gives the same items. -/
theorem mem_selectedItems_showItems (h : items.Pairwise fun label label' => U.same label label' = false) {decoded : List String}
    (hsub : ∀ two ∈ decoded, two ∈ items) {item : String} :
    item ∈ selectedItems items (showItems U items decoded) ↔ item ∈ decoded := by
  rw [mem_selectedItems]
  constructor
  · rintro ⟨i, hon, hitem⟩
    obtain ⟨-, two, htwo, hi⟩ := (getElem?_showItems decoded i).1 hon
    have hsame := (findIdx?_same h (hsub two htwo)).1 hi
    rw [hitem] at hsame
    obtain rfl := Option.some.inj hsame
    exact htwo
  · intro hdecoded
    obtain ⟨i, hi⟩ := List.mem_iff_getElem?.1 (hsub item hdecoded)
    exact ⟨i, (getElem?_showItems decoded i).2 ⟨(List.getElem?_eq_some_iff.1 hi).1, item, hdecoded,
      (findIdx?_same h (hsub item hdecoded)).2 hi⟩, hi⟩

end Boxes

/-! ## The text and the items -/

section Text
variable (U : Characters)

/-- A table of labels: no two are the same, none is empty, and each is made of letters. -/
structure LabelTable (items : List String) : Prop where
  distinct : items.Pairwise fun label label' => U.same label label' = false
  ne_empty : ∀ label ∈ items, label ≠ ""
  letters : ∀ label ∈ items, ∀ character ∈ U.characters label, U.isLetter character = true

/-- **A comma stands apart from the labels**: none but the first begins with a scalar that joins it, and it joins none but the
last. -/
structure CommaApart (items : List String) : Prop where
  front : ∀ label ∈ items.tail, ∀ c ∈ label.toList.head?, U.joins [','] c = false
  back : ∀ label ∈ items.dropLast, U.joins label.toList ',' = false

theorem latin_items : ∀ label ∈ Constants.items, label.toList.all Char.isAlpha = true := by decide

theorem labelTable_items : LabelTable U Constants.items where
  distinct := by
    have hne : Constants.items.Pairwise (· ≠ ·) := by decide
    refine hne.imp_of_mem fun hlabel hlabel' hne => Bool.eq_false_iff.2 fun hsame => hne ?_
    exact U.same_latin _ _ (latin_items _ hlabel) (latin_items _ hlabel') hsame
  ne_empty := by decide
  letters label hlabel character hcharacter := by
    have hlatin := latin_items label hlabel
    rw [U.characters_of_latin hlatin] at hcharacter
    obtain ⟨c, hc, rfl⟩ := List.mem_map.1 hcharacter
    exact U.latin c (List.all_eq_true.1 hlatin c hc)

theorem commaApart_items : CommaApart U Constants.items where
  front label hlabel c hc := by
    have hlatin := List.all_eq_true.1 (latin_items label (List.mem_of_mem_tail hlabel)) c (List.mem_of_mem_head? hc)
    exact U.apart [] ',' c rfl (by rw [isLatin, hlatin, Bool.true_or])
  back label hlabel := by
    have hmem := List.dropLast_subset _ hlabel
    have hne : label.toList ≠ [] := by simpa using (labelTable_items U).ne_empty label hmem
    have hlatin := List.all_eq_true.1 (latin_items label hmem) _ (List.getLast_mem hne)
    rw [← List.dropLast_append_getLast hne]
    exact U.apart _ _ ',' (by rw [isLatin, hlatin, Bool.true_or]) rfl

variable {U}

/-- **Labels joined by commas are decoded again**, where the commas stand apart. -/
theorem decodeItems_intercalate {labels : List String} (hne : ∀ label ∈ labels, label ≠ "")
    (hletters : ∀ label ∈ labels, ∀ character ∈ U.characters label, U.isLetter character = true) (happart : CommaApart U labels) :
    decodeItems U (",".intercalate labels) = labels := by
  have hcut : U.characters (",".intercalate labels) = [[',']].intercalate (labels.map U.characters) := by
    rw [Characters.characters, String.toList_intercalate]
    refine (Clusters.clusters_intercalate U.comma ?_ ?_ ?_).trans (by rw [List.map_map]; rfl)
    · intro w hw
      obtain ⟨label, hlabel, rfl⟩ := List.mem_map.1 hw
      simpa using hne label hlabel
    · intro w hw
      rw [← List.map_tail] at hw
      obtain ⟨label, hlabel, rfl⟩ := List.mem_map.1 hw
      exact happart.front label hlabel
    · intro w hw
      rw [← List.map_dropLast] at hw
      obtain ⟨label, hlabel, rfl⟩ := List.mem_map.1 hw
      exact happart.back label hlabel
  have hwords : Words.words U.isLetter ([[',']].intercalate (labels.map U.characters)) = labels.map U.characters := by
    refine Words.words_intercalate U.isLetter_comma ?_ ?_
    · intro w hw hnil
      obtain ⟨label, hlabel, rfl⟩ := List.mem_map.1 hw
      have hflat : (Clusters.clusters U.joins [] label.toList).flatten = label.toList :=
        Clusters.flatten_clusters [] label.toList
      rw [show Clusters.clusters U.joins [] label.toList = [] from hnil] at hflat
      exact hne label hlabel (by simpa using hflat.symm)
    · intro w hw
      obtain ⟨label, hlabel, rfl⟩ := List.mem_map.1 hw
      exact hletters label hlabel
  rw [decodeItems, hcut, hwords, List.map_map]
  exact (List.map_congr_left fun label _ => by simp [Characters.characters]).trans (List.map_id labels)

theorem LabelTable.decodeItems_joinedItems {items : List String} (h : LabelTable U items) (happart : CommaApart U items)
    (on : List Bool) : decodeItems U (joinedItems items on) = selectedItems items on := by
  have hsub := selectedItems_sublist items on
  have hdrop : (selectedItems items on).dropLast.Sublist items.dropLast := by
    have hrev := hsub.reverse.tail
    rwa [List.tail_reverse, List.tail_reverse, List.reverse_sublist] at hrev
  exact decodeItems_intercalate (fun label hl => h.ne_empty label (hsub.subset hl))
    (fun label hl => h.letters label (hsub.subset hl))
    ⟨fun label hl => happart.front label (hsub.tail.subset hl), fun label hl => happart.back label (hdrop.subset hl)⟩

end Text

/-- **The item list format loses nothing but where a comma is part of a character.**  The items decoded from any text are its
maximal runs of letters, in order; and for every table of distinct labels made of letters from which a comma stands apart, the
program's own among them, the selected labels, joined, decoded and replayed, switch on the selected boxes. -/
theorem item_list_loses_nothing (U : Characters) :
    (∀ s : String, ∃ rs : List (Words.Run (List Char)), rs.Pairwise (fun r r' => r.before.length < r'.before.length) ∧
      (∀ r, r ∈ rs ↔ r.IsMaximal U.isLetter (U.characters s)) ∧
      decodeItems U s = rs.map fun r => String.ofList r.run.flatten) ∧
    (∀ items : List String, LabelTable U items → CommaApart U items → ∀ on : List Bool, on.length = items.length →
      showItems U items (decodeItems U (joinedItems items on)) = on) ∧
    LabelTable U Constants.items ∧ CommaApart U Constants.items ∧ Constants.items = checkBoxs.map ItemBox.label := by
  refine ⟨fun s => ?_, fun items h happart on hlen => ?_, labelTable_items U, commaApart_items U, items_eq_labels⟩
  · obtain ⟨rs, hsorted, hmem, hwords⟩ := Words.words_eq_runs U.isLetter (U.characters s)
    refine ⟨rs, hsorted, hmem, ?_⟩
    rw [decodeItems, hwords, List.map_map]
    rfl
  · rw [h.decodeItems_joinedItems happart, showItems_selectedItems h.distinct hlen]

/-! ## A label that is no character of its own -/

/-- U+0345, the combining iota below: it is alphabetic, and part of the character before it. -/
def ypogegrammeni : Char := Char.ofNat 0x345

theorem ypogegrammeni_apart {d : Char} (hd : isLatin d = true) : (d == ypogegrammeni) = false := by
  refine beq_eq_false_iff_ne.2 fun heq => ?_
  rw [heq] at hd
  revert hd
  decide

theorem isAlphabetic_of_isAlpha {c : Char} (hc : c.isAlpha = true) : (c.isAlpha || c == ypogegrammeni) = true := by
  rw [hc, Bool.true_or]

/-- The characters of texts of Latin letters, commas and that. -/
def Characters.basic : Characters where
  joins _ c := c == ypogegrammeni
  isAlphabetic c := c.isAlpha || c == ypogegrammeni
  same s t := s == t
  apart _ _ _ _ hd := ypogegrammeni_apart hd
  comma := ⟨fun _ _ => rfl, fun _ _ _ _ => rfl⟩
  comma_not_alphabetic := rfl
  latin _ hc := isAlphabetic_of_isAlpha hc
  same_self _ := beq_self_eq_true _
  same_symm _ _ h := beq_iff_eq.2 (beq_iff_eq.1 h).symm
  same_latin _ _ _ _ h := beq_iff_eq.1 h

/-- **A box is lost** where a label would be part of a character with the comma before it. -/
theorem item_list_loses_a_box :
    LabelTable .basic ["A", ypogegrammeni.toString] ∧
      showItems .basic ["A", ypogegrammeni.toString]
        (decodeItems .basic (joinedItems ["A", ypogegrammeni.toString] [true, true])) = [true, false] := by
  refine ⟨⟨by decide, by decide, by decide⟩, by decide⟩

end Traveller
