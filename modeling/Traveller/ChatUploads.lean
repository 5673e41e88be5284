import Mathlib.Data.Fintype.BigOperators
import Traveller.Runs
/-!
# ChatUploads — the files of the images sent

Every client stores the images it sends under one root, each under two random letters; an upload that succeeds replaces what
was there.  There are 3844 names for all users together, so no run has more uploads than that without one taking the name of
another (`uploads_kept_iff`).
-/
namespace Traveller

/-- `letters` in `randomString`. -/
def letters : List Char := "abcdefghijklmnopqrstuvwxyzABCDEFGHIJKLMNOPQRSTUVWXYZ0123456789".toList

/-- What `arc4random_uniform` gives for each of the letters of a name. -/
abbrev Draw (length : Nat) := Fin length → Fin letters.length

def randomString (length : Nat) (rand : Draw length) : String :=
  String.ofList (List.ofFn fun i => letters[rand i])

/-- The path of `riversRef` in `uploadFile2Firebase`. -/
def riversPath (rand : Draw 2) : String := "/" ++ randomString 2 rand ++ ".jpg"

theorem letters_nodup : letters.Nodup := by decide +kernel

theorem letters_length : letters.length = 62 := by decide +kernel

theorem randomString_injective (length : Nat) : Function.Injective (randomString length) := by
  intro r r' h
  have hl := List.ofFn_injective (String.ofList_injective h)
  funext i
  exact Fin.ext ((List.Nodup.getElem_inj_iff letters_nodup).1 (congrFun hl i))

/-- **Different draws are different paths.** -/
theorem riversPath_inj {r r' : Draw 2} : riversPath r = riversPath r' ↔ r = r' := by
  constructor
  · intro h
    have hl : '/' :: ((randomString 2 r).toList ++ ".jpg".toList) = '/' :: ((randomString 2 r').toList ++ ".jpg".toList) := by
      simpa [riversPath, String.toList_append] using congrArg String.toList h
    have hs := List.append_cancel_right (List.cons.inj hl).2
    exact randomString_injective 2 (String.toList_inj.1 hs)
  · rintro rfl
    rfl

/-! ## The storage -/

/-- An upload: the letters drawn for it, and the image. -/
structure Upload (α : Type*) where
  rand : Draw 2
  image : α

/-- The storage all clients share, and the uploads under way. -/
structure Storage (α : Type*) where
  files : String → Option α := fun _ => none
  uploads : List (Upload α) := []

/-- A client starts an upload, or one that is under way succeeds or fails. -/
inductive StorageEvent (α : Type*) where
  | uploadFile2Firebase (rand : Draw 2) (image : α)
  | putFile (i : Nat) (ok : Bool)

namespace Storage
variable {α : Type*}

def step (s : Storage α) : StorageEvent α → Storage α
  | .uploadFile2Firebase rand image => { s with uploads := s.uploads ++ [⟨rand, image⟩] }
  | .putFile i ok =>
    match s.uploads[i]? with
    | none => s
    | some u =>
      { files := if ok then Function.update s.files (riversPath u.rand) (some u.image) else s.files
        uploads := s.uploads.eraseIdx i }

/-- The upload that succeeds in a step, if one does. -/
def stores (s : Storage α) : StorageEvent α → Option (Upload α)
  | .putFile i true => s.uploads[i]?
  | _ => none

/-- What is noted: the uploads that have succeeded, which are what the messages have addresses of. -/
def noteStored (stored : List (Upload α)) (s : Storage α) (e : StorageEvent α) : List (Upload α) :=
  stored ++ (s.stores e).toList

/-- **No upload writes to a path an earlier successful one has used.** -/
def WritesAnew (y : Storage α × List (Upload α)) (e : StorageEvent α) : Prop :=
  ∀ u, y.1.stores e = some u → ∀ v ∈ y.2, riversPath v.rand ≠ riversPath u.rand

/-- The letters of an upload that succeeds were not drawn for an earlier one that did. -/
def DrawsAnew (y : Storage α × List (Upload α)) (e : StorageEvent α) : Prop :=
  ∀ u, y.1.stores e = some u → ∀ v ∈ y.2, v.rand ≠ u.rand

/-- **Every address of an image denotes it.** -/
def Denotes (y : Storage α × List (Upload α)) : Prop := ∀ u ∈ y.2, y.1.files (riversPath u.rand) = some u.image

/-- What a step does to the files: the upload that succeeds, if one does, replaces what is at its path. -/
theorem files_step (s : Storage α) (e : StorageEvent α) :
    (s.step e).files = (s.stores e).elim s.files fun u => Function.update s.files (riversPath u.rand) (some u.image) := by
  cases e with
  | uploadFile2Firebase rand image => rfl
  | putFile i ok =>
    cases ok <;> cases hi : s.uploads[i]? <;> simp only [step, stores, hi] <;> rfl

/-- The invariant of a run that draws anew: the files are there, and no letters were drawn twice. -/
structure Inv (y : Storage α × List (Upload α)) : Prop where
  denotes : Denotes y
  nodup : (y.2.map Upload.rand).Nodup

theorem Inv.step {y : Storage α × List (Upload α)} (h : Inv y) {e : StorageEvent α} (hok : DrawsAnew y e) :
    Inv (Runs.noting Storage.step noteStored y e) := by
  obtain ⟨s, stored⟩ := y
  have hfiles := files_step s e
  cases hs : s.stores e with
  | none =>
    rw [hs] at hfiles
    refine ⟨fun u hu => ?_, ?_⟩
    · simp only [Runs.noting, noteStored, hs, Option.toList_none, List.append_nil] at hu ⊢
      rw [hfiles]
      exact h.denotes u hu
    · simpa only [Runs.noting, noteStored, hs, Option.toList_none, List.append_nil] using h.nodup
  | some new =>
    rw [hs] at hfiles
    refine ⟨fun u hu => ?_, ?_⟩
    · simp only [Runs.noting, noteStored, hs, Option.toList_some] at hu ⊢
      rw [hfiles, Option.elim_some]
      rcases List.mem_append.1 hu with hu | hu
      · rw [Function.update_of_ne fun heq => hok new hs u hu (riversPath_inj.1 heq)]
        exact h.denotes u hu
      · rw [List.mem_singleton.1 hu, Function.update_self]
    · simp only [Runs.noting, noteStored, hs, Option.toList_some, List.map_append, List.map_singleton]
      refine List.nodup_append.2 ⟨h.nodup, List.nodup_singleton _, fun r hr r' hr' => ?_⟩
      obtain ⟨v, hv, rfl⟩ := List.mem_map.1 hr
      rw [List.mem_singleton.1 hr']
      exact hok new hs v hv

theorem inv_empty : Inv (({} : Storage α), []) where
  denotes _ hu := absurd hu List.not_mem_nil
  nodup := List.nodup_nil

/-- Letters that are all different are drawn 3844 times at most. -/
theorem length_le_of_nodup {stored : List (Upload α)} (h : (stored.map Upload.rand).Nodup) : stored.length ≤ 62 ^ 2 := by
  have hcard := h.length_le_card
  rw [List.length_map, Fintype.card_fun, Fintype.card_fin, Fintype.card_fin, letters_length] at hcard
  exact hcard

/-- **No upload replaces an image that was sent exactly as long as the two letters of each that succeeds are new.**  Then every
address denotes its image at every moment; and there are 3844 such uploads at most. -/
theorem uploads_kept_iff (es : List (StorageEvent α)) :
    (Runs.AllSteps (Runs.noting step noteStored) WritesAnew ({}, []) es ↔
      Runs.AllSteps (Runs.noting step noteStored) DrawsAnew ({}, []) es) ∧
    (Runs.AllSteps (Runs.noting step noteStored) DrawsAnew ({}, []) es →
      Runs.AllStates (Runs.noting step noteStored) Denotes ({}, []) es ∧
        (Runs.run (Runs.noting step noteStored) ({}, []) es).2.length ≤ 62 ^ 2) := by
  refine ⟨Runs.allSteps_congr (fun _ => True) (fun _ _ _ => trivial) (fun y e _ => ?_) trivial, fun hes => ⟨?_, ?_⟩⟩
  · exact forall_congr' fun u => imp_congr_right fun _ => forall_congr' fun v => imp_congr_right fun _ =>
      not_congr riversPath_inj
  · exact Runs.allStates_of_invariant Inv (fun _ _ h hok => h.step hok) (fun _ h => h.denotes) inv_empty hes
  · exact length_le_of_nodup (Runs.run_invariant Inv (fun _ _ h hok => h.step hok) inv_empty hes).nodup

/-- Two clients draw the same two letters, and the message of the first shows the image of the second. -/
theorem second_upload_replaces_the_first :
    let aa : Draw 2 := fun _ => ⟨0, by decide +kernel⟩
    let es : List (StorageEvent String) := [.uploadFile2Firebase aa "cat", .putFile 0 true,
      .uploadFile2Firebase aa "dog", .putFile 0 true]
    ¬ Runs.AllSteps (Runs.noting step noteStored) WritesAnew ({}, []) es ∧
      ¬ Runs.AllStates (Runs.noting step noteStored) Denotes ({}, []) es := by
  intro aa
  refine ⟨?_, fun h => ?_⟩
  · rintro ⟨-, -, -, h, -⟩
    exact h ⟨aa, "dog"⟩ rfl ⟨aa, "cat"⟩ (List.mem_singleton.2 rfl) rfl
  · have hcat := h.last ⟨aa, "cat"⟩ (List.mem_cons_self)
    have hdog := h.last ⟨aa, "dog"⟩ (List.mem_cons_of_mem _ List.mem_cons_self)
    exact absurd (hcat.symm.trans hdog) (by simp)

end Storage
end Traveller
