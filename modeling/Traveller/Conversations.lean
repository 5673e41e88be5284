import Mathlib.Data.Sym.Sym2
import Mathlib.Logic.Function.Basic
import Traveller.Runs
/-!
# Conversations — what a chat is for

A conversation belongs to two users and holds messages under keys.  A message has an author, the time it was written, and a
content.  Either user may post, change or take away messages of his own, and may clear the whole conversation when that is
asked for; nobody does anything in another's name or in a conversation that is not his (`Step`).

`Step.message` is what that gives a reader: whatever step is taken, a message stays as it is unless its author changes it or
takes it away, or one of the two clears the conversation; `Step.outside` that others cannot touch it at all.
-/
namespace Conversations

variable {U κ τ γ : Type*}

structure Message (U τ γ : Type*) where
  author : U
  time : τ
  content : γ

/-- The messages of all conversations. -/
abbrev Messages (U κ τ γ : Type*) := Sym2 U × κ → Option (Message U τ γ)

variable [DecidableEq U] [DecidableEq κ] {R R' : Messages U κ τ γ} {actor : Option U} {asked : Sym2 U → Prop}

/-- What the user `u` may do in the conversation `z`; `asked` says whether it is to be cleared.  A message is posted under a key
that is free, be it that the key is new or that its message was taken away. -/
inductive Does (u : U) (z : Sym2 U) (asked : Prop) (R : Messages U κ τ γ) : Messages U κ τ γ → Prop where
  | post (key : κ) (m : Message U τ γ) (hu : m.author = u) (hfree : R (z, key) = none) :
      Does u z asked R (Function.update R (z, key) (some m))
  | edit (key : κ) (m : Message U τ γ) (content : γ) (hm : R (z, key) = some m) (hu : m.author = u) :
      Does u z asked R (Function.update R (z, key) (some { m with content := content }))
  | remove (key : κ) (hu : ∀ m, R (z, key) = some m → m.author = u) :
      Does u z asked R (Function.update R (z, key) none)
  | clear (h : asked) : Does u z asked R fun i => if i.1 = z then none else R i

/-- **A step of the conversations**: nothing, or the actor does something in a conversation of his. -/
def Step (actor : Option U) (asked : Sym2 U → Prop) (R R' : Messages U κ τ γ) : Prop :=
  R' = R ∨ ∃ u z, actor = some u ∧ u ∈ z ∧ Does u z (asked z) R R'

/-- **What becomes of a message in one step.** -/
theorem Step.message (h : Step actor asked R R') {i : Sym2 U × κ} {m : Message U τ γ} (hm : R i = some m) :
    R' i = some m ∨
      (actor = some m.author ∧ ((∃ content, R' i = some { m with content := content }) ∨ R' i = none)) ∨
      (asked i.1 ∧ (∃ u ∈ i.1, actor = some u) ∧ R' i = none) := by
  rcases h with rfl | ⟨u, z, hactor, hz, hdoes⟩
  · exact .inl hm
  have hother : ∀ (key : κ) (v : Option (Message U τ γ)), i ≠ (z, key) → Function.update R (z, key) v i = some m :=
    fun key v hi => by rw [Function.update_of_ne hi, hm]
  cases hdoes with
  | post key m' hu hfree =>
    by_cases hi : i = (z, key)
    · rw [hi, hfree] at hm
      cases hm
    · exact .inl (hother key _ hi)
  | edit key m' content hm' hu =>
    by_cases hi : i = (z, key)
    · rw [hi, hm'] at hm
      cases hm
      exact .inr (.inl ⟨hactor.trans (congrArg some hu.symm), .inl ⟨content, by rw [hi, Function.update_self]⟩⟩)
    · exact .inl (hother key _ hi)
  | remove key hu =>
    by_cases hi : i = (z, key)
    · have hauthor : m.author = u := hu m (hi ▸ hm)
      exact .inr (.inl ⟨hactor.trans (congrArg some hauthor.symm), .inr (by rw [hi, Function.update_self])⟩)
    · exact .inl (hother key _ hi)
  | clear hasked =>
    by_cases hi : i.1 = z
    · exact .inr (.inr ⟨hi ▸ hasked, ⟨u, hi ▸ hz, hactor⟩, if_pos hi⟩)
    · exact .inl ((if_neg hi).trans hm)

/-- **A conversation changes only by a step of one of its two.** -/
theorem Step.outside (h : Step actor asked R R') {z : Sym2 U} (hz : ∀ u, actor = some u → u ∉ z) (key : κ) :
    R' (z, key) = R (z, key) := by
  rcases h with rfl | ⟨u, z', hactor, hu, hdoes⟩
  · rfl
  have hne : z ≠ z' := by
    rintro rfl
    exact hz u hactor hu
  have hkey : ∀ key', (z, key) ≠ (z', key') := fun key' h => hne (Prod.mk.inj h).1
  cases hdoes with
  | post key' m hm hfree => exact Function.update_of_ne (hkey key') _ _
  | edit key' m content hm hauthor => exact Function.update_of_ne (hkey key') _ _
  | remove key' hauthor => exact Function.update_of_ne (hkey key') _ _
  | clear hasked => exact if_neg hne

end Conversations
