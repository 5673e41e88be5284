import Mathlib.Tactic.Common
/-!
# Drafts — what a form shows and what it would send

A form shows a value for which one is stored, and it sends the one that was picked, or the stored one where none was.  What it
shows is kept apart from both and can part from them: a pick is taken back, the stored value is shown again over a pick, or one
of the two changes underneath.  `Draft.faithful_apply_iff` says of each such change when it leaves a form that shows what it
would send.
-/

/-- One value of a form. -/
structure Draft (β : Type*) where
  stored : β
  picked : Option β := none
  shown : β

namespace Draft
variable {β : Type*}

/-- What the form would send. -/
def sent (d : Draft β) : β := d.picked.getD d.stored

def Faithful (d : Draft β) : Prop := d.shown = d.sent

/-- What can happen to a value: it is picked, or picked and not remembered; the pick is taken back, or is another one now; a value
is shown; another one is stored. -/
inductive Change (β : Type*) where
  | pick (b : β)
  | replace (b : β)
  | discard
  | amend (b : β)
  | redraw (b : β)
  | reload (b : β)

def apply (d : Draft β) : Change β → Draft β
  | .pick b => { d with picked := some b, shown := b }
  | .replace b => { d with picked := none, shown := b }
  | .discard => { d with picked := none }
  | .amend b => { d with picked := d.picked.map fun _ => b }
  | .redraw b => { d with shown := b }
  | .reload b => { d with stored := b }

/-- The change leaves what is shown to be what is sent. -/
def Keeps (d : Draft β) : Change β → Prop
  | .pick _ => True
  | .replace b => b = d.stored
  | .discard => ∀ c ∈ d.picked, c = d.stored
  | .amend b => ∀ c ∈ d.picked, c = b
  | .redraw b => b = d.sent
  | .reload b => d.picked = none → b = d.stored

variable {d : Draft β}

/-- **Exactly the changes that keep it leave a faithful value faithful.** -/
theorem faithful_apply_iff (h : d.Faithful) (c : Change β) : (d.apply c).Faithful ↔ d.Keeps c := by
  obtain ⟨stored, picked, shown⟩ := d
  obtain rfl : shown = picked.getD stored := h
  cases c with
  | pick b => exact iff_of_true rfl trivial
  | replace b => exact Iff.rfl
  | redraw b => exact Iff.rfl
  | discard => cases picked <;> simp [apply, Keeps, Faithful, sent]
  | amend b => cases picked <;> simp [apply, Keeps, Faithful, sent]
  | reload b => cases picked <;> simp [apply, Keeps, Faithful, sent, eq_comm]

/-- A change, where there is one. -/
def changed (d : Draft β) (c : Option (Change β)) : Draft β := c.elim d d.apply

theorem faithful_changed_iff (h : d.Faithful) (c : Option (Change β)) : (d.changed c).Faithful ↔ ∀ c' ∈ c, d.Keeps c' := by
  cases c with
  | none => simpa [changed] using h
  | some c => simpa [changed] using faithful_apply_iff h c

end Draft
