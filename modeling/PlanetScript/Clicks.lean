import PlanetScript.Text.Basic

/-! # Clicks

For each id it is known whether it was clicked since it was last bound or the scene was
last cleared.  An id that nothing is known of was not clicked.
-/
namespace PlanetScript

/-- The ids that were clicked. -/
structure Clicks where
  ids : List Text := []
deriving DecidableEq, Repr

namespace Clicks

/-- No id was clicked. -/
def none : Clicks := {}

/-- Whether an id was clicked. -/
def isClicked (clicks : Clicks) (id : Text) : Bool := clicks.ids.contains id

/-- An id is clicked. -/
def mark (clicks : Clicks) (id : Text) : Clicks :=
  if clicks.isClicked id then clicks else ⟨id :: clicks.ids⟩

/-- An id counts as not clicked again. -/
def unmark (clicks : Clicks) (id : Text) : Clicks := ⟨clicks.ids.filter (· ≠ id)⟩

@[simp] theorem isClicked_none (id : Text) : none.isClicked id = false := rfl

@[simp] theorem isClicked_mark (clicks : Clicks) (id k : Text) :
    (clicks.mark id).isClicked k = (decide (k = id) || clicks.isClicked k) := by
  unfold mark
  split
  · next h => by_cases hk : k = id <;> simp_all
  · simp [isClicked]

@[simp] theorem isClicked_unmark (clicks : Clicks) (id k : Text) :
    (clicks.unmark id).isClicked k = (decide (k ≠ id) && clicks.isClicked k) := by
  rw [Bool.eq_iff_iff]
  simp [isClicked, unmark, and_comm]

end Clicks
end PlanetScript
