set_option autoImplicit false

/-! # Following a chain

`chase` goes from one point to the next until there is no next one, or until it comes back to a point
that it has passed: it then stops at that point, which is the first one on the loop. -/

namespace OpenApi

variable {α : Type} [DecidableEq α]

/-- Taking a member out of a list makes it shorter. -/
theorem length_erase_lt_of_mem {a : α} {as : List α} (h : a ∈ as) :
    (as.erase a).length < as.length := by
  have hp : 0 < as.length := List.length_pos_of_mem h
  rw [List.length_erase_of_mem h]
  omega

/-- Follows `step` from `a`. The points in `fresh` may still be passed. -/
def chase (step : α → Option α) (fresh : List α) (a : α) : α :=
  match step a with
  | none => a
  | some b => if b ∈ fresh then chase step (fresh.erase b) b else b
termination_by fresh.length
decreasing_by
  next h => exact length_erase_lt_of_mem h

/-- A point without a next one is the end of its chain. -/
theorem chase_of_step_eq_none {step : α → Option α} {fresh : List α} {a : α} (h : step a = none) :
    chase step fresh a = a := by
  unfold chase
  simp [h]

end OpenApi
