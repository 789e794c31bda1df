import Gleaner.Route

/-! Routes grow at their end, so what is put before a route stays before all that is reached from
there. -/

namespace Gleaner.Route

variable {σ : Type} {f : String → σ → String} {a b : String}

theorem foldl_ne_empty (hne : ∀ b step, b ≠ "" → f b step ≠ "") (hb : b ≠ "")
    (steps : List σ) : steps.foldl f b ≠ "" := by
  induction steps generalizing b with
  | nil => exact hb
  | cons step steps ih => exact ih (hne b step hb)

theorem foldl_append (hne : ∀ b step, b ≠ "" → f b step ≠ "")
    (happend : ∀ a b step, b ≠ "" → f (a ++ b) step = a ++ f b step) (hb : b ≠ "")
    (steps : List σ) : steps.foldl f (a ++ b) = a ++ steps.foldl f b := by
  induction steps generalizing b with
  | nil => rfl
  | cons step steps ih =>
    rw [List.foldl_cons, List.foldl_cons, happend a b step hb, ih (hne b step hb)]

end Gleaner.Route
