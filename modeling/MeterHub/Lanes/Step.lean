import MeterHub.Lanes

/-!
Steps of lanes: everything that can happen to delivery lanes, one thing at a time. Events are queued
and lanes are closed from outside; meanwhile each lane takes up its events and comes to the end of
its callbacks at its own pace, or never does.
-/

set_option autoImplicit false
set_option relaxedAutoImplicit false

namespace MeterHub.Lanes

/-- One thing that happens to lanes. -/
inductive Step (σ : Type)
  | deliver (listener : σ) (event : Event)
  | close (listener : σ)
  | closeAll
  /-- The lane at an index takes up its next event. -/
  | take (index : Nat)
  /-- The callback under way in the lane at an index comes to its end. -/
  | finish (index : Nat) (panicked : Bool)

variable {σ : Type} [DecidableEq σ]

def step (l : Lanes σ) : Step σ → Lanes σ
  | .deliver listener event => l.deliver listener event
  | .close listener => l.close listener
  | .closeAll => l.closeAll
  | .take index => l.take index
  | .finish index panicked => l.finish index panicked

def run (l : Lanes σ) : List (Step σ) → Lanes σ
  | [] => l
  | step :: steps => (l.step step).run steps

theorem run_append (l : Lanes σ) (steps more : List (Step σ)) :
    l.run (steps ++ more) = (l.run steps).run more := by
  induction steps generalizing l with
  | nil => rfl
  | cons step steps ih => exact ih (l.step step)

theorem run_induct (P : Lanes σ → Prop) (keeps : ∀ l step, P l → P (l.step step)) {l : Lanes σ}
    (start : P l) (steps : List (Step σ)) : P (l.run steps) := by
  induction steps generalizing l with
  | nil => exact start
  | cons step steps ih => exact ih (keeps l step start)

end MeterHub.Lanes
