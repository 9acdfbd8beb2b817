/-!
Patience: waiting for a condition by looking every five milliseconds. The condition is looked at
before the deadline is, so it is looked at once more at the first moment not before the deadline.
The clock counts from the beginning of the wait and moves only while the wait sleeps.
-/

set_option autoImplicit false
set_option relaxedAutoImplicit false

namespace MeterHub.Patience

def step : Nat := 5

def standard : Nat := 5000

/-- How waiting ended: whether the condition held, after how many milliseconds, after how many
looks. -/
structure Outcome where
  held : Bool
  elapsed : Nat
  looks : Nat
deriving DecidableEq

/-- A wait that is under way: what the clock shows, and the number of looks so far. -/
structure Wait where
  clock : Nat := 0
  looks : Nat := 0
deriving DecidableEq

namespace Wait

/-- One turn of a wait: a look, and then the end or a sleep. The condition answers by the number of
looks that came before. -/
def turn (timeout : Nat) (holds : Nat → Bool) (w : Wait) : Outcome ⊕ Wait :=
  if holds w.looks then .inl ⟨true, w.clock, w.looks + 1⟩
  else if timeout ≤ w.clock then .inl ⟨false, w.clock, w.looks + 1⟩
  else .inr ⟨w.clock + step, w.looks + 1⟩

theorem turn_eq_inr_iff {timeout : Nat} {holds : Nat → Bool} {w next : Wait} :
    w.turn timeout holds = .inr next ↔
      holds w.looks = false ∧ w.clock < timeout ∧ next = ⟨w.clock + step, w.looks + 1⟩ := by
  unfold turn
  cases answer : holds w.looks with
  | true => simp
  | false =>
    by_cases late : timeout ≤ w.clock
    · simp [late, Nat.not_lt.mpr late]
    · simp [late, Nat.lt_of_not_le late, eq_comm]

theorem turn_eq_inl_iff {timeout : Nat} {holds : Nat → Bool} {w : Wait} {outcome : Outcome} :
    w.turn timeout holds = .inl outcome ↔
      (holds w.looks = true ∨ timeout ≤ w.clock) ∧
        outcome = ⟨holds w.looks, w.clock, w.looks + 1⟩ := by
  unfold turn
  cases answer : holds w.looks with
  | true => simp [eq_comm]
  | false =>
    by_cases late : timeout ≤ w.clock
    · simp [late, eq_comm]
    · simp [late]

/-- Turns until the wait ends. -/
def finish (timeout : Nat) (holds : Nat → Bool) (w : Wait) : Outcome :=
  match _ : w.turn timeout holds with
  | .inl outcome => outcome
  | .inr next => next.finish timeout holds
termination_by timeout - w.clock
decreasing_by
  rename_i turned
  obtain ⟨_, ahead, rfl⟩ := turn_eq_inr_iff.mp turned
  simp only [step]
  omega

end Wait

def eventually (timeout : Nat) (holds : Nat → Bool) : Outcome := ({} : Wait).finish timeout holds

/-- Waits for the default time; the message of giving up names what was waited for. -/
def waitUntil (what : String) (holds : Nat → Bool) : Except String Outcome :=
  let outcome := eventually standard holds
  if outcome.held then .ok outcome
  else .error ("wait_until: timed out waiting for " ++ what)

/-- The condition that holds from some look on, counted from one; or never. -/
def heldFrom (first : Option Nat) (before : Nat) : Bool :=
  match first with
  | some n => n ≤ before + 1
  | none => false

end MeterHub.Patience
