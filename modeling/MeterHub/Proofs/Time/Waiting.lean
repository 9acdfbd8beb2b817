import Mathlib.Algebra.Order.Floor.Div
import Mathlib.Data.Nat.Basic
import Mathlib.GroupTheory.GroupAction.Ring
import Mathlib.Order.Bounds.Basic
import MeterHub.Time.Patience

/-!
Waits come to an end and miss nothing. A wait is followed look by look: every look has its moment on
the clock and gets its answer. Only the looks at moments before the deadline can be followed by
another one, so their number is bounded by the timeout; and a wait gives up on the answer that it
gets at the first moment not before the deadline.
-/

set_option autoImplicit false
set_option relaxedAutoImplicit false

namespace MeterHub.Patience

variable {timeout : Nat} {holds : Nat → Bool}

/-- A wait from one of its looks to the end: the moments of the looks with the answers, and the
outcome. -/
inductive Runs (timeout : Nat) (holds : Nat → Bool) : Wait → List (Nat × Bool) → Outcome → Prop
  | ends {w : Wait} {outcome : Outcome} (ended : w.turn timeout holds = .inl outcome) :
      Runs timeout holds w [(w.clock, holds w.looks)] outcome
  | sleeps {w next : Wait} {log : List (Nat × Bool)} {outcome : Outcome}
      (turned : w.turn timeout holds = .inr next) (rest : Runs timeout holds next log outcome) :
      Runs timeout holds w ((w.clock, holds w.looks) :: log) outcome

theorem finish_runs (timeout : Nat) (holds : Nat → Bool) (w : Wait) :
    ∃ log, Runs timeout holds w log (w.finish timeout holds) := by
  induction w using Wait.finish.induct timeout holds with
  | case1 w outcome ended =>
    have finished : w.finish timeout holds = outcome := by
      unfold Wait.finish
      split <;> simp_all
    rw [finished]
    exact ⟨_, .ends ended⟩
  | case2 w next turned ih =>
    have finished : w.finish timeout holds = next.finish timeout holds := by
      rw [Wait.finish]
      split <;> simp_all
    obtain ⟨log, rest⟩ := ih
    rw [finished]
    exact ⟨_, .sleeps turned rest⟩

theorem Runs.unique {w : Wait} {log log' : List (Nat × Bool)} {outcome outcome' : Outcome}
    (runs : Runs timeout holds w log outcome) (runs' : Runs timeout holds w log' outcome') :
    log' = log ∧ outcome' = outcome := by
  induction runs generalizing log' with
  | ends ended =>
    cases runs' with
    | ends ended' =>
      rw [ended] at ended'
      exact ⟨rfl, (Sum.inl.inj ended').symm⟩
    | sleeps turned' _ =>
      rw [ended] at turned'
      cases turned'
  | sleeps turned _ ih =>
    cases runs' with
    | ends ended' =>
      rw [turned] at ended'
      cases ended'
    | sleeps turned' rest' =>
      rw [turned] at turned'
      cases turned'
      obtain ⟨rfl, same⟩ := ih rest'
      exact ⟨rfl, same⟩

/-- A wait whose clock shows five milliseconds for each look so far. -/
def Wait.IsTimely (w : Wait) : Prop := w.clock = step * w.looks

theorem Wait.IsTimely.turn {w next : Wait} (timely : w.IsTimely)
    (turned : w.turn timeout holds = .inr next) : next.IsTimely := by
  obtain ⟨_, _, rfl⟩ := turn_eq_inr_iff.mp turned
  change w.clock + step = step * (w.looks + 1)
  rw [timely, Nat.mul_succ]

/-- The course that a wait takes from a look on. All looks but the last get a negative answer before
the deadline; the last one decides, unless the deadline is still ahead. -/
structure Course (timeout : Nat) (holds : Nat → Bool) (first : Nat) (outcome : Outcome) : Prop where
  looked : first < outcome.looks
  elapsed : outcome.elapsed = step * (outcome.looks - 1)
  pending : ∀ n, first ≤ n → n + 1 < outcome.looks → holds n = false ∧ step * n < timeout
  answer : outcome.held = holds (outcome.looks - 1)
  final : outcome.held = true ∨ timeout ≤ outcome.elapsed

theorem Runs.course {w : Wait} {log : List (Nat × Bool)} {outcome : Outcome}
    (runs : Runs timeout holds w log outcome) (timely : w.IsTimely) :
    Course timeout holds w.looks outcome := by
  induction runs with
  | @ends w outcome ended =>
    obtain ⟨reason, rfl⟩ := Wait.turn_eq_inl_iff.mp ended
    refine ⟨Nat.lt_succ_self _, timely, ?_, rfl, reason⟩
    intro n _ last
    dsimp only at last
    omega
  | @sleeps w next log outcome turned _ ih =>
    obtain ⟨looked, elapsed, pending, answer, final⟩ := ih (timely.turn turned)
    obtain ⟨silent, ahead, rfl⟩ := Wait.turn_eq_inr_iff.mp turned
    refine ⟨Nat.lt_of_succ_lt looked, elapsed, ?_, answer, final⟩
    intro n from_first followed
    rcases Nat.eq_or_lt_of_le from_first with rfl | later
    · exact ⟨silent, timely ▸ ahead⟩
    · exact pending n later followed

theorem Runs.log_eq {w : Wait} {log : List (Nat × Bool)} {outcome : Outcome}
    (runs : Runs timeout holds w log outcome) (timely : w.IsTimely) :
    log = (List.range' w.looks (outcome.looks - w.looks)).map fun n => (step * n, holds n) := by
  induction runs with
  | @ends w outcome ended =>
    obtain ⟨_, rfl⟩ := Wait.turn_eq_inl_iff.mp ended
    rw [Nat.add_sub_cancel_left, timely]
    rfl
  | @sleeps w next log outcome turned rest ih =>
    have later := ih (timely.turn turned)
    have looked := (rest.course (timely.turn turned)).looked
    obtain ⟨_, _, rfl⟩ := Wait.turn_eq_inr_iff.mp turned
    have number : outcome.looks - w.looks = outcome.looks - (w.looks + 1) + 1 := by
      dsimp only at looked
      omega
    rw [number, List.range'_succ, List.map_cons, later, timely]

theorem isLeast_ceilDiv (timeout : Nat) : IsLeast {n | timeout ≤ 5 * n} (timeout ⌈/⌉ 5) := by
  have ceil_le (n : Nat) : timeout ⌈/⌉ 5 ≤ n ↔ timeout ≤ 5 * n :=
    ceilDiv_le_iff_le_mul (Nat.succ_pos 4)
  exact ⟨(ceil_le _).mp (Nat.le_refl _), fun n late => (ceil_le n).mpr late⟩

namespace Course

variable {outcome : Outcome}

theorem looks_le (course : Course timeout holds 0 outcome) :
    outcome.looks ≤ timeout ⌈/⌉ 5 + 1 := by
  by_contra more
  obtain ⟨_, ahead⟩ := course.pending (timeout ⌈/⌉ 5) (Nat.zero_le _) (by omega)
  have late : timeout ≤ 5 * (timeout ⌈/⌉ 5) := (isLeast_ceilDiv timeout).1
  exact absurd late (Nat.not_le.mpr ahead)

theorem looks_of_given_up (course : Course timeout holds 0 outcome)
    (given_up : outcome.held = false) :
    outcome.looks = timeout ⌈/⌉ 5 + 1 := by
  have late : timeout ≤ 5 * (outcome.looks - 1) := by
    rcases course.final with held | late
    · rw [given_up] at held
      cases held
    · exact course.elapsed ▸ late
  have first : timeout ⌈/⌉ 5 ≤ outcome.looks - 1 := (isLeast_ceilDiv timeout).2 late
  have bound := course.looks_le
  have looked := course.looked
  omega

theorem held_iff_first (course : Course timeout holds 0 outcome) :
    outcome.held = true ↔ IsLeast {n | holds n = true} (outcome.looks - 1) := by
  constructor
  · intro held
    refine ⟨course.answer.symm.trans held, ?_⟩
    intro n positive
    rw [Set.mem_ofPred_eq] at positive
    by_contra earlier
    have negative := (course.pending n (Nat.zero_le n) (by omega)).1
    rw [positive] at negative
    cases negative
  · rintro ⟨positive, _⟩
    exact course.answer.trans positive

theorem held_iff (course : Course timeout holds 0 outcome) :
    outcome.held = true ↔ ∃ n ≤ timeout ⌈/⌉ 5, holds n = true := by
  constructor
  · intro held
    have bound := course.looks_le
    exact ⟨outcome.looks - 1, by omega, course.answer.symm.trans held⟩
  · rintro ⟨n, in_time, positive⟩
    by_contra missed
    have given_up : outcome.held = false := Bool.eq_false_iff.mpr missed
    have looks := course.looks_of_given_up given_up
    have negative : holds n = false := by
      rcases Nat.eq_or_lt_of_le in_time with rfl | earlier
      · have last : outcome.looks - 1 = timeout ⌈/⌉ 5 := by omega
        rw [← last, ← course.answer, given_up]
      · exact (course.pending n (Nat.zero_le n) (by omega)).1
    rw [positive] at negative
    cases negative

theorem given_up_iff (course : Course timeout holds 0 outcome) :
    outcome.held = false ↔ outcome.looks = timeout ⌈/⌉ 5 + 1 ∧ holds (timeout ⌈/⌉ 5) = false := by
  have decided (looks : outcome.looks = timeout ⌈/⌉ 5 + 1) :
      outcome.held = holds (timeout ⌈/⌉ 5) := by
    rw [course.answer, looks, Nat.add_sub_cancel]
  constructor
  · intro given_up
    have looks := course.looks_of_given_up given_up
    exact ⟨looks, (decided looks).symm.trans given_up⟩
  · rintro ⟨looks, negative⟩
    exact (decided looks).trans negative

end Course

/-- A whole wait is its looks at all multiples of five milliseconds up to its end. -/
theorem runs_iff {log : List (Nat × Bool)} {outcome : Outcome} :
    Runs timeout holds {} log outcome ↔
      outcome = eventually timeout holds ∧
        log = (List.range outcome.looks).map fun n => (step * n, holds n) := by
  obtain ⟨whole, runs⟩ := finish_runs timeout holds {}
  have whole_eq := runs.log_eq rfl
  rw [Nat.sub_zero, ← List.range_eq_range'] at whole_eq
  constructor
  · intro runs'
    obtain ⟨rfl, rfl⟩ := runs.unique runs'
    exact ⟨rfl, whole_eq⟩
  · rintro ⟨rfl, rfl⟩
    exact whole_eq ▸ runs

theorem waitUntil_eq_error_iff {what message : String} :
    waitUntil what holds = .error message ↔
      (eventually standard holds).held = false ∧
        message = "wait_until: timed out waiting for " ++ what := by
  unfold waitUntil
  cases held : (eventually standard holds).held <;> simp [held, eq_comm]

/-- Whatever the timeout and the answers, a wait ends. Its looks are at 0, 5, 10, ... milliseconds,
at most up to the first moment not before the deadline. It succeeds at the first look that gets a
positive answer, if there is one among these, and gives up only on the negative answer at the last
of them. The time that has passed is five milliseconds for each look but the first. Waiting for the
default time fails just if this wait gives up. -/
theorem eventually_ends (timeout : Nat) (holds : Nat → Bool) :
    let outcome := eventually timeout holds
    let last := timeout ⌈/⌉ 5
    IsLeast {n | timeout ≤ 5 * n} last ∧
      (∀ log result, Runs timeout holds {} log result ↔
        result = outcome ∧ log = (List.range result.looks).map fun n => (5 * n, holds n)) ∧
      (0 < outcome.looks ∧ outcome.looks ≤ last + 1) ∧
      (outcome.held = true ↔ ∃ n ≤ last, holds n = true) ∧
      (outcome.held = true ↔ IsLeast {n | holds n = true} (outcome.looks - 1)) ∧
      (outcome.held = false ↔ outcome.looks = last + 1 ∧ holds last = false) ∧
      outcome.elapsed = 5 * (outcome.looks - 1) ∧
      ∀ what message, waitUntil what holds = .error message ↔
        (eventually 5000 holds).held = false ∧
          message = "wait_until: timed out waiting for " ++ what := by
  intro outcome last
  have course : Course timeout holds 0 outcome := by
    obtain ⟨log, runs⟩ := finish_runs timeout holds {}
    exact runs.course rfl
  exact ⟨isLeast_ceilDiv timeout, fun _ _ => runs_iff, ⟨course.looked, course.looks_le⟩,
    course.held_iff, course.held_iff_first, course.given_up_iff, course.elapsed,
    fun _ _ => waitUntil_eq_error_iff⟩

/-- The condition holds only after the deadline, but still at the look that is the last. -/
example : eventually 12 (heldFrom (some 4)) = ⟨true, 15, 4⟩ := by cbv

end MeterHub.Patience
