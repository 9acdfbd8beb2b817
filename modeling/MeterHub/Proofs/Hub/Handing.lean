import MeterHub.Proofs.Hub.Queueing
import MeterHub.Proofs.Lanes.Conservation

/-!
Nothing is lost on the way to a subscriber. Whatever happens to a hub, what waits for a subscriber
and what is queued for it is handed to it or goes on waiting, and all that waits can be handed over
by the work of lanes alone.
-/

set_option autoImplicit false
set_option relaxedAutoImplicit false

namespace MeterHub.Hub

theorem handedIn_append (h : Hub) (s : Subscriber) (moves more : List Move) :
    h.handedIn s (moves ++ more) = h.handedIn s moves ++ (h.run moves).handedIn s more := by
  induction moves generalizing h with
  | nil => rfl
  | cons m moves ih =>
    change h.handedTo s m ++ (h.move m).handedIn s (moves ++ more) = _
    rw [ih, ← List.append_assoc]
    rfl

theorem queuedFor_work (h : Hub) (s : Subscriber) {m : Move} (work : m.isWork = true) :
    h.queuedFor s m = [] := by
  cases m with
  | takeUp lane =>
    apply queuedFor_of_held
    change (h.takeUp lane).lanes.heldFor s = _
    rw [takeUp_step, Lanes.heldFor_take, List.append_nil]
  | finish lane panicked => exact queuedFor_finish h s lane panicked
  | _ => cases work

theorem queuedIn_work (h : Hub) (s : Subscriber) {works : List Move}
    (all : ∀ m ∈ works, m.isWork = true) : h.queuedIn s works = [] := by
  induction works generalizing h with
  | nil => rfl
  | cons m works ih =>
    obtain ⟨first, later⟩ := List.forall_mem_cons.mp all
    change h.queuedFor s m ++ (h.move m).queuedIn s works = []
    rw [queuedFor_work h s first, ih (h.move m) later]
    rfl

theorem move_work (h : Hub) {m : Move} (work : m.isWork = true) :
    ∃ step, (h.move m).lanes = h.lanes.step step ∧ ∀ s,
      h.handedTo s m = Happening.handedIn (h.lanes.happens s step).toList ∧
        Happening.queuedIn (h.lanes.happens s step).toList = [] := by
  cases m with
  | takeUp lane =>
    refine ⟨.take lane, h.takeUp_step lane, fun s => ⟨rfl, ?_⟩⟩
    cases happens : h.lanes.happens s (.take lane) with
    | none => rfl
    | some happening =>
      obtain ⟨event, rfl⟩ := Lanes.happens_take_handed happens
      rfl
  | finish lane panicked =>
    refine ⟨.finish lane panicked, rfl, fun s => ?_⟩
    cases happens : h.lanes.happens s (.finish lane panicked) with
    | none => exact ⟨rfl, rfl⟩
    | some happening =>
      obtain ⟨event, rfl⟩ := Lanes.happens_finish_ended happens
      exact ⟨rfl, rfl⟩
  | _ => cases work

theorem move_conserves {h : Hub} (regular : h.Regular) (s : Subscriber) (m : Move) :
    (h.handedTo s m ++ (h.move m).lanes.waitingFor s).Perm
      (h.lanes.waitingFor s ++ h.queuedFor s m) := by
  cases work : m.isWork with
  | false =>
    rw [handedTo_aside h s work, (move_queues regular work s).2]
    exact .refl _
  | true =>
    obtain ⟨step, lanes, happens⟩ := h.move_work work
    obtain ⟨handed, queued⟩ := happens s
    have conserved := Lanes.shifts_waiting_perm (Lanes.step_shifts regular.tidy s step)
    rw [queued] at conserved
    rw [queuedFor_work h s work, handed, lanes]
    exact conserved

theorem run_conserves {h : Hub} (regular : h.Regular) (s : Subscriber) (moves : List Move) :
    (h.handedIn s moves ++ (h.run moves).lanes.waitingFor s).Perm
      (h.lanes.waitingFor s ++ h.queuedIn s moves) := by
  induction moves generalizing h with
  | nil => exact .of_eq (List.append_nil _).symm
  | cons m moves ih =>
    have first := move_conserves regular s m
    have later := ih (move_regular regular m)
    calc
      _ = h.handedTo s m ++
          ((h.move m).handedIn s moves ++ ((h.move m).run moves).lanes.waitingFor s) :=
        List.append_assoc _ _ _
      List.Perm _ (h.handedTo s m ++
          ((h.move m).lanes.waitingFor s ++ (h.move m).queuedIn s moves)) := later.append_left _
      _ = h.handedTo s m ++ (h.move m).lanes.waitingFor s ++ (h.move m).queuedIn s moves :=
        (List.append_assoc _ _ _).symm
      List.Perm _ (h.lanes.waitingFor s ++ h.queuedFor s m ++ (h.move m).queuedIn s moves) :=
        first.append_right _
      _ = h.lanes.waitingFor s ++ h.queuedIn s (m :: moves) := List.append_assoc _ _ _

theorem can_hand {h : Hub} (regular : h.Regular) (s : Subscriber) :
    ∃ works, (∀ m ∈ works, m.isWork = true) ∧ (h.run works).lanes.waitingFor s = [] := by
  -- on the number of times that a lane of the subscriber can work
  generalize left : h.lanes.workFor s = number
  induction number generalizing h with
  | zero =>
    refine ⟨[], List.forall_mem_nil _, List.length_eq_zero_iff.mp ?_⟩
    change (h.lanes.waitingFor s).length = 0
    unfold Lanes.workFor at left
    omega
  | succ number ih =>
    by_cases waits : h.lanes.waitingFor s = []
    · exact ⟨[], List.forall_mem_nil _, waits⟩
    · obtain ⟨step, happening, happens, works, _⟩ := Lanes.can_work waits
      have shifts := Lanes.step_shifts regular.tidy s step
      rw [happens] at shifts
      have fewer := Lanes.shifts_work works shifts
      have next {m : Move} (work : m.isWork = true) (lanes : (h.move m).lanes = h.lanes.step step) :
          ∃ works, (∀ m ∈ works, m.isWork = true) ∧ (h.run works).lanes.waitingFor s = [] := by
        have less : (h.move m).lanes.workFor s = number := by
          rw [lanes]
          unfold Lanes.workFor Lanes.waitingFor Lanes.underWayFor at left ⊢
          omega
        obtain ⟨more, all, done⟩ := ih (move_regular regular m) less
        exact ⟨m :: more, List.forall_mem_cons.mpr ⟨work, all⟩, done⟩
      cases step with
      | take lane => exact next (m := .takeUp lane) rfl (h.takeUp_step lane)
      | finish lane panicked => exact next (m := .finish lane panicked) rfl rfl
      | deliver t event =>
        obtain ⟨_, queued⟩ := Option.ite_none_right_eq_some.mp happens
        cases queued
        cases works
      | close t =>
        obtain ⟨_, closed⟩ := Option.ite_none_right_eq_some.mp happens
        cases closed
        cases works
      | closeAll =>
        cases happens
        cases works

/-- Whatever happens meanwhile, work of lanes is left that hands over all that has been queued for a
subscriber. -/
theorem all_handed {h : Hub} (regular : h.Regular) (s : Subscriber) (moves : List Move) :
    ∃ works, (∀ m ∈ works, m.isWork = true) ∧
      (h.handedIn s (moves ++ works)).Perm (h.lanes.waitingFor s ++ h.queuedIn s moves) := by
  have between := run_regular regular moves
  obtain ⟨works, all, done⟩ := can_hand between s
  refine ⟨works, all, ?_⟩
  have handed := run_conserves between s works
  rw [done, queuedIn_work _ s all, List.append_nil, List.append_nil] at handed
  rw [handedIn_append]
  exact (handed.append_left _).trans (run_conserves regular s moves)

end MeterHub.Hub
