import MeterHub.Proofs.Lanes.History

/-!
The order over several lanes. A lane that opens after another one of the same listener was closed
has an event to hand over while the older lane may still have some. What the listener is handed is
in the order of submission as long as no lane takes anything up before the older ones of its
listener are empty; nothing sees to that.
-/

set_option autoImplicit false
set_option relaxedAutoImplicit false

namespace MeterHub.Lanes

variable {σ : Type} [DecidableEq σ]

/-- Whether a step leaves the older lanes of a listener their turn: a lane of the listener takes up
an event only if nothing waits in those that opened before it. -/
def isInTurn (l : Lanes σ) (s : σ) : Step σ → Bool
  | .take index =>
    (l.next? index).all fun (listener, _) =>
      listener ≠ s || (Lane.own (l.lanes.take index) s).all (·.queue.isEmpty)
  | _ => true

/-- Whether all steps of a run leave the older lanes of a listener their turn. -/
def takesTurns (l : Lanes σ) (s : σ) : List (Step σ) → Bool
  | [] => true
  | step :: steps => l.isInTurn s step && (l.step step).takesTurns s steps

theorem take_waiting {l : Lanes σ} {s : σ} {index : Nat} {event : Event}
    (next : l.next? index = some (s, event)) :
    ∃ later, l.waitingFor s =
        Lane.waiting (Lane.own (l.lanes.take index) s) ++ event :: later ∧
      (l.take index).waitingFor s = Lane.waiting (Lane.own (l.lanes.take index) s) ++ later := by
  obtain ⟨lane, found, own, follows⟩ := next?_eq_some next
  rcases lane.take_cases with ⟨nothing, _⟩ | ⟨event', queue, follows', _, queued, up⟩
  · rw [nothing] at follows
    cases follows
  · rw [follows', Option.some.injEq] at follows
    subst follows
    have taking : (l.take index).lanesOf s = Lane.own (l.lanes.modify index Lane.take) s := rfl
    unfold waitingFor
    rw [taking, lanesOf_around found, own_modify found lane.take_fields.1, if_pos own, if_pos own,
      up]
    simp only [Lane.waiting_append, Lane.waiting_cons, queued, List.append_assoc,
      List.cons_append, List.nil_append]
    exact ⟨_, rfl, rfl⟩

theorem isInTurn_take_iff {l : Lanes σ} {s : σ} {index : Nat} {event : Event}
    (next : l.next? index = some (s, event)) :
    l.isInTurn s (.take index) = true ↔
      Lane.waiting (Lane.own (l.lanes.take index) s) = [] := by
  unfold isInTurn Lane.waiting
  simp [next]

/-- What a step queues for a listener comes behind all that waits for it, and what a step in turn
hands over comes from the front. -/
theorem step_in_order {l : Lanes σ} (tidy : l.Tidy) {s : σ} {step : Step σ}
    (turn : l.isInTurn s step = true) :
    Happening.handedIn (l.happens s step).toList ++ (l.step step).waitingFor s =
      l.waitingFor s ++ Happening.queuedIn (l.happens s step).toList := by
  cases handed : Happening.handedIn (l.happens s step).toList with
  | nil => exact shifts_waiting (step_shifts tidy s step) handed
  | cons event rest =>
    have happens : l.happens s step = some (.handed event) ∧ rest = [] := by
      cases happening : l.happens s step with
      | none =>
        rw [happening] at handed
        cases handed
      | some happening' =>
        rw [happening] at handed
        cases happening' <;> cases handed
        exact ⟨rfl, rfl⟩
    obtain ⟨index, rfl, next⟩ := happens_handed happens.1
    obtain ⟨later, before, after⟩ := take_waiting next
    have empty := (isInTurn_take_iff next).mp turn
    have queued : Happening.queuedIn (l.happens s (.take index)).toList = [] := by
      rw [happens.1]
      rfl
    change (event :: rest) ++ (l.take index).waitingFor s = _
    rw [queued, before, after, empty, happens.2, List.append_nil]
    rfl

theorem run_takes_turns {l : Lanes σ} (tidy : l.Tidy) {s : σ} {steps : List (Step σ)}
    (turns : l.takesTurns s steps = true) :
    Happening.handedIn (l.history s steps) ++ (l.run steps).waitingFor s =
      l.waitingFor s ++ Happening.queuedIn (l.history s steps) := by
  induction steps generalizing l with
  | nil => exact (List.append_nil _).symm
  | cons step steps ih =>
    obtain ⟨now, later⟩ := Bool.and_eq_true_iff.mp turns
    have first := step_in_order tidy now
    have rest := ih (step_tidy tidy step) later
    change Happening.handedIn ((l.happens s step).toList ++ (l.step step).history s steps) ++
      ((l.step step).run steps).waitingFor s =
        l.waitingFor s ++
          Happening.queuedIn ((l.happens s step).toList ++ (l.step step).history s steps)
    rw [Happening.handedIn_append, Happening.queuedIn_append, List.append_assoc, rest,
      ← List.append_assoc, first, List.append_assoc]

/-- Over a whole run, closes included, a listener is handed its events in the order in which they
were queued if its lanes take turns. A lane that does not wait for its turn hands its event over
before some that were queued earlier and still wait. -/
theorem run_in_order (steps : List (Step σ)) (s : σ)
    (turns : ({} : Lanes σ).takesTurns s steps = true) :
    let l := ({} : Lanes σ).run steps
    let history := ({} : Lanes σ).history s steps
    Happening.handedIn history ++ l.waitingFor s = Happening.queuedIn history ∧
      ∀ index event, l.next? index = some (s, event) → l.isInTurn s (.take index) = false →
        ∃ older later, older ≠ [] ∧ l.waitingFor s = older ++ event :: later ∧
          (l.take index).waitingFor s = older ++ later := by
  intro l history
  refine ⟨run_takes_turns empty_tidy turns, ?_⟩
  intro index event next early
  obtain ⟨later, before, after⟩ := take_waiting next
  refine ⟨Lane.waiting (Lane.own (l.lanes.take index) s), later, ?_, before, after⟩
  intro empty
  rw [(isInTurn_take_iff next).mpr empty] at early
  cases early

/-- A lane that was closed is emptied before the next one of its listener begins. -/
theorem run_in_order_reopened :
    let fault : Event := .fault (.unplugged (.ofPort none "a"))
    let next : Event := .fault (.unplugged (.ofPort none "b"))
    let steps : List (Step String) :=
      [.deliver "x" fault, .close "x", .deliver "x" next, .take 0, .take 1]
    ({} : Lanes String).takesTurns "x" steps = true ∧
      Happening.handedIn (({} : Lanes String).history "x" steps) ++ [] = [fault, next] := by
  intro fault next steps
  have turns : ({} : Lanes String).takesTurns "x" steps = true := by decide
  have drained : (({} : Lanes String).run steps).waitingFor "x" = [] := by decide
  have order := (run_in_order steps "x" turns).1
  rw [drained] at order
  exact ⟨turns, order.trans (by decide)⟩

/-- The lane that opened later goes first: what was queued after a close is handed over while what
was queued before it still waits. -/
theorem run_overtaken :
    let fault : Event := .fault (.unplugged (.ofPort none "a"))
    let next : Event := .fault (.unplugged (.ofPort none "b"))
    let steps : List (Step String) :=
      [.deliver "x" fault, .close "x", .deliver "x" next, .take 1, .finish 1 false, .take 0]
    ({} : Lanes String).history "x" steps = [.queued fault, .closed, .queued next, .handed next,
      .ended next false, .handed fault] := by
  decide

end MeterHub.Lanes
