import Mathlib.Data.List.Infix
import Mathlib.Logic.Function.Iterate
import MeterHub.Presence.Step
import MeterHub.Proofs.Presence.Changes

/-!
What a poller sends. Whatever enumerations fail, and however slowly its consumer takes what it
sends, it sends the changes from snapshot to snapshot, each once and in order.
-/

set_option autoImplicit false
set_option relaxedAutoImplicit false

namespace MeterHub.Poller

theorem send_pending (p : Poller) : p.send.pending = p.pending := by
  unfold send
  split
  · rfl
  · rename_i announced
    simp [pending, waiting, announced]
  · rename_i announced
    split <;> simp [pending, waiting, announced]

theorem send_latest (p : Poller) : p.send.latest = p.latest := by
  unfold send
  split
  · rfl
  · rename_i announced
    simp [latest, announced]
  · rename_i announced
    split <;> simp [latest, announced]

theorem send_room {p : Poller} (room : p.queue.length ≤ capacity) :
    p.send.queue.length ≤ capacity := by
  unfold send
  split
  · exact room
  · exact room
  · split
    · rename_i free
      rw [List.length_append]
      exact free
    · exact room

theorem refill_eq_sends (p : Poller) : ∃ number, p.refill = send^[number] p := by
  obtain ⟨known, announcing, queue⟩ := p
  cases announcing with
  | none => exact ⟨0, rfl⟩
  | some announced =>
    obtain ⟨snapshot, waiting⟩ := announced
    induction waiting generalizing queue with
    | nil => exact ⟨1, by simp [refill, send]⟩
    | cons change rest ih =>
      by_cases free : queue.length < capacity
      · obtain ⟨number, sends⟩ := ih (queue ++ [change])
        refine ⟨number + 1, ?_⟩
        -- the first change takes one place, so what is left of the room is for the others
        have room : capacity - queue.length = capacity - (queue ++ [change]).length + 1 := by
          rw [List.length_append, List.length_singleton]
          omega
        rw [Function.iterate_succ_apply]
        simp only [send, free, if_true]
        rw [← sends]
        simp only [refill, room, List.take_succ_cons, List.drop_succ_cons, List.append_assoc,
          List.cons_append, List.nil_append]
      · have full : capacity - queue.length = 0 := by omega
        exact ⟨0, by simp [refill, full]⟩

theorem refill_induct {P : Poller → Prop} (keeps : ∀ p, P p → P p.send) {p : Poller}
    (before : P p) : P p.refill := by
  obtain ⟨number, sends⟩ := p.refill_eq_sends
  rw [sends]
  exact Function.Iterate.rec P before keeps number

theorem refill_pending (p : Poller) : p.refill.pending = p.pending :=
  refill_induct (P := fun after => after.pending = p.pending)
    (fun after same => (send_pending after).trans same) rfl

theorem capacity_le_of_blocked {p : Poller} (blocked : p.refill.isBlocked = true) :
    capacity ≤ p.refill.queue.length := by
  unfold refill at blocked ⊢
  split
  · rename_i idle
    rw [idle] at blocked
    simp [isBlocked, idle] at blocked
  · rename_i snapshot waiting announced
    rw [announced] at blocked
    simp only at blocked ⊢
    split
    · rename_i none
      simp [isBlocked, none] at blocked
    · rename_i rest left
      have more : capacity - p.queue.length < waiting.length := by
        by_contra fewer
        exact left (List.drop_eq_nil_of_le (by omega))
      rw [List.length_append, List.length_take]
      omega

theorem free_of_pending {p : Poller} (empty : p.refill.pending = []) :
    p.refill.isBlocked = false := by
  rw [← Bool.not_eq_true]
  intro blocked
  have full := capacity_le_of_blocked blocked
  rw [(List.append_eq_nil_iff.mp empty).1] at full
  cases full

theorem waiting_of_free {p : Poller} (free : p.isBlocked = false) : p.waiting = [] := by
  unfold isBlocked at free
  unfold waiting
  cases announcing : p.announcing with
  | none => rfl
  | some announced =>
    rw [announcing] at free
    cases free

theorem take_pending {p : Poller} {limit : Nat} (positive : 0 < limit) :
    (p.refill.take limit).2.pending.length ≤ p.pending.length - 1 := by
  rw [← p.refill_pending]
  have taken : (p.refill.take limit).2.pending =
      p.refill.queue.drop limit ++ p.refill.waiting := rfl
  rw [taken]
  unfold pending
  rw [List.length_append, List.length_append, List.length_drop]
  by_cases blocked : p.refill.isBlocked = true
  · have full := capacity_le_of_blocked blocked
    unfold capacity at full
    omega
  · rw [waiting_of_free (by simpa using blocked), List.length_nil]
    omega

theorem poll_cases (p : Poller) (ports : Except Failure (List Port)) :
    (p.poll ports = p ∧ p.heeded ports = []) ∨ p.poll ports = (p.enumerate ports).refill := by
  unfold poll heeded enumerate
  cases p.announcing with
  | some announced => exact .inl ⟨rfl, rfl⟩
  | none =>
    cases ports with
    | error failure => exact .inl ⟨rfl, rfl⟩
    | ok current => exact .inr rfl

namespace Watch

/-- A poller has sent or keeps waiting all changes from snapshot to snapshot, and its queue keeps
within its room. -/
structure Faithful (w : Watch) : Prop where
  complete : w.received ++ w.poller.pending = Presence.stream w.snapshots
  latest : w.poller.latest = w.snapshots.getLastD []
  room : w.poller.queue.length ≤ capacity

theorem enumerate_faithful {w : Watch} (faithful : w.Faithful)
    (ports : Except Failure (List Port)) : (w.step (.enumerate ports)).Faithful := by
  obtain ⟨complete, latest, room⟩ := faithful
  cases idle : w.poller.announcing with
  | some announced =>
    have unheeded : w.step (.enumerate ports) = w := by
      simp [step, enumerate, heeded, idle]
    rw [unheeded]
    exact ⟨complete, latest, room⟩
  | none =>
    cases ports with
    | error failure =>
      have failed : w.step (.enumerate (.error failure)) = w := by
        simp [step, enumerate, heeded, idle]
      rw [failed]
      exact ⟨complete, latest, room⟩
    | ok current =>
      have known : w.poller.known = w.snapshots.getLastD [] := by
        rw [← latest]
        simp [Poller.latest, idle]
      have sent : w.received ++ w.poller.queue = Presence.stream w.snapshots := by
        rw [← complete]
        simp [pending, waiting, idle]
      constructor
      · simp only [step, enumerate, heeded, idle, pending, waiting]
        rw [← List.append_assoc, sent, known, Presence.stream_concat]
      · simp only [step, enumerate, heeded, idle, Poller.latest]
        rw [List.getLastD_concat]
      · simp only [step, enumerate, idle]
        exact room

theorem send_faithful {w : Watch} (faithful : w.Faithful) : (w.step .send).Faithful where
  complete := by
    change w.received ++ w.poller.send.pending = Presence.stream w.snapshots
    rw [send_pending]
    exact faithful.complete
  latest := (send_latest w.poller).trans faithful.latest
  room := send_room faithful.room

theorem refill_faithful {w : Watch} (faithful : w.Faithful) : (w.step .refill).Faithful :=
  refill_induct (P := fun poller => ({ w with poller } : Watch).Faithful)
    (fun _ before => send_faithful before) faithful

theorem step_failed (w : Watch) (failure : Failure) : w.step (.poll (.error failure)) = w := by
  unfold step poll heeded
  cases w.poller.announcing <;> simp

theorem poll_faithful {w : Watch} (faithful : w.Faithful) (ports : Except Failure (List Port)) :
    (w.step (.poll ports)).Faithful := by
  rcases w.poller.poll_cases ports with ⟨nothing, unheeded⟩ | polled
  · have same : w.step (.poll ports) = w := by
      simp only [step, nothing, unheeded, List.append_nil]
    rw [same]
    exact faithful
  · have both : w.step (.poll ports) = (w.step (.enumerate ports)).step .refill := by
      simp only [step, polled]
    rw [both]
    exact refill_faithful (enumerate_faithful faithful ports)

theorem take_faithful {w : Watch} (faithful : w.Faithful) (limit : Nat) :
    (w.step (.take limit)).Faithful where
  complete := by
    have split : (w.poller.take limit).1 ++ (w.poller.take limit).2.pending = w.poller.pending := by
      change w.poller.queue.take limit ++ (w.poller.queue.drop limit ++ w.poller.waiting) = _
      rw [← List.append_assoc, List.take_append_drop]
      rfl
    change (w.received ++ (w.poller.take limit).1) ++ (w.poller.take limit).2.pending = _
    rw [List.append_assoc, split]
    exact faithful.complete
  latest := faithful.latest
  room := by
    have fewer : (w.poller.queue.drop limit).length ≤ w.poller.queue.length := by simp
    exact fewer.trans faithful.room

theorem step_faithful {w : Watch} (faithful : w.Faithful) (step : Step) :
    (w.step step).Faithful := by
  cases step with
  | poll ports => exact poll_faithful faithful ports
  | refill => exact refill_faithful faithful
  | enumerate ports => exact enumerate_faithful faithful ports
  | send => exact send_faithful faithful
  | take limit => exact take_faithful faithful limit

theorem run_faithful {w : Watch} (faithful : w.Faithful) (steps : List Step) :
    (w.run steps).Faithful := by
  induction steps generalizing w with
  | nil => exact faithful
  | cons step steps ih => exact ih (step_faithful faithful step)

/-- What a consumer does that takes some changes at a time, each time once there may be new ones. -/
def drain (limits : List Nat) : List Step :=
  limits.flatMap (fun limit => [.refill, .take limit]) ++ [.refill]

/-- A consumer that takes often enough, however few at a time, has taken everything, and the poller
is free to enumerate again. -/
theorem drain_pending {limits : List Nat} (positive : ∀ limit ∈ limits, 0 < limit) {w : Watch}
    (enough : w.poller.pending.length ≤ limits.length) :
    (w.run (drain limits)).poller.pending = [] ∧
      (w.run (drain limits)).poller.isBlocked = false ∧
      (w.run (drain limits)).snapshots = w.snapshots := by
  induction limits generalizing w with
  | nil =>
    have empty : w.poller.refill.pending = [] := by
      rw [refill_pending]
      exact List.length_eq_zero_iff.mp (Nat.le_zero.mp enough)
    exact ⟨empty, free_of_pending empty, rfl⟩
  | cons limit limits ih =>
    obtain ⟨first, later⟩ := List.forall_mem_cons.mp positive
    have fewer : (w.poller.refill.take limit).2.pending.length ≤ w.poller.pending.length - 1 :=
      take_pending first
    have still : (w.poller.refill.take limit).2.pending.length ≤ limits.length := by
      rw [List.length_cons] at enough
      omega
    exact ih later (w := (w.step .refill).step (.take limit)) still

/-- Whatever is enumerated and whenever the consumer takes anything, what it has received, what is
queued and what waits are together the changes from snapshot to snapshot, and a failed enumeration
does nothing. When nothing waits, all of it was sent, and replaying it gives the ports of the last
snapshot. If no snapshot lists a port twice, every port appears first and then disappears and
appears in turn. A consumer that goes on taking receives everything, and the poller can go on. -/
theorem run_stream (steps : List Step) :
    let w := ({} : Watch).run steps
    w.sent ++ w.poller.waiting = Presence.stream w.snapshots ∧
      w.poller.queue.length ≤ capacity ∧
      (∀ failure, w.step (.poll (.error failure)) = w) ∧
      (w.poller.isBlocked = false →
        w.sent = Presence.stream w.snapshots ∧
          Presence.replay ∅ w.sent = (w.snapshots.getLastD []).toFinset) ∧
      (∀ previous current, (Presence.changes previous current).Pairwise fun a b =>
        a.isAppearance = true → b.isAppearance = true) ∧
      ((∀ snapshot ∈ w.snapshots, snapshot.Nodup) → ∀ port place change,
        (Presence.about port w.sent)[place]? = some change →
          change = if place % 2 = 0 then .appeared port else .disappeared port) ∧
      ∀ limits, (∀ limit ∈ limits, 0 < limit) → w.poller.pending.length ≤ limits.length →
        (w.run (drain limits)).received = Presence.stream w.snapshots ∧
          (w.run (drain limits)).poller.isBlocked = false := by
  intro w
  have faithful : w.Faithful := run_faithful ⟨rfl, rfl, Nat.zero_le _⟩ steps
  have complete : w.sent ++ w.poller.waiting = Presence.stream w.snapshots := by
    rw [← faithful.complete]
    exact List.append_assoc _ _ _
  refine ⟨complete, faithful.room, ?_, ?_, Presence.changes_ordered, ?_, ?_⟩
  · intro failure
    exact w.step_failed failure
  · intro free
    have sent : w.sent = Presence.stream w.snapshots := by
      rw [← complete, waiting_of_free free, List.append_nil]
    exact ⟨sent, sent ▸ Presence.replay_stream w.snapshots⟩
  · intro once port place change told
    obtain ⟨number, turns, _⟩ := Presence.about_stream once port
    have later : (Presence.about port (Presence.stream w.snapshots))[place]? = some change := by
      rw [← complete, Presence.about_append]
      have bound : place < (Presence.about port w.sent).length :=
        (List.getElem?_eq_some_iff.mp told).1
      rw [List.getElem?_append_left bound]
      exact told
    rw [turns, List.getElem?_map] at later
    obtain ⟨place', listed, rfl⟩ := Option.map_eq_some_iff.mp later
    obtain rfl : place' = place := by
      obtain ⟨bound, same⟩ := List.getElem?_eq_some_iff.mp listed
      rw [List.getElem_range] at same
      exact same.symm
    rfl
  · intro limits positive enough
    obtain ⟨empty, free, snapshots⟩ := drain_pending positive enough
    refine ⟨?_, free⟩
    have drained := (run_faithful faithful (drain limits)).complete
    rw [empty, List.append_nil, snapshots] at drained
    exact drained

/-- A change waits while the consumer takes the one before it, an enumeration fails, and a port
comes back. -/
theorem run_stream_returning :
    let a : Port := ⟨none, "a"⟩
    let b : Port := ⟨some "1", "b"⟩
    let w := ({} : Watch).run [.enumerate (.ok [a, b]), .send, .take 1, .send, .send,
      .poll (.error .modeNotDefined), .poll (.ok [b]), .poll (.ok [a, b]), .take 2]
    (w.poller.isBlocked = false ∧ Presence.replay ∅ w.sent = {a, b}) ∧
      (∀ snapshot ∈ w.snapshots, snapshot.Nodup) ∧
      ((Presence.about a w.sent)[1]? = some (.disappeared a) ∧
        Presence.disappeared a = if 1 % 2 = 0 then .appeared a else .disappeared a) ∧
      w.received = [.appeared a, .appeared b, .disappeared a] ∧
      (w.run (drain [1])).received = Presence.stream w.snapshots := by
  intro a b w
  obtain ⟨_, _, _, settled, _, turns, drained⟩ := run_stream [.enumerate (.ok [a, b]), .send,
    .take 1, .send, .send, .poll (.error .modeNotDefined), .poll (.ok [b]), .poll (.ok [a, b]),
    .take 2]
  have free : w.poller.isBlocked = false := by decide
  have once : ∀ snapshot ∈ w.snapshots, snapshot.Nodup := by decide
  have gone : (Presence.about a w.sent)[1]? = some (.disappeared a) := by decide
  have positive : ∀ limit ∈ [1], 0 < limit := by decide
  have enough : w.poller.pending.length ≤ [1].length := by decide
  refine ⟨⟨free, (settled free).2⟩, once, ⟨gone, turns once a 1 _ gone⟩, by decide, ?_⟩
  exact (drained [1] positive enough).1

end Watch

end MeterHub.Poller
