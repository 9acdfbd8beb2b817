import Mathlib.Data.List.Perm.Basic
import MeterHub.Proofs.Hub.Telling
import MeterHub.Proofs.Hub.Order

/-!
Notices of unplugged devices. Each session of a device that is unplugged leaves one, with what it
knows in the end. It is pending until it is announced, whatever else goes on in the background.
-/

set_option autoImplicit false
set_option relaxedAutoImplicit false

namespace MeterHub

/-- The moves in which nobody asks for anything. -/
def Move.IsBackground : Move → Prop
  | .appeared _ _ | .disappeared _ | .endRead _ | .report _ _ | .notify _ => True
  | .poll _ | .refill | .consume _ | .takeUp _ | .finish _ _ => True
  | _ => False

def Move.announces : Move → Bool
  | .notify _ => true
  | _ => false

namespace Hub

/-- The change of presence that a move handles, told directly or found by polling. -/
def handled (h : Hub) : Move → Option Presence
  | .appeared _ port => some (.appeared port)
  | .disappeared port => some (.disappeared port)
  | .consume _ => h.poller.bind fun poller => poller.queue.head?
  | _ => none

theorem handled_background {h : Hub} {m : Move} {change : Presence}
    (handles : h.handled m = some change) : m.IsBackground ∧ m.announces = false := by
  cases m with
  | appeared site port => exact ⟨trivial, rfl⟩
  | disappeared port => exact ⟨trivial, rfl⟩
  | consume site => exact ⟨trivial, rfl⟩
  | _ => cases handles

theorem consume_handled {h : Hub} {site : Site} {change : Presence}
    (handles : h.handled (.consume site) = some change) :
    ∃ poller, h.consume site = { h with poller }.handle site change := by
  obtain ⟨poller, polling, first⟩ := Option.bind_eq_some_iff.mp handles
  obtain ⟨rest, queued⟩ := List.head?_eq_some_iff.mp first
  refine ⟨some { poller with queue := rest }, ?_⟩
  unfold consume
  simp only [polling, Poller.take, queued, List.take_succ_cons, List.take_zero,
    List.drop_succ_cons, List.drop_zero]

/-- What a session knows once it has heard the last words of its source. -/
def partingIdentifier (sources : List Source) (live : Live) : Identifier :=
  live.identifier.learnAll (parting sources live).signals

theorem stopSession_identifier (h : Hub) (live : Live) :
    (h.stopSession live).1 = partingIdentifier h.sources live := by
  unfold stopSession partingIdentifier parting
  cases h.sources[live.source]? with
  | none => rfl
  | some source =>
    obtain ⟨_, heard⟩ := Session.hearAll_eq live.session source.stop.1
    exact congrArg Session.identifier heard

theorem stopSessions_identifiers {h : Hub} {lives : List Live}
    (distinct : (lives.map Live.source).Nodup) :
    (h.stopSessions lives).1 = lives.map (partingIdentifier h.sources) := by
  induction lives generalizing h with
  | nil => rfl
  | cons live lives ih =>
    obtain ⟨apart, rest⟩ := List.nodup_cons.mp distinct
    obtain ⟨lanes, stopped⟩ := stopSession_eq h live
    have later := ih (h := { h with lanes, sources := silence h.sources live }) rest
    have unmoved : lives.map (partingIdentifier (silence h.sources live)) =
        lives.map (partingIdentifier h.sources) := by
      apply List.map_congr_left
      intro other member
      unfold partingIdentifier
      rw [parting_silence apart h.sources other member]
    change (h.stopSession live).1 :: ((h.stopSession live).2.stopSessions lives).1 = _
    rw [stopSession_identifier, stopped, later]
    exact congrArg (_ :: ·) unmoved

theorem disappeared_notices {h : Hub} (orderly : h.Orderly) (port : Port) :
    (h.disappeared port).notices = h.notices ++
      (h.sessions.filter fun live => live.port.same port).map (partingIdentifier h.sources) := by
  let kept : Hub := { h with sessions := h.sessions.filter fun live => !live.port.same port }
  let gone := h.sessions.filter fun live => live.port.same port
  have distinct : (gone.map Live.source).Nodup :=
    orderly.distinct.sublist (List.filter_sublist.map Live.source)
  obtain ⟨_, stopped⟩ := stopSessions_eq kept gone
  change (kept.stopSessions gone).2.notices ++ (kept.stopSessions gone).1 = _
  rw [stopped, stopSessions_identifiers distinct]

theorem unplug_notices {h : Hub} (orderly : h.Orderly) {m : Move} {p : Port}
    (unplugs : h.handled m = some (.disappeared p)) :
    ∀ old ∈ h.sessions, old.port.same p = true →
      partingIdentifier h.sources old ∈ (h.move m).notices := by
  have left {g : Hub} (same : g.Orderly) : ∀ old ∈ g.sessions, old.port.same p = true →
      partingIdentifier g.sources old ∈ (g.disappeared p).notices := by
    intro old member on_port
    rw [disappeared_notices same, List.mem_append]
    exact .inr (List.mem_map_of_mem (List.mem_filter.mpr ⟨member, on_port⟩))
  cases m with
  | disappeared port =>
    obtain rfl : port = p := Presence.disappeared.inj (Option.some.inj unplugs)
    exact left orderly
  | consume site =>
    obtain ⟨poller, consumed⟩ := consume_handled unplugs
    have growth : Growth false h { h with poller } := .aside rfl rfl rfl
    change ∀ old ∈ h.sessions, _ → _ ∈ (h.consume site).notices
    rw [consumed]
    exact left (growth.orderly orderly)
  | _ => cases unplugs

theorem mem_notices_iff {notices : List Identifier} {index : Nat} {i j : Identifier}
    (noted : notices[index]? = some i) : j ∈ notices ↔ j = i ∨ j ∈ notices.eraseIdx index := by
  obtain ⟨bound, rfl⟩ := List.getElem?_eq_some_iff.mp noted
  rw [← List.mem_cons]
  exact (List.getElem_cons_eraseIdx_perm bound).mem_iff.symm

theorem Opens.notices {h after : Hub} {opening : Opening} {port : Port}
    {result : Except Failure (Nat × Bool)} (opens : Opens h opening port result after) :
    after.notices = h.notices := by
  cases opens <;> rfl

theorem appeared_notices (h : Hub) (site : Site) (port : Port) (polled : Bool) :
    (h.appeared site port polled).2.notices = h.notices := by
  rcases h.appeared_cases site port polled with nothing | opened
  · rw [nothing]
  · rw [opened, (openPort_opens h site.opening port).notices]

theorem notify_notices {h : Hub} {index : Nat} {i : Identifier}
    (noted : h.notices[index]? = some i) :
    (h.notify index).notices = h.notices.eraseIdx index := by
  obtain ⟨_, _, _, notified⟩ := notify_eq noted
  rw [notified]

theorem endRead_notices (h : Hub) (index : Nat) : (h.endRead index).notices = h.notices := by
  rcases h.endRead_cases index with nothing | ⟨read, at_index, pending⟩
  · rw [nothing]
  · obtain ⟨_, ended⟩ := endRead_eq at_index pending
    rw [ended]

theorem handle_notices {h : Hub} (orderly : h.Orderly) (site : Site) (change : Presence) :
    h.notices ⊆ (h.handle site change).notices := by
  cases change with
  | appeared port => exact (appeared_notices h site port true).symm ▸ List.Subset.refl _
  | disappeared port =>
    change h.notices ⊆ (h.disappeared port).notices
    rw [disappeared_notices orderly]
    exact List.subset_append_left _ _

theorem move_notices {h : Hub} (orderly : h.Orderly) {m : Move} (background : m.IsBackground)
    {i : Identifier} (noted : i ∈ h.notices) :
    i ∈ (h.move m).notices ∨ ∃ index, m = .notify index ∧ h.notices[index]? = some i := by
  cases m with
  | appeared site port => exact .inl ((appeared_notices h site port false).symm ▸ noted)
  | disappeared port =>
    exact .inl (handle_notices orderly (quietSite []) (.disappeared port) noted)
  | endRead index => exact .inl ((endRead_notices h index).symm ▸ noted)
  | report source signal =>
    obtain ⟨_, reported⟩ := report_eq orderly.distinct source signal
    change i ∈ (h.report source signal).notices ∨ _
    rw [reported]
    exact .inl noted
  | notify index =>
    change i ∈ (h.notify index).notices ∨ _
    cases found : h.notices[index]? with
    | none =>
      rw [notify_absent found]
      exact .inl noted
    | some j =>
      rw [notify_notices found]
      rcases (mem_notices_iff found).mp noted with rfl | left
      · exact .inr ⟨index, rfl, found⟩
      · exact .inl left
  | poll ports => exact .inl noted
  | refill => exact .inl noted
  | consume site =>
    change i ∈ (h.consume site).notices ∨ _
    rcases h.consume_cases site with nothing | ⟨poller, change, rest, _, _, consumed⟩
    · rw [nothing]
      exact .inl noted
    · let drained : Hub := { h with poller := some { poller with queue := rest } }
      have growth : Growth false h drained := .aside rfl rfl rfl
      rw [consumed]
      exact .inl (handle_notices (growth.orderly orderly) site change noted)
  | takeUp lane =>
    obtain ⟨_, _, taken, _⟩ := h.takeUp_eq lane
    change i ∈ (h.takeUp lane).notices ∨ _
    rw [taken]
    exact .inl noted
  | finish lane panicked => exact .inl noted
  | _ => exact background.elim

theorem pending_or_announced {h : Hub} (orderly : h.Orderly) {moves : List Move}
    (background : ∀ m ∈ moves, m.IsBackground) {i : Identifier} (noted : i ∈ h.notices) :
    i ∈ (h.run moves).notices ∨ ∃ early index late, moves = early ++ .notify index :: late ∧
      (h.run early).notices[index]? = some i := by
  induction moves generalizing h with
  | nil => exact .inl noted
  | cons m moves ih =>
    obtain ⟨first, later⟩ := List.forall_mem_cons.mp background
    rcases move_notices orderly first noted with still | ⟨index, rfl, announced⟩
    · rcases ih (move_orderly orderly m) later still with
        pending | ⟨early, index, late, rfl, announced⟩
      · exact .inl pending
      · exact .inr ⟨m :: early, index, late, rfl, announced⟩
    · exact .inr ⟨[], index, moves, rfl, announced⟩

end Hub

end MeterHub
