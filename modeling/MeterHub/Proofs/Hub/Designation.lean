import Mathlib.Data.List.Count
import Mathlib.Data.List.Nodup
import MeterHub.Proofs.Hub.Serving

/-!
Which sessions an identifier designates. Descriptions of ports are compared where sessions are
opened and closed, identifiers where events are routed and sessions are released. Both relations are
one, so the port of a session designates this session and no other, whatever serial numbers were
learned.
-/

set_option autoImplicit false
set_option relaxedAutoImplicit false

namespace MeterHub

theorem Port.identifier_agrees (p q : Port) : p.identifier.agrees q.identifier = p.same q := by
  obtain ⟨_ | a, n⟩ := p <;> obtain ⟨_ | b, m⟩ := q <;> rfl

theorem Live.IsPlaced.agrees_port {live : Live} (placed : live.IsPlaced) (p : Port) :
    p.identifier.agrees live.identifier = p.same live.port := by
  calc p.identifier.agrees live.identifier
      = p.identifier.agreesOnPort live.port.identifier := Hub.agrees_of_placed rfl placed
    _ = p.identifier.agrees live.port.identifier := (Identifier.agrees_of_unnumbered rfl _).symm
    _ = p.same live.port := Port.identifier_agrees p live.port

theorem Live.IsPlaced.identifier_eq {live : Live} (placed : live.IsPlaced)
    (unnumbered : live.identifier.serialNumber = none) : live.identifier = live.port.identifier :=
  Identifier.ext_attributes placed.portId placed.portName unnumbered

namespace Hub

variable {h : Hub}

theorem Orderly.sessions_nodup (orderly : h.Orderly) : h.sessions.Nodup :=
  orderly.distinct.of_map Live.source

theorem Orderly.disagree (orderly : h.Orderly) :
    h.sessions.Pairwise fun a b =>
      a.identifier.serialNumber = none ∨ b.identifier.serialNumber = none →
        a.identifier.agrees b.identifier = false ∧ b.identifier.agrees a.identifier = false := by
  apply orderly.exclusive.imp_of_mem
  intro a b left right apart unnumbered
  have refused : a.identifier.agrees b.identifier = false := by
    rcases unnumbered with first | second
    · rw [(orderly.placed a left).identifier_eq first, (orderly.placed b right).agrees_port]
      exact apart
    · rw [Identifier.agrees_comm, (orderly.placed b right).identifier_eq second,
        (orderly.placed a left).agrees_port, Port.same_comm]
      exact apart
  exact ⟨refused, (Identifier.agrees_comm _ _).trans refused⟩

theorem Orderly.same_iff_eq (orderly : h.Orderly) {a b : Live} (left : a ∈ h.sessions)
    (right : b ∈ h.sessions) : a.port.same b.port = true ↔ b = a := by
  have symmetric : Std.Symm fun a b : Live => a.port.same b.port = false :=
    ⟨fun a b apart => (Port.same_comm b.port a.port).trans apart⟩
  constructor
  · intro same
    by_contra other
    have apart := orderly.exclusive.forall left right (Ne.symm other)
    rw [same] at apart
    cases apart
  · rintro rfl
    exact Port.same_refl b.port

theorem Orderly.designates (orderly : h.Orderly) {live : Live} (member : live ∈ h.sessions) :
    (h.sessions.filter fun other => live.port.identifier.agrees other.identifier) = [live] := by
  have only : (h.sessions.filter fun other => live.port.identifier.agrees other.identifier) =
      h.sessions.filter (· == live) := by
    apply List.filter_congr
    intro other listed
    rw [(orderly.placed other listed).agrees_port, Bool.eq_iff_iff, beq_iff_eq]
    exact orderly.same_iff_eq member listed
  rw [only, List.filter_beq, List.count_eq_one_of_mem orderly.sessions_nodup member]
  rfl

theorem Orderly.find_port (orderly : h.Orderly) (port : Port) :
    (h.sessions.find? fun live => port.identifier.agrees live.identifier) =
      h.sessions.find? fun live => live.port.same port := by
  rw [← List.head?_filter, ← List.head?_filter]
  apply congrArg List.head?
  apply List.filter_congr
  intro live member
  rw [(orderly.placed live member).agrees_port, Port.same_comm]

/-- Two descriptions are of one port just if their identifiers agree, which is reflexive and
symmetric. Whatever has happened to a hub, two of its sessions do not agree unless both have learned
a serial number. So the identifier of the port of a session, and that of a session without a serial
number, designates this session and no other; and a session is found by the identifier of a port
just if it is found by the port. -/
theorem run_designation (config : Config) (moves : List Move) :
    let h := (fresh config).run moves
    (∀ p q : Port, p.same q = true ↔ p.identifier.agrees q.identifier = true) ∧
      (∀ p : Port, p.same p = true) ∧
      (∀ p q : Port, p.same q = true ↔ q.same p = true) ∧
      (h.sessions.Pairwise fun a b =>
        a.identifier.serialNumber = none ∨ b.identifier.serialNumber = none →
          a.identifier.agrees b.identifier = false ∧ b.identifier.agrees a.identifier = false) ∧
      (∀ live ∈ h.sessions, live.identifier.serialNumber = none →
        (h.sessions.filter fun other => live.identifier.agrees other.identifier) = [live]) ∧
      (∀ live ∈ h.sessions,
        (h.sessions.filter fun other => live.port.identifier.agrees other.identifier) = [live]) ∧
      ∀ port : Port, (h.sessions.find? fun live => port.identifier.agrees live.identifier) =
        h.sessions.find? fun live => live.port.same port := by
  intro h
  have orderly : h.Orderly := run_orderly config moves
  refine ⟨?_, Port.same_refl, ?_, orderly.disagree, ?_, ?_, orderly.find_port⟩
  · intro p q
    rw [Port.identifier_agrees]
  · intro p q
    rw [Port.same_comm]
  · intro live member unnumbered
    rw [(orderly.placed live member).identifier_eq unnumbered]
    exact orderly.designates member
  · intro live member
    exact orderly.designates member

/-- Two sessions have learned one serial number and agree; a third one, on a port of the same name,
has learned none and is designated by its identifier alone. -/
theorem run_designation_same_numbers :
    let site := quietSite []
    let h := (fresh {}).run [.appeared site ⟨some "1", "a"⟩, .appeared site ⟨some "2", "a"⟩,
      .appeared site ⟨some "3", "a"⟩, .report 0 (.frame (.historicSample "61")),
      .report 1 (.frame (.historicSample "61"))]
    let designated (i : Identifier) := h.sessions.filter fun other => i.agrees other.identifier
    (designated ((Identifier.ofPort (some "1") "a").withSerialNumber "61")).map Live.source = [0, 1] ∧
      ∃ live ∈ h.sessions, live.source = 2 ∧ live.identifier.serialNumber = none ∧
        designated live.identifier = [live] := by
  intro site h designated
  obtain ⟨-, -, -, -, unnumbered, -, -⟩ := run_designation {} [.appeared site ⟨some "1", "a"⟩,
    .appeared site ⟨some "2", "a"⟩, .appeared site ⟨some "3", "a"⟩,
    .report 0 (.frame (.historicSample "61")), .report 1 (.frame (.historicSample "61"))]
  obtain ⟨live, member, third, none⟩ : ∃ live ∈ h.sessions,
      live.source = 2 ∧ live.identifier.serialNumber = none := by decide
  exact ⟨by decide, live, member, third, none, unnumbered live member none⟩

end Hub

end MeterHub
