import MeterHub.Frame.Samples
import MeterHub.Proofs.Hub.Speaking

/-!
Exact routing. Whatever happens to a hub, all that sources say goes once to everyone who wants to
hear about the stream, by the identifier that each event carries, and to nobody else. Whoever has
left is told nothing until it subscribes again.
-/

set_option autoImplicit false
set_option relaxedAutoImplicit false

namespace MeterHub.Hub

theorem IsAbsent.deaf {r : Registry Identifier Subscriber} {s : Subscriber} (absent : IsAbsent r s)
    (events : List Event) : toldTo r s events = [] := by
  apply toldTo_eq_nil
  rintro event _ (listed | ⟨key, entered, _⟩)
  · exact absent.1 listed
  · exact absent.2 key entered

theorem move_unheard {h : Hub} (wired : h.Wired) {m : Move} {s : Subscriber}
    (before : toldTo h.registry s (h.announcements m) = []) (audience : IsAbsent (h.audience m) s) :
    ((h.move m).lanes.heldFor s).Sublist (h.lanes.heldFor s) := by
  obtain ⟨speeches, routed⟩ := (move_carried wired m).routed
  obtain ⟨left, fewer, _, held⟩ := routed.told s
  rw [held, before, audience.deaf, List.append_nil, List.append_nil]
  exact fewer

theorem run_unheard {h : Hub} (wired : h.Wired) {name : String}
    (absent : IsAbsent h.registry (.listener name)) {moves : List Move}
    (others : ∀ m ∈ moves, m.enters name = false) :
    ((h.run moves).lanes.heldFor (.listener name)).Sublist
      (h.lanes.heldFor (.listener name)) := by
  induction moves generalizing h with
  | nil => exact .refl _
  | cons m moves ih =>
    obtain ⟨now, later⟩ := List.forall_mem_cons.mp others
    have still := (move_enters wired.orderly m).absent now absent
    have audience : IsAbsent (h.audience m) (.listener name) := by
      cases m with
      | stop => exact absent
      | subscribeTo site key other =>
        refine absent.subscribeTo ?_ key
        rintro ⟨⟩
        exact Bool.false_ne_true (now.symm.trans (beq_self_eq_true name))
      | beginRead site key timeout => exact absent.subscribeTo (s := .reader h.reads.length) nofun key
      | _ => exact still
    have first := move_unheard wired (absent.deaf _) audience
    exact (ih (move_wired wired m) still later).trans first

/-- A signal of the source of a live session goes once to everyone who is told about the stream by
the identifier that the session knows after it. Beside the lanes only what the session knows
changes. -/
structure Reported (h : Hub) (live : Live) (signal : Signal) (after : Hub) : Prop where
  stamped : (live.session.hear signal).1.identifier = live.identifier.learnFrom signal
  told : ∀ s, after.lanes.heldFor s = h.lanes.heldFor s ++
    if IsTold h.registry s (live.identifier.learnFrom signal) then [(live.session.hear signal).1]
    else []
  rest : ∃ lanes, after =
    { h with lanes, sessions := h.sessions.map (hears (.report live.source signal)) }

theorem report_reported {h : Hub} (wired : h.Wired) {live : Live} (member : live ∈ h.sessions)
    (signal : Signal) : h.Reported live signal (h.report live.source signal) := by
  have stamped : (live.session.hear signal).1.identifier = live.identifier.learnFrom signal := by
    cases signal <;> rfl
  have tells := report_tells wired member signal
  refine ⟨stamped, ?_, report_eq wired.orderly.distinct live.source signal⟩
  intro s
  rw [tells.held]
  congr 1
  unfold toldTo
  rw [List.filter_singleton, stamped]
  exact Bool.cond_decide _ _ _

/-- In every reachable hub all that sources say is routed exactly, in whatever move they say it, and
routing changes nothing but the lanes. Whoever has left is told nothing until it subscribes again.
-/
theorem run_routing (config : Config) (moves : List Move) :
    let h := (fresh config).run moves
    (∀ live ∈ h.sessions, ∀ signal,
        h.Reported live signal (h.move (.report live.source signal))) ∧
      (∀ m, ∃ speeches, Routed h m speeches) ∧
      (∀ session events, ∃ lanes, h.publish session events = { h with lanes }) ∧
      ∀ name rest, (∀ m ∈ rest, m.enters name = false) →
        (((h.move (.unsubscribe name)).run rest).lanes.heldFor (.listener name)).Sublist
          (h.lanes.heldFor (.listener name)) := by
  intro h
  have wired : h.Wired := run_wired config moves
  refine ⟨fun live member => report_reported wired member, fun m => (move_carried wired m).routed,
    h.publish_eq, ?_⟩
  intro name rest others
  obtain ⟨_, unsubscribed⟩ := h.unsubscribe_eq (.listener name)
  have absent : IsAbsent (h.move (.unsubscribe name)).registry (.listener name) := by
    change IsAbsent (h.unsubscribe (.listener name)).registry (.listener name)
    rw [unsubscribed]
    exact without_absent h.registry (.listener name)
  have leaving := move_unheard (m := .unsubscribe name) wired rfl absent
  exact (run_unheard (move_wired wired _) absent others).trans leaving

/-- The frame that reveals a serial number goes to the filter that asks for it and not to the one
that asks for another, once to the subscriber with two entries, and to nobody who has left. -/
theorem run_routing_serial_number :
    let site := quietSite [⟨none, "a"⟩]
    let h := (fresh {}).run [.subscribe "u", .subscribeTo site (.ofPortName "a") "u",
      .subscribeTo site ⟨none, some "a", some "1", rfl⟩ "x",
      .subscribeTo site ⟨none, some "a", some "2", rfl⟩ "y"]
    let frame := Move.report 0 (.frame (.historicSample "1"))
    let held (h : Hub) (name : String) := (h.lanes.heldFor (.listener name)).length
    held (h.move frame) "u" = 1 ∧ held (h.move frame) "x" = 1 ∧ held (h.move frame) "y" = 0 ∧
      held ((h.move (.unsubscribe "x")).run [frame]) "x" = 0 := by
  intro site h frame held
  obtain ⟨reported, _, _, left⟩ := run_routing {} [.subscribe "u",
    .subscribeTo site (.ofPortName "a") "u", .subscribeTo site ⟨none, some "a", some "1", rfl⟩ "x",
    .subscribeTo site ⟨none, some "a", some "2", rfl⟩ "y"]
  let session : Session Relay :=
    { port := ⟨none, "a"⟩
      mode := .historic
      identifier := .ofPort none "a"
      listeners := [.hub] }
  let live : Live := ⟨0, session⟩
  have member : live ∈ h.sessions := by decide
  let learned : Identifier := live.identifier.learnFrom (.frame (.historicSample "1"))
  have told := (reported live member (.frame (.historicSample "1"))).told
  have one (name : String) (interested : IsTold h.registry (.listener name) learned) :
      held (h.move frame) name = 1 := by
    have queued := told (.listener name)
    rw [if_pos interested] at queued
    exact congrArg List.length queued
  have none (name : String) (deaf : ¬IsTold h.registry (.listener name) learned) :
      held (h.move frame) name = 0 := by
    have queued := told (.listener name)
    rw [if_neg deaf] at queued
    exact congrArg List.length queued
  refine ⟨one "u" (by decide), one "x" (by decide), none "y" (by decide), ?_⟩
  have others : ∀ m ∈ [frame], m.enters "x" = false := by simp [frame, Move.enters]
  exact congrArg List.length (List.sublist_nil.mp (left "x" [frame] others))

end MeterHub.Hub
