import MeterHub.Proofs.Hub.Handing
import MeterHub.Proofs.Hub.Polling
import MeterHub.Proofs.Hub.Refusing

/-!
The life of a hub. Stopping leaves nothing but what waits in the lanes, which is still handed over,
and notices, which find nobody. Whatever is done twice in a row is done once, and each start finds
every port again.
-/

set_option autoImplicit false
set_option relaxedAutoImplicit false

namespace MeterHub.Hub

/-- Whether somebody comes to be entered in a move. -/
def admits (h : Hub) : Move → Bool
  | .subscribe _ => true
  | .subscribeTo site key name => (h.subscribeTo site key (.listener name)).1.isOk
  | .beginRead site key _ => (h.attach site key (.reader h.reads.length)).1.isOk
  | _ => false

/-- Nobody comes to be entered in some moves. -/
def Unjoined (h : Hub) : List Move → Prop
  | [] => True
  | m :: moves => h.admits m = false ∧ (h.move m).Unjoined moves

theorem move_unjoined {h : Hub} (regular : h.Regular) (empty : h.registry = {}) {m : Move}
    (alone : h.admits m = false) : (h.move m).registry = {} := by
  have fewer {r : Registry Identifier Subscriber}
      (unfiltered : r.unfiltered.Sublist h.registry.unfiltered)
      (filtered : r.filtered.Sublist h.registry.filtered) : r = {} := by
    rw [empty] at unfiltered filtered
    obtain ⟨names, entries⟩ := r
    obtain rfl : names = [] := List.sublist_nil.mp unfiltered
    obtain rfl : entries = [] := List.sublist_nil.mp filtered
    rfl
  have enters := move_enters regular.wired.orderly m
  cases m with
  | subscribe name => cases alone
  | subscribeTo site key name =>
    change (h.subscribeTo site key (.listener name)).1.isOk = false at alone
    cases outcome : (h.subscribeTo site key (.listener name)).1 with
    | ok granted =>
      rw [outcome] at alone
      cases alone
    | error failure =>
      have attaches := attach_attaches h site key (.listener name)
      rw [attach_of_subscribeTo_error outcome] at attaches
      change (h.subscribeTo site key (.listener name)).2.registry = {}
      rw [subscribeTo_eq, attaches.registry_eq, empty]
  | beginRead site key timeout =>
    change (h.attach site key (.reader h.reads.length)).1.isOk = false at alone
    cases outcome : (h.attach site key (.reader h.reads.length)).1 with
    | ok granted =>
      rw [outcome] at alone
      cases alone
    | error failure =>
      have attaches := attach_attaches h site key (.reader h.reads.length)
      rw [outcome] at attaches
      change (h.beginRead site key timeout).registry = {}
      rw [beginRead_refused timeout outcome]
      exact attaches.registry_eq.trans empty
  | _ =>
    cases enters with
    | unfiltered asked registry => cases asked
    | filtered asked registry => cases asked
    | read begins registry => cases begins
    | fewer unfiltered filtered => exact fewer unfiltered filtered

theorem run_unjoined {h : Hub} (regular : h.Regular) (empty : h.registry = {}) {moves : List Move}
    (alone : h.Unjoined moves) : (h.run moves).registry = {} := by
  induction moves generalizing h with
  | nil => exact empty
  | cons m moves ih =>
    obtain ⟨first, later⟩ := alone
    exact ih (move_regular regular m) (move_unjoined regular empty first) later

theorem notify_nobody {h : Hub} (empty : h.registry = {}) (index : Nat) :
    h.notify index = { h with notices := h.notices.eraseIdx index } := by
  cases noted : h.notices[index]? with
  | none =>
    have late : h.notices.length ≤ index := List.getElem?_eq_none_iff.mp noted
    rw [notify_absent noted, List.eraseIdx_of_length_le late]
  | some i =>
    let taken : Hub := { h with notices := h.notices.eraseIdx index }
    have nobody : taken.interest i = [] := by
      change h.registry.interested Identifier.agrees i true = []
      rw [empty]
      rfl
    have announced : taken.announce i = taken := announce_nobody nobody
    unfold notify
    simp only [noted]
    exact announced

/-- What stopping makes of a hub. What has been queued, what sources say in the end included, is
still handed over, whatever happens later; the notices that are pending find nobody. -/
structure Halted (h after : Hub) : Prop where
  running : after.running = false
  poller : after.poller = none
  sessions : after.sessions = []
  sources : ∀ source ∈ after.sources, source.Ended
  registry : after.registry = {}
  lanes : after.lanes.openListeners = []
  underWay : ∀ s, after.lanes.underWayFor s = h.lanes.underWayFor s
  waiting : ∀ s, after.lanes.waitingFor s = h.lanes.waitingFor s ++ h.queuedFor s .stop
  handed : ∀ s moves, ∃ works, (∀ m ∈ works, m.isWork = true) ∧
    (after.handedIn s (moves ++ works)).Perm (after.lanes.waitingFor s ++ after.queuedIn s moves)
  notices : after.notices = h.notices
  unheard : ∀ moves, after.Unjoined moves → ∀ index, (after.run moves).notify index =
    { after.run moves with notices := (after.run moves).notices.eraseIdx index }

theorem stop_halted {h : Hub} (regular : h.Regular) (running : h.running = true) :
    Halted h h.stop := by
  have stopping : h.stop.Regular := move_regular regular .stop
  have queues := move_queues regular (m := .stop) rfl
  obtain ⟨lanes, stopped⟩ := stop_eq running
  have closed : h.stop.lanes.openListeners = [] := by
    unfold stop
    rw [if_pos running]
    exact Lanes.openListeners_closeAll _
  have ended : ∀ source ∈ h.stop.sources, source.Ended := by
    intro source member
    obtain ⟨index, entered⟩ := List.mem_iff_getElem?.mp member
    refine stopping.wired.orderly.ended index source entered ?_
    rw [stopped]
    exact List.not_mem_nil
  have empty : h.stop.registry = {} := by rw [stopped]
  refine ⟨?_, ?_, ?_, ended, empty, closed, fun s => (queues s).1, fun s => (queues s).2,
    fun s => all_handed stopping s, ?_, ?_⟩
  · rw [stopped]
  · rw [stopped]
  · rw [stopped]
  · rw [stopped]
  · exact fun moves alone => notify_nobody (run_unjoined stopping empty alone)

/-- In every reachable hub there is a poller just as long as the hub runs. Starting a hub that runs
does nothing, and stopping it halts it; stopping one that does not run does nothing, nor does a port
that polling has found before, and starting it finds every port again. -/
theorem run_lifecycle (config : Config) (moves : List Move) :
    let h := (fresh config).run moves
    h.poller.isSome = h.running ∧
      (h.running = true → (∀ site, h.start site = h) ∧ Halted h h.stop) ∧
      (h.running = false →
        h.stop = h ∧ (∀ site port, h.handle site (.appeared port) = h) ∧
          ∀ site early ports, (∀ m ∈ early, m.renews = false) →
            Reports ports ((h.start site).run (early ++ [.poll (.ok ports)]))) := by
  intro h
  have regular : h.Regular := run_regular (fresh_regular config) moves
  refine ⟨run_polling config moves, ?_, ?_⟩
  · intro running
    exact ⟨start_running running, stop_halted regular running⟩
  · intro idle
    refine ⟨stop_idle idle, ?_, ?_⟩
    · intro site port
      change (h.appeared site port true).2 = h
      unfold appeared
      rw [if_pos (by simp [idle])]
    · intro site early ports steady
      exact start_reports regular.wired.orderly idle site steady ports

/-- A hub is stopped while a callback and a read are under way and a notice is pending, and started
again; the first poll after that fails. What sources say in the end comes behind what has waited. -/
theorem run_lifecycle_busy :
    let a : Port := ⟨none, "a"⟩
    let b : Port := ⟨none, "b"⟩
    let site : Site :=
      { quietSite [a, b] with opening := fun _ _ => .ok { lastWords := [.error "parting"] } }
    let moves := [.start site, .subscribeTo site (.ofPortName "a") "x",
      .beginRead site (.ofPortName "b") none, .report 0 (.error "first"), .takeUp 0,
      .report 0 (.error "second"), .disappeared b]
    let h := (fresh {}).run moves
    let after := (fresh {}).run (moves ++ [.stop])
    let early := [.poll (.error (.transport "a" "busy")), .refill]
    h.notices = [.ofPort none "b"] ∧ h.lanes.openListeners = [.listener "x", .reader 0] ∧
      Halted h h.stop ∧ after = h.stop ∧
      (after.lanes.waitingFor (.listener "x")).map Event.isFrame = [false, false] ∧
      Reports [a, b] ((after.start site).run (early ++ [.poll (.ok [a, b])])) := by
  intro a b site moves h after early
  have running : h.running = true := by decide
  have idle : after.running = false := by decide
  have steady : ∀ m ∈ early, m.renews = false := by
    simp only [early, List.forall_mem_cons]
    exact ⟨rfl, rfl, List.forall_mem_nil _⟩
  obtain ⟨_, halts, _⟩ := run_lifecycle {} moves
  obtain ⟨_, _, starts⟩ := run_lifecycle {} (moves ++ [.stop])
  obtain ⟨_, _, reports⟩ := starts idle
  have stopped : after = h.stop := run_concat _ moves .stop
  exact ⟨by decide, by decide, (halts running).2, stopped, by decide,
    reports site early [a, b] steady⟩

end MeterHub.Hub
