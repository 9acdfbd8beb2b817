import MeterHub.Proofs.Hub.Tracking

/-!
Running and polling. A hub has a poller just as long as it runs. Each start begins with a poller
that knows no port, so that the first poll that succeeds finds every port that is attached.
-/

set_option autoImplicit false
set_option relaxedAutoImplicit false

namespace MeterHub

namespace Move

/-- Whether a move may take the poller away. -/
def halts : Move → Bool
  | .stop | .discard => true
  | _ => false

/-- Whether a move may give a poller something else to announce, or take it away. -/
def renews : Move → Bool
  | .poll (.ok _) | .stop | .discard => true
  | _ => false

/-- What a move does to the poller of a hub that goes on running. -/
def drive (p : Poller) : Move → Poller
  | .poll ports => p.poll ports
  | .refill => p.refill
  | .consume _ => (p.take 1).2
  | _ => p

end Move

namespace Hub

/-- What a move may do to the poller of a hub. -/
inductive Polling (h : Hub) (m : Move) (after : Hub) : Prop
  | kept (running : after.running = h.running)
      (poller : after.poller = h.poller.map fun p => m.drive p)
  | begun (idle : h.running = false) (running : after.running = true)
      (poller : after.poller = some {})
  | ended (halts : m.halts = true) (running : after.running = false) (poller : after.poller = none)

namespace Polling

variable {h after : Hub} {m : Move}

theorem of_same (aside : ∀ p, m.drive p = p) (running : after.running = h.running)
    (poller : after.poller = h.poller) : Polling h m after := by
  refine .kept running ?_
  rw [poller, funext aside, Option.map_id']

theorem isSome_eq (polling : Polling h m after) (before : h.poller.isSome = h.running) :
    after.poller.isSome = after.running := by
  cases polling with
  | kept running poller => rw [poller, running, Option.isSome_map, before]
  | begun idle running poller =>
    rw [poller, running]
    rfl
  | ended halts running poller =>
    rw [poller, running]
    rfl

end Polling

theorem Opens.polling {h after : Hub} {opening : Opening} {port : Port}
    {result : Except Failure (Nat × Bool)} (opens : Opens h opening port result after) :
    after.running = h.running ∧ after.poller = h.poller := by
  cases opens <;> exact ⟨rfl, rfl⟩

theorem appeared_polling (h : Hub) (site : Site) (port : Port) (polled : Bool) :
    (h.appeared site port polled).2.running = h.running ∧
      (h.appeared site port polled).2.poller = h.poller := by
  rcases h.appeared_cases site port polled with nothing | opened
  · rw [nothing]
    exact ⟨rfl, rfl⟩
  · rw [opened]
    exact (openPort_opens h site.opening port).polling

theorem openNative_running (site : Site) (h : Hub) (name : String) :
    (openNative site h name).running = h.running := by
  obtain ⟨lookups, nowhere | ⟨port, refused | ⟨index, opened⟩⟩⟩ := openNative_cases site h name
  · rw [nowhere]
  · rw [refused]
    exact (openPort_opens { h with lookups } site.opening port).polling.1
  · rw [opened]
    exact (openPort_opens { h with lookups } site.opening port).polling.1

theorem start_begins {h : Hub} (idle : h.running = false) (site : Site) :
    (h.start site).running = true ∧ (h.start site).poller = some {} := by
  have natives (names : List String) (g : Hub) :
      (names.foldl (openNative site) g).running = g.running := by
    induction names generalizing g with
    | nil => rfl
    | cons name names ih => exact (ih _).trans (openNative_running site g name)
  unfold start
  rw [if_neg (by simp [idle])]
  exact ⟨natives h.config.nativePorts { h with running := true }, rfl⟩

theorem start_running {h : Hub} (running : h.running = true) (site : Site) : h.start site = h :=
  if_pos running

theorem stop_idle {h : Hub} (idle : h.running = false) : h.stop = h := if_neg (by simp [idle])

theorem start_polling (h : Hub) (site : Site) : Polling h (.start site) (h.start site) := by
  cases running : h.running with
  | true =>
    rw [start_running running]
    exact .of_same (fun _ => rfl) rfl rfl
  | false =>
    obtain ⟨begun, poller⟩ := start_begins running site
    exact .begun running begun poller

theorem Attaches.polling {h after : Hub} {site : Site} {i : Identifier} {s : Subscriber}
    {result : Except Failure (Option Nat)} (attaches : Attaches h site i s result after) :
    after.running = h.running ∧ after.poller = h.poller := by
  cases attaches <;> exact ⟨rfl, rfl⟩

theorem Begins.polling {h after : Hub} {site : Site} {key : Identifier} {timeout : Option Span}
    (begins : Begins h site key timeout after) :
    after.running = h.running ∧ after.poller = h.poller := by
  cases begins <;> exact ⟨rfl, rfl⟩

theorem handle_running (h : Hub) (site : Site) (change : Presence) :
    (h.handle site change).running = h.running := by
  cases change with
  | appeared port => exact (h.appeared_polling site port true).1
  | disappeared port =>
    obtain ⟨_, _, disappeared⟩ := h.disappeared_eq port
    change (h.disappeared port).running = _
    rw [disappeared]

theorem consume_running (h : Hub) (site : Site) : (h.consume site).running = h.running := by
  rcases h.consume_cases site with nothing | ⟨poller, change, rest, _, _, consumed⟩
  · rw [nothing]
  · rw [consumed]
    exact handle_running _ site change

theorem move_polling {h : Hub} (orderly : h.Orderly) (m : Move) : Polling h m (h.move m) := by
  cases m with
  | start site => exact start_polling h site
  | stop =>
    cases running : h.running with
    | true =>
      obtain ⟨_, stopped⟩ := stop_eq running
      change Polling h .stop h.stop
      rw [stopped]
      exact .ended rfl rfl rfl
    | false =>
      have nothing : h.move .stop = h := stop_idle running
      rw [nothing]
      exact .of_same (fun _ => rfl) rfl rfl
  | subscribe name => exact .of_same (fun _ => rfl) rfl rfl
  | unsubscribe name =>
    obtain ⟨_, unsubscribed⟩ := h.unsubscribe_eq (.listener name)
    change Polling h _ (h.unsubscribe (.listener name))
    rw [unsubscribed]
    exact .of_same (fun _ => rfl) rfl rfl
  | subscribeTo site key name =>
    obtain ⟨running, poller⟩ := (h.attach_attaches site key (.listener name)).polling
    change Polling h _ (h.subscribeTo site key (.listener name)).2
    rw [subscribeTo_eq]
    exact .of_same (fun _ => rfl) running poller
  | unsubscribeFrom key name =>
    obtain ⟨_, unsubscribed⟩ := h.unsubscribeFrom_eq key (.listener name)
    change Polling h _ (h.unsubscribeFrom key (.listener name))
    rw [unsubscribed]
    exact .of_same (fun _ => rfl) rfl rfl
  | appeared site port =>
    obtain ⟨running, poller⟩ := h.appeared_polling site port false
    exact .of_same (fun _ => rfl) running poller
  | disappeared port =>
    obtain ⟨_, _, disappeared⟩ := h.disappeared_eq port
    change Polling h _ (h.disappeared port)
    rw [disappeared]
    exact .of_same (fun _ => rfl) rfl rfl
  | beginRead site key timeout =>
    obtain ⟨running, poller⟩ :=
      (beginRead_begins (fun _ => orderly.bounded) site key timeout).polling
    exact .of_same (fun _ => rfl) running poller
  | endRead index =>
    change Polling h _ (h.endRead index)
    rcases h.endRead_cases index with nothing | ⟨read, at_index, pending⟩
    · rw [nothing]
      exact .of_same (fun _ => rfl) rfl rfl
    · obtain ⟨_, ended⟩ := endRead_eq at_index pending
      rw [ended]
      exact .of_same (fun _ => rfl) rfl rfl
  | report source signal =>
    obtain ⟨_, reported⟩ := report_eq orderly.distinct source signal
    change Polling h _ (h.report source signal)
    rw [reported]
    exact .of_same (fun _ => rfl) rfl rfl
  | notify index =>
    change Polling h _ (h.notify index)
    cases noted : h.notices[index]? with
    | none =>
      rw [notify_absent noted]
      exact .of_same (fun _ => rfl) rfl rfl
    | some i =>
      obtain ⟨_, _, _, notified⟩ := notify_eq noted
      rw [notified]
      exact .of_same (fun _ => rfl) rfl rfl
  | poll ports => exact .kept rfl rfl
  | refill => exact .kept rfl rfl
  | consume site => exact .kept (h.consume_running site) (h.consume_poller site)
  | takeUp lane =>
    obtain ⟨_, _, taken, _⟩ := h.takeUp_eq lane
    change Polling h _ (h.takeUp lane)
    rw [taken]
    exact .of_same (fun _ => rfl) rfl rfl
  | finish lane panicked => exact .of_same (fun _ => rfl) rfl rfl
  | discard =>
    by_cases held : h.isHeld = true
    · have nothing : h.move .discard = h := if_pos held
      rw [nothing]
      exact .of_same (fun _ => rfl) rfl rfl
    · have given : h.move .discard = h.discard := if_neg held
      rw [given]
      exact .ended rfl rfl rfl

theorem run_polling (config : Config) (moves : List Move) :
    ((fresh config).run moves).poller.isSome = ((fresh config).run moves).running := by
  refine run_induct (fun _ => True) (fun h => h.poller.isSome = h.running) rfl ?_ fun _ _ => trivial
  exact fun h m orderly _ before => (move_polling orderly m).isSome_eq before

/-- The changes that polling has found and that a move handles. -/
def reported (h : Hub) : Move → List Presence
  | .consume site => (h.handled (.consume site)).toList
  | _ => []

def reportedIn (h : Hub) : List Move → List Presence
  | [] => []
  | m :: moves => h.reported m ++ (h.move m).reportedIn moves

/-- Unless something else is found, a hub that runs reports what its poller has to announce, in
order. -/
theorem move_reported {h : Hub} (orderly : h.Orderly) (running : h.running = true) {p : Poller}
    (polling : h.poller = some p) {m : Move} (steady : m.renews = false) :
    (h.move m).running = true ∧ (h.move m).poller = some (m.drive p) ∧
      h.reported m ++ (m.drive p).pending = p.pending := by
  have kept : (h.move m).running = true ∧ (h.move m).poller = some (m.drive p) := by
    cases move_polling orderly m with
    | kept still poller =>
      rw [still, poller, polling]
      exact ⟨running, rfl⟩
    | begun idle =>
      rw [running] at idle
      cases idle
    | ended halts =>
      cases m with
      | stop => cases steady
      | discard => cases steady
      | _ => cases halts
  refine ⟨kept.1, kept.2, ?_⟩
  cases m with
  | refill => exact p.refill_pending
  | consume site =>
    change (h.poller.bind fun p => p.queue.head?).toList ++ (p.take 1).2.pending = p.pending
    rw [polling]
    obtain ⟨known, announcing, queue⟩ := p
    cases queue with
    | nil => rfl
    | cons change rest => rfl
  | poll ports =>
    cases ports with
    | ok current => cases steady
    | error failure =>
      change (p.poll (.error failure)).pending = p.pending
      unfold Poller.poll
      cases p.announcing <;> rfl
  | _ => rfl

theorem run_reported {h : Hub} (orderly : h.Orderly) (running : h.running = true) {p : Poller}
    (polling : h.poller = some p) {moves : List Move} (steady : ∀ m ∈ moves, m.renews = false) :
    ∃ p', (h.run moves).poller = some p' ∧ h.reportedIn moves ++ p'.pending = p.pending := by
  induction moves generalizing h p with
  | nil => exact ⟨p, polling, rfl⟩
  | cons m moves ih =>
    obtain ⟨first, later⟩ := List.forall_mem_cons.mp steady
    obtain ⟨running', polling', pending⟩ := move_reported orderly running polling first
    obtain ⟨p', last, rest⟩ := ih (move_orderly orderly m) running' polling' later
    refine ⟨p', last, ?_⟩
    change h.reported m ++ (h.move m).reportedIn moves ++ p'.pending = _
    rw [List.append_assoc, rest, pending]

theorem run_unpolled {h : Hub} (orderly : h.Orderly) (running : h.running = true)
    (polling : h.poller = some {}) {moves : List Move} (steady : ∀ m ∈ moves, m.renews = false) :
    (h.run moves).running = true ∧ (h.run moves).poller = some {} := by
  induction moves generalizing h with
  | nil => exact ⟨running, polling⟩
  | cons m moves ih =>
    obtain ⟨first, later⟩ := List.forall_mem_cons.mp steady
    obtain ⟨running', polling', _⟩ := move_reported orderly running polling first
    have nothing : m.drive {} = {} := by
      cases m with
      | poll ports =>
        cases ports with
        | ok current => cases first
        | error failure => rfl
      | _ => rfl
    rw [nothing] at polling'
    exact ih (move_orderly orderly m) running' polling' later

/-- What a poll has found is that all of these ports have appeared. As long as nothing else is
found, just this is reported, in order, and some rounds report all of it. -/
structure Reports (ports : List Port) (found : Hub) : Prop where
  in_order : ∀ moves, (∀ m ∈ moves, m.renews = false) → ∃ poller,
    (found.run moves).poller = some poller ∧
      found.reportedIn moves ++ poller.pending = ports.map .appeared
  in_rounds : ∀ site number, ports.length ≤ number →
    found.reportedIn (rounds site number) = ports.map .appeared

theorem rounds_steady (site : Site) (number : Nat) :
    ∀ m ∈ rounds site number, m.renews = false := by
  intro m member
  rcases List.mem_append.mp member with handles | last
  · obtain ⟨round, repeated, inside⟩ := List.mem_flatten.mp handles
    rw [List.eq_of_mem_replicate repeated] at inside
    rcases List.mem_cons.mp inside with rfl | second
    · rfl
    · rw [List.mem_singleton.mp second]
      rfl
  · rw [List.mem_singleton.mp last]
    rfl

theorem start_reports {h : Hub} (orderly : h.Orderly) (idle : h.running = false) (site : Site)
    {early : List Move} (steady : ∀ m ∈ early, m.renews = false) (ports : List Port) :
    Reports ports ((h.start site).run (early ++ [.poll (.ok ports)])) := by
  obtain ⟨begun, unpolled⟩ := start_begins idle site
  have started : (h.start site).Orderly := move_orderly orderly (.start site)
  obtain ⟨running, polling⟩ := run_unpolled started begun unpolled steady
  let waiting : Hub := (h.start site).run early
  let found : Hub := waiting.move (.poll (.ok ports))
  have polled : found.poller = some (Poller.poll {} (.ok ports)) := by
    change waiting.poller.map _ = _
    rw [polling]
    rfl
  have pending : (Poller.poll {} (.ok ports)).pending = ports.map .appeared := by
    rw [(Poller.poll_free ⟨rfl, rfl⟩ ports).1]
    simp [Presence.changes]
  have orderly' : found.Orderly := move_orderly (started.run early) (.poll (.ok ports))
  have in_order {moves : List Move} (steady : ∀ m ∈ moves, m.renews = false) :=
    pending ▸ run_reported orderly' running polled steady
  rw [run_concat]
  refine ⟨fun _ => in_order, ?_⟩
  intro site number enough
  have settled : (found.run (rounds site number)).IsSettled := by
    refine rounds_settled site polled ?_
    rw [pending, List.length_map]
    exact enough
  obtain ⟨p, last, reported⟩ := in_order (rounds_steady site number)
  obtain ⟨p', last', idle⟩ := settled
  obtain rfl : p = p' := Option.some.inj (last.symm.trans last')
  rw [idle.pending, List.append_nil] at reported
  exact reported

end Hub

end MeterHub
