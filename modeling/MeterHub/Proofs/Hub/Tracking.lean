import Mathlib.Data.List.Nodup
import Mathlib.Data.List.Pairwise
import MeterHub.Proofs.Hub.Ledger
import MeterHub.Proofs.Hub.Notices
import MeterHub.Proofs.Presence.Stream

/-!
Sessions follow the ports that polling finds. Changes tell ports apart by all that is known of them,
sessions by what makes two descriptions the same port; where no two ports of a snapshot are the
same, and as what is gone is handled before what is new, the sessions come to hold just the ports of
the new snapshot.
-/

set_option autoImplicit false
set_option relaxedAutoImplicit false

namespace MeterHub

/-- Ports of which no two are the same. -/
def Port.Apart (ports : List Port) : Prop := ports.Pairwise fun a b => a.same b = false

namespace Port.Apart

variable {ports : List Port}

theorem eq_of_same (apart : Apart ports) {a b : Port} (left : a ∈ ports) (right : b ∈ ports)
    (same : a.same b = true) : a = b := by
  have symmetric : Std.Symm fun a b : Port => a.same b = false :=
    ⟨fun a b apart => (Port.same_comm b a).trans apart⟩
  by_contra different
  have never := apart.forall left right different
  rw [same] at never
  cases never

theorem nodup (apart : Apart ports) : ports.Nodup := by
  apply apart.imp
  rintro a b different rfl
  rw [Port.same_refl] at different
  cases different

end Port.Apart

namespace Poller

/-- Nothing that was found is still to be handled. -/
structure Idle (p : Poller) : Prop where
  free : p.isBlocked = false
  empty : p.queue = []

theorem Idle.pending {p : Poller} (idle : p.Idle) : p.pending = [] := by
  unfold Poller.pending
  rw [idle.empty, waiting_of_free idle.free]
  rfl

theorem refill_latest (p : Poller) : p.refill.latest = p.latest :=
  refill_induct (P := fun after => after.latest = p.latest)
    (fun after same => (send_latest after).trans same) rfl

theorem latest_of_free {p : Poller} (free : p.isBlocked = false) : p.latest = p.known := by
  unfold isBlocked at free
  unfold latest
  cases announcing : p.announcing with
  | none => rfl
  | some announced =>
    rw [announcing] at free
    cases free

theorem poll_free {p : Poller} (idle : p.Idle) (current : List Port) :
    (p.poll (.ok current)).pending = Presence.changes p.known current ∧
      (p.poll (.ok current)).latest = current := by
  have announcing : p.announcing = none := by
    simpa [isBlocked] using idle.free
  unfold poll
  rw [announcing]
  change (refill _).pending = _ ∧ (refill _).latest = _
  rw [refill_pending, refill_latest]
  refine ⟨?_, rfl⟩
  change p.queue ++ Presence.changes p.known current = _
  rw [idle.empty, List.nil_append]

end Poller

def Live.isGone (done : List Presence) (live : Live) : Bool :=
  done.contains (.disappeared live.port)

/-- The moves that handle what polling has found, where surroundings are of a kind. -/
def Move.Handles (kind : Site → Prop) : Move → Prop
  | .consume site => kind site
  | .refill | .takeUp _ | .finish _ _ => True
  | _ => False

namespace Hub

/-- A source can be opened on the port, and it starts. -/
def Grants (config : Config) (port : Port) (site : Site) : Prop :=
  ∃ mode script, config.defaultMode = some mode ∧
    site.opening port mode = .ok script ∧ script.start = .ok ()

/-- A source can be opened and starts on each port that is new in a snapshot. -/
def GrantsNew (config : Config) (known current : List Port) (site : Site) : Prop :=
  ∀ port ∈ current, port ∉ known → Grants config port site

/-- Whether all that polling has found is handled. -/
def IsSettled (h : Hub) : Prop := ∃ poller, h.poller = some poller ∧ poller.Idle

theorem Opens.granted {h after : Hub} {site : Site} {port : Port}
    {result : Except Failure (Nat × Bool)} (opens : Opens h site.opening port result after)
    (free : ∀ live ∈ h.sessions, live.port.same port = false)
    (grants : Grants h.config port site) :
    ∃ lanes source session, session.port = port ∧ after =
      { h with
        lanes
        sources := h.sources ++ [source]
        sessions := h.sessions ++ [⟨h.sources.length, session⟩] } := by
  obtain ⟨mode, script, defined, granted, started⟩ := grants
  cases opens with
  | @held live found =>
    have same : live.port.same port = true := by simpa using List.find?_some found
    rw [free live (List.mem_of_find?_eq_some found)] at same
    cases same
  | modeless _ undefined =>
    rw [defined] at undefined
    cases undefined
  | unopened _ defined' refused =>
    obtain rfl := Option.some.inj (defined.symm.trans defined')
    rw [granted] at refused
    cases refused
  | unstarted _ defined' granted' refused =>
    obtain rfl := Option.some.inj (defined.symm.trans defined')
    obtain rfl := Except.ok.inj (granted.symm.trans granted')
    rw [started] at refused
    cases refused
  | @opened mode' script' lanes _ _ _ _ =>
    refine ⟨lanes, _, _, ?_, rfl⟩
    obtain ⟨_, greeted⟩ := greeted_eq h port mode' script'.greeting
    rw [greeted]

theorem appeared_running {h : Hub} (running : h.running = true) (site : Site) (port : Port) :
    (h.appeared site port true).2 = (h.openPort site.opening port).2 := by
  unfold appeared
  rw [if_neg (by simp [running])]
  cases h.openPort site.opening port with
  | mk result after => cases result <;> rfl

theorem run_sources_le {h : Hub} (orderly : h.Orderly) (moves : List Move) :
    h.sources.length ≤ (h.run moves).sources.length := by
  induction moves generalizing h with
  | nil => exact Nat.le_refl _
  | cons m moves ih =>
    exact Nat.le_trans (move_sources_le orderly m) (ih (move_orderly orderly m))

theorem run_source {h : Hub} (orderly : h.Orderly) (moves : List Move) {index : Nat}
    {source : Source} (entered : h.sources[index]? = some source) :
    (h.run moves).sources[index]? =
      some (if h.IsLive index ∧ ¬(h.run moves).IsLive index then source.stop.2 else source) := by
  induction moves generalizing h source with
  | nil =>
    rw [if_neg fun goes => goes.2 goes.1]
    exact entered
  | cons m moves ih =>
    have bound : index < h.sources.length := (List.getElem?_eq_some_iff.mp entered).1
    have orderly' := move_orderly orderly m
    have later := ih orderly' (move_source orderly m entered)
    change ((h.move m).run moves).sources[index]? = some (if h.IsLive index ∧
      ¬((h.move m).run moves).IsLive index then source.stop.2 else source)
    rw [later]
    by_cases before : h.IsLive index
    · by_cases still : (h.move m).IsLive index
      · simp only [before, still, true_and, not_true_eq_false, if_false]
      · have gone : ¬((h.move m).run moves).IsLive index :=
          run_unlisted orderly' (Nat.lt_of_lt_of_le bound (move_sources_le orderly m)) still moves
        simp only [before, still, gone, not_false_eq_true, and_true, if_true, if_false]
    · have never : ¬(h.move m).IsLive index := move_unlisted orderly bound before m
      simp only [before, never, false_and, if_false]

theorem handle_poller (h : Hub) (site : Site) (change : Presence) :
    (h.handle site change).poller = h.poller := by
  cases change with
  | appeared port =>
    change (h.appeared site port true).2.poller = _
    rcases h.appeared_cases site port true with nothing | opened
    · rw [nothing]
    · rw [opened]
      have opens := openPort_opens h site.opening port
      generalize (h.openPort site.opening port).1 = result at opens
      generalize (h.openPort site.opening port).2 = after at opens ⊢
      cases opens <;> rfl
  | disappeared port =>
    obtain ⟨_, _, disappeared⟩ := h.disappeared_eq port
    change (h.disappeared port).poller = _
    rw [disappeared]

theorem consume_poller (h : Hub) (site : Site) :
    (h.consume site).poller = h.poller.map fun poller => (poller.take 1).2 := by
  unfold consume
  cases polling : h.poller with
  | none => exact polling
  | some poller =>
    obtain ⟨known, announcing, queue⟩ := poller
    cases queue with
    | nil => exact polling
    | cons change rest => exact handle_poller _ site change

/-- Rounds in which a change is handled, each after the queue has been refilled. -/
def rounds (site : Site) (number : Nat) : List Move :=
  (List.replicate number [Move.refill, .consume site]).flatten ++ [.refill]

theorem rounds_settled {h : Hub} (site : Site) {number : Nat} {poller : Poller}
    (polling : h.poller = some poller) (enough : poller.pending.length ≤ number) :
    (h.run (rounds site number)).IsSettled := by
  induction number generalizing h poller with
  | zero =>
    have empty : poller.refill.pending = [] := by
      rw [Poller.refill_pending]
      exact List.length_eq_zero_iff.mp (Nat.le_zero.mp enough)
    refine ⟨poller.refill, ?_, ?_, (List.append_eq_nil_iff.mp empty).1⟩
    · change h.poller.map Poller.refill = _
      rw [polling]
      rfl
    · exact Poller.free_of_pending empty
  | succ number ih =>
    have next : ((h.move .refill).move (.consume site)).poller =
        some (poller.refill.take 1).2 := by
      change ((h.refill).consume site).poller = _
      rw [consume_poller]
      change (h.poller.map Poller.refill).map _ = _
      rw [polling]
      rfl
    have fewer := Poller.take_pending (p := poller) Nat.zero_lt_one
    exact ih next (by omega)

/-- A hub on the way from one snapshot to the next: some of the changes are handled, and the rest is
not. The sessions on ports that have gone are closed and have left notices, those on ports that have
come are open, and nothing else has happened to the sessions. -/
structure Halfway (h : Hub) (known current : List Port) (done rest : List Presence) (g : Hub) :
    Prop where
  split : Presence.changes known current = done ++ rest
  reached : ∃ moves, g = h.run moves
  config : g.config = h.config
  running : g.running = true
  pending : ∃ poller, g.poller = some poller ∧ poller.pending = rest ∧ poller.latest = current
  sessions : ∃ opened, g.sessions = (h.sessions.filter fun live => !live.isGone done) ++ opened ∧
    (∀ port, port ∈ opened.map Live.port ↔ .appeared port ∈ done) ∧
    ∀ live ∈ opened, h.sources.length ≤ live.source
  notices : ∃ left, g.notices = h.notices ++ left ∧
    left.Perm ((h.sessions.filter (Live.isGone done)).map (partingIdentifier h.sources))

/-- A hub whose sessions hold just the ports of a snapshot, before changes to another one are
handled. -/
structure Holding (h : Hub) (known current : List Port) : Prop where
  orderly : h.Orderly
  ports : ∀ port, port ∈ h.sessions.map Live.port ↔ port ∈ known
  before : Port.Apart known
  after : Port.Apart current

namespace Halfway

variable {h g : Hub} {known current : List Port} {done rest : List Presence} {port : Port}

theorem orderly (halfway : Halfway h known current done rest g)
    (holding : Holding h known current) : g.Orderly := by
  obtain ⟨moves, reached⟩ := halfway.reached
  rw [reached]
  exact holding.orderly.run moves

theorem parting_eq (halfway : Halfway h known current done rest g)
    (holding : Holding h known current) {live : Live} (member : live ∈ h.sessions)
    (still : g.IsLive live.source) :
    partingIdentifier g.sources live = partingIdentifier h.sources live := by
  obtain ⟨source, entered, _⟩ := holding.orderly.acquired live member
  obtain ⟨moves, rfl⟩ := halfway.reached
  have kept := run_source holding.orderly moves entered
  rw [if_neg fun goes => goes.2 still, ← entered] at kept
  unfold partingIdentifier parting
  rw [kept]

theorem mem_appeared (halfway : Halfway h known current done rest g)
    (there : .appeared port ∈ done ++ rest) : port ∈ current ∧ port ∉ known := by
  rw [← halfway.split] at there
  exact Presence.mem_changes_appeared.mp there

theorem next_appeared (halfway : Halfway h known current done (.appeared port :: rest) g) :
    port ∈ current ∧ port ∉ known :=
  halfway.mem_appeared (List.mem_append_right done List.mem_cons_self)

theorem next_disappeared (halfway : Halfway h known current done (.disappeared port :: rest) g) :
    port ∈ known ∧ port ∉ current := by
  have there : .disappeared port ∈ done ++ .disappeared port :: rest :=
    List.mem_append_right done List.mem_cons_self
  rw [← halfway.split] at there
  exact Presence.mem_changes_disappeared.mp there

theorem split_concat {change : Presence}
    (halfway : Halfway h known current done (change :: rest) g) :
    Presence.changes known current = (done ++ [change]) ++ rest := by
  rw [halfway.split, List.append_assoc]
  rfl

theorem reached_move (halfway : Halfway h known current done rest g) (m : Move) :
    ∃ moves, g.move m = h.run moves := by
  obtain ⟨moves, reached⟩ := halfway.reached
  exact ⟨moves ++ [m], by rw [run_concat, reached]⟩

theorem aside (halfway : Halfway h known current done rest g) {m : Move}
    {lanes : Lanes Subscriber} {reads : List Read} {poller : Poller}
    (moved : g.move m = { g with lanes, reads, poller := some poller })
    (pending : poller.pending = rest) (latest : poller.latest = current) :
    Halfway h known current done rest (g.move m) where
  split := halfway.split
  reached := halfway.reached_move m
  config := moved ▸ halfway.config
  running := moved ▸ halfway.running
  pending := ⟨poller, by rw [moved], pending, latest⟩
  sessions := moved ▸ halfway.sessions
  notices := moved ▸ halfway.notices

theorem isGone_concat (halfway : Halfway h known current done (.disappeared port :: rest) g)
    (holding : Holding h known current) {live : Live} (member : live ∈ h.sessions) :
    live.isGone (done ++ [.disappeared port]) = (live.isGone done || live.port.same port) := by
  have was : port ∈ known := halfway.next_disappeared.1
  have held : live.port ∈ known := (holding.ports _).mp (List.mem_map_of_mem member)
  have only : live.port.same port = true ↔ live.port = port :=
    ⟨holding.before.eq_of_same held was, fun same => same ▸ Port.same_refl live.port⟩
  rw [Bool.eq_iff_iff, Bool.or_eq_true, only]
  simp [Live.isGone]

theorem unappeared (halfway : Halfway h known current done (.disappeared port :: rest) g)
    (other : Port) : .appeared other ∉ done := by
  intro there
  have ordered := Presence.changes_ordered known current
  rw [halfway.split, List.pairwise_append] at ordered
  have later := ordered.2.2 _ there _ List.mem_cons_self rfl
  cases later

theorem listed_current (halfway : Halfway h known current done (.appeared port :: rest) g)
    (holding : Holding h known current) {live : Live} (member : live ∈ g.sessions) :
    live.port ∈ current ∧ live.port ≠ port := by
  have come := halfway.next_appeared
  obtain ⟨opened, sessions, ports, _⟩ := halfway.sessions
  rw [sessions, List.mem_append, List.mem_filter] at member
  rcases member with ⟨old, kept⟩ | new
  · have held : live.port ∈ known := (holding.ports _).mp (List.mem_map_of_mem old)
    refine ⟨?_, fun same => come.2 (same ▸ held)⟩
    by_contra vanished
    -- a port that has vanished is among the changes, and its change comes before the next one
    have gone : .disappeared live.port ∈ Presence.changes known current :=
      Presence.mem_changes_disappeared.mpr ⟨held, vanished⟩
    rw [halfway.split, List.mem_append, List.mem_cons] at gone
    rcases gone with earlier | now | later
    · simp [Live.isGone, earlier] at kept
    · cases now
    · have ordered := Presence.changes_ordered known current
      rw [halfway.split, List.pairwise_append, List.pairwise_cons] at ordered
      have never := ordered.2.1.1 _ later rfl
      cases never
  · have there : .appeared live.port ∈ done := (ports _).mp (List.mem_map_of_mem new)
    refine ⟨(halfway.mem_appeared (List.mem_append_left _ there)).1, ?_⟩
    rintro rfl
    have once := Presence.changes_nodup holding.before.nodup holding.after.nodup
    rw [halfway.split, List.nodup_append] at once
    exact once.2.2 _ there _ List.mem_cons_self rfl

theorem listed_before (halfway : Halfway h known current done (.disappeared port :: rest) g) :
    g.sessions = h.sessions.filter fun live => !live.isGone done := by
  obtain ⟨opened, sessions, ports, _⟩ := halfway.sessions
  have unopened : opened = [] := by
    apply List.eq_nil_iff_forall_not_mem.mpr
    intro live member
    exact halfway.unappeared _ ((ports _).mp (List.mem_map_of_mem member))
  rw [sessions, unopened, List.append_nil]

theorem partings_concat (halfway : Halfway h known current done (.disappeared port :: rest) g)
    (holding : Holding h known current) :
    ((h.sessions.filter (Live.isGone done)).map (partingIdentifier h.sources) ++
        (g.sessions.filter fun live => live.port.same port).map (partingIdentifier g.sources)).Perm
      ((h.sessions.filter (Live.isGone (done ++ [.disappeared port]))).map
        (partingIdentifier h.sources)) := by
  have unmoved : (g.sessions.filter fun live => live.port.same port).map
        (partingIdentifier g.sources) =
      (g.sessions.filter fun live => live.port.same port).map (partingIdentifier h.sources) := by
    apply List.map_congr_left
    intro live filtered
    have member := (List.mem_filter.mp filtered).1
    have old := member
    rw [halfway.listed_before] at old
    exact halfway.parting_eq holding (List.mem_filter.mp old).1 (List.mem_map_of_mem member)
  have all : (h.sessions.filter (Live.isGone (done ++ [.disappeared port]))) =
      h.sessions.filter fun live => live.isGone done || live.port.same port :=
    List.filter_congr fun live member => halfway.isGone_concat holding member
  rw [unmoved, halfway.listed_before, all, ← List.map_append]
  exact (filter_append_filter_perm (Live.isGone done) (fun live => live.port.same port)
    h.sessions).map (partingIdentifier h.sources)

theorem disappeared (halfway : Halfway h known current done (.disappeared port :: rest) g)
    (holding : Holding h known current) {site : Site} (poller : Poller)
    (pending : poller.pending = rest) (latest : poller.latest = current)
    (consumed : g.move (.consume site) = { g with poller := some poller }.disappeared port) :
    Halfway h known current (done ++ [.disappeared port]) rest (g.move (.consume site)) := by
  have aside : Growth false g { g with poller := some poller } := .aside rfl rfl rfl
  have noted := disappeared_notices (aside.orderly (halfway.orderly holding)) port
  obtain ⟨_, _, closed⟩ := { g with poller := some poller : Hub }.disappeared_eq port
  obtain ⟨left, notices, partings⟩ := halfway.notices
  have fewer : (g.sessions.filter fun live => !live.port.same port) =
      h.sessions.filter fun live => !live.isGone (done ++ [.disappeared port]) := by
    rw [halfway.listed_before, List.filter_filter]
    apply List.filter_congr
    intro live member
    rw [halfway.isGone_concat holding member, Bool.not_or, Bool.and_comm]
  have unopened (other : Port) : .appeared other ∉ done ++ [.disappeared port] := by
    simp [halfway.unappeared other]
  exact {
    split := halfway.split_concat
    reached := halfway.reached_move _
    config := by
      rw [consumed, closed]
      exact halfway.config
    running := by
      rw [consumed, closed]
      exact halfway.running
    pending := ⟨poller, by rw [consumed, closed], pending, latest⟩
    sessions := by
      refine ⟨[], ?_, ?_, List.forall_mem_nil _⟩
      · rw [consumed, closed, List.append_nil]
        exact fewer
      · intro other
        exact iff_of_false List.not_mem_nil (unopened other)
    notices := by
      refine ⟨left ++ _, ?_, (partings.append_right _).trans (halfway.partings_concat holding)⟩
      rw [consumed, noted, ← List.append_assoc, ← notices] }

theorem next_free (halfway : Halfway h known current done (.appeared port :: rest) g)
    (holding : Holding h known current) :
    ∀ live ∈ g.sessions, live.port.same port = false := by
  intro live member
  obtain ⟨there, other⟩ := halfway.listed_current holding member
  rw [← Bool.not_eq_true]
  intro same
  exact other (holding.after.eq_of_same there halfway.next_appeared.1 same)

theorem appeared (halfway : Halfway h known current done (.appeared port :: rest) g)
    (holding : Holding h known current) {site : Site} (poller : Poller)
    (pending : poller.pending = rest) (latest : poller.latest = current)
    (grants : Grants h.config port site)
    (consumed : g.move (.consume site) =
      ({ g with poller := some poller }.appeared site port true).2) :
    Halfway h known current (done ++ [.appeared port]) rest (g.move (.consume site)) := by
  obtain ⟨moves, reached⟩ := halfway.reached
  obtain ⟨opened, sessions, ports, new⟩ := halfway.sessions
  have opens := openPort_opens { g with poller := some poller } site.opening port
  obtain ⟨_, _, session, on_port, grown⟩ :=
    opens.granted (halfway.next_free holding) (halfway.config ▸ grants)
  rw [← appeared_running (h := { g with poller := some poller }) halfway.running, ← consumed]
    at grown
  have kept : Live.isGone (done ++ [.appeared port]) = Live.isGone done := by
    funext live
    simp [Live.isGone]
  exact {
    split := halfway.split_concat
    reached := halfway.reached_move _
    config := by
      rw [grown]
      exact halfway.config
    running := by
      rw [grown]
      exact halfway.running
    pending := ⟨poller, by rw [grown], pending, latest⟩
    sessions := by
      refine ⟨opened ++ [⟨g.sources.length, session⟩], ?_, ?_, ?_⟩
      · rw [kept, grown, ← List.append_assoc, ← sessions]
      · intro other
        rw [List.map_append, List.mem_append, List.mem_append, ports]
        change _ ∨ other ∈ [session.port] ↔ _
        rw [on_port]
        simp
      · -- the ledger only grows, so the source that is entered now is a new one
        intro live member
        rcases List.mem_append.mp member with earlier | last
        · exact new live earlier
        · rw [List.mem_singleton.mp last, reached]
          exact run_sources_le holding.orderly moves
    notices := by
      rw [grown, kept]
      exact halfway.notices }

theorem start (running : h.running = true) {poller : Poller} (polling : h.poller = some poller)
    (idle : poller.Idle) (current : List Port) :
    Halfway h poller.known current [] (Presence.changes poller.known current)
      (h.move (.poll (.ok current))) := by
  obtain ⟨pending, latest⟩ := Poller.poll_free idle current
  refine ⟨rfl, ⟨[.poll (.ok current)], rfl⟩, rfl, running,
    ⟨poller.poll (.ok current), ?_, pending, latest⟩, ⟨[], ?_, ?_, List.forall_mem_nil _⟩,
    ⟨[], (List.append_nil _).symm, ?_⟩⟩
  · change h.poller.map _ = _
    rw [polling]
    rfl
  · change h.sessions = _
    simp [Live.isGone]
  · intro port
    simp
  · simp [Live.isGone]

theorem move (halfway : Halfway h known current done rest g) (holding : Holding h known current)
    {m : Move} (handles : m.Handles (GrantsNew h.config known current)) :
    ∃ done rest, Halfway h known current done rest (g.move m) := by
  obtain ⟨poller, polling, pending, latest⟩ := halfway.pending
  cases m with
  | refill =>
    have refilled : g.move .refill = { g with poller := some poller.refill } := by
      change { g with poller := g.poller.map Poller.refill } = _
      rw [polling]
      rfl
    exact ⟨done, rest, halfway.aside refilled (poller.refill_pending.trans pending)
      (poller.refill_latest.trans latest)⟩
  | takeUp lane =>
    obtain ⟨lanes, reads, taken, _⟩ := g.takeUp_eq lane
    rw [polling] at taken
    exact ⟨done, rest, halfway.aside taken pending latest⟩
  | finish lane panicked =>
    have finished : g.move (.finish lane panicked) =
        { g with lanes := g.lanes.finish lane panicked, poller := some poller } := by
      rw [← polling]
      rfl
    exact ⟨done, rest, halfway.aside finished pending latest⟩
  | consume site =>
    rcases g.consume_cases site with nothing | ⟨poller', change, queue, polling', queued, consumed⟩
    · have unmoved : g.move (.consume site) = { g with poller := some poller } := by
        rw [← polling]
        exact nothing
      exact ⟨done, rest, halfway.aside unmoved pending latest⟩
    · obtain rfl : poller = poller' := Option.some.inj (polling.symm.trans polling')
      have next : rest = change :: (queue ++ poller.waiting) := by
        rw [← pending, Poller.pending, queued, List.cons_append]
      subst next
      cases change with
      | appeared port =>
        obtain ⟨come, new⟩ := halfway.next_appeared
        exact ⟨_, _, halfway.appeared holding { poller with queue } rfl latest
          (handles port come new) consumed⟩
      | disappeared port =>
        exact ⟨_, _, halfway.disappeared holding { poller with queue } rfl latest
          consumed⟩
  | _ => exact handles.elim

theorem run (halfway : Halfway h known current done rest g) (holding : Holding h known current)
    {moves : List Move} (handles : ∀ m ∈ moves, m.Handles (GrantsNew h.config known current)) :
    ∃ done rest, Halfway h known current done rest (g.run moves) := by
  induction moves generalizing g done rest with
  | nil => exact ⟨done, rest, halfway⟩
  | cons m moves ih =>
    obtain ⟨first, later⟩ := List.forall_mem_cons.mp handles
    obtain ⟨_, _, next⟩ := halfway.move holding first
    exact ih next later

theorem settled (halfway : Halfway h known current done rest g) (settled : g.IsSettled) :
    Halfway h known current (Presence.changes known current) [] g ∧
      g.poller.map Poller.known = some current := by
  obtain ⟨poller, polling, pending, latest⟩ := halfway.pending
  obtain ⟨poller', polling', idle⟩ := settled
  obtain rfl : poller = poller' := Option.some.inj (polling.symm.trans polling')
  obtain rfl : rest = [] := pending.symm.trans idle.pending
  obtain rfl : Presence.changes known current = done := by
    rw [halfway.split, List.append_nil]
  refine ⟨halfway, ?_⟩
  rw [polling, ← latest, Poller.latest_of_free idle.free]
  rfl

end Halfway

/-- A session was opened on the port after a certain moment, and its source runs. -/
def IsFresh (h after : Hub) (port : Port) : Prop :=
  ∃ live ∈ after.sessions, live.port = port ∧ h.sources.length ≤ live.source ∧
    ∃ source, after.sources[live.source]? = some source ∧ source.Acquires port

/-- What becomes of the sessions of a hub when the ports of one snapshot give way to those of
another. -/
structure Follows (h : Hub) (known current : List Port) (after : Hub) : Prop where
  ports : ∀ port, port ∈ after.sessions.map Live.port ↔ port ∈ current
  kept : ∀ live ∈ h.sessions, live.port ∈ current →
    live ∈ after.sessions ∧ after.sources[live.source]? = h.sources[live.source]?
  stopped : ∀ live ∈ h.sessions, live.port ∉ current →
    ¬after.IsLive live.source ∧ ∃ source, h.sources[live.source]? = some source ∧
      after.sources[live.source]? = some source.stop.2
  noticed : ∃ left, after.notices = h.notices ++ left ∧ left.Nodup ∧
    left.Perm ((h.sessions.filter fun live => live.port ∉ current).map
      (partingIdentifier h.sources))
  fresh : ∀ port ∈ current, port ∉ known → IsFresh h after port
  renamed : ∀ p ∈ known, ∀ q ∈ current, p.id.isSome → q.id = p.id → q.name ≠ p.name →
    IsFresh h after q

theorem Orderly.partings_nodup {h : Hub} (orderly : h.Orderly) (keep : Live → Bool) :
    ((h.sessions.filter keep).map (partingIdentifier h.sources)).Nodup := by
  rw [List.Nodup, List.pairwise_map]
  apply (orderly.exclusive.filter keep).imp_of_mem
  intro a b left right apart same
  have placed {live : Live} (filtered : live ∈ h.sessions.filter keep) :
      (partingIdentifier h.sources live).portId = live.port.id ∧
        (partingIdentifier h.sources live).portName = some live.port.name := by
    have is_placed := orderly.placed live (List.mem_filter.mp filtered).1
    unfold partingIdentifier
    rw [Identifier.learnAll_portId, Identifier.learnAll_portName]
    exact ⟨is_placed.portId, is_placed.portName⟩
  obtain ⟨id, name⟩ := placed left
  obtain ⟨id', name'⟩ := placed right
  rw [same, id'] at id
  rw [same, name', Option.some.injEq] at name
  have equal : a.port = b.port := by
    cases left : a.port
    cases right : b.port
    simp_all
  rw [equal, Port.same_refl] at apart
  cases apart

theorem Holding.isGone_iff {h : Hub} {known current : List Port}
    (holding : Holding h known current) {live : Live} (member : live ∈ h.sessions) :
    live.isGone (Presence.changes known current) = true ↔ live.port ∉ current := by
  have held : live.port ∈ known := (holding.ports _).mp (List.mem_map_of_mem member)
  unfold Live.isGone
  rw [List.contains_iff_mem, Presence.mem_changes_disappeared]
  exact and_iff_right held

namespace Halfway

variable {h g : Hub} {known current : List Port}

theorem listed_of_current (halfway : Halfway h known current (Presence.changes known current) [] g)
    (holding : Holding h known current) {live : Live} (member : live ∈ h.sessions)
    (there : live.port ∈ current) : live ∈ g.sessions := by
  obtain ⟨opened, sessions, _, _⟩ := halfway.sessions
  rw [sessions]
  refine List.mem_append_left _ (List.mem_filter.mpr ⟨member, ?_⟩)
  rw [Bool.not_eq_true', ← Bool.not_eq_true]
  exact fun vanished => (holding.isGone_iff member).mp vanished there

theorem isLive_iff (halfway : Halfway h known current (Presence.changes known current) [] g)
    (holding : Holding h known current) {live : Live} (member : live ∈ h.sessions) :
    g.IsLive live.source ↔ live.port ∈ current := by
  constructor
  · intro listed
    obtain ⟨opened, sessions, _, new⟩ := halfway.sessions
    obtain ⟨other, there, same⟩ := List.mem_map.mp listed
    rw [sessions, List.mem_append, List.mem_filter] at there
    rcases there with ⟨old, kept⟩ | late
    · by_contra vanished
      rw [holding.orderly.of_source_eq old member same,
        (holding.isGone_iff member).mpr vanished] at kept
      cases kept
    · have bound := holding.orderly.bounded member
      have later := new other late
      omega
  · exact fun there => List.mem_map_of_mem (halfway.listed_of_current holding member there)

theorem source_eq (halfway : Halfway h known current (Presence.changes known current) [] g)
    (holding : Holding h known current) {live : Live} (member : live ∈ h.sessions) :
    ∃ source, h.sources[live.source]? = some source ∧ g.sources[live.source]? =
      some (if live.port ∈ current then source else source.stop.2) := by
  obtain ⟨moves, reached⟩ := halfway.reached
  obtain ⟨source, entered, _⟩ := holding.orderly.acquired live member
  have was : h.IsLive live.source := List.mem_map_of_mem member
  have still := halfway.isLive_iff holding member
  rw [reached] at still
  refine ⟨source, entered, ?_⟩
  rw [reached, run_source holding.orderly moves entered]
  by_cases there : live.port ∈ current <;> simp [was, still, there]

theorem fresh (halfway : Halfway h known current (Presence.changes known current) [] g)
    (holding : Holding h known current) {port : Port} (there : port ∈ current)
    (absent : port ∉ known) : IsFresh h g port := by
  obtain ⟨opened, sessions, ports, new⟩ := halfway.sessions
  have come : port ∈ opened.map Live.port :=
    (ports port).mpr (Presence.mem_changes_appeared.mpr ⟨there, absent⟩)
  obtain ⟨live, member, rfl⟩ := List.mem_map.mp come
  have listed : live ∈ g.sessions := sessions ▸ List.mem_append_right _ member
  exact ⟨live, listed, rfl, new live member, (halfway.orderly holding).acquired live listed⟩

theorem mem_ports_iff (halfway : Halfway h known current (Presence.changes known current) [] g)
    (holding : Holding h known current) (port : Port) :
    port ∈ g.sessions.map Live.port ↔ port ∈ current := by
  constructor
  · intro listed
    obtain ⟨live, member, rfl⟩ := List.mem_map.mp listed
    obtain ⟨opened, sessions, ports, _⟩ := halfway.sessions
    rw [sessions, List.mem_append, List.mem_filter] at member
    rcases member with ⟨old, kept⟩ | late
    · by_contra vanished
      rw [(holding.isGone_iff old).mpr vanished] at kept
      cases kept
    · exact (Presence.mem_changes_appeared.mp ((ports _).mp (List.mem_map_of_mem late))).1
  · intro there
    by_cases before : port ∈ known
    · obtain ⟨live, member, rfl⟩ := List.mem_map.mp ((holding.ports port).mpr before)
      exact List.mem_map_of_mem (halfway.listed_of_current holding member there)
    · obtain ⟨live, member, on_port, _⟩ := halfway.fresh holding there before
      exact on_port ▸ List.mem_map_of_mem member

theorem follows (halfway : Halfway h known current (Presence.changes known current) [] g)
    (holding : Holding h known current) : Follows h known current g := by
  refine ⟨halfway.mem_ports_iff holding, ?_, ?_, ?_, fun port => halfway.fresh holding, ?_⟩
  · intro live member there
    obtain ⟨source, entered, later⟩ := halfway.source_eq holding member
    rw [if_pos there] at later
    exact ⟨halfway.listed_of_current holding member there, later.trans entered.symm⟩
  · intro live member vanished
    obtain ⟨source, entered, later⟩ := halfway.source_eq holding member
    rw [if_neg vanished] at later
    exact ⟨mt (halfway.isLive_iff holding member).mp vanished, source, entered, later⟩
  · obtain ⟨left, notices, partings⟩ := halfway.notices
    have vanished : h.sessions.filter (Live.isGone (Presence.changes known current)) =
        h.sessions.filter fun live => live.port ∉ current := by
      apply List.filter_congr
      intro live member
      rw [Bool.eq_iff_iff, holding.isGone_iff member, decide_eq_true_iff]
    have once := (holding.orderly.partings_nodup _).perm partings.symm
    exact ⟨left, notices, once, vanished ▸ partings⟩
  · intro p was q there identified id name
    refine halfway.fresh holding there fun old => ?_
    have same : p.same q = true := by
      obtain ⟨known_id, found⟩ := Option.isSome_iff_exists.mp identified
      unfold Port.same
      rw [id, found]
      exact beq_self_eq_true known_id
    have equal := holding.before.eq_of_same was old same
    exact name (equal ▸ rfl)

end Halfway

end Hub

end MeterHub
