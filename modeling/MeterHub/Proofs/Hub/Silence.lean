import MeterHub.Proofs.Hub.Ledger
import MeterHub.Proofs.Hub.Speaking
import MeterHub.Proofs.Session.Stopping

/-!
What sources say after their sessions were stopped. A hub forgets a session that it stops, but
someone else may still hold it, and then its source still reaches it. Such sessions are kept beside
the hub here, and that they hear and tell makes no difference to it.
-/

set_option autoImplicit false
set_option relaxedAutoImplicit false

namespace MeterHub.Hub

/-- A session that has been stopped, with what its source said meanwhile. -/
def stopped (h : Hub) (live : Live) : Live :=
  let lastWords := (h.sources[live.source]?.map fun source => source.stop.1).getD []
  { live with session := (live.session.stop lastWords).2 }

/-- The session of a source that did not start, with what that said meanwhile. -/
def unstarted (h : Hub) (entry : Source × Nat) : Live :=
  ⟨entry.2, ((starting h.config entry.1.port entry.1.mode).stop entry.1.script.firstWords).2⟩

def closedBy (h : Hub) (m : Move) : List Live :=
  (h.sessions.filter fun live => decide ¬(h.move m).IsLive live.source).map h.stopped

/-- The sessions of the sources that a move opens but that do not start. -/
def refusedBy (h : Hub) (m : Move) : List Live :=
  ((h.move m).sources.zipIdx.filter fun entry =>
    decide (h.sources.length ≤ entry.2 ∧ ¬(h.move m).IsLive entry.2)).map h.unstarted

def fallen (h : Hub) (m : Move) : List Live := h.closedBy m ++ h.refusedBy m

/-- Sessions that the hub does not list hear what the source at an index says, and tell their
listeners. The answer holds the sessions after that. -/
def echo (h : Hub) (index : Nat) (signal : Signal) : List Live → Hub × List Live
  | [] => (h, [])
  | live :: lives =>
    if live.source = index then
      let (event, session) := live.session.hear signal
      let (h, lives) := (h.publish session [event]).echo index signal lives
      (h, { live with session } :: lives)
    else
      let (h, lives) := h.echo index signal lives
      (h, live :: lives)

/-- A hub and all sessions that it has stopped. -/
structure Lingering where
  hub : Hub
  stopped : List Live := []

/-- A move, in which a source that says something reaches its session also if that was stopped. -/
def Lingering.move (g : Lingering) (m : Move) : Lingering :=
  let h := g.hub.move m
  let heard :=
    match m with
    | .report index signal => h.echo index signal g.stopped
    | _ => (h, g.stopped)
  ⟨heard.1, heard.2 ++ g.hub.fallen m⟩

def Lingering.run (g : Lingering) : List Move → Lingering
  | [] => g
  | m :: moves => (g.move m).run moves

theorem publish_unheard {session : Session Relay} (unheard : session.listeners = []) (h : Hub)
    (events : List Event) : h.publish session events = h := by
  have nobody : session.calls events = [] := by
    unfold Session.calls
    rw [unheard]
    exact List.flatMap_eq_nil_iff.mpr fun _ _ => rfl
  unfold publish
  rw [nobody]
  rfl

theorem fallen_unheard (h : Hub) (m : Move) : ∀ live ∈ h.fallen m, live.session.listeners = [] := by
  intro live member
  rcases List.mem_append.mp member with closed | refused
  · obtain ⟨_, _, rfl⟩ := List.mem_map.mp closed
    rfl
  · obtain ⟨_, _, rfl⟩ := List.mem_map.mp refused
    rfl

theorem mem_closedBy_iff {h : Hub} {m : Move} {index : Nat} :
    index ∈ (h.closedBy m).map Live.source ↔ h.IsLive index ∧ ¬(h.move m).IsLive index := by
  simp only [closedBy, List.mem_map, List.mem_filter, decide_eq_true_eq]
  constructor
  · rintro ⟨_, ⟨live, ⟨member, gone⟩, rfl⟩, rfl⟩
    have listed : h.IsLive live.source := List.mem_map_of_mem member
    exact ⟨listed, gone⟩
  · rintro ⟨listed, gone⟩
    obtain ⟨live, member, rfl⟩ := List.mem_map.mp listed
    exact ⟨_, ⟨live, ⟨member, gone⟩, rfl⟩, rfl⟩

theorem mem_refusedBy_iff {h : Hub} {m : Move} {index : Nat} :
    index ∈ (h.refusedBy m).map Live.source ↔
      h.sources.length ≤ index ∧ index < (h.move m).sources.length ∧
        ¬(h.move m).IsLive index := by
  simp only [refusedBy, List.mem_map, List.mem_filter, decide_eq_true_eq]
  constructor
  · rintro ⟨_, ⟨entry, ⟨member, new, gone⟩, rfl⟩, rfl⟩
    have entered := List.mem_zipIdx_iff_getElem?.mp member
    exact ⟨new, (List.getElem?_eq_some_iff.mp entered).1, gone⟩
  · rintro ⟨new, bound, gone⟩
    have member : ((h.move m).sources[index], index) ∈ (h.move m).sources.zipIdx :=
      List.mem_zipIdx_iff_getElem?.mpr (List.getElem?_eq_getElem bound)
    exact ⟨_, ⟨_, ⟨member, new, gone⟩, rfl⟩, rfl⟩

theorem echo_unheard {lives : List Live} (unheard : ∀ live ∈ lives, live.session.listeners = [])
    (h : Hub) (index : Nat) (signal : Signal) :
    (h.echo index signal lives).1 = h ∧
      (h.echo index signal lives).2.map Live.source = lives.map Live.source ∧
      ∀ live ∈ (h.echo index signal lives).2, live.session.listeners = [] := by
  induction lives generalizing h with
  | nil => exact ⟨rfl, rfl, fun _ => nofun⟩
  | cons live lives ih =>
    obtain ⟨first, others⟩ := List.forall_mem_cons.mp unheard
    unfold echo
    split
    · have still : (live.session.hear signal).2.listeners = [] :=
        (Session.hear_listeners live.session signal).trans first
      simp only [publish_unheard still]
      obtain ⟨same, sources, rest⟩ := ih others h
      exact ⟨same, congrArg (live.source :: ·) sources, List.forall_mem_cons.mpr ⟨still, rest⟩⟩
    · obtain ⟨same, sources, rest⟩ := ih others h
      exact ⟨same, congrArg (live.source :: ·) sources, List.forall_mem_cons.mpr ⟨first, rest⟩⟩

namespace Lingering

/-- The sessions that linger have no listeners, and they are those of all sources without a live
one. -/
structure Complete (g : Lingering) : Prop where
  unheard : ∀ live ∈ g.stopped, live.session.listeners = []
  mem_iff : ∀ index, index ∈ g.stopped.map Live.source ↔
    index < g.hub.sources.length ∧ ¬g.hub.IsLive index

theorem move_eq {g : Lingering} (unheard : ∀ live ∈ g.stopped, live.session.listeners = [])
    (m : Move) :
    ∃ lives, g.move m = ⟨g.hub.move m, lives ++ g.hub.fallen m⟩ ∧
      lives.map Live.source = g.stopped.map Live.source ∧
      ∀ live ∈ lives, live.session.listeners = [] := by
  cases m with
  | report index signal =>
    obtain ⟨same, sources, still⟩ :=
      echo_unheard unheard (g.hub.move (.report index signal)) index signal
    exact ⟨_, by simp only [move, same], sources, still⟩
  | _ => exact ⟨_, rfl, rfl, unheard⟩

theorem Complete.move {g : Lingering} (complete : g.Complete) (orderly : g.hub.Orderly)
    (m : Move) : (g.move m).hub = g.hub.move m ∧ (g.move m).Complete := by
  obtain ⟨lives, moved, sources, still⟩ := move_eq complete.unheard m
  rw [moved]
  refine ⟨rfl, fun live member => ?_, fun index => ?_⟩
  · exact (List.mem_append.mp member).elim (still live) (fallen_unheard g.hub m live)
  · change index ∈ (lives ++ g.hub.fallen m).map Live.source ↔
      index < (g.hub.move m).sources.length ∧ ¬(g.hub.move m).IsLive index
    rw [fallen, List.map_append, List.map_append, List.mem_append, List.mem_append, sources,
      complete.mem_iff, mem_closedBy_iff, mem_refusedBy_iff]
    have grown := move_sources_le orderly m
    constructor
    · rintro (⟨bound, gone⟩ | ⟨listed, gone⟩ | ⟨_, bound, gone⟩)
      · exact ⟨Nat.lt_of_lt_of_le bound grown, move_unlisted orderly bound gone m⟩
      · obtain ⟨live, member, rfl⟩ := List.mem_map.mp listed
        exact ⟨Nat.lt_of_lt_of_le (orderly.bounded member) grown, gone⟩
      · exact ⟨bound, gone⟩
    · rintro ⟨bound, gone⟩
      by_cases old : index < g.hub.sources.length
      · by_cases listed : g.hub.IsLive index
        · exact .inr (.inl ⟨listed, gone⟩)
        · exact .inl ⟨old, listed⟩
      · exact .inr (.inr ⟨Nat.not_lt.mp old, bound, gone⟩)

theorem Complete.run {g : Lingering} (complete : g.Complete) (orderly : g.hub.Orderly)
    (moves : List Move) : (g.run moves).hub = g.hub.run moves ∧ (g.run moves).Complete := by
  induction moves generalizing g with
  | nil => exact ⟨rfl, complete⟩
  | cons m moves ih =>
    obtain ⟨same, still⟩ := complete.move orderly m
    have later := ih still (same ▸ move_orderly orderly m)
    rw [same] at later
    exact later

end Lingering

theorem run_without {h : Hub} (orderly : h.Orderly) {index : Nat} (bound : index < h.sources.length)
    (gone : ¬h.IsLive index) (moves : List Move) :
    h.run moves = h.run (moves.filter fun m => (m.said index).isNone) := by
  induction moves generalizing h with
  | nil => rfl
  | cons m moves ih =>
    have later := ih (move_orderly orderly m)
      (Nat.lt_of_lt_of_le bound (move_sources_le orderly m)) (move_unlisted orderly bound gone m)
    cases said : m.said index with
    | none =>
      rw [List.filter_cons_of_pos (by rw [said]; rfl)]
      exact later
    | some signal =>
      rw [List.filter_cons_of_neg (by rw [said]; exact Bool.false_ne_true)]
      have nothing : h.move m = h := by
        cases m with
        | report source words =>
          by_cases same : index = source
          · exact report_absent (same ▸ gone) _
          · simp [Move.said, same] at said
        | _ => cases said
      change (h.move m).run moves = _
      rw [later, nothing]

/-- Whatever happens to a session, a round tells those who are attached when it begins, one by one,
what its signal makes of all before it. After a stop only rounds that were under way go on, and
later ones call nobody who came before the stop and not again after it; where no round is under way
and nobody comes, nobody is called. A source that nothing disturbs while it is stopped is heard to
the last word by everyone who is attached then. So all sessions that a hub has stopped may linger
and hear what their sources say: the hub is the same as if they did not, and the same as if such a
source said nothing. -/
theorem run_silent {σ : Type} [DecidableEq σ] (port : Port) (mode : Mode)
    (before : List (Session.Act σ)) (config : Config) (moves : List Move) :
    let new : Session.Busy σ := .ofPort port mode
    let b := (new.run before).2
    let stopped := (b.act .stop).2
    let h := (fresh config).run moves
    let g := Lingering.run ⟨fresh config, []⟩ moves
    (∀ signal later,
      let index := (Session.heard before).length
      ∃ event listeners, Publishes port (Session.heard before) signal event ∧
        listeners.Nodup ∧ (∀ listener, listener ∈ listeners ↔ Session.Attached before listener) ∧
        ((new.run (before ++ .hear signal :: later)).1.filter fun call => call.round = index) =
          Session.Busy.made ⟨event, listeners⟩ index (Session.Busy.turns index later)) ∧
    (∀ later, ∀ call ∈ (stopped.run later).1,
      (∃ round, b.rounds[call.round]? = some round ∧ call.event = round.event ∧
        call.listener ∈ round.due) ∨
      ∃ since signal rest, later = since ++ .hear signal :: rest ∧
        call.round = (Session.heard before).length + (Session.heard since).length ∧
        Session.Attached since call.listener) ∧
    (∀ later, (∀ round ∈ b.rounds, round.due = []) → (∀ listener, .listen listener ∉ later) →
      (stopped.run later).1 = []) ∧
    (∀ lastWords,
      let told := b.run
        (Session.undisturbed b.session.listeners.length b.rounds.length lastWords ++ [.stop])
      (told.1.map fun call => (call.listener, call.event)) =
          b.session.calls (b.session.stop lastWords).1 ∧
        told.2.session = (b.session.stop lastWords).2) ∧
    (∀ index, index ∈ g.stopped.map Live.source ↔ index < h.sources.length ∧ ¬h.IsLive index) ∧
    ∀ later, (g.run later).hub = h.run later ∧
      ∀ index ∈ g.stopped.map Live.source,
        h.run later = h.run (later.filter fun m => (m.said index).isNone) := by
  intro new b stopped h g
  have start : Lingering.Complete ⟨fresh config, []⟩ := ⟨fun _ => nofun, fun _ => by simp [fresh]⟩
  obtain ⟨same, complete⟩ := start.run (run_orderly config []) moves
  have orderly : g.hub.Orderly := same ▸ run_orderly config moves
  refine ⟨Session.Busy.calls_of_round port mode before,
    fun later call called => Session.Busy.calls_after_stop called,
    fun later finished lonely => Session.Busy.silent_after_stop finished lonely,
    fun lastWords => Session.Busy.run_undisturbed_stop b lastWords, fun index => ?_,
    fun later => ⟨?_, fun index gone => ?_⟩⟩
  · rw [complete.mem_iff, same]
  · rw [(complete.run orderly later).1, same]
  · rw [complete.mem_iff, same] at gone
    exact run_without (run_orderly config moves) gone.1 gone.2 later

/-- Two listeners hear what a source says while it is stopped, and nothing of what it says after
that. The source of an unplugged device speaks on to the session that was stopped, and the hub is as
if it did not. -/
theorem run_silent_unplugged :
    let port : Port := ⟨none, "COM3"⟩
    let fault (message : String) : Event := .fault ⟨port.identifier, .otherReason, message, none⟩
    let before : List (Session.Act String) := [.listen "a", .listen "b", .listen "a"]
    let b := ((Session.Busy.ofPort port .historic).run before).2
    let told := b.run (Session.undisturbed 2 0 [.error "bye"] ++ [.stop])
    let more : List (Session.Act String) := [.hear (.error "more"), .call 0, .stop, .call 1]
    let moves := [Move.appeared (quietSite [port]) port, .subscribe "x", .disappeared port]
    let h := (fresh {}).run moves
    let g := Lingering.run ⟨fresh {}, []⟩ moves
    let speaks := Move.report 0 (.error "more")
    (told.1.map fun call => (call.listener, call.event)) =
        [("a", fault "bye"), ("b", fault "bye")] ∧
      ((b.act .stop).2.run more).1 = [] ∧
      g.stopped.map Live.source = [0] ∧
      (g.run [speaks, .subscribe "y"]).hub = h.run [.subscribe "y"] := by
  intro port fault before b told more moves h g speaks
  obtain ⟨-, -, silent, words, gone, later⟩ := run_silent port .historic before {} moves
  have lingers : 0 ∈ g.stopped.map Live.source := (gone 0).mpr ⟨by decide, by decide⟩
  obtain ⟨same, without⟩ := later [speaks, .subscribe "y"]
  refine ⟨(words [.error "bye"]).1, silent more (fun _ => nofun) (by simp [more]), by rfl, ?_⟩
  exact same.trans (without 0 lingers)

end MeterHub.Hub
