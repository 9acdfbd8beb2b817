import Mathlib.Data.List.Induction
import Mathlib.Data.List.Pairwise
import MeterHub.Proofs.Hub.Announcement
import MeterHub.Proofs.Hub.Growing

/-!
The order of a hub through whole runs. Every move is growth or closes sessions, and both keep the
order, so no port is ever acquired twice.
-/

set_option autoImplicit false
set_option relaxedAutoImplicit false

namespace MeterHub

/-- Whether a move begins a read. -/
def Move.beginsRead : Move → Bool
  | .beginRead _ _ _ => true
  | _ => false

namespace Hub

/-- The moves that close sessions, with the sessions that go. -/
inductive Closing (h : Hub) : Move → (Live → Bool) → Prop
  | unsubscribe (name : String) :
      Closing h (.unsubscribe name)
        (isSpare (h.registry.without (.listener name)) (h.registry.keysOf (.listener name)))
  | unsubscribeFrom (key : Identifier) (name : String) :
      Closing h (.unsubscribeFrom key name)
        (isSpare (h.registry.unsubscribeFrom key (.listener name)).2 [key])
  | ended {index : Nat} {read : Read} (at_index : h.reads[index]? = some read)
      (pending : read.isPending = true) :
      Closing h (.endRead index) fun live => live.session.ephemeral &&
        isSpare (h.registry.unsubscribeFrom read.key (.reader index)).2 [read.key] live
  | announced {index : Nat} {i : Identifier} {keys : List Identifier}
      (noted : h.notices[index]? = some i)
      (released : ∀ key,
        key ∈ keys ↔ (∃ s, (key, s) ∈ h.registry.filtered) ∧ key.agrees i = true) :
      Closing h (.notify index) (isSpare (h.unplugged i) keys)
  | unplugged (port : Port) : Closing h (.disappeared port) fun live => live.port.same port
  | polled {site : Site} {poller : Poller} {port : Port} {rest : List Presence}
      (polling : h.poller = some poller) (first : poller.queue = .disappeared port :: rest) :
      Closing h (.consume site) fun live => live.port.same port
  | stopped (running : h.running = true) : Closing h .stop fun _ => true
  | discarded (free : h.isHeld = false) : Closing h .discard fun _ => true

theorem disappeared_closes (h : Hub) (port : Port) :
    Closes (fun live => live.port.same port) h (h.disappeared port) := by
  obtain ⟨_, _, disappeared⟩ := h.disappeared_eq port
  rw [disappeared]
  exact ⟨rfl, rfl, rfl⟩

theorem consume_cases (h : Hub) (site : Site) :
    h.consume site = h ∨
      ∃ poller change rest, h.poller = some poller ∧ poller.queue = change :: rest ∧
        h.consume site =
          { h with poller := some { poller with queue := rest } }.handle site change := by
  unfold consume
  cases polling : h.poller with
  | none => exact .inl rfl
  | some poller =>
    cases queued : poller.queue with
    | nil =>
      refine .inl ?_
      simp only [Poller.take, queued, List.take_nil]
    | cons change rest =>
      refine .inr ⟨poller, change, rest, rfl, queued, ?_⟩
      simp only [Poller.take, queued, List.take_succ_cons, List.take_zero, List.drop_succ_cons,
        List.drop_zero]

/-- What a move may do to the sessions of a hub: it lets the hub grow, or it closes some of them. -/
def Accounted (h : Hub) (m : Move) : Prop :=
  Grows m.beginsRead h (h.move m) ∨ ∃ gone, Closing h m gone ∧ Closes gone h (h.move m)

theorem Accounted.of_eq {h : Hub} {m : Move} (nothing : h.move m = h) : Accounted h m := by
  unfold Accounted
  rw [nothing]
  exact .inl .refl

theorem unsubscribe_accounted (h : Hub) (name : String) : Accounted h (.unsubscribe name) := by
  obtain ⟨_, unsubscribed⟩ := h.unsubscribe_eq (.listener name)
  refine .inr ⟨_, .unsubscribe name, ?_⟩
  change Closes _ h (h.unsubscribe (.listener name))
  rw [unsubscribed]
  exact ⟨rfl, rfl, rfl⟩

theorem unsubscribeFrom_accounted (h : Hub) (key : Identifier) (name : String) :
    Accounted h (.unsubscribeFrom key name) := by
  obtain ⟨_, unsubscribed⟩ := h.unsubscribeFrom_eq key (.listener name)
  refine .inr ⟨_, .unsubscribeFrom key name, ?_⟩
  change Closes _ h (h.unsubscribeFrom key (.listener name))
  rw [unsubscribed]
  exact ⟨rfl, rfl, rfl⟩

theorem endRead_accounted (h : Hub) (index : Nat) : Accounted h (.endRead index) := by
  rcases h.endRead_cases index with nothing | ⟨read, at_index, pending⟩
  · exact .of_eq nothing
  · obtain ⟨_, ended⟩ := endRead_eq at_index pending
    refine .inr ⟨_, .ended at_index pending, ?_⟩
    change Closes _ h (h.endRead index)
    rw [ended]
    exact ⟨rfl, rfl, rfl⟩

theorem notify_accounted (h : Hub) (index : Nat) : Accounted h (.notify index) := by
  cases noted : h.notices[index]? with
  | none => exact .of_eq (notify_absent noted)
  | some i =>
    obtain ⟨_, keys, released, notified⟩ := notify_eq noted
    refine .inr ⟨_, .announced noted released, ?_⟩
    change Closes _ h (h.notify index)
    rw [notified]
    exact ⟨rfl, rfl, rfl⟩

theorem consume_accounted (h : Hub) (site : Site) : Accounted h (.consume site) := by
  rcases h.consume_cases site with nothing | ⟨poller, change, rest, polling, queued, consumed⟩
  · exact .of_eq nothing
  · let drained : Hub := { h with poller := some { poller with queue := rest } }
    change Grows false h (h.consume site) ∨ ∃ gone, _ ∧ Closes gone h (h.consume site)
    rw [consumed]
    cases change with
    | appeared port =>
      have first : Growth false h drained := .aside rfl rfl rfl
      exact .inl (.head first (.single (appeared_growth drained site port true)))
    | disappeared port =>
      obtain ⟨config, sessions, sources⟩ := disappeared_closes drained port
      exact .inr ⟨_, .polled polling queued, config, sessions, sources⟩

theorem stop_accounted (h : Hub) : Accounted h .stop := by
  by_cases running : h.running = true
  · obtain ⟨_, stopped⟩ := stop_eq running
    refine .inr ⟨_, .stopped running, ?_⟩
    change Closes _ h h.stop
    rw [stopped]
    exact ⟨rfl, by simp, by simp⟩
  · exact .of_eq (if_neg running)

theorem discard_accounted (h : Hub) : Accounted h .discard := by
  by_cases held : h.isHeld = true
  · exact .of_eq (if_pos held)
  · refine .inr ⟨_, .discarded (by simpa using held), ?_⟩
    have given : h.move .discard = h.discard := if_neg held
    rw [given]
    exact ⟨rfl, by simp [discard], by simp [discard]⟩

/-- Every move lets a hub grow or closes sessions. -/
theorem move_accounted {h : Hub} (orderly : h.Orderly) (m : Move) : Accounted h m := by
  cases m with
  | start site => exact .inl (start_grows h site)
  | stop => exact stop_accounted h
  | subscribe name => exact .inl (.single (.aside rfl rfl rfl))
  | unsubscribe name => exact unsubscribe_accounted h name
  | subscribeTo site key name =>
    exact .inl (.single (subscribeTo_growth h site key (.listener name)))
  | unsubscribeFrom key name => exact unsubscribeFrom_accounted h key name
  | appeared site port => exact .inl (.single (appeared_growth h site port false))
  | disappeared port => exact .inr ⟨_, .unplugged port, disappeared_closes h port⟩
  | beginRead site key timeout =>
    exact .inl (.single (beginRead_growth orderly site key timeout))
  | endRead index => exact endRead_accounted h index
  | report source signal => exact .inl (.single (report_growth orderly source signal))
  | notify index => exact notify_accounted h index
  | poll ports => exact .inl (.single (.aside rfl rfl rfl))
  | refill => exact .inl (.single (.aside rfl rfl rfl))
  | consume site => exact consume_accounted h site
  | takeUp lane => exact .inl (.single (takeUp_growth h lane))
  | finish lane panicked => exact .inl (.single (.aside rfl rfl rfl))
  | discard => exact discard_accounted h

theorem fresh_orderly (config : Config) : (fresh config).Orderly := by
  constructor <;> simp [fresh]

theorem move_orderly {h : Hub} (orderly : h.Orderly) (m : Move) : (h.move m).Orderly := by
  rcases move_accounted orderly m with grows | ⟨gone, _, closes⟩
  · exact grows.orderly orderly
  · exact closes.orderly orderly

theorem Reachable.orderly {h : Hub} (reachable : h.Reachable) : h.Orderly :=
  reachable.induct fresh_orderly fun _ m orderly => move_orderly orderly m

theorem run_orderly (config : Config) (moves : List Move) : ((fresh config).run moves).Orderly :=
  Reachable.orderly ⟨config, moves, rfl⟩

theorem Orderly.run {h : Hub} (orderly : h.Orderly) (moves : List Move) :
    (h.run moves).Orderly := by
  induction moves generalizing h with
  | nil => exact orderly
  | cons m moves ih => exact ih (move_orderly orderly m)

/-- What holds of a fresh hub and is kept by the moves of a kind holds after every run of such
moves. -/
theorem run_induct (Kind : Move → Prop) (P : Hub → Prop) {config : Config} (start : P (fresh config))
    (keeps : ∀ h m, h.Orderly → Kind m → P h → P (h.move m)) {moves : List Move}
    (kinds : ∀ m ∈ moves, Kind m) : P ((fresh config).run moves) := by
  induction moves using List.reverseRecOn with
  | nil => exact start
  | append_singleton moves m ih =>
    rw [run_concat]
    obtain ⟨earlier, last⟩ := List.forall_mem_append.mp kinds
    exact keeps _ m (run_orderly config moves) (List.forall_mem_singleton.mp last) (ih earlier)

theorem move_sources_le {h : Hub} (orderly : h.Orderly) (m : Move) :
    h.sources.length ≤ (h.move m).sources.length := by
  rcases move_accounted orderly m with grows | ⟨gone, _, closes⟩
  · exact grows.sources_le
  · have same : (h.move m).sources.length = h.sources.length := by
      rw [closes.sources, length_silenceAll]
    omega

theorem ended_of_unlisted {h : Hub} (orderly : h.Orderly) {m : Move} {live : Live}
    (member : live ∈ h.sessions)
    (unlisted : live.source ∉ (h.move m).sessions.map Live.source) :
    ∃ source, (h.move m).sources[live.source]? = some source ∧ source.Ended := by
  have bound : live.source < (h.move m).sources.length :=
    Nat.lt_of_lt_of_le (orderly.bounded member) (move_sources_le orderly m)
  have entered := List.getElem?_eq_getElem bound
  exact ⟨_, entered, (move_orderly orderly m).ended _ _ entered unlisted⟩

theorem move_config {h : Hub} (orderly : h.Orderly) (m : Move) : (h.move m).config = h.config := by
  rcases move_accounted orderly m with grows | ⟨gone, _, closes⟩
  · exact grows.config_eq
  · exact closes.config

theorem run_config (config : Config) (moves : List Move) :
    ((fresh config).run moves).config = config := by
  induction moves using List.reverseRecOn with
  | nil => rfl
  | append_singleton moves m ih =>
    rw [run_concat]
    exact (move_config (run_orderly config moves) m).trans ih

theorem Orderly.identifiers_nodup {h : Hub} (orderly : h.Orderly) :
    (h.sessions.map Live.identifier).Nodup := by
  rw [List.Nodup, List.pairwise_map]
  apply orderly.exclusive.imp_of_mem
  intro a b left right apart same
  have ids : a.port.id = b.port.id := by
    rw [← (orderly.placed a left).portId, ← (orderly.placed b right).portId, same]
  have names : some a.port.name = some b.port.name := by
    rw [← (orderly.placed a left).portName, ← (orderly.placed b right).portName, same]
  -- `same` is not transitive, yet every port is the same as itself
  have equal : a.port = b.port := by
    cases left : a.port
    cases right : b.port
    simp_all
  rw [equal, Port.same_refl] at apart
  cases apart

theorem Orderly.listens {h : Hub} (orderly : h.Orderly) {index : Nat} {source : Source}
    (entered : h.sources[index]? = some source) (running : source.running = true) :
    ∃ live ∈ h.sessions, live.source = index ∧ live.port = source.port := by
  by_cases listed : index ∈ h.sessions.map Live.source
  · obtain ⟨live, member, rfl⟩ := List.mem_map.mp listed
    obtain ⟨own, owned, acquires⟩ := orderly.acquired live member
    rw [owned, Option.some.injEq] at entered
    exact ⟨live, member, rfl, entered ▸ acquires.on_port.symm⟩
  · have ended := orderly.ended index source entered listed
    rw [ended.idle] at running
    cases running

theorem Orderly.idle {h : Hub} (orderly : h.Orderly) (none : h.sessions = []) :
    ∀ source ∈ h.sources, source.running = false := by
  intro source member
  obtain ⟨index, entered⟩ := List.mem_iff_getElem?.mp member
  rw [← Bool.not_eq_true]
  intro running
  obtain ⟨live, listed, _⟩ := orderly.listens entered running
  rw [none] at listed
  cases listed

/-- Whatever happens to a hub, its sessions hold different ports, and so do the sources that run.
Hence the identifiers of the sessions are different as well, and asking for the available ones lists
each session once, in order. -/
theorem run_exclusive (config : Config) (moves : List Move) :
    let h := (fresh config).run moves
    (h.sessions.Pairwise fun a b => a.port.same b.port = false) ∧
      (h.sessions.map Live.identifier).Nodup ∧
      h.available = h.sessions.map Live.identifier ∧
      ∀ (i j : Nat) (a b : Source), i ≠ j → h.sources[i]? = some a → h.sources[j]? = some b →
        a.running = true → b.running = true → a.port.same b.port = false := by
  intro h
  have orderly : h.Orderly := run_orderly config moves
  refine ⟨orderly.exclusive, orderly.identifiers_nodup, ?_, ?_⟩
  · exact Distinct.ofList_eq_self orderly.identifiers_nodup
  · intro i j a b different first second runs runs'
    obtain ⟨left, leftMember, leftSource, leftPort⟩ := orderly.listens first runs
    obtain ⟨right, rightMember, rightSource, rightPort⟩ := orderly.listens second runs'
    have apart : left ≠ right := by
      rintro rfl
      exact different (leftSource.symm.trans rightSource)
    rw [← leftPort, ← rightPort]
    have symmetric : Std.Symm fun a b : Live => a.port.same b.port = false :=
      ⟨fun a b apart => (Port.same_comm b.port a.port).trans apart⟩
    exact orderly.exclusive.forall leftMember rightMember apart

/-- Surroundings in which some ports are attached and every source opens, starts and stops without a
word. -/
def quietSite (ports : List Port) : Site where
  discovery := .ofEnumeration (.ok ports)
  opening _ _ := .ok {}

theorem quietSite_faithful (ports : List Port) : (quietSite ports).discovery.Faithful :=
  Discovery.ofEnumeration_faithful (.ok ports)

/-- A port without an id is the same as each of two others that share its name but are not the
same. -/
theorem run_exclusive_same_names :
    let h := (fresh {}).run [.appeared (quietSite []) ⟨some "1", "a"⟩,
      .appeared (quietSite []) ⟨some "2", "a"⟩, .appeared (quietSite []) ⟨none, "a"⟩]
    h.available.length = 2 ∧ h.available = h.sessions.map Live.identifier :=
  ⟨by decide, (run_exclusive {} _).2.2.1⟩

end Hub

end MeterHub
