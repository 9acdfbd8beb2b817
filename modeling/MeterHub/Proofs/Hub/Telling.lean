import MeterHub.Proofs.Hub.Announcement
import MeterHub.Proofs.Hub.Change
import MeterHub.Proofs.Lanes.Holding

/-!
Who is told what. An event goes once to everyone who has an entry that its identifier passes, and to
nobody else. What a source says while it is stopped is no exception.
-/

set_option autoImplicit false
set_option relaxedAutoImplicit false

namespace MeterHub

/-- What a source says in one go to the session that listens to it. -/
structure Speech where
  source : Nat
  session : Session Relay
  signals : List Signal

def Speech.events (speech : Speech) : List Event := (speech.session.hearAll speech.signals).1

namespace Hub

/-- Whether a registry has an entry by which a subscriber is told about a stream. -/
def IsTold (r : Registry Identifier Subscriber) (s : Subscriber) (i : Identifier) : Prop :=
  s ∈ r.unfiltered ∨ ∃ key, (key, s) ∈ r.filtered ∧ key.agrees i = true

theorem isTold_iff {r : Registry Identifier Subscriber} {s : Subscriber} {i : Identifier} :
    IsTold r s i ↔ s ∈ r.interested Identifier.agrees i true := Registry.mem_interested.symm

instance (r : Registry Identifier Subscriber) (s : Subscriber) (i : Identifier) :
    Decidable (IsTold r s i) := decidable_of_iff _ isTold_iff.symm

/-- Those of some events that a subscriber is told. -/
def toldTo (r : Registry Identifier Subscriber) (s : Subscriber) (events : List Event) :
    List Event :=
  events.filter fun event => IsTold r s event.identifier

theorem toldTo_append (r : Registry Identifier Subscriber) (s : Subscriber)
    (events more : List Event) : toldTo r s (events ++ more) = toldTo r s events ++ toldTo r s more :=
  List.filter_append events more

theorem toldTo_eq_nil {r : Registry Identifier Subscriber} {s : Subscriber} {events : List Event}
    (deaf : ∀ event ∈ events, ¬IsTold r s event.identifier) : toldTo r s events = [] := by
  apply List.filter_eq_nil_iff.mpr
  intro event member told
  exact deaf event member (of_decide_eq_true told)

/-- Some events have gone to those who are told about their streams, and to nobody else. -/
structure Tells (r : Registry Identifier Subscriber) (events : List Event)
    (before after : Lanes Subscriber) : Prop where
  sound : after.Sound
  held : ∀ s, after.heldFor s = before.heldFor s ++ toldTo r s events

namespace Tells

variable {r : Registry Identifier Subscriber} {events more : List Event}
variable {before between after : Lanes Subscriber}

theorem refl (sound : before.Sound) : Tells r [] before before :=
  ⟨sound, fun _ => (List.append_nil _).symm⟩

theorem trans (first : Tells r events before between) (second : Tells r more between after) :
    Tells r (events ++ more) before after := by
  refine ⟨second.sound, ?_⟩
  intro s
  rw [second.held, first.held, toldTo_append, List.append_assoc]

theorem close (tells : Tells r events before after) (s : Subscriber) :
    Tells r events before (after.close s) := by
  refine ⟨tells.sound.close s, ?_⟩
  intro t
  rw [Lanes.heldFor_close, tells.held]

theorem closeAll (tells : Tells r events before after) : Tells r events before after.closeAll := by
  refine ⟨tells.sound.closeAll, ?_⟩
  intro t
  rw [Lanes.heldFor_closeAll, tells.held]

end Tells

theorem interest_nodup {h : Hub} (once : h.registry.unfiltered.Nodup) (i : Identifier) :
    (h.interest i).Nodup := Distinct.nodup_addAll once _

theorem route_tells {h : Hub} (sound : h.lanes.Sound) (once : h.registry.unfiltered.Nodup)
    (event : Event) : Tells h.registry [event] h.lanes (h.route event).lanes := by
  obtain ⟨still, held⟩ := Lanes.deliverAll_spec sound event (interest_nodup once event.identifier)
  refine ⟨still, ?_⟩
  intro s
  have told : toldTo h.registry s [event] =
      if s ∈ h.interest event.identifier then [event] else [] := by
    by_cases interested : s ∈ h.interest event.identifier
    · rw [if_pos interested]
      exact List.filter_cons_of_pos (decide_eq_true (isTold_iff.mpr interested))
    · rw [if_neg interested]
      apply toldTo_eq_nil
      intro only member told
      rw [List.mem_singleton.mp member] at told
      exact interested (isTold_iff.mp told)
  rw [told]
  exact held s

theorem routeAll_tells {h : Hub} (sound : h.lanes.Sound) (once : h.registry.unfiltered.Nodup)
    (events : List Event) : Tells h.registry events h.lanes (h.routeAll events).lanes := by
  induction events generalizing h with
  | nil => exact .refl sound
  | cons event events ih =>
    have first := route_tells sound once event
    exact first.trans (ih (h := h.route event) first.sound once)

theorem publish_tells {h : Hub} (sound : h.lanes.Sound) (once : h.registry.unfiltered.Nodup)
    {session : Session Relay} (listening : session.listeners = [.hub]) (events : List Event) :
    Tells h.registry events h.lanes (h.publish session events).lanes := by
  have calls : (session.calls events).map (·.2) = events := by
    unfold Session.calls
    rw [listening, List.map_flatMap]
    exact List.flatMap_singleton' events
  unfold publish
  rw [calls]
  exact routeAll_tells sound once events

/-- What the source of a session says when it is stopped. -/
def parting (sources : List Source) (live : Live) : Speech :=
  ⟨live.source, live.session, (sources[live.source]?.map fun source => source.stop.1).getD []⟩

theorem parting_silenceAll {lives : List Live} {live : Live}
    (other : live.source ∉ lives.map Live.source) (sources : List Source) :
    parting (lives.foldl silence sources) live = parting sources live := by
  have same : (lives.foldl silence sources)[live.source]? = sources[live.source]? := by
    induction lives generalizing sources with
    | nil => rfl
    | cons first lives ih =>
      obtain ⟨apart, rest⟩ := not_or.mp (List.mem_cons.not.mp other)
      rw [List.foldl_cons, ih rest, getElem?_silence, if_neg (Ne.symm apart)]
  unfold parting
  rw [same]

theorem parting_silence {live : Live} {lives : List Live}
    (apart : live.source ∉ lives.map Live.source) (sources : List Source) :
    ∀ other ∈ lives, parting (silence sources live) other = parting sources other := by
  intro other member
  have different : other.source ∉ [live].map Live.source := by
    intro same
    exact apart (List.mem_singleton.mp same ▸ List.mem_map_of_mem member)
  exact parting_silenceAll different sources

theorem stopSession_tells {h : Hub} (sound : h.lanes.Sound) (once : h.registry.unfiltered.Nodup)
    {live : Live} (listening : live.session.listeners = [.hub]) :
    Tells h.registry (parting h.sources live).events h.lanes (h.stopSession live).2.lanes := by
  unfold stopSession
  cases entered : h.sources[live.source]? with
  | none =>
    have nothing : (parting h.sources live).events = [] := by
      unfold parting
      rw [entered]
      rfl
    rw [nothing]
    exact .refl sound
  | some source =>
    have words : (parting h.sources live).events = (live.session.hearAll source.stop.1).1 := by
      unfold parting
      rw [entered]
      rfl
    rw [words]
    exact publish_tells (h := { h with sources := h.sources.set live.source source.stop.2 })
      sound once listening _

theorem stopSessions_tells {h : Hub} (sound : h.lanes.Sound) (once : h.registry.unfiltered.Nodup)
    {lives : List Live} (listening : ∀ live ∈ lives, live.session.listeners = [.hub])
    (distinct : (lives.map Live.source).Nodup) :
    Tells h.registry ((lives.map (parting h.sources)).flatMap Speech.events) h.lanes
      (h.stopSessions lives).2.lanes := by
  induction lives generalizing h with
  | nil => exact .refl sound
  | cons live lives ih =>
    obtain ⟨now, later⟩ := List.forall_mem_cons.mp listening
    obtain ⟨apart, rest⟩ := List.nodup_cons.mp distinct
    have first := stopSession_tells sound once now
    obtain ⟨lanes, stopped⟩ := stopSession_eq h live
    rw [stopped] at first
    have second := ih (h := { h with lanes, sources := silence h.sources live })
      first.sound once later rest
    -- the sources of the sessions that follow are still to be stopped
    have unmoved : lives.map (parting (silence h.sources live)) = lives.map (parting h.sources) :=
      List.map_congr_left (parting_silence apart h.sources)
    rw [unmoved] at second
    change Tells h.registry _ h.lanes ((h.stopSession live).2.stopSessions lives).2.lanes
    rw [stopped]
    exact first.trans second

theorem release_tells {h : Hub} (sound : h.lanes.Sound) (once : h.registry.unfiltered.Nodup)
    (listening : ∀ live ∈ h.sessions, live.session.listeners = [.hub])
    (distinct : (h.sessions.map Live.source).Nodup) (key : Identifier) (ephemeralOnly : Bool) :
    Tells h.registry
      (((h.sessions.filter (h.isUnused key ephemeralOnly)).map (parting h.sources)).flatMap
        Speech.events)
      h.lanes (h.release key ephemeralOnly).lanes := by
  let kept : Hub := { h with
    sessions := h.sessions.filter fun live => !h.isUnused key ephemeralOnly live }
  apply stopSessions_tells (h := kept) sound once
  · intro live member
    exact listening live (List.mem_filter.mp member).1
  · exact distinct.sublist (List.filter_sublist.map Live.source)

theorem releaseAll_tells {h : Hub} (sound : h.lanes.Sound) (once : h.registry.unfiltered.Nodup)
    (listening : ∀ live ∈ h.sessions, live.session.listeners = [.hub])
    (distinct : (h.sessions.map Live.source).Nodup) (keys : List Identifier) :
    ∃ closed : List Live, closed.Perm (h.sessions.filter (isSpare h.registry keys)) ∧
      Tells h.registry ((closed.map (parting h.sources)).flatMap Speech.events) h.lanes
        (h.releaseAll keys).lanes := by
  induction keys generalizing h with
  | nil =>
    have none : h.sessions.filter (isSpare h.registry []) = [] := by
      simp [isSpare]
    rw [none]
    exact ⟨[], .refl [], .refl sound⟩
  | cons key keys ih =>
    have unused : h.isUnused key false = isSpare h.registry [key] := by
      rw [isUnused_eq]
      rfl
    let gone := h.sessions.filter (isSpare h.registry [key])
    let kept := h.sessions.filter fun live => !isSpare h.registry [key] live
    have first := release_tells sound once listening distinct key false
    obtain ⟨lanes, released⟩ := release_eq h key false
    rw [released, unused] at first
    obtain ⟨closed, perm, second⟩ :=
      ih (h := { h with lanes, sessions := kept, sources := gone.foldl silence h.sources })
        first.sound once (fun live member => listening live (List.mem_filter.mp member).1)
        (distinct.sublist (List.filter_sublist.map Live.source))
    have either : isSpare h.registry (key :: keys) =
        fun live => isSpare h.registry [key] live || isSpare h.registry keys live := by
      funext live
      exact isSpare_cons h.registry key keys live
    refine ⟨gone ++ closed, ?_, ?_⟩
    · rw [either]
      exact (perm.append_left gone).trans (filter_append_filter_perm _ _ h.sessions)
    · have unmoved : closed.map (parting (gone.foldl silence h.sources)) =
          closed.map (parting h.sources) := by
        apply List.map_congr_left
        intro live member
        have still : live ∈ kept := (List.mem_filter.mp (perm.mem_iff.mp member)).1
        exact parting_silenceAll (unlisted_of_kept distinct still) h.sources
      rw [unmoved] at second
      rw [List.map_append, List.flatMap_append]
      change Tells h.registry _ h.lanes ((h.release key false).releaseAll keys).lanes
      rw [released, unused]
      exact first.trans second

theorem tellAll_lanes (i : Identifier) (told : List Subscriber) (a : Announcement) :
    (told.foldl (Announcement.tell i) a).hub.lanes =
      a.hub.lanes.deliverAll (.fault (.unplugged i)) told := by
  induction told generalizing a with
  | nil => rfl
  | cons s told ih => exact ih (a.tell i s)

theorem closeLanes_tells {h : Hub} {r : Registry Identifier Subscriber} {events : List Event}
    {before : Lanes Subscriber} (tells : Tells r events before h.lanes)
    (detached : List Subscriber) : Tells r events before (detached.foldl closeLane h).lanes := by
  induction detached generalizing h with
  | nil => exact tells
  | cons s detached ih => exact ih (h := h.closeLane s) (tells.close s)

/-- First those who are interested are told that the device is gone; what the sources of the
sessions that are spare then say goes to those who are left. -/
theorem announce_tells {h : Hub} (sound : h.lanes.Sound) (once : h.registry.unfiltered.Nodup)
    (listening : ∀ live ∈ h.sessions, live.session.listeners = [.hub])
    (distinct : (h.sessions.map Live.source).Nodup) (i : Identifier) :
    ∃ (keys : List Identifier) (closed : List Live) (between : Lanes Subscriber),
      Closes (isSpare (h.unplugged i) keys) h (h.announce i) ∧
      closed.Perm (h.sessions.filter (isSpare (h.unplugged i) keys)) ∧
      Tells h.registry [.fault (.unplugged i)] h.lanes between ∧
      Tells (h.unplugged i) ((closed.map (parting h.sources)).flatMap Speech.events) between
        (h.announce i).lanes := by
  let a := (h.interest i).foldl (Announcement.tell i) { hub := h }
  have told : Tells h.registry [.fault (.unplugged i)] h.lanes a.hub.lanes := by
    rw [tellAll_lanes]
    exact route_tells sound once (.fault (.unplugged i))
  have between := closeLanes_tells told a.detached
  obtain ⟨lanes, forgotten⟩ := tellAll_eq i (h.interest i) { hub := h }
  obtain ⟨lanes', closed⟩ := closeLanes_eq a.hub a.detached
  have state : a.detached.foldl closeLane a.hub =
      { h with lanes := lanes', registry := h.unplugged i } := by
    rw [closed, forgotten]
    rfl
  have announced : h.announce i = (a.detached.foldl closeLane a.hub).releaseAll a.released := rfl
  rw [announced]
  rw [state] at between ⊢
  let forgetful : Hub := { h with lanes := lanes', registry := h.unplugged i }
  have none : forgetful.registry.unfiltered.Nodup := by
    change (h.unplugged i).unfiltered.Nodup
    rw [unplugged_unfiltered]
    exact List.nodup_nil
  obtain ⟨gone, perm, tells⟩ := releaseAll_tells between.sound none listening distinct a.released
  obtain ⟨_, released⟩ := releaseAll_eq forgetful a.released
  refine ⟨a.released, gone, lanes', ?_, perm, between, tells⟩
  change Closes _ h (forgetful.releaseAll a.released)
  rw [released]
  exact ⟨rfl, rfl, rfl⟩

end Hub

end MeterHub
