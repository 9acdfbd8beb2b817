import MeterHub.Hub.Lifecycle
import MeterHub.Proofs.Hub.Opening
import MeterHub.Proofs.Hub.Enrolment
import MeterHub.Proofs.Hub.Order
import MeterHub.Proofs.Hub.Telling

/-!
What sources say while they are opened: inside their starts, and inside the stops that follow where
these fail. Every operation that may open ports appends the sources that it gets to the ledger, and
tells what they say meanwhile, source by source.
-/

set_option autoImplicit false
set_option relaxedAutoImplicit false

namespace MeterHub

/-- What a source says while it is opened. One that fails to start is stopped at once. -/
def Script.firstWords (script : Script) : List Signal :=
  match script.start with
  | .ok () => script.greeting
  | .error _ => script.greeting ++ script.lastWords

theorem Script.firstWords_of_started {script : Script} (started : script.start = .ok ()) :
    script.firstWords = script.greeting := by
  unfold firstWords
  rw [started]

theorem Script.firstWords_of_refused {script : Script} {failure : Failure}
    (refused : script.start = .error failure) :
    script.firstWords = script.greeting ++ script.lastWords := by
  unfold firstWords
  rw [refused]

namespace Hub

/-- What a source in the ledger says while it is opened. -/
def greeting (config : Config) (entry : Source × Nat) : Speech :=
  ⟨entry.2, starting config entry.1.port entry.1.mode, entry.1.script.firstWords⟩

/-- What sources say while they are opened that are entered into the ledger from an index on. -/
def greetings (config : Config) (first : Nat) (new : List Source) : List Speech :=
  (new.zipIdx first).map (greeting config)

theorem greetings_append (config : Config) (first : Nat) (new more : List Source) :
    greetings config first (new ++ more) =
      greetings config first new ++ greetings config (first + new.length) more := by
  unfold greetings
  rw [List.zipIdx_append, List.map_append]

theorem greetings_singleton (config : Config) (first : Nat) (source : Source) :
    greetings config first [source] = [greeting config (source, first)] := rfl

theorem mem_greetings {config : Config} {first : Nat} {new : List Source} {speech : Speech} :
    speech ∈ greetings config first new ↔
      ∃ source, first ≤ speech.source ∧ new[speech.source - first]? = some source ∧
        greeting config (source, speech.source) = speech := by
  unfold greetings
  rw [List.mem_map]
  constructor
  · rintro ⟨⟨source, index⟩, member, rfl⟩
    obtain ⟨later, entered⟩ := List.mk_mem_zipIdx_iff_le_and_getElem?_sub.mp member
    exact ⟨source, later, entered, rfl⟩
  · rintro ⟨source, later, entered, said⟩
    exact ⟨(source, speech.source),
      List.mk_mem_zipIdx_iff_le_and_getElem?_sub.mpr ⟨later, entered⟩, said⟩

theorem greetings_nodup (config : Config) (first : Nat) (new : List Source) :
    ((greetings config first new).map Speech.source).Nodup := by
  have indices : (greetings config first new).map Speech.source = List.range' first new.length := by
    rw [← List.zipIdx_map_snd first new]
    exact List.map_map
  rw [indices]
  exact List.nodup_range'

/-- Some sources have been entered, and a registry has decided who was told what they said while
they were opened. -/
structure Greets (r : Registry Identifier Subscriber) (new : List Source) (h h' : Hub) : Prop where
  config : h'.config = h.config
  sources : h'.sources = h.sources ++ new
  tells : Tells r ((greetings h.config h.sources.length new).flatMap Speech.events) h.lanes h'.lanes

namespace Greets

variable {r : Registry Identifier Subscriber} {new more : List Source} {h between h' : Hub}

theorem of_same (sound : h.lanes.Sound) (config : h'.config = h.config)
    (sources : h'.sources = h.sources) (lanes : h'.lanes = h.lanes) : Greets r [] h h' := by
  refine ⟨config, ?_, ?_⟩
  · rw [sources, List.append_nil]
  · rw [lanes]
    exact .refl sound

theorem single {source : Source} (config : h'.config = h.config)
    (sources : h'.sources = h.sources ++ [source])
    (tells : Tells r
      ((starting h.config source.port source.mode).hearAll source.script.firstWords).1
      h.lanes h'.lanes) : Greets r [source] h h' := by
  refine ⟨config, sources, ?_⟩
  rw [greetings_singleton, List.flatMap_singleton]
  exact tells

theorem trans (first : Greets r new h between) (second : Greets r more between h') :
    Greets r (new ++ more) h h' := by
  refine ⟨second.config.trans first.config, ?_, ?_⟩
  · rw [second.sources, first.sources, List.append_assoc]
  · have tells := second.tells
    rw [first.config, first.sources, List.length_append] at tells
    rw [greetings_append, List.flatMap_append]
    exact first.tells.trans tells

end Greets

theorem greeted_listeners (h : Hub) (port : Port) (mode : Mode) (greeting : List Signal) :
    (h.greeted port mode greeting).listeners = [.hub] := by
  obtain ⟨_, greeted⟩ := h.greeted_eq port mode greeting
  rw [greeted]

section OnePort

variable {h : Hub} (sound : h.lanes.Sound) (once : h.registry.unfiltered.Nodup)
include sound once

theorem welcome_tells (source : Source) :
    Tells h.registry
      ((starting h.config source.port source.mode).hearAll source.script.greeting).1 h.lanes
      (h.welcome source).lanes :=
  publish_tells (h := h.enter source) sound once rfl _

theorem welcome_stopSession_tells (source : Source) (linked : source.linked = true) :
    Tells h.registry
      ((starting h.config source.port source.mode).hearAll
        (source.script.greeting ++ source.script.lastWords)).1 h.lanes
      ((h.welcome source).stopSession
        ⟨h.sources.length, h.greeted source.port source.mode source.script.greeting⟩).2.lanes := by
  let live : Live :=
    ⟨h.sources.length, h.greeted source.port source.mode source.script.greeting⟩
  have first := welcome_tells sound once source
  obtain ⟨lanes, entered⟩ := h.welcome_eq source
  rw [entered] at first ⊢
  have listening : live.session.listeners = [.hub] :=
    h.greeted_listeners source.port source.mode source.script.greeting
  have second := stopSession_tells (h := { h with lanes, sources := h.sources ++ [source] })
    first.sound once listening
  have words : parting (h.sources ++ [source]) live =
      ⟨live.source, live.session, source.script.lastWords⟩ := by
    unfold parting
    rw [List.getElem?_concat_length]
    exact congrArg (Speech.mk _ _) (if_pos linked)
  rw [words] at second
  rw [Session.hearAll_append]
  exact first.trans second

theorem openPort_greets (opening : Opening) (port : Port) :
    ∃ new, Greets h.registry new h (h.openPort opening port).2 := by
  have opens := openPort_opens h opening port
  generalize outcome : h.openPort opening port = answer at opens ⊢
  obtain ⟨result, after⟩ := answer
  cases opens with
  | held found => exact ⟨[], .of_same sound rfl rfl rfl⟩
  | modeless free undefined => exact ⟨[], .of_same sound rfl rfl rfl⟩
  | unopened free defined refused => exact ⟨[], .of_same sound rfl rfl rfl⟩
  | @opened mode script lanes free defined granted started =>
    let source : Source := { port, mode, script, starts := 1, linked := true, running := true }
    rw [openPort_started free defined granted started] at outcome
    have tells := welcome_tells sound once source
    have told : (h.welcome source).lanes = lanes := congrArg (·.2.lanes) outcome
    rw [told, ← Script.firstWords_of_started started] at tells
    exact ⟨[source], .single rfl rfl tells⟩
  | @unstarted mode script failure lanes free defined granted refused =>
    let source : Source := { port, mode, script, starts := 1, linked := true }
    rw [openPort_unstarted free defined granted refused] at outcome
    have tells := welcome_stopSession_tells sound once source rfl
    have told : ((h.welcome source).stopSession
        ⟨h.sources.length, h.greeted port mode script.greeting⟩).2.lanes = lanes :=
      congrArg (·.2.lanes) outcome
    rw [told, ← Script.firstWords_of_refused refused] at tells
    exact ⟨[source.stop.2], .single rfl rfl tells⟩

end OnePort

theorem ensureSession_greets {h : Hub} (sound : h.lanes.Sound)
    (once : h.registry.unfiltered.Nodup) (site : Site) (i : Identifier) :
    ∃ new, Greets h.registry new h (h.ensureSession site i).2 := by
  unfold ensureSession
  cases h.sessions.find? fun live => i.agrees live.identifier with
  | some live => exact ⟨[], .of_same sound rfl rfl rfl⟩
  | none =>
    let request := Request.ofIdentifier i h.config.defaultMode
    let asked : Hub := { h with lookups := h.lookups ++ request.lookup?.toList }
    cases resolution : (Request.ofIdentifier i h.config.defaultMode).resolve site.discovery with
    | error failure =>
      simp only [resolution]
      exact ⟨[], .of_same sound rfl rfl rfl⟩
    | ok port =>
      simp only [resolution]
      obtain ⟨new, config, sources, tells⟩ :=
        openPort_greets (h := asked) sound once site.opening port
      exact ⟨new, config, sources, tells⟩

theorem Ensures.registry_eq {h after : Hub} {site : Site} {i : Identifier}
    {result : Except Failure (Nat × Bool)} (ensures : Ensures h site i result after) :
    after.registry = h.registry := by
  cases ensures with
  | served found => rfl
  | unresolved lookups unserved nowhere => rfl
  | resolved lookups unserved resolved opens => exact opens.readers.1

/-- Whoever is to be attached is told what a source says while it is opened, even where that fails
and the entry is taken back. -/
theorem attach_greets {h : Hub} (sound : h.lanes.Sound) (once : h.registry.unfiltered.Nodup)
    (site : Site) (i : Identifier) (s : Subscriber) :
    ∃ new, Greets (h.registry.subscribeTo i s).2 new h (h.attach site i s).2 := by
  let entered : Hub := { h with registry := (h.registry.subscribeTo i s).2 }
  have listed : entered.registry.unfiltered.Nodup := by
    change (h.registry.subscribeTo i s).2.unfiltered.Nodup
    rw [Registry.subscribeTo_unfiltered]
    exact once
  obtain ⟨new, config, sources, tells⟩ :=
    ensureSession_greets (h := entered) sound listed site i
  have registry := (ensureSession_ensures entered site i).registry_eq
  refine ⟨new, ?_⟩
  cases outcome : entered.ensureSession site i with
  | mk result after =>
    rw [outcome] at registry config sources tells
    cases result with
    | ok granted =>
      have attached : (h.attach site i s).2 = after := by
        unfold attach
        simp only [entered] at outcome
        simp only [outcome]
      rw [attached]
      exact ⟨config, sources, tells⟩
    | error failure =>
      rw [attach_error outcome registry]
      refine ⟨config, sources, ?_⟩
      dsimp only
      split
      · exact tells
      · exact tells.close s

theorem beginRead_greets {h : Hub} (sound : h.lanes.Sound) (once : h.registry.unfiltered.Nodup)
    (site : Site) (key : Identifier) (timeout : Option Span) :
    ∃ new, Greets (h.registry.subscribeTo key (.reader h.reads.length)).2 new h
      (h.beginRead site key timeout) := by
  obtain ⟨new, greets⟩ := attach_greets sound once site key (.reader h.reads.length)
  refine ⟨new, ?_⟩
  unfold beginRead
  cases outcome : h.attach site key (.reader h.reads.length) with
  | mk result after =>
    rw [outcome] at greets
    obtain ⟨config, sources, tells⟩ := greets
    cases result with
    | error failure => exact ⟨config, sources, tells⟩
    | ok opened => cases opened <;> exact ⟨config, sources, tells⟩

theorem appeared_greets {h : Hub} (sound : h.lanes.Sound) (once : h.registry.unfiltered.Nodup)
    (site : Site) (port : Port) (polled : Bool) :
    ∃ new, Greets h.registry new h (h.appeared site port polled).2 := by
  rcases h.appeared_cases site port polled with nothing | opened
  · rw [nothing]
    exact ⟨[], .of_same sound rfl rfl rfl⟩
  · obtain ⟨new, greets⟩ := openPort_greets sound once site.opening port
    rw [opened]
    exact ⟨new, greets⟩

theorem openNative_greets (site : Site) {h : Hub} (sound : h.lanes.Sound)
    (once : h.registry.unfiltered.Nodup) (name : String) :
    ∃ new, Greets h.registry new h (openNative site h name) := by
  obtain ⟨lookups, nowhere | ⟨port, either⟩⟩ := openNative_cases site h name
  · rw [nowhere]
    exact ⟨[], .of_same sound rfl rfl rfl⟩
  · obtain ⟨new, config, sources, tells⟩ :=
      openPort_greets (h := { h with lookups }) sound once site.opening port
    rcases either with refused | ⟨index, opened⟩
    · rw [refused]
      exact ⟨new, config, sources, tells⟩
    · rw [opened]
      exact ⟨new, config, sources, tells⟩

theorem start_greets {h : Hub} (sound : h.lanes.Sound) (once : h.registry.unfiltered.Nodup)
    (site : Site) : ∃ new, Greets h.registry new h (h.start site) := by
  have natives (names : List String) {g : Hub} (sound : g.lanes.Sound)
      (once : g.registry.unfiltered.Nodup) :
      ∃ new, Greets g.registry new g (names.foldl (openNative site) g) := by
    induction names generalizing g with
    | nil => exact ⟨[], .of_same sound rfl rfl rfl⟩
    | cons name names ih =>
      obtain ⟨new, first⟩ := openNative_greets site sound once name
      have registry := (openNative_readers site g name).1
      obtain ⟨more, rest⟩ := ih first.tells.sound (registry ▸ once)
      rw [registry] at rest
      exact ⟨new ++ more, first.trans rest⟩
  unfold start
  split
  · exact ⟨[], .of_same sound rfl rfl rfl⟩
  · obtain ⟨new, config, sources, tells⟩ :=
      natives h.config.nativePorts (g := { h with running := true }) sound once
    exact ⟨new, config, sources, tells⟩

/-- The hub is the one listener of its sessions. -/
def Listening (h : Hub) : Prop := ∀ live ∈ h.sessions, live.session.listeners = [.hub]

theorem Listening.concat {h h' : Hub} {live : Live} (listening : h.Listening)
    (listens : live.session.listeners = [.hub]) (sessions : h'.sessions = h.sessions ++ [live]) :
    h'.Listening := by
  intro other member
  rw [sessions] at member
  rcases List.mem_append.mp member with old | last
  · exact listening other old
  · exact List.mem_singleton.mp last ▸ listens

theorem Listening.map {h h' : Hub} {change : Live → Live} (listening : h.Listening)
    (same : ∀ live, (change live).session.listeners = live.session.listeners)
    (sessions : h'.sessions = h.sessions.map change) : h'.Listening := by
  intro live member
  rw [sessions] at member
  obtain ⟨old, listed, rfl⟩ := List.mem_map.mp member
  exact (same old).trans (listening old listed)

theorem Listening.sublist {h h' : Hub} (listening : h.Listening)
    (fewer : h'.sessions.Sublist h.sessions) : h'.Listening :=
  fun live member => listening live (fewer.subset member)

theorem Opens.listening {h after : Hub} {opening : Opening} {port : Port}
    {result : Except Failure (Nat × Bool)} (opens : Opens h opening port result after)
    (listening : h.Listening) : after.Listening := by
  cases opens with
  | opened free defined granted started =>
    exact listening.concat (h.greeted_listeners port _ _) rfl
  | _ => exact listening

theorem Attaches.listening {h after : Hub} {site : Site} {i : Identifier} {s : Subscriber}
    {result : Except Failure (Option Nat)} (attaches : Attaches h site i s result after)
    (listening : h.Listening) : after.Listening := by
  cases attaches with
  | opened unserved resolved free defined granted started =>
    exact listening.concat (h.greeted_listeners _ _ _) rfl
  | _ => exact listening

theorem Begins.listening {h after : Hub} {site : Site} {key : Identifier} {timeout : Option Span}
    (begins : Begins h site key timeout after) (listening : h.Listening) : after.Listening := by
  cases begins with
  | opened resolved free defined granted started =>
    exact listening.concat (h.greeted_listeners _ _ _) rfl
  | _ => exact listening

theorem appeared_listening {h : Hub} (listening : h.Listening) (site : Site) (port : Port)
    (polled : Bool) : (h.appeared site port polled).2.Listening := by
  rcases h.appeared_cases site port polled with nothing | opened
  · rw [nothing]
    exact listening
  · rw [opened]
    exact (openPort_opens h site.opening port).listening listening

theorem openNative_listening (site : Site) {h : Hub} (listening : h.Listening) (name : String) :
    (openNative site h name).Listening := by
  obtain ⟨lookups, nowhere | ⟨port, either⟩⟩ := openNative_cases site h name
  · rw [nowhere]
    exact listening
  · have granted := (openPort_opens { h with lookups } site.opening port).listening listening
    rcases either with refused | ⟨index, opened⟩
    · rw [refused]
      exact granted
    · rw [opened]
      refine granted.map ?_ rfl
      intro live
      split <;> rfl

theorem start_listening {h : Hub} (listening : h.Listening) (site : Site) :
    (h.start site).Listening := by
  have natives (names : List String) {g : Hub} (listening : g.Listening) :
      (names.foldl (openNative site) g).Listening := by
    induction names generalizing g with
    | nil => exact listening
    | cons name names ih => exact ih (openNative_listening site listening name)
  unfold start
  split
  · exact listening
  · exact natives h.config.nativePorts (g := { h with running := true }) listening

theorem report_listening {h : Hub} (orderly : h.Orderly) (listening : h.Listening) (index : Nat)
    (signal : Signal) : (h.report index signal).Listening := by
  obtain ⟨_, reported⟩ := report_eq orderly.distinct index signal
  rw [reported]
  refine listening.map ?_ rfl
  intro live
  unfold hears
  cases (Move.report index signal).said live.source with
  | none => rfl
  | some said =>
    obtain ⟨_, heard⟩ := Session.hear_eq live.session said
    simp only [heard]

end Hub

end MeterHub
