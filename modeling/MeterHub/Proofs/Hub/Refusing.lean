import MeterHub.Proofs.Hub.Queueing

/-!
Subscriptions that fail. Whatever keeps a session from being had, it leaves no trace: an entry that
was made is taken back, every other one stays in its place, nobody loses a lane, and a source that
was opened in vain is stopped.
-/

set_option autoImplicit false
set_option relaxedAutoImplicit false

namespace MeterHub

/-- No source that fails to start says anything meanwhile. -/
def Site.FailsSilently (site : Site) : Prop :=
  ∀ port mode script failure, site.opening port mode = .ok script →
    script.start = .error failure → script.firstWords = []

theorem Request.resolve_error {r : Request} {d : Discovery} {failure : Failure}
    (nowhere : r.resolve d = .error failure) : failure.code.concernsResolution = true := by
  unfold Request.resolve at nowhere
  split at nowhere
  · split at nowhere <;> cases nowhere
    rfl
  · split at nowhere <;> cases nowhere
    rfl
  · cases nowhere
    rfl

namespace Hub

/-- Why no session can be had for an identifier in a mode, and the source that is opened in
vain. -/
inductive Refuses (mode? : Option Mode) (site : Site) (i : Identifier) :
    Failure → List Source → Prop
  | unresolved {failure : Failure}
      (nowhere : (Request.ofIdentifier i mode?).resolve site.discovery = .error failure) :
      Refuses mode? site i (.identifierNotFound i) []
  | modeless {port : Port}
      (resolved : (Request.ofIdentifier i mode?).resolve site.discovery = .ok port)
      (undefined : mode? = none) :
      Refuses mode? site i .modeNotDefined []
  | unopened {port : Port} {mode : Mode} {failure : Failure}
      (resolved : (Request.ofIdentifier i mode?).resolve site.discovery = .ok port)
      (defined : mode? = some mode) (refused : site.opening port mode = .error failure) :
      Refuses mode? site i failure []
  | unstarted {port : Port} {mode : Mode} {script : Script} {failure : Failure}
      (resolved : (Request.ofIdentifier i mode?).resolve site.discovery = .ok port)
      (defined : mode? = some mode) (granted : site.opening port mode = .ok script)
      (refused : script.start = .error failure) :
      Refuses mode? site i failure [{ port, mode, script, starts := 1, stops := 1 }]

theorem Refuses.ended {mode? : Option Mode} {site : Site} {i : Identifier} {failure : Failure}
    {opened : List Source} (refuses : Refuses mode? site i failure opened) :
    ∀ source ∈ opened, source.Ended := by
  cases refuses with
  | unstarted resolved defined granted refused =>
    exact List.forall_mem_singleton.mpr ⟨rfl, rfl, rfl⟩
  | _ => exact List.forall_mem_nil _

/-- A failure has left no trace: no more has happened than that discovery was asked, and that a
source was opened and stopped. -/
def LeavesNoTrace (h : Hub) (site : Site) (i : Identifier) (failure : Failure) (after : Hub) :
    Prop :=
  ∃ opened lookups, Refuses h.config.defaultMode site i failure opened ∧
    (∀ source ∈ opened, source.Ended) ∧
    after = { h with lookups, sources := h.sources ++ opened }

theorem stopSession_silent {h : Hub} {live : Live} {source : Source}
    (entered : h.sources[live.source]? = some source) (quiet : source.stop.1 = []) :
    (h.stopSession live).2.lanes = h.lanes := by
  unfold stopSession
  simp only [entered, quiet]
  rfl

theorem openPort_silent {h : Hub} {site : Site} (silent : site.FailsSilently) {port : Port}
    {failure : Failure} (failed : (h.openPort site.opening port).1 = .error failure) :
    (h.openPort site.opening port).2.lanes = h.lanes := by
  have opens := openPort_opens h site.opening port
  generalize outcome : h.openPort site.opening port = answer at opens failed ⊢
  obtain ⟨result, after⟩ := answer
  cases opens with
  | modeless free undefined => rfl
  | unopened free defined refused => rfl
  | @unstarted mode script failure lanes free defined granted refused =>
    have nothing := silent port mode script failure granted refused
    rw [Script.firstWords_of_refused refused] at nothing
    obtain ⟨greetless, wordless⟩ := List.append_eq_nil_iff.mp nothing
    let source : Source := { port, mode, script, starts := 1, linked := true }
    have entered : h.welcome source = h.enter source := by
      unfold welcome
      change (h.enter source).publish _ ((starting h.config port mode).hearAll script.greeting).1 = _
      rw [greetless]
      rfl
    rw [openPort_unstarted free defined granted refused, entered] at outcome
    have told : ((h.enter source).stopSession
        ⟨h.sources.length, h.greeted port mode script.greeting⟩).2.lanes = lanes :=
      congrArg (·.2.lanes) outcome
    rw [← told]
    exact stopSession_silent List.getElem?_concat_length wordless
  | held found => cases failed
  | opened free defined granted started => cases failed

theorem ensureSession_silent {h : Hub} {site : Site} (silent : site.FailsSilently) {i : Identifier}
    {failure : Failure} (failed : (h.ensureSession site i).1 = .error failure) :
    (h.ensureSession site i).2.lanes = h.lanes := by
  unfold ensureSession at failed ⊢
  cases found : h.sessions.find? fun live => i.agrees live.identifier with
  | some live => rfl
  | none =>
    cases resolution : (Request.ofIdentifier i h.config.defaultMode).resolve site.discovery with
    | error failure =>
      simp only [resolution]
    | ok port =>
      simp only [found, resolution] at failed ⊢
      exact openPort_silent silent failed

theorem Ensures.refuses {h after : Hub} {site : Site} {i : Identifier} {failure : Failure}
    (ensures : Ensures h site i (.error failure) after) :
    ∃ opened lanes lookups, Refuses h.config.defaultMode site i failure opened ∧
      after = { h with lanes, lookups, sources := h.sources ++ opened } := by
  have nothing {lookups : List Lookup} (refuses : Refuses h.config.defaultMode site i failure []) :
      ∃ opened lanes lookups', Refuses h.config.defaultMode site i failure opened ∧
        { h with lookups } =
          { h with lanes, lookups := lookups', sources := h.sources ++ opened } :=
    ⟨[], h.lanes, lookups, refuses, by rw [List.append_nil]⟩
  cases ensures with
  | unresolved lookups unserved nowhere =>
    refine nothing ?_
    unfold Failure.onResolution
    rw [if_pos (Request.resolve_error nowhere)]
    exact .unresolved nowhere
  | resolved lookups unserved resolved opens =>
    cases opens with
    | modeless free undefined => exact nothing (.modeless resolved undefined)
    | unopened free defined refused => exact nothing (.unopened resolved defined refused)
    | @unstarted mode script failure lanes free defined granted refused =>
      exact ⟨_, lanes, lookups, .unstarted resolved defined granted refused, rfl⟩

theorem attach_leavesNoTrace {h : Hub} (regular : h.Regular) {site : Site}
    (silent : site.FailsSilently) {i : Identifier} {s : Subscriber} {failure : Failure}
    (failed : (h.attach site i s).1 = .error failure) :
    h.LeavesNoTrace site i failure (h.attach site i s).2 := by
  let entered : Hub := { h with registry := (h.registry.subscribeTo i s).2 }
  have ensures := ensureSession_ensures entered site i
  have quiet {reason : Failure} (refused : (entered.ensureSession site i).1 = .error reason) :=
    ensureSession_silent silent refused
  cases outcome : entered.ensureSession site i with
  | mk result after =>
    rw [outcome] at ensures quiet
    cases result with
    | ok granted =>
      unfold attach at failed
      simp only [entered] at outcome
      simp only [outcome] at failed
      cases failed
    | error reason =>
      obtain ⟨opened, lanes, lookups, refuses, rfl⟩ := ensures.refuses
      obtain rfl : lanes = h.lanes := quiet rfl
      have attached := attach_error outcome rfl
      rw [attached] at failed ⊢
      cases failed
      have kept : (if h.registry.contains s then h.lanes else h.lanes.close s) = h.lanes := by
        split
        · rfl
        · rename_i gone
          -- whoever has an open lane has an entry, so there is no lane to be closed
          exact regular.tidy.close_eq_self fun isOpen => gone (regular.housed s isOpen)
      refine ⟨opened, lookups, refuses, refuses.ended, ?_⟩
      change ({ h with
        lanes := if h.registry.contains s then h.lanes else h.lanes.close s
        lookups
        sources := h.sources ++ opened } : Hub) = _
      rw [kept]

theorem attach_of_subscribeTo_error {h : Hub} {site : Site} {i : Identifier} {s : Subscriber}
    {failure : Failure} (failed : (h.subscribeTo site i s).1 = .error failure) :
    (h.attach site i s).1 = .error failure := by
  unfold subscribeTo at failed
  split at failed <;> cases failed
  rename_i outcome
  rw [outcome]

theorem subscribeTo_leavesNoTrace {h : Hub} (regular : h.Regular) {site : Site}
    (silent : site.FailsSilently) {i : Identifier} {s : Subscriber} {failure : Failure}
    (failed : (h.subscribeTo site i s).1 = .error failure) :
    h.LeavesNoTrace site i failure (h.subscribeTo site i s).2 := by
  rw [subscribeTo_eq]
  exact attach_leavesNoTrace regular silent (attach_of_subscribeTo_error failed)

theorem beginRead_refused {h : Hub} {site : Site} {key : Identifier} (timeout : Option Span)
    {failure : Failure}
    (failed : (h.attach site key (.reader h.reads.length)).1 = .error failure) :
    h.beginRead site key timeout =
      { (h.attach site key (.reader h.reads.length)).2 with
        reads := (h.attach site key (.reader h.reads.length)).2.reads ++ [{
          key
          timeout := timeout.getD h.config.readTimeout
          result := some (.error failure) }] } := by
  unfold beginRead
  cases outcome : h.attach site key (.reader h.reads.length) with
  | mk result attached =>
    rw [outcome] at failed
    cases failed
    rfl

/-- In every reachable hub a subscription that fails, and the entry of a read that fails, leave the
sessions, the registry with the order of its entries and the lanes as they were, whoever asks and
whatever is the reason, unless a source speaks that is opened in vain. -/
theorem run_refused (config : Config) (moves : List Move) (site : Site)
    (silent : site.FailsSilently) (i : Identifier) :
    let h := (fresh config).run moves
    (∀ s failure, (h.subscribeTo site i s).1 = .error failure →
        h.LeavesNoTrace site i failure (h.subscribeTo site i s).2) ∧
      ∀ timeout failure, (h.attach site i (.reader h.reads.length)).1 = .error failure →
        ∃ after, h.LeavesNoTrace site i failure after ∧
          h.beginRead site i timeout =
            { after with
              reads := h.reads ++ [{
                key := i
                timeout := timeout.getD h.config.readTimeout
                result := some (.error failure) }] } := by
  intro h
  have regular : h.Regular := run_regular (fresh_regular config) moves
  refine ⟨fun s failure => subscribeTo_leavesNoTrace regular silent, ?_⟩
  intro timeout failure failed
  have untouched := attach_leavesNoTrace regular silent failed
  have same : (h.attach site i (.reader h.reads.length)).2.reads = h.reads := by
    obtain ⟨_, _, _, _, after⟩ := untouched
    rw [after]
  refine ⟨_, untouched, ?_⟩
  rw [beginRead_refused timeout failed, same]

/-- A device comes back and cannot be started: for a listener that has a lane through another entry,
for one that still has its entry here, and for a read. -/
theorem run_refused_returning :
    let site := quietSite [⟨none, "a"⟩, ⟨none, "b"⟩]
    let failure : Failure := .transport "b" "busy"
    let busy : Site := { site with opening := fun _ _ => .ok { start := .error failure } }
    let i : Identifier := .ofPortName "b"
    let h := (fresh {}).run [.subscribeTo site (.ofPortName "a") "x", .subscribeTo site i "y",
      .disappeared ⟨none, "b"⟩]
    h.LeavesNoTrace busy i failure (h.subscribeTo busy i (.listener "x")).2 ∧
      h.LeavesNoTrace busy i failure (h.subscribeTo busy i (.listener "y")).2 ∧
      ∃ after, h.LeavesNoTrace busy i failure after ∧
        (h.beginRead busy i none).registry = after.registry ∧
        (h.beginRead busy i none).lanes = after.lanes := by
  intro site failure busy i h
  have silent : busy.FailsSilently := by
    rintro port mode script failure ⟨⟩ _
    rfl
  obtain ⟨subscribing, reading⟩ := run_refused {} [.subscribeTo site (.ofPortName "a") "x",
    .subscribeTo site i "y", .disappeared ⟨none, "b"⟩] busy silent i
  obtain ⟨after, untouched, refused⟩ := reading none failure rfl
  refine ⟨subscribing (.listener "x") failure rfl, subscribing (.listener "y") failure rfl,
    after, untouched, ?_⟩
  rw [refused]
  exact ⟨rfl, rfl⟩

end Hub

end MeterHub
