import MeterHub.Frame.Samples
import MeterHub.Proofs.Hub.Replug
import MeterHub.Proofs.Hub.Speaking
import MeterHub.Proofs.Session.Trace

/-!
Unplugging. The sessions on the port go and the others stay as they are; each that goes leaves a
notice with what its source has told it, from the start to the last words.
-/

set_option autoImplicit false
set_option relaxedAutoImplicit false

namespace MeterHub

theorem Knows.learnAll (port : Port) (heard : List Signal) :
    Knows port heard (port.identifier.learnAll heard) := by
  induction heard using List.reverseRecOn with
  | nil => exact .unrevealed fun _ sent => (List.not_mem_nil sent).elim
  | append_singleton heard signal ih =>
    rw [Identifier.learnAll_append]
    exact ih.append signal

namespace Hub

/-- What the source at an index says in a move before its session is stopped: if the move opens it,
what it says inside its start, else what it reports. -/
def utters (h : Hub) (index : Nat) (m : Move) : List Signal :=
  if h.sources.length ≤ index then
    ((h.move m).sources[index]?.map fun source => source.script.greeting).getD []
  else (m.said index).toList

/-- What the source at an index says in some moves, in order. -/
def uttered (h : Hub) (index : Nat) : List Move → List Signal
  | [] => []
  | m :: moves => h.utters index m ++ (h.move m).uttered index moves

theorem uttered_concat (h : Hub) (index : Nat) (moves : List Move) (m : Move) :
    h.uttered index (moves ++ [m]) = h.uttered index moves ++ (h.run moves).utters index m := by
  induction moves generalizing h with
  | nil => exact List.append_nil _
  | cons first moves ih =>
    change h.utters index first ++ (h.move first).uttered index (moves ++ [m]) = _
    rw [ih, ← List.append_assoc]
    rfl

theorem run_unopened (config : Config) (moves : List Move) {index : Nat}
    (unopened : ((fresh config).run moves).sources.length ≤ index) :
    (fresh config).uttered index moves = [] := by
  induction moves using List.reverseRecOn with
  | nil => rfl
  | append_singleton moves m ih =>
    rw [run_concat] at unopened
    have before : ((fresh config).run moves).sources.length ≤ index :=
      Nat.le_trans (move_sources_le (run_orderly config moves) m) unopened
    rw [uttered_concat, ih before]
    unfold utters
    rw [if_pos before, List.getElem?_eq_none unopened]
    rfl

/-- Where no source has reported, each session knows what it knew before, or it is new and knows
what its source has said inside its start. -/
structure Recalls (h h' : Hub) : Prop where
  knows : ∀ live ∈ h'.sessions,
    (∃ old ∈ h.sessions, old.source = live.source ∧ old.port = live.port ∧
      old.identifier = live.identifier) ∨
    h.sources.length ≤ live.source ∧ ∃ source, h'.sources[live.source]? = some source ∧
      live.identifier = live.port.identifier.learnAll source.script.greeting

namespace Recalls

variable {h between h' : Hub}

theorem of_subset (fewer : h'.sessions ⊆ h.sessions) : Recalls h h' :=
  ⟨fun live member => .inl ⟨live, fewer member, rfl, rfl, rfl⟩⟩

theorem of_sessions {lives : List Live} (sessions : h'.sessions = lives)
    (fewer : lives ⊆ h.sessions) : Recalls h h' := .of_subset (sessions ▸ fewer)

theorem of_closes {gone : Live → Bool} (closes : Closes gone h h') : Recalls h h' :=
  .of_sessions closes.sessions (List.filter_subset_self _)

theorem trans (first : Recalls h between) (second : Recalls between h')
    (earlier : Grows false h between) (later : Grows false between h') : Recalls h h' := by
  constructor
  intro live member
  rcases second.knows live member with ⟨old, listed, source, port, same⟩ | ⟨late, new⟩
  · rcases first.knows old listed with
      ⟨older, early, source', port', same'⟩ | ⟨late, own, entered, knows⟩
    · exact .inl ⟨older, early, source'.trans source, port'.trans port, same'.trans same⟩
    · rw [source] at late entered
      rw [port, same] at knows
      exact .inr ⟨late, own, later.entered entered, knows⟩
  · exact .inr ⟨Nat.le_trans earlier.sources_le late, new⟩

theorem of_greeted (session : Session Relay) {port : Port} {mode : Mode} {script : Script}
    (same : session.port = (h.greeted port mode script.greeting).port ∧
      session.identifier = (h.greeted port mode script.greeting).identifier)
    (sessions : h'.sessions = h.sessions ++ [⟨h.sources.length, session⟩])
    (sources : h'.sources =
      h.sources ++ [{ port, mode, script, starts := 1, linked := true, running := true }]) :
    Recalls h h' := by
  constructor
  intro live member
  rw [sessions] at member
  rcases List.mem_append.mp member with old | new
  · exact .inl ⟨live, old, rfl, rfl, rfl⟩
  · rw [List.mem_singleton.mp new, sources]
    refine .inr ⟨Nat.le_refl _, _, List.getElem?_concat_length, ?_⟩
    change session.identifier = session.port.identifier.learnAll _
    rw [same.2, greeted_identifier, same.1, greeted_port]

end Recalls

theorem Opens.recalls {h after : Hub} {opening : Opening} {port : Port}
    {result : Except Failure (Nat × Bool)} (opens : Opens h opening port result after) :
    Recalls h after := by
  cases opens with
  | opened free defined granted started =>
    exact .of_greeted _ ⟨rfl, rfl⟩ rfl rfl
  | _ => exact .of_subset (List.Subset.refl h.sessions)

theorem Attaches.recalls {h after : Hub} {site : Site} {i : Identifier} {s : Subscriber}
    {result : Except Failure (Option Nat)} (attaches : Attaches h site i s result after) :
    Recalls h after := by
  cases attaches with
  | opened unserved resolved free defined granted started =>
    exact .of_greeted _ ⟨rfl, rfl⟩ rfl rfl
  | _ => exact .of_subset (List.Subset.refl h.sessions)

theorem Begins.recalls {h after : Hub} {site : Site} {key : Identifier} {timeout : Option Span}
    (begins : Begins h site key timeout after) : Recalls h after := by
  cases begins with
  | @opened port mode script _ _ resolved free defined granted started =>
    let session := { h.greeted port mode script.greeting with ephemeral := true }
    exact .of_greeted session ⟨rfl, rfl⟩ rfl rfl
  | _ => exact .of_subset (List.Subset.refl h.sessions)

theorem markNative_recalls (h : Hub) (index : Nat) : Recalls h (h.markNative index) := by
  constructor
  intro live member
  obtain ⟨old, listed, rfl⟩ := List.mem_map.mp member
  refine .inl ⟨old, listed, ?_⟩
  split <;> exact ⟨rfl, rfl, rfl⟩

theorem appeared_recalls (h : Hub) (site : Site) (port : Port) (polled : Bool) :
    Recalls h (h.appeared site port polled).2 := by
  rcases h.appeared_cases site port polled with nothing | opened
  · rw [nothing]
    exact .of_subset (List.Subset.refl h.sessions)
  · rw [opened]
    exact (openPort_opens h site.opening port).recalls

theorem openNative_recalls (site : Site) (h : Hub) (name : String) :
    Recalls h (openNative site h name) := by
  obtain ⟨lookups, nowhere | ⟨port, refused | ⟨index, opened⟩⟩⟩ := openNative_cases site h name
  · rw [nowhere]
    exact .of_subset (List.Subset.refl h.sessions)
  · rw [refused]
    exact ⟨(openPort_opens { h with lookups } site.opening port).recalls.knows⟩
  · rw [opened]
    have opens := openPort_opens { h with lookups } site.opening port
    have marked := opens.recalls.trans (markNative_recalls _ index) (.single opens.growth)
      (.single (markNative_growth _ index))
    exact ⟨marked.knows⟩

theorem start_recalls (h : Hub) (site : Site) : Recalls h (h.start site) := by
  have natives (names : List String) (g : Hub) :
      Recalls g (names.foldl (openNative site) g) ∧
        Grows false g (names.foldl (openNative site) g) := by
    induction names generalizing g with
    | nil => exact ⟨.of_subset (List.Subset.refl g.sessions), .refl⟩
    | cons name names ih =>
      obtain ⟨rest, grows⟩ := ih (openNative site g name)
      have first := openNative_grows site g name
      exact ⟨(openNative_recalls site g name).trans rest first grows, first.trans grows⟩
  unfold start
  split
  · exact .of_subset (List.Subset.refl h.sessions)
  · exact ⟨(natives h.config.nativePorts { h with running := true }).1.knows⟩

theorem move_recalls {h : Hub} (orderly : h.Orderly) {m : Move}
    (silent : ∀ source signal, m ≠ .report source signal) : Recalls h (h.move m) := by
  have nothing (same : h.move m = h) : Recalls h (h.move m) := by
    rw [same]
    exact .of_subset (List.Subset.refl h.sessions)
  cases m with
  | start site => exact start_recalls h site
  | subscribeTo site key name =>
    change Recalls h (h.subscribeTo site key (.listener name)).2
    rw [subscribeTo_eq]
    exact (attach_attaches h site key (.listener name)).recalls
  | appeared site port => exact appeared_recalls h site port false
  | beginRead site key timeout =>
    have bounded : ∀ live ∈ h.sessions, live.source < h.sources.length :=
      fun live member => orderly.bounded member
    exact (beginRead_begins bounded site key timeout).recalls
  | consume site =>
    rcases h.consume_cases site with same | ⟨poller, change, rest, _, _, consumed⟩
    · exact nothing same
    · let drained : Hub := { h with poller := some { poller with queue := rest } }
      change Recalls h (h.consume site)
      rw [consumed]
      cases change with
      | appeared port => exact ⟨(appeared_recalls drained site port true).knows⟩
      | disappeared port => exact ⟨(Recalls.of_closes (disappeared_closes drained port)).knows⟩
  | unsubscribe name =>
    obtain ⟨_, unsubscribed⟩ := h.unsubscribe_eq (.listener name)
    exact .of_sessions (congrArg Hub.sessions unsubscribed) (List.filter_subset_self _)
  | unsubscribeFrom key name =>
    obtain ⟨_, unsubscribed⟩ := h.unsubscribeFrom_eq key (.listener name)
    exact .of_sessions (congrArg Hub.sessions unsubscribed) (List.filter_subset_self _)
  | endRead index =>
    rcases h.endRead_cases index with same | ⟨read, at_index, pending⟩
    · exact nothing same
    · obtain ⟨_, ended⟩ := endRead_eq at_index pending
      exact .of_sessions (congrArg Hub.sessions ended) (List.filter_subset_self _)
  | disappeared port => exact .of_closes (disappeared_closes h port)
  | notify index => exact .of_subset (h.notify_sessions_subset index)
  | stop =>
    cases running : h.running with
    | false => exact nothing (if_neg (by simp [running]))
    | true =>
      obtain ⟨_, stopped⟩ := stop_eq running
      exact .of_sessions (congrArg Hub.sessions stopped) (List.nil_subset _)
  | discard =>
    cases held : h.isHeld with
    | true => exact nothing (if_pos held)
    | false =>
      have given : h.move .discard = h.discard := if_neg (by simp [held])
      rw [given]
      exact .of_subset (List.nil_subset _)
  | takeUp lane =>
    obtain ⟨_, _, taken, _⟩ := h.takeUp_eq lane
    exact .of_sessions (congrArg Hub.sessions taken) (List.Subset.refl h.sessions)
  | report source signal => exact (silent source signal rfl).elim
  | subscribe name => exact .of_subset (List.Subset.refl h.sessions)
  | poll ports => exact .of_subset (List.Subset.refl h.sessions)
  | refill => exact .of_subset (List.Subset.refl h.sessions)
  | finish lane panicked => exact .of_subset (List.Subset.refl h.sessions)

/-- What a live session knows is what its source has told it since the start. -/
def Remembers (heard : Nat → List Signal) (h : Hub) : Prop :=
  ∀ live ∈ h.sessions, live.identifier = live.port.identifier.learnAll (heard live.source)

theorem report_remembers {h : Hub} (orderly : h.Orderly) {heard : Nat → List Signal}
    (remembers : Remembers heard h) (index : Nat) (signal : Signal) :
    Remembers (fun place => heard place ++ h.utters place (.report index signal))
      (h.report index signal) := by
  obtain ⟨_, reported⟩ := report_eq orderly.distinct index signal
  rw [reported]
  intro live member
  obtain ⟨old, listed, rfl⟩ := List.mem_map.mp member
  have continues := hears_continues (.report index signal) old
  have said : h.utters old.source (.report index signal) =
      ((Move.report index signal).said old.source).toList :=
    if_neg (Nat.not_le.mpr (orderly.bounded listed))
  dsimp only
  rw [hears_identifier, continues.source, continues.port, said, Identifier.learnAll_append,
    remembers old listed]

theorem move_remembers {h : Hub} (orderly : h.Orderly) {heard : Nat → List Signal}
    (early : ∀ index, h.sources.length ≤ index → heard index = [])
    (remembers : Remembers heard h) (m : Move) :
    Remembers (fun index => heard index ++ h.utters index m) (h.move m) := by
  by_cases speaks : ∃ source signal, m = .report source signal
  · obtain ⟨source, signal, rfl⟩ := speaks
    exact report_remembers orderly remembers source signal
  · have silent : ∀ source signal, m ≠ .report source signal := by
      rintro source signal rfl
      exact speaks ⟨source, signal, rfl⟩
    have mute : ∀ index, m.said index = none := by
      intro index
      cases m with
      | report source signal => exact (silent source signal rfl).elim
      | _ => rfl
    intro live member
    rcases (move_recalls orderly silent).knows live member with
      ⟨old, listed, source, port, same⟩ | ⟨new, own, entered, knows⟩
    · have nothing : h.utters live.source m = [] := by
        unfold utters
        rw [← source, if_neg (Nat.not_le.mpr (orderly.bounded listed)), mute]
        rfl
      dsimp only
      rw [nothing, List.append_nil, ← same, ← port, ← source]
      exact remembers old listed
    · have greeting : h.utters live.source m = own.script.greeting := by
        unfold utters
        rw [if_pos new, entered]
        rfl
      dsimp only
      rw [early _ new, greeting, List.nil_append]
      exact knows

/-- Every live session knows just what its source has told it. -/
theorem run_remembers (config : Config) (moves : List Move) :
    Remembers (fun index => (fresh config).uttered index moves) ((fresh config).run moves) := by
  induction moves using List.reverseRecOn with
  | nil => exact List.forall_mem_nil _
  | append_singleton moves m ih =>
    have step := move_remembers (run_orderly config moves)
      (fun index unopened => run_unopened config moves unopened) ih m
    rw [run_concat]
    simp only [uttered_concat]
    exact step

/-- What a session knows in the end: all that its source has said, the last words included. -/
def KnowsAtLast (config : Config) (moves : List Move) (live : Live) (i : Identifier) : Prop :=
  ∃ source, ((fresh config).run moves).sources[live.source]? = some source ∧
    Knows live.port ((fresh config).uttered live.source moves ++ source.script.lastWords) i

theorem run_knowsAtLast {config : Config} {moves : List Move} {live : Live}
    (member : live ∈ ((fresh config).run moves).sessions) :
    KnowsAtLast config moves live (partingIdentifier ((fresh config).run moves).sources live) := by
  have orderly := run_orderly config moves
  obtain ⟨source, entered, _⟩ := orderly.acquired live member
  refine ⟨source, entered, ?_⟩
  unfold partingIdentifier
  rw [orderly.parting_eq member entered, run_remembers config moves live member,
    ← Identifier.learnAll_append]
  exact .learnAll live.port _

theorem disappeared_appeared {h : Hub} {site : Site} {port : Port}
    (free : ∀ live ∈ h.sessions, live.port.same port = false)
    (acquired : (h.appeared site port false).1 = .ok ()) :
    ((h.appeared site port false).2.disappeared port).sessions = h.sessions := by
  obtain ⟨granted, opened⟩ := appeared_granted acquired
  have opens := openPort_opens h site.opening port
  rw [opened] at opens
  obtain ⟨_, _, disappeared⟩ := (h.appeared site port false).2.disappeared_eq port
  rw [disappeared]
  generalize (h.appeared site port false).2 = after at opens
  cases opens with
  | @held live found =>
    have holds : live.port.same port = true := (List.find?_some found :)
    rw [free live (List.mem_of_find?_eq_some found)] at holds
    cases holds
  | @opened mode script _ _ _ _ _ =>
    have others : (h.sessions.filter fun live => !live.port.same port) = h.sessions := by
      apply List.filter_eq_self.mpr
      intro live member
      rw [free live member]
      rfl
    have own : (h.greeted port mode script.greeting).port.same port = true := by
      rw [greeted_port, Port.same_refl]
    change (h.sessions ++ [_]).filter _ = _
    rw [List.filter_append, others, List.filter_cons_of_neg, List.filter_nil, List.append_nil]
    simp [Live.port, own]

/-- The sessions on a port that is unplugged go and their sources are stopped; the other sessions
stay as they are and in order, with the registry. Each session that goes leaves one notice, of the
identifier that it knows at last. A port that nobody held can be plugged and unplugged again without
a trace among the sessions. -/
theorem run_unplugging (config : Config) (moves : List Move) (port : Port) :
    let h := (fresh config).run moves
    let after := h.move (.disappeared port)
    let gone := h.sessions.filter fun live => live.port.same port
    (after.sessions = h.sessions.filter fun live => !live.port.same port) ∧
      (∀ index, after.sources[index]? =
        if index ∈ gone.map Live.source then (h.sources[index]?).map fun source => source.stop.2
        else h.sources[index]?) ∧
      after.registry = h.registry ∧
      (∃ identifiers, after.notices = h.notices ++ identifiers ∧
        List.Forall₂ (KnowsAtLast config moves) gone identifiers) ∧
      ∀ site, (∀ live ∈ h.sessions, live.port.same port = false) →
        (h.appeared site port false).1 = .ok () →
          ((h.move (.appeared site port)).move (.disappeared port)).sessions = h.sessions := by
  intro h after gone
  have orderly : h.Orderly := run_orderly config moves
  have distinct : (gone.map Live.source).Nodup :=
    orderly.distinct.sublist (List.filter_sublist.map Live.source)
  have notices : after.notices = h.notices ++ gone.map (partingIdentifier h.sources) :=
    disappeared_notices orderly port
  obtain ⟨_, _, disappeared⟩ := h.disappeared_eq port
  have same : after = h.disappeared port := rfl
  refine ⟨?_, ?_, ?_, ⟨_, notices, ?_⟩, ?_⟩
  · rw [same, disappeared]
  · intro index
    rw [same, disappeared]
    exact getElem?_silenceAll distinct h.sources index
  · rw [same, disappeared]
  · rw [List.forall₂_map_right_iff, List.forall₂_same]
    intro live member
    exact run_knowsAtLast (List.mem_filter.mp member).1
  · intro site free acquired
    exact disappeared_appeared free acquired

/-- A port without an id stands for two others of its name, of which one has learned a serial
number; and a port that nobody holds comes and goes. -/
theorem run_unplugging_same_names :
    let site := quietSite []
    let moves := [.appeared site ⟨some "1", "a"⟩, .appeared site ⟨some "2", "b"⟩,
      .appeared site ⟨some "3", "a"⟩, .report 0 (.frame (.historicSample "61"))]
    let h := (fresh {}).run moves
    let after := h.move (.disappeared ⟨none, "a"⟩)
    after.sessions.map Live.source = [1] ∧
      after.notices =
        [(Identifier.ofPort (some "1") "a").withSerialNumber "61", .ofPort (some "3") "a"] ∧
      ((h.move (.appeared site ⟨none, "c"⟩)).move (.disappeared ⟨none, "c"⟩)).sessions =
        h.sessions := by
  intro site moves h after
  refine ⟨by decide, by decide, ?_⟩
  exact (run_unplugging {} moves ⟨none, "c"⟩).2.2.2.2 site (by decide) rfl

end Hub

end MeterHub
