import MeterHub.Proofs.Hub.Departure
import MeterHub.Proofs.Hub.Overlap

/-!
Sessions that are left over. A subscription that ends closes the sessions that its filter wants and
nobody needs, and the end of a read those of them that a read has opened. So two kinds of sessions
stay without anyone to need them: those that a subscription has opened and a read was the last to
need, and those of which the last one to hear had no filter for them.
-/

set_option autoImplicit false
set_option relaxedAutoImplicit false

namespace MeterHub

/-- The moves of subscribers and of readers that ask for ports, and those of sources that speak.
Discovery finds what it is asked for. -/
def Move.IsShared : Move → Prop
  | .subscribeTo site key _ | .beginRead site key _ =>
    site.discovery.Faithful ∧ key.serialNumber = none
  | .unsubscribe _ | .unsubscribeFrom _ _ | .endRead _ => True
  | .report _ _ | .takeUp _ | .finish _ _ => True
  | _ => False

namespace Move.IsShared

variable {m : Move}

theorem keyed (shared : m.IsShared) : m.IsKeyed := by
  have plain {key : Identifier} (numberless : key.serialNumber = none) : key.isMixed = false := by
    rw [Identifier.isMixed, numberless]
    rfl
  cases m with
  | subscribeTo site key name => exact ⟨shared.1, plain shared.2⟩
  | beginRead site key timeout => exact ⟨shared.1, plain shared.2⟩
  | disappeared port => exact shared.elim
  | notify index => exact shared.elim
  | _ => exact shared

theorem dismisses (shared : m.IsShared) : m.dismisses = false := by
  cases m with
  | stop => exact shared.elim
  | notify index => exact shared.elim
  | discard => exact shared.elim
  | _ => rfl

end Move.IsShared

namespace Hub

/-- Whether the filter of a listener or a read under way wants a stream. -/
def Needed (h : Hub) (i : Identifier) : Prop :=
  (∃ key name, (key, Subscriber.listener name) ∈ h.registry.filtered ∧ key.agrees i = true) ∨
    ∃ read ∈ h.reads, read.isPending = true ∧ read.key.agrees i = true

theorem needed_iff {h : Hub} (enrolled : h.Enrolled) (attentive : h.Attentive) {i : Identifier} :
    h.Needed i ↔ Wants h.registry i := by
  constructor
  · rintro (⟨key, name, entered, agree⟩ | ⟨read, member, pending, agree⟩)
    · exact ⟨(key, .listener name), entered, agree⟩
    · obtain ⟨index, at_index⟩ := List.mem_iff_getElem?.mp member
      have awaits := attentive index read at_index pending
      exact ⟨(read.key, .reader index), awaits.entered, agree⟩
  · rintro ⟨⟨key, s⟩, entered, agree⟩
    cases s with
    | listener name => exact .inl ⟨key, name, entered, agree⟩
    | reader index =>
      obtain ⟨read, awaits, rfl⟩ := enrolled key index entered
      exact .inr ⟨read, List.mem_of_getElem? awaits.at_index, awaits.pending, agree⟩

theorem run_needed_iff {config : Config} {moves : List Move} (shared : ∀ m ∈ moves, m.IsShared)
    {i : Identifier} :
    ((fresh config).run moves).Needed i ↔ Wants ((fresh config).run moves).registry i :=
  needed_iff (run_enrolled config moves) (run_attentive config fun m member =>
    (shared m member).dismisses)

/-- Among some moves there is the end of a read that was the last to need a session. -/
def LeftByRead (config : Config) (moves : List Move) (live : Live) : Prop :=
  ∃ before index after, moves = before ++ .endRead index :: after ∧
    ∃ old ∈ ((fresh config).run before).sessions, old.Continues live ∧
      ((fresh config).run before).Needed old.identifier ∧
      ¬(((fresh config).run before).endRead index).Needed old.identifier

theorem LeftByRead.continues {config : Config} {moves : List Move} {a b : Live}
    (left : LeftByRead config moves a) (continues : a.Continues b) (m : Move) :
    LeftByRead config (moves ++ [m]) b := by
  obtain ⟨before, index, after, rfl, old, listed, first, needed, unneeded⟩ := left
  refine ⟨before, index, after ++ [m], ?_, old, listed, first.trans continues, needed, unneeded⟩
  rw [List.append_assoc, List.cons_append]

theorem run_leftByRead {config : Config} (guests : config.nativePorts = []) {moves : List Move}
    (shared : ∀ m ∈ moves, m.IsShared) :
    ∀ live ∈ ((fresh config).run moves).sessions,
      ¬((fresh config).run moves).Needed live.identifier → LeftByRead config moves live := by
  induction moves using List.reverseRecOn with
  | nil => exact List.forall_mem_nil _
  | append_singleton moves m ih =>
    intro live member unneeded
    obtain ⟨before, only⟩ := List.forall_mem_append.mp shared
    have last : m.IsShared := List.forall_mem_singleton.mp only
    have attended := run_attended guests fun m' listed => (before m' listed).keyed
    have turnover := move_turnover (run_orderly config moves) attended.guests last.keyed
    have unwanted := mt (run_needed_iff shared).mpr unneeded
    rw [run_concat] at member unneeded unwanted
    rcases turnover.unwanted last.keyed attended.keyed member unwanted with
      ⟨old, listed, continues, never⟩ | ⟨ends, _, listed, wanted⟩
    · have left := ih before old listed (mt (run_needed_iff before).mp never)
      exact left.continues continues m
    · -- only the end of a read takes the last filter away and leaves the session
      have needed := (run_needed_iff before).mpr wanted
      cases m with
      | endRead index => exact ⟨moves, index, [], rfl, live, listed, .refl live, needed, unneeded⟩
      | _ => cases ends

theorem run_forsaken {config : Config} (guests : config.nativePorts = []) {moves : List Move}
    (shared : ∀ m ∈ moves, m.IsShared) {m : Move} (last : m.IsShared) {live : Live}
    (member : live ∈ ((fresh config).run moves).sessions)
    (needed : ((fresh config).run moves).Needed live.identifier)
    (unneeded : ¬(((fresh config).run moves).move m).Needed live.identifier) :
    if m.endsRead = true ∧ live.session.ephemeral = false then
      live ∈ (((fresh config).run moves).move m).sessions
    else live.source ∉ (((fresh config).run moves).move m).sessions.map Live.source := by
  have orderly := run_orderly config moves
  have attended := run_attended guests fun m member => (shared m member).keyed
  have turnover := move_turnover orderly attended.guests last.keyed
  have longer : ∀ m' ∈ moves ++ [m], m'.IsShared :=
    List.forall_mem_append.mpr ⟨shared, List.forall_mem_singleton.mpr last⟩
  have wanted := (run_needed_iff shared).mp needed
  rw [← run_concat, run_needed_iff longer, run_concat] at unneeded
  exact turnover.forsaken last.keyed attended.keyed orderly member wanted unneeded

/-- On a hub without native ports where subscribers and readers ask for ports, each session is
needed by a filter or by a read under way, or else no read has opened it and a read was the last to
need it. A move after which nobody needs a session any more closes it, unless it is the end of a
read and no read has opened the session; then the session stays and its source runs on. -/
theorem run_leftover (config : Config) (guests : config.nativePorts = []) (moves : List Move)
    (shared : ∀ m ∈ moves, m.IsShared) :
    let h := (fresh config).run moves
    (∀ live ∈ h.sessions,
        h.Needed live.identifier ∨
          ¬OpenedByRead config moves live.source ∧ LeftByRead config moves live) ∧
      ∀ m : Move, m.IsShared → ∀ live ∈ h.sessions,
        h.Needed live.identifier → ¬(h.move m).Needed live.identifier →
          ((m.endsRead = true → OpenedByRead config moves live.source) →
            live.source ∉ (h.move m).sessions.map Live.source ∧
              ∃ source, (h.move m).sources[live.source]? = some source ∧ source.Ended) ∧
          (m.endsRead = true → ¬OpenedByRead config moves live.source →
            live ∈ (h.move m).sessions ∧
              ∃ source, (h.move m).sources[live.source]? = some source ∧
                source.Acquires live.port) := by
  intro h
  have orderly : h.Orderly := run_orderly config moves
  refine ⟨?_, ?_⟩
  · intro live member
    by_cases needed : h.Needed live.identifier
    · exact .inl needed
    · refine .inr ⟨?_, run_leftByRead guests shared live member needed⟩
      intro opened
      have attended : h.Attended := run_attended guests fun m member => (shared m member).keyed
      have wanted := attended.wanted live member ((openedByRead_iff member).mp opened)
      exact needed ((run_needed_iff shared).mpr wanted)
  · intro m last live member needed unneeded
    have forsaken := run_forsaken guests shared last member needed unneeded
    rw [openedByRead_iff member]
    refine ⟨?_, ?_⟩
    · intro opened
      have closing : ¬(m.endsRead = true ∧ live.session.ephemeral = false) := by
        rintro ⟨ends, spared⟩
        rw [opened ends] at spared
        cases spared
      rw [if_neg closing] at forsaken
      exact ⟨forsaken, ended_of_unlisted orderly member forsaken⟩
    · intro ends subscribed
      rw [if_pos ⟨ends, Bool.not_eq_true _ ▸ subscribed⟩] at forsaken
      exact ⟨forsaken, (move_orderly orderly m).acquired live forsaken⟩

/-- A subscriber opens a session, a read joins it and the subscriber leaves: the end of the read
does not close the session. -/
theorem run_leftover_last_read :
    let moves := [Move.subscribeTo (quietSite [⟨none, "a"⟩]) (.ofPortName "a") "x",
      .beginRead (quietSite []) (.ofPortName "a") none, .unsubscribeFrom (.ofPortName "a") "x"]
    let h := (fresh {}).run moves
    ∃ live ∈ h.sessions, h.Needed live.identifier ∧ live ∈ (h.move (.endRead 0)).sessions := by
  intro moves h
  let session : Session Relay :=
    { port := ⟨none, "a"⟩
      mode := .historic
      identifier := .ofPort none "a"
      listeners := [.hub] }
  let live : Live := ⟨0, session⟩
  have shared : ∀ m ∈ moves, m.IsShared := by
    simp [moves, Move.IsShared, quietSite_faithful]
    decide
  have member : live ∈ h.sessions := by decide
  have needed : h.Needed live.identifier := .inr (by decide)
  have unneeded : ¬(h.move (.endRead 0)).Needed live.identifier := by
    rintro (⟨key, name, entered, _⟩ | read)
    · cases entered
    · revert read
      decide
  have subscribed : ¬OpenedByRead {} moves live.source := by
    intro opened
    cases ephemeral_of_opened {} moves live member opened
  have step := (run_leftover {} rfl moves shared).2 (.endRead 0) trivial live member needed unneeded
  exact ⟨live, member, needed, (step.2 rfl subscribed).1⟩

/-- What a subscription has opened and a read was the last to need goes on without anyone to need
it. -/
theorem unneeded_after_last_read :
    let moves := [Move.subscribeTo (quietSite [⟨none, "a"⟩]) (.ofPortName "a") "x",
      .beginRead (quietSite []) (.ofPortName "a") none, .unsubscribeFrom (.ofPortName "a") "x",
      .endRead 0]
    let h := (fresh {}).run moves
    (∀ m ∈ moves, m.IsShared) ∧ h.sessions.length = 1 ∧
      (∀ live ∈ h.sessions, ¬h.Needed live.identifier) ∧
      ∀ source ∈ h.sources, source.running = true := by
  intro moves h
  refine ⟨?_, by decide, ?_, by decide⟩
  · simp [moves, Move.IsShared, quietSite_faithful]
    decide
  · rintro live _ (⟨key, name, entered, _⟩ | ⟨read, listed, pending, _⟩)
    · cases entered
    · have none : ∀ read ∈ h.reads, read.isPending = false := by decide
      rw [none read listed] at pending
      cases pending

theorem unlisted_after_unsubscribe {h : Hub} (orderly : h.Orderly) (name : String) {live : Live}
    (member : live ∈ h.sessions) :
    live.source ∉ (h.unsubscribe (.listener name)).sessions.map Live.source ↔
      live.session.native = false ∧
        (∃ key ∈ h.identifiersOf (.listener name), key.agrees live.identifier = true) ∧
        ∀ s ∈ h.interest live.identifier, s = .listener name := by
  have nobody : (h.registry.without (.listener name)).interested Identifier.agrees live.identifier
      true = [] ↔ ∀ s ∈ h.interest live.identifier, s = .listener name := by
    rw [List.eq_nil_iff_forall_not_mem]
    apply forall_congr'
    intro s
    rw [Registry.mem_interested_without, not_and_not_right]
    rfl
  obtain ⟨_, unsubscribed⟩ := h.unsubscribe_eq (.listener name)
  rw [unsubscribed, orderly.unlisted_iff member, isSpare_iff, nobody]
  rfl

theorem interest_after_unsubscribe (h : Hub) (name : String) (i : Identifier) {s : Subscriber} :
    s ∈ (h.unsubscribe (.listener name)).interest i ↔ s ∈ h.interest i ∧ s ≠ .listener name := by
  obtain ⟨_, unsubscribed⟩ := h.unsubscribe_eq (.listener name)
  rw [unsubscribed]
  exact Registry.mem_interested_without

/-- Whatever has happened, when the only one who hears a session that is not native leaves, nobody
is left to hear it. The session is closed if a filter of the one who leaves wants it. Otherwise that
one heard it without a filter, and the session stays and its source runs on. -/
theorem run_parting (config : Config) (moves : List Move) (name : String) :
    let h := (fresh config).run moves
    let after := h.move (.unsubscribe name)
    ∀ live ∈ h.sessions, live.session.native = false →
      (∀ s, s ∈ h.interest live.identifier ↔ s = .listener name) →
        after.interest live.identifier = [] ∧
          ((∃ key ∈ h.identifiersOf (.listener name), key.agrees live.identifier = true) →
            live.source ∉ after.sessions.map Live.source ∧
              ∃ source, after.sources[live.source]? = some source ∧ source.Ended) ∧
          ((∀ key ∈ h.identifiersOf (.listener name), key.agrees live.identifier = false) →
            .listener name ∈ h.registry.unfiltered ∧ live ∈ after.sessions ∧
              ∃ source, after.sources[live.source]? = some source ∧
                source.Acquires live.port) := by
  intro h after live member guest alone
  have orderly : h.Orderly := run_orderly config moves
  have closed := unlisted_after_unsubscribe orderly name member
  refine ⟨?_, ?_, ?_⟩
  · apply List.eq_nil_iff_forall_not_mem.mpr
    intro s still
    obtain ⟨heard, other⟩ := (interest_after_unsubscribe h name live.identifier).mp still
    exact other ((alone s).mp heard)
  · intro wanted
    have unlisted : live.source ∉ after.sessions.map Live.source :=
      closed.mpr ⟨guest, wanted, fun s heard => (alone s).mp heard⟩
    exact ⟨unlisted, ended_of_unlisted orderly (m := .unsubscribe name) member unlisted⟩
  · intro unwanted
    have unfiltered : .listener name ∈ h.registry.unfiltered := by
      rcases Registry.mem_interested.mp ((alone (.listener name)).mpr rfl) with
        unfiltered | ⟨key, entered, agree⟩
      · exact unfiltered
      · have refused := unwanted key (Registry.mem_keysOf.mpr entered)
        rw [agree] at refused
        cases refused
    have listed : live ∈ after.sessions := by
      obtain ⟨_, unsubscribed⟩ := h.unsubscribe_eq (.listener name)
      have needless : isSpare (h.registry.without (.listener name))
          (h.registry.keysOf (.listener name)) live = false := by
        rw [← Bool.not_eq_true]
        intro spare
        obtain ⟨_, ⟨key, own, agree⟩, _⟩ := isSpare_iff.mp spare
        rw [unwanted key own] at agree
        cases agree
      change live ∈ (h.unsubscribe (.listener name)).sessions
      rw [unsubscribed]
      exact List.mem_filter.mpr ⟨member, by simp [needless]⟩
    exact ⟨unfiltered, listed, (move_orderly orderly (.unsubscribe name)).acquired live listed⟩

/-- A listener without a filter for a session that another one has opened is the last to hear it,
and leaves. -/
theorem run_parting_unfiltered :
    let h := (fresh {}).run [.subscribe "u",
      .subscribeTo (quietSite [⟨none, "a"⟩]) (.ofPortName "a") "v",
      .unsubscribeFrom (.ofPortName "a") "v"]
    ∃ live ∈ h.sessions, live.session.native = false ∧
      (∀ s, s ∈ h.interest live.identifier ↔ s = .listener "u") ∧
      live ∈ (h.move (.unsubscribe "u")).sessions := by
  intro h
  let session : Session Relay :=
    { port := ⟨none, "a"⟩
      mode := .historic
      identifier := .ofPort none "a"
      listeners := [.hub] }
  let live : Live := ⟨0, session⟩
  have member : live ∈ h.sessions := by decide
  have alone : ∀ s, s ∈ h.interest live.identifier ↔ s = .listener "u" := by
    have only : h.interest live.identifier = [.listener "u"] := by decide
    intro s
    rw [only, List.mem_singleton]
  have parting := run_parting {} _ "u" live member rfl alone
  have filterless : ∀ key ∈ h.identifiersOf (.listener "u"), key.agrees live.identifier = false := by
    decide
  exact ⟨live, member, rfl, alone, (parting.2.2 filterless).2.1⟩

/-- What a listener without a filter was the last to hear goes on without anyone to hear it. -/
theorem unheard_after_unsubscribe :
    let h := (fresh {}).run [.subscribe "u",
      .subscribeTo (quietSite [⟨none, "a"⟩]) (.ofPortName "a") "v",
      .unsubscribeFrom (.ofPortName "a") "v"]
    let after := h.move (.unsubscribe "u")
    (∀ live ∈ h.sessions, live.session.native = false ∧
        h.interest live.identifier = [.listener "u"]) ∧
      after.sessions = h.sessions ∧ after.sessions.length = 1 ∧
      ∀ source ∈ after.sources, source.running = true := by
  decide

end Hub

end MeterHub
