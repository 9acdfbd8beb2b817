import MeterHub.Frame.Samples
import MeterHub.Proofs.Hub.Turnover

/-!
Sessions that are opened for filters alone. As long as nobody subscribes without a filter, nobody
reads and no device is acquired by itself, a session lives only as long as some filter wants it.
Nothing is counted: the filter that opened a session goes on agreeing with it whatever the session
learns.
-/

set_option autoImplicit false
set_option relaxedAutoImplicit false

namespace MeterHub

/-- The moves of subscribers with filters, of devices that go and of sources that speak. Filters are
not mixed, and discovery finds what it is asked for. -/
def Move.IsFiltered : Move → Prop
  | .subscribeTo site key _ => site.discovery.Faithful ∧ key.isMixed = false
  | .unsubscribe _ | .unsubscribeFrom _ _ | .disappeared _ | .notify _ => True
  | .report _ _ | .takeUp _ | .finish _ _ => True
  | _ => False

theorem Move.IsFiltered.keyed {m : Move} (filtered : m.IsFiltered) : m.IsKeyed := by
  cases m with
  | beginRead site key timeout => exact filtered.elim
  | endRead index => exact filtered.elim
  | _ => exact filtered

theorem Move.IsFiltered.endsRead {m : Move} (filtered : m.IsFiltered) : m.endsRead = false := by
  cases m with
  | endRead index => exact filtered.elim
  | _ => rfl

namespace Hub

/-- Whether a filter in a registry wants a stream. -/
def Wants (r : Registry Identifier Subscriber) (i : Identifier) : Prop :=
  ∃ entry ∈ r.filtered, entry.1.agrees i = true

/-- Sessions are there for filters alone, of which none is mixed, and each has one that wants it. -/
structure Demanded (h : Hub) : Prop where
  filtersOnly : h.registry.unfiltered = []
  plain : ∀ entry ∈ h.registry.filtered, entry.1.isMixed = false
  guests : h.config.nativePorts = []
  wanted : ∀ live ∈ h.sessions, live.session.native = false ∧ Wants h.registry live.identifier

theorem Wants.subscribeTo {r : Registry Identifier Subscriber} {i : Identifier}
    (wants : Wants r i) (key : Identifier) (s : Subscriber) : Wants (r.subscribeTo key s).2 i := by
  obtain ⟨entry, entered, agree⟩ := wants
  exact ⟨entry, Registry.mem_subscribeTo.mpr (.inl entered), agree⟩

/-- There are no subscriptions but filters, of which none is mixed, and no session is native. -/
structure Keyed (h : Hub) : Prop where
  filtersOnly : h.registry.unfiltered = []
  plain : ∀ entry ∈ h.registry.filtered, entry.1.isMixed = false
  guest : ∀ live ∈ h.sessions, live.session.native = false

theorem isSpare_of_unwanted {r r' : Registry Identifier Subscriber} {keys : List Identifier}
    {live : Live} (removed : ∀ entry ∈ r.filtered, entry ∈ r'.filtered ∨ entry.1 ∈ keys)
    (filtersOnly : r'.unfiltered = []) (guest : live.session.native = false)
    (wanted : Wants r live.identifier) (unwanted : ¬Wants r' live.identifier) :
    isSpare r' keys live = true := by
  obtain ⟨entry, entered, agree⟩ := wanted
  have released : entry.1 ∈ keys := by
    rcases removed entry entered with still | released
    · exact (unwanted ⟨entry, still, agree⟩).elim
    · exact released
  have nobody : r'.interested Identifier.agrees live.identifier true = [] := by
    refine Registry.interested_eq_nil_iff.mpr ⟨filtersOnly, ?_⟩
    intro other listed
    rw [← Bool.not_eq_true]
    exact fun passes => unwanted ⟨other, listed, passes⟩
  exact isSpare_iff.mpr ⟨guest, ⟨entry.1, released, agree⟩, nobody⟩

namespace Turnover

variable {h h' : Hub} {m : Move}

theorem keyed (turnover : Turnover h m h') (asks : m.IsKeyed) (before : h.Keyed) : h'.Keyed := by
  cases turnover with
  | kept registry sessions =>
    refine ⟨registry ▸ before.filtersOnly, registry ▸ before.plain, ?_⟩
    intro live member
    obtain ⟨old, listed, rfl⟩ := sessions live member
    exact (hears_native m old).trans (before.guest old listed)
  | gained s asked reader registry sessions =>
    refine ⟨?_, ?_, ?_⟩
    · rw [registry, Registry.subscribeTo_unfiltered]
      exact before.filtersOnly
    · rw [registry]
      intro entry entered
      rcases Registry.mem_subscribeTo.mp entered with old | rfl
      · exact before.plain entry old
      · exact asks.plain asked
    · intro live member
      rcases sessions live member with old | ⟨guest, _, _⟩
      · exact before.guest live old
      · exact guest
  | lost keys unfiltered fewer removed sessions =>
    refine ⟨?_, fun entry entered => before.plain entry (fewer entry entered), ?_⟩
    · apply List.eq_nil_iff_forall_not_mem.mpr
      intro s member
      have earlier := unfiltered s member
      rw [before.filtersOnly] at earlier
      cases earlier
    · rw [sessions]
      intro live member
      exact before.guest live (List.mem_filter.mp member).1

theorem unwanted (turnover : Turnover h m h') (asks : m.IsKeyed) (before : h.Keyed) {live : Live}
    (member : live ∈ h'.sessions) (unwanted : ¬Wants h'.registry live.identifier) :
    (∃ old ∈ h.sessions, old.Continues live ∧ ¬Wants h.registry old.identifier) ∨
      m.endsRead = true ∧ live.session.ephemeral = false ∧ live ∈ h.sessions ∧
        Wants h.registry live.identifier := by
  have after := turnover.keyed asks before
  cases turnover with
  | kept registry sessions =>
    obtain ⟨old, listed, rfl⟩ := sessions live member
    refine .inl ⟨old, listed, hears_continues m old, ?_⟩
    -- whatever the session has learned, no filter has given it up
    rintro ⟨entry, entered, agree⟩
    rw [registry, hears_identifier] at unwanted
    exact unwanted
      ⟨entry, entered, Identifier.agrees_learnAll (before.plain entry entered) agree _⟩
  | @gained key s asked reader registry sessions =>
    rw [registry] at unwanted
    rcases sessions live member with old | ⟨_, _, agree⟩
    · exact .inl ⟨live, old, .refl live, fun wants => unwanted (wants.subscribeTo key s)⟩
    · exact (unwanted ⟨(key, s), Registry.mem_subscribeTo.mpr (.inr rfl), agree⟩).elim
  | lost keys unfiltered fewer removed sessions =>
    rw [sessions, List.mem_filter] at member
    obtain ⟨old, kept⟩ := member
    by_cases wanted : Wants h.registry live.identifier
    · have spare := isSpare_of_unwanted removed after.filtersOnly (before.guest live old) wanted
        unwanted
      rw [spare] at kept
      have left : m.endsRead = true ∧ live.session.ephemeral = false := by simpa using kept
      exact .inr ⟨left.1, left.2, old, wanted⟩
    · exact .inl ⟨live, old, .refl live, wanted⟩

theorem forsaken (turnover : Turnover h m h') (asks : m.IsKeyed) (before : h.Keyed)
    (orderly : h.Orderly) {live : Live} (member : live ∈ h.sessions)
    (wanted : Wants h.registry live.identifier) (unwanted : ¬Wants h'.registry live.identifier) :
    if m.endsRead = true ∧ live.session.ephemeral = false then live ∈ h'.sessions
    else live.source ∉ h'.sessions.map Live.source := by
  have after := turnover.keyed asks before
  cases turnover with
  | kept registry sessions => exact (unwanted (registry ▸ wanted)).elim
  | gained s asked reader registry sessions =>
    rw [registry] at unwanted
    exact (unwanted (wanted.subscribeTo _ s)).elim
  | lost keys unfiltered fewer removed sessions =>
    have spare := isSpare_of_unwanted removed after.filtersOnly (before.guest live member) wanted
      unwanted
    split
    · rename_i left
      rw [sessions]
      exact List.mem_filter.mpr ⟨member, by simp [left]⟩
    · rename_i closing
      rw [sessions, orderly.unlisted_iff member, spare, Bool.and_true]
      simpa [or_iff_not_imp_left] using closing

end Turnover

theorem Demanded.keyed {h : Hub} (demanded : h.Demanded) : h.Keyed :=
  ⟨demanded.filtersOnly, demanded.plain, fun live member => (demanded.wanted live member).1⟩

theorem move_demanded {h : Hub} (orderly : h.Orderly) (demanded : h.Demanded) {m : Move}
    (filtered : m.IsFiltered) : (h.move m).Demanded := by
  have turnover := move_turnover orderly demanded.guests filtered.keyed
  have after := turnover.keyed filtered.keyed demanded.keyed
  have guests : (h.move m).config.nativePorts = [] := move_config orderly m ▸ demanded.guests
  refine ⟨after.filtersOnly, after.plain, guests, ?_⟩
  intro live member
  refine ⟨after.guest live member, ?_⟩
  by_contra unwanted
  rcases turnover.unwanted filtered.keyed demanded.keyed member unwanted with
    ⟨old, listed, _, never⟩ | ⟨ends, _⟩
  · exact never (demanded.wanted old listed).2
  · rw [filtered.endsRead] at ends
    cases ends

theorem run_demanded {config : Config} (guests : config.nativePorts = []) {moves : List Move}
    (filtered : ∀ m ∈ moves, m.IsFiltered) : ((fresh config).run moves).Demanded := by
  refine run_induct Move.IsFiltered Demanded ?_ ?_ filtered
  · exact ⟨rfl, List.forall_mem_nil _, guests, List.forall_mem_nil _⟩
  · intro h m orderly filtered demanded
    exact move_demanded orderly demanded filtered

/-- The move after which no filter wants a session any more has closed it. -/
theorem closed_of_unwanted {h : Hub} (orderly : h.Orderly) (demanded : h.Demanded) {m : Move}
    (filtered : m.IsFiltered) {live : Live} (member : live ∈ h.sessions)
    (unwanted : ¬Wants (h.move m).registry live.identifier) :
    live.source ∉ (h.move m).sessions.map Live.source ∧
      ∃ source, (h.move m).sources[live.source]? = some source ∧ source.Ended := by
  have turnover := move_turnover orderly demanded.guests filtered.keyed
  have closed := turnover.forsaken filtered.keyed demanded.keyed orderly member
    (demanded.wanted live member).2 unwanted
  rw [filtered.endsRead, if_neg (fun both => Bool.false_ne_true both.1)] at closed
  exact ⟨closed, ended_of_unlisted orderly member closed⟩

/-- On a hub without native ports where subscribers come with filters alone, and none of these is
mixed, each session has a filter that wants it after every move. So the move that takes the last
such filter away closes the session, and without filters nothing is acquired. -/
theorem run_wanted (config : Config) (guests : config.nativePorts = []) (moves : List Move)
    (filtered : ∀ m ∈ moves, m.IsFiltered) :
    let h := (fresh config).run moves
    (∀ live ∈ h.sessions, ∃ entry ∈ h.registry.filtered, entry.1.agrees live.identifier = true) ∧
      (∀ m : Move, m.IsFiltered → ∀ live ∈ h.sessions,
        (∀ entry ∈ (h.move m).registry.filtered, entry.1.agrees live.identifier = false) →
          live.source ∉ (h.move m).sessions.map Live.source ∧
            ∃ source, (h.move m).sources[live.source]? = some source ∧ source.Ended) ∧
      (h.registry.filtered = [] →
        h.sessions = [] ∧ ∀ source ∈ h.sources, source.running = false) := by
  intro h
  have orderly : h.Orderly := run_orderly config moves
  have demanded : h.Demanded := run_demanded guests filtered
  refine ⟨fun live member => (demanded.wanted live member).2, ?_, ?_⟩
  · intro m filtered live member refused
    apply closed_of_unwanted orderly demanded filtered member
    rintro ⟨entry, entered, agree⟩
    rw [refused entry entered] at agree
    cases agree
  · intro unfiltered
    have none : h.sessions = [] := by
      apply List.eq_nil_iff_forall_not_mem.mpr
      intro live member
      obtain ⟨_, entry, entered, _⟩ := demanded.wanted live member
      rw [unfiltered] at entered
      cases entered
    refine ⟨none, ?_⟩
    intro source member
    obtain ⟨index, entered⟩ := List.mem_iff_getElem?.mp member
    apply (orderly.ended index source entered _).idle
    rw [none]
    exact List.not_mem_nil

/-- A session that a name has opened is kept by a serial number that it has learned, and closed with
it. -/
theorem run_wanted_serial_number :
    let h := (fresh {}).run [.subscribeTo (quietSite [⟨none, "a"⟩]) (.ofPortName "a") "x",
      .report 0 (.frame (.historicSample "1")),
      .subscribeTo (quietSite []) (.ofSerialNumber "1") "y", .unsubscribeFrom (.ofPortName "a") "x"]
    h.sessions.length = 1 ∧
      (∀ live ∈ h.sessions, ∃ entry ∈ h.registry.filtered, entry.1.agrees live.identifier = true) ∧
      ∀ live ∈ h.sessions,
        live.source ∉ (h.move (.unsubscribe "y")).sessions.map Live.source := by
  intro h
  have wanted := run_wanted {} rfl
    [.subscribeTo (quietSite [⟨none, "a"⟩]) (.ofPortName "a") "x",
      .report 0 (.frame (.historicSample "1")),
      .subscribeTo (quietSite []) (.ofSerialNumber "1") "y", .unsubscribeFrom (.ofPortName "a") "x"]
    (by simp [Move.IsFiltered, quietSite_faithful]; decide)
  refine ⟨by decide, wanted.1, ?_⟩
  intro live member
  exact (wanted.2.1 (.unsubscribe "y") trivial live member (by decide +revert)).1

end Hub

end MeterHub
