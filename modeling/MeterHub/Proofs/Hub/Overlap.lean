import MeterHub.Frame.Samples
import MeterHub.Proofs.Hub.Demand
import MeterHub.Proofs.Hub.Enrolment

/-!
Reads that overlap. A session that a read has opened lives as long as some reader or subscriber
wants it. Where nobody comes but readers, it is the last of those that want it who closes it,
whoever has opened it.
-/

set_option autoImplicit false
set_option relaxedAutoImplicit false

namespace MeterHub

/-- The moves of readers, of devices that go and of sources that speak. Keys are not mixed, and
discovery finds what it is asked for. -/
def Move.IsReading : Move → Prop
  | .beginRead site key _ => site.discovery.Faithful ∧ key.isMixed = false
  | .endRead _ | .disappeared _ | .notify _ => True
  | .report _ _ | .takeUp _ | .finish _ _ => True
  | _ => False

theorem Move.IsReading.keyed {m : Move} (reading : m.IsReading) : m.IsKeyed := by
  cases m with
  | subscribeTo site key name => exact reading.elim
  | unsubscribe name => exact reading.elim
  | unsubscribeFrom key name => exact reading.elim
  | _ => exact reading

theorem Move.IsReading.beginsRead {m : Move} (reading : m.IsReading) {key : Identifier}
    (asked : m.asks? = some key) : m.beginsRead = true := by
  cases m with
  | subscribeTo site wanted name => exact reading.elim
  | beginRead site wanted timeout => rfl
  | _ => cases asked

namespace Hub

/-- Subscribers and readers come with filters, none of which is mixed, and what a read has opened is
wanted by one of these. -/
structure Attended (h : Hub) : Prop where
  keyed : h.Keyed
  guests : h.config.nativePorts = []
  wanted : ∀ live ∈ h.sessions, live.session.ephemeral = true → Wants h.registry live.identifier

theorem fresh_attended {config : Config} (guests : config.nativePorts = []) :
    (fresh config).Attended := by
  refine ⟨⟨rfl, ?_, ?_⟩, guests, ?_⟩
  · exact List.forall_mem_nil _
  · exact List.forall_mem_nil _
  · exact List.forall_mem_nil _

theorem move_attended {h : Hub} (orderly : h.Orderly) (attended : h.Attended) {m : Move}
    (keyed : m.IsKeyed) : (h.move m).Attended := by
  have turnover := move_turnover orderly attended.guests keyed
  have guests : (h.move m).config.nativePorts = [] := move_config orderly m ▸ attended.guests
  refine ⟨turnover.keyed keyed attended.keyed, guests, ?_⟩
  intro live member ephemeral
  by_contra unwanted
  rcases turnover.unwanted keyed attended.keyed member unwanted with
    ⟨old, listed, continues, never⟩ | ⟨_, spared, _⟩
  · rw [continues.ephemeral] at ephemeral
    exact never (attended.wanted old listed ephemeral)
  · rw [ephemeral] at spared
    cases spared

theorem run_attended {config : Config} (guests : config.nativePorts = []) {moves : List Move}
    (keyed : ∀ m ∈ moves, m.IsKeyed) : ((fresh config).run moves).Attended := by
  refine run_induct Move.IsKeyed Attended (fresh_attended guests) ?_ keyed
  intro h m orderly keyed attended
  exact move_attended orderly attended keyed

/-- Every entry is that of a reader, and every session was opened for one. -/
structure ReadersOnly (h : Hub) : Prop where
  entries : ∀ entry ∈ h.registry.filtered, ∃ index, entry.2 = .reader index
  sessions : ∀ live ∈ h.sessions, live.session.ephemeral = true

theorem Turnover.readersOnly {h h' : Hub} {m : Move} (turnover : Turnover h m h')
    (reading : m.IsReading) (before : h.ReadersOnly) : h'.ReadersOnly := by
  cases turnover with
  | kept registry sessions =>
    refine ⟨registry ▸ before.entries, ?_⟩
    intro live member
    obtain ⟨old, listed, rfl⟩ := sessions live member
    exact (hears_continues m old).ephemeral.trans (before.sessions old listed)
  | gained s asked reader registry sessions =>
    have begins := reading.beginsRead asked
    refine ⟨?_, ?_⟩
    · rw [registry]
      intro entry entered
      rcases Registry.mem_subscribeTo.mp entered with old | rfl
      · exact before.entries entry old
      · exact reader begins
    · intro live member
      rcases sessions live member with old | ⟨_, ephemeral, _⟩
      · exact before.sessions live old
      · exact ephemeral.trans begins
  | lost keys unfiltered fewer removed sessions =>
    refine ⟨fun entry entered => before.entries entry (fewer entry entered), ?_⟩
    rw [sessions]
    intro live member
    exact before.sessions live (List.mem_filter.mp member).1

theorem run_readersOnly {config : Config} (guests : config.nativePorts = []) {moves : List Move}
    (reading : ∀ m ∈ moves, m.IsReading) : ((fresh config).run moves).ReadersOnly := by
  refine (run_induct Move.IsReading (fun h => h.Attended ∧ h.ReadersOnly)
    ⟨fresh_attended guests, List.forall_mem_nil _, List.forall_mem_nil _⟩ ?_ reading).2
  rintro h m orderly reading ⟨attended, readersOnly⟩
  have turnover := move_turnover orderly attended.guests reading.keyed
  exact ⟨move_attended orderly attended reading.keyed, turnover.readersOnly reading readersOnly⟩

theorem run_awaited {config : Config} (guests : config.nativePorts = []) {moves : List Move}
    (reading : ∀ m ∈ moves, m.IsReading) :
    ∀ live ∈ ((fresh config).run moves).sessions,
      ∃ index read, ((fresh config).run moves).Awaits index read ∧
        read.key.agrees live.identifier = true := by
  intro live member
  have attended := run_attended guests fun m member => (reading m member).keyed
  have readersOnly := run_readersOnly guests reading
  have ephemeral := readersOnly.sessions live member
  obtain ⟨⟨key, s⟩, entered, agree⟩ := attended.wanted live member ephemeral
  obtain ⟨index, own⟩ := readersOnly.entries (key, s) entered
  change s = .reader index at own
  rw [own] at entered
  obtain ⟨read, awaits, asks⟩ := run_enrolled config moves key index entered
  exact ⟨index, read, awaits, asks ▸ agree⟩

theorem listed_after_endRead {h : Hub} {index : Nat} {read : Read}
    (at_index : h.reads[index]? = some read) (pending : read.isPending = true) {live : Live}
    (member : live ∈ h.sessions) {other : Nat} {read' : Read} (different : other ≠ index)
    (awaits : h.Awaits other read') (agree : read'.key.agrees live.identifier = true) :
    live ∈ (h.endRead index).sessions := by
  have still := (awaits_endRead at_index pending).mpr ⟨different, awaits⟩
  obtain ⟨_, ended⟩ := endRead_eq at_index pending
  rw [ended] at still ⊢
  have needed : isSpare (h.registry.unsubscribeFrom read.key (.reader index)).2 [read.key] live =
      false := by
    rw [← Bool.not_eq_true]
    intro spare
    have nobody := (Registry.interested_eq_nil_iff.mp (isSpare_iff.mp spare).2.2).2
    have refused := nobody _ still.entered
    rw [agree] at refused
    cases refused
  exact List.mem_filter.mpr ⟨member, by simp [needed]⟩

theorem unlisted_after_endRead {h : Hub} (orderly : h.Orderly) {index : Nat} {read : Read}
    (at_index : h.reads[index]? = some read) (pending : read.isPending = true)
    (awaited : ∀ live ∈ (h.endRead index).sessions, ∃ other read',
      (h.endRead index).Awaits other read' ∧ read'.key.agrees live.identifier = true)
    {live : Live} (member : live ∈ h.sessions)
    (unwanted : ∀ other read', other ≠ index → h.Awaits other read' →
      read'.key.agrees live.identifier = false) :
    live.source ∉ (h.endRead index).sessions.map Live.source := by
  intro listed
  obtain ⟨left, still, same⟩ := List.mem_map.mp listed
  obtain ⟨_, ended⟩ := endRead_eq at_index pending
  have old : left ∈ h.sessions := by
    rw [ended] at still
    exact (List.mem_filter.mp still).1
  have equal : left = live := orderly.of_source_eq old member same
  -- the reader that wants it now did so before, and is not the one that is gone
  obtain ⟨other, read', awaits, agree⟩ := awaited left still
  obtain ⟨different, before⟩ := (awaits_endRead at_index pending).mp awaits
  rw [equal, unwanted other read' different before] at agree
  cases agree

/-- On a hub without native ports where nobody comes but readers, and none of their keys is mixed,
each session is wanted after every move by a read that waits. So the end of a read leaves every
session open that another read wants and closes every other one, whichever read has opened it; and
when the last read is over, nothing is acquired. -/
theorem run_overlapping (config : Config) (guests : config.nativePorts = []) (moves : List Move)
    (reading : ∀ m ∈ moves, m.IsReading) :
    let h := (fresh config).run moves
    (∀ live ∈ h.sessions,
        ∃ index read, h.Awaits index read ∧ read.key.agrees live.identifier = true) ∧
      (∀ (index : Nat) (read : Read), h.reads[index]? = some read → read.isPending = true →
        ∀ live ∈ h.sessions,
          ((∃ other read', other ≠ index ∧ h.Awaits other read' ∧
              read'.key.agrees live.identifier = true) →
            live ∈ (h.move (.endRead index)).sessions) ∧
          ((∀ other read', other ≠ index → h.Awaits other read' →
              read'.key.agrees live.identifier = false) →
            live.source ∉ (h.move (.endRead index)).sessions.map Live.source ∧
              ∃ source, (h.move (.endRead index)).sources[live.source]? = some source ∧
                source.Ended)) ∧
      ((∀ read ∈ h.reads, read.isPending = false) →
        h.sessions = [] ∧ ∀ source ∈ h.sources, source.running = false) := by
  intro h
  have orderly : h.Orderly := run_orderly config moves
  have awaited := run_awaited guests reading
  refine ⟨awaited, ?_, ?_⟩
  · intro index read at_index pending live member
    refine ⟨?_, ?_⟩
    · rintro ⟨other, read', different, awaits, agree⟩
      exact listed_after_endRead at_index pending member different awaits agree
    · intro unwanted
      have longer : ∀ m ∈ moves ++ [.endRead index], m.IsReading :=
        List.forall_mem_append.mpr ⟨reading, List.forall_mem_singleton.mpr trivial⟩
      have later := run_awaited guests longer
      rw [run_concat] at later
      have unlisted := unlisted_after_endRead orderly at_index pending later member unwanted
      exact ⟨unlisted, ended_of_unlisted orderly (m := .endRead index) member unlisted⟩
  · intro all
    have none : h.sessions = [] := by
      apply List.eq_nil_iff_forall_not_mem.mpr
      intro live member
      obtain ⟨index, read, awaits, _⟩ := awaited live member
      have finished := all read (List.mem_of_getElem? awaits.at_index)
      rw [awaits.pending] at finished
      cases finished
    exact ⟨none, orderly.idle none⟩

/-- A session that a name has opened is shared by a read that asks for the serial number it has
learned, outlives the read that opened it and is closed with the other one. -/
theorem run_overlapping_serial_number :
    let h := (fresh {}).run [.beginRead (quietSite [⟨none, "a"⟩]) (.ofPortName "a") none,
      .report 0 (.frame (.historicSample "1")),
      .beginRead (quietSite []) (.ofSerialNumber "1") none, .endRead 0]
    h.sessions.length = 1 ∧
      (∀ live ∈ h.sessions,
        ∃ index read, h.Awaits index read ∧ read.key.agrees live.identifier = true) ∧
      (h.move (.endRead 1)).sessions = [] := by
  intro h
  have reading : ∀ m ∈ ([.beginRead (quietSite [⟨none, "a"⟩]) (.ofPortName "a") none,
      .report 0 (.frame (.historicSample "1")),
      .beginRead (quietSite []) (.ofSerialNumber "1") none, .endRead 0] : List Move),
      m.IsReading := by
    simp [Move.IsReading, quietSite_faithful]
    decide
  have overlapping := run_overlapping {} rfl _ reading
  exact ⟨by decide, overlapping.1, by decide⟩

end Hub

end MeterHub
