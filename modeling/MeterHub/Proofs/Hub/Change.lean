import Mathlib.Data.List.Nodup
import Mathlib.Logic.Relation
import MeterHub.Proofs.Hub.Closing

/-!
Elementary changes of what a hub acquires, and the order that they keep. Growth never loses a
session; closing stops the sources of the sessions that go. Whatever else a hub holds is left out of
account here.
-/

set_option autoImplicit false
set_option relaxedAutoImplicit false

namespace MeterHub

/-- A source that acquires from a port: it was started once, runs and has someone to speak to. -/
structure Source.Acquires (source : Source) (port : Port) : Prop where
  on_port : source.port = port
  linked : source.linked = true
  running : source.running = true
  started : source.starts = 1
  unstopped : source.stops = 0

/-- A source that is done: it was started once and stopped once. -/
structure Source.Ended (source : Source) : Prop where
  idle : source.running = false
  started : source.starts = 1
  stopped : source.stops = 1

theorem Source.Acquires.stop {source : Source} {port : Port} (acquires : source.Acquires port) :
    source.stop.2.Ended := by
  refine ⟨rfl, acquires.started, ?_⟩
  change source.stops + 1 = 1
  rw [acquires.unstopped]

/-- A session whose identifier carries what is known of its port. -/
structure Live.IsPlaced (live : Live) : Prop where
  portId : live.identifier.portId = live.port.id
  portName : live.identifier.portName = some live.port.name

/-- What may happen to a live session without its being another one: it learns, or it becomes
native. -/
structure Live.Continues (a b : Live) : Prop where
  source : b.source = a.source
  port : b.port = a.port
  portId : b.identifier.portId = a.identifier.portId
  portName : b.identifier.portName = a.identifier.portName
  native : a.session.native = true → b.session.native = true
  ephemeral : b.session.ephemeral = a.session.ephemeral

theorem Live.Continues.refl (live : Live) : live.Continues live :=
  ⟨rfl, rfl, rfl, rfl, id, rfl⟩

theorem Live.Continues.trans {a b c : Live} (first : a.Continues b) (second : b.Continues c) :
    a.Continues c where
  source := second.source.trans first.source
  port := second.port.trans first.port
  portId := second.portId.trans first.portId
  portName := second.portName.trans first.portName
  native := fun native => second.native (first.native native)
  ephemeral := second.ephemeral.trans first.ephemeral

theorem Live.IsPlaced.continues {a b : Live} (placed : a.IsPlaced) (continues : a.Continues b) :
    b.IsPlaced := by
  constructor
  · rw [continues.portId, continues.port, placed.portId]
  · rw [continues.portName, continues.port, placed.portName]

namespace Hub

/-- Changes that lose no session. A session is opened on a port that no other one holds, and it is
ephemeral if a read is what it is opened for. -/
inductive Growth (reading : Bool) (h h' : Hub) : Prop
  | aside (config : h'.config = h.config) (sessions : h'.sessions = h.sessions)
      (sources : h'.sources = h.sources)
  | refused (source : Source) (ended : source.Ended) (config : h'.config = h.config)
      (sessions : h'.sessions = h.sessions) (sources : h'.sources = h.sources ++ [source])
  | opened (source : Source) (live : Live) (acquires : source.Acquires live.port)
      (index : live.source = h.sources.length)
      (free : ∀ other ∈ h.sessions, other.port.same live.port = false) (placed : live.IsPlaced)
      (native : h.config.isNativePort live.port.name = true → live.session.native = true)
      (ephemeral : live.session.ephemeral = reading) (config : h'.config = h.config)
      (sessions : h'.sessions = h.sessions ++ [live]) (sources : h'.sources = h.sources ++ [source])
  | altered (change : Live → Live) (continues : ∀ live ∈ h.sessions, live.Continues (change live))
      (config : h'.config = h.config) (sessions : h'.sessions = h.sessions.map change)
      (sources : h'.sources = h.sources)

/-- The sessions that are gone are no longer listed, and their sources are stopped. -/
structure Closes (gone : Live → Bool) (h h' : Hub) : Prop where
  config : h'.config = h.config
  sessions : h'.sessions = h.sessions.filter fun live => !gone live
  sources : h'.sources = (h.sessions.filter gone).foldl silence h.sources

/-- The order that a hub keeps. No two sessions hold one port; each session knows its port, is
native if the port is, and has a source of its own that runs; and every other source is done. -/
structure Orderly (h : Hub) : Prop where
  exclusive : h.sessions.Pairwise fun a b => a.port.same b.port = false
  distinct : (h.sessions.map Live.source).Nodup
  placed : ∀ live ∈ h.sessions, live.IsPlaced
  native : ∀ live ∈ h.sessions,
    h.config.isNativePort live.port.name = true → live.session.native = true
  acquired : ∀ live ∈ h.sessions,
    ∃ source, h.sources[live.source]? = some source ∧ source.Acquires live.port
  ended : ∀ index source, h.sources[index]? = some source →
    index ∉ h.sessions.map Live.source → source.Ended

theorem Orderly.bounded {h : Hub} (orderly : h.Orderly) {live : Live} (member : live ∈ h.sessions) :
    live.source < h.sources.length := by
  obtain ⟨source, entered, _⟩ := orderly.acquired live member
  exact (List.getElem?_eq_some_iff.mp entered).1

theorem Orderly.of_source_eq {h : Hub} (orderly : h.Orderly) {a b : Live} (left : a ∈ h.sessions)
    (right : b ∈ h.sessions) (same : a.source = b.source) : a = b :=
  List.inj_on_of_nodup_map orderly.distinct left right same

theorem entered_still {α : Type} {ledger : List α} {entry : α} {index : Nat}
    (entered : ledger[index]? = some entry) (last : α) : (ledger ++ [last])[index]? = some entry := by
  have bound : index < ledger.length := (List.getElem?_eq_some_iff.mp entered).1
  rw [List.getElem?_append_left bound]
  exact entered

theorem entered_last {α : Type} {ledger : List α} {last entry : α} {index : Nat}
    (entered : (ledger ++ [last])[index]? = some entry) :
    ledger[index]? = some entry ∨ index = ledger.length ∧ entry = last := by
  rw [List.getElem?_append] at entered
  by_cases old : index < ledger.length
  · rw [if_pos old] at entered
    exact .inl entered
  · rw [if_neg old, List.getElem?_singleton] at entered
    by_cases first : index - ledger.length = 0
    · rw [if_pos first, Option.some.injEq] at entered
      exact .inr ⟨by omega, entered.symm⟩
    · rw [if_neg first] at entered
      cases entered

namespace Growth

variable {reading : Bool} {h h' : Hub}

private theorem aside_orderly (config : h'.config = h.config) (sessions : h'.sessions = h.sessions)
    (sources : h'.sources = h.sources) (before : h.Orderly) : h'.Orderly := by
  obtain ⟨exclusive, distinct, placed, native, acquired, ended⟩ := before
  constructor <;> simp only [config, sessions, sources] <;> assumption

private theorem refused_orderly {last : Source} (done : last.Ended) (config : h'.config = h.config)
    (sessions : h'.sessions = h.sessions) (sources : h'.sources = h.sources ++ [last])
    (before : h.Orderly) : h'.Orderly := by
  refine ⟨sessions ▸ before.exclusive, sessions ▸ before.distinct, sessions ▸ before.placed,
    ?_, ?_, ?_⟩
  · rw [sessions, config]
    exact before.native
  · rw [sessions]
    intro live member
    obtain ⟨own, entered, acquires⟩ := before.acquired live member
    rw [sources]
    exact ⟨own, entered_still entered last, acquires⟩
  · rw [sessions, sources]
    intro index source entered unlisted
    rcases entered_last entered with old | ⟨_, rfl⟩
    · exact before.ended index source old unlisted
    · exact done

private theorem opened_orderly {last : Source} {live : Live} (acquires : last.Acquires live.port)
    (index : live.source = h.sources.length)
    (free : ∀ other ∈ h.sessions, other.port.same live.port = false) (placed : live.IsPlaced)
    (native : h.config.isNativePort live.port.name = true → live.session.native = true)
    (config : h'.config = h.config) (sessions : h'.sessions = h.sessions ++ [live])
    (sources : h'.sources = h.sources ++ [last]) (before : h.Orderly) : h'.Orderly := by
  have listed : h'.sessions.map Live.source = h.sessions.map Live.source ++ [h.sources.length] := by
    rw [sessions, List.map_append, List.map_singleton, index]
  have either {P : Live → Prop} (old : ∀ other ∈ h.sessions, P other) (new : P live) :
      ∀ other ∈ h'.sessions, P other := by
    rw [sessions]
    intro other member
    rcases List.mem_append.mp member with listed | last
    · exact old other listed
    · exact List.mem_singleton.mp last ▸ new
  constructor
  · rw [sessions, List.pairwise_append]
    refine ⟨before.exclusive, List.pairwise_singleton _ _, ?_⟩
    intro other member only same
    rw [List.mem_singleton.mp same]
    exact free other member
  · rw [listed, List.nodup_append]
    refine ⟨before.distinct, List.nodup_singleton _, ?_⟩
    intro old member new same
    obtain ⟨other, listed, rfl⟩ := List.mem_map.mp member
    have bound := before.bounded listed
    rw [List.mem_singleton.mp same]
    omega
  · exact either before.placed placed
  · rw [config]
    exact either before.native native
  · rw [sources]
    apply either
    · intro other member
      obtain ⟨own, entered, acquires⟩ := before.acquired other member
      exact ⟨own, entered_still entered last, acquires⟩
    · rw [index]
      exact ⟨last, List.getElem?_concat_length, acquires⟩
  · rw [listed, sources]
    intro place source entered unlisted
    rw [List.mem_append, List.mem_singleton] at unlisted
    rcases entered_last entered with old | ⟨new, _⟩
    · exact before.ended place source old fun member => unlisted (.inl member)
    · exact (unlisted (.inr new)).elim

private theorem altered_orderly {change : Live → Live}
    (continues : ∀ live ∈ h.sessions, live.Continues (change live)) (config : h'.config = h.config)
    (sessions : h'.sessions = h.sessions.map change) (sources : h'.sources = h.sources)
    (before : h.Orderly) : h'.Orderly := by
  have listed : h'.sessions.map Live.source = h.sessions.map Live.source := by
    rw [sessions, List.map_map]
    apply List.map_congr_left
    intro live member
    exact (continues live member).source
  constructor
  · rw [sessions, List.pairwise_map]
    apply before.exclusive.imp_of_mem
    intro a b left right apart
    rw [(continues a left).port, (continues b right).port]
    exact apart
  · rw [listed]
    exact before.distinct
  · rw [sessions]
    intro live member
    obtain ⟨old, listed, rfl⟩ := List.mem_map.mp member
    exact (before.placed old listed).continues (continues old listed)
  · rw [sessions, config]
    intro live member native
    obtain ⟨old, listed, rfl⟩ := List.mem_map.mp member
    rw [(continues old listed).port] at native
    exact (continues old listed).native (before.native old listed native)
  · rw [sessions, sources]
    intro live member
    obtain ⟨old, listed, rfl⟩ := List.mem_map.mp member
    rw [(continues old listed).source, (continues old listed).port]
    exact before.acquired old listed
  · rw [listed, sources]
    exact before.ended

theorem orderly (growth : Growth reading h h') (before : h.Orderly) : h'.Orderly := by
  cases growth with
  | aside config sessions sources => exact aside_orderly config sessions sources before
  | refused last done config sessions sources =>
    exact refused_orderly done config sessions sources before
  | opened last live acquires index free placed native ephemeral config sessions sources =>
    exact opened_orderly acquires index free placed native config sessions sources before
  | altered change continues config sessions sources =>
    exact altered_orderly continues config sessions sources before

theorem config_eq (growth : Growth reading h h') : h'.config = h.config := by
  cases growth <;> assumption

theorem sources_le (growth : Growth reading h h') : h.sources.length ≤ h'.sources.length := by
  cases growth with
  | aside config sessions sources => exact Nat.le_of_eq (congrArg List.length sources.symm)
  | refused source ended config sessions sources => simp [sources]
  | opened source live acquires index free placed native ephemeral config sessions sources =>
    simp [sources]
  | altered change continues config sessions sources =>
    exact Nat.le_of_eq (congrArg List.length sources.symm)

theorem continued (growth : Growth reading h h') {live : Live} (member : live ∈ h.sessions) :
    ∃ after ∈ h'.sessions, live.Continues after := by
  cases growth with
  | aside config sessions sources => exact ⟨live, sessions ▸ member, .refl live⟩
  | refused source ended config sessions sources => exact ⟨live, sessions ▸ member, .refl live⟩
  | opened source new acquires index free placed native ephemeral config sessions sources =>
    refine ⟨live, ?_, .refl live⟩
    rw [sessions]
    exact List.mem_append_left _ member
  | altered change continues config sessions sources =>
    refine ⟨change live, ?_, continues live member⟩
    rw [sessions]
    exact List.mem_map_of_mem member

theorem origin (growth : Growth reading h h') {live : Live} (member : live ∈ h'.sessions) :
    (∃ old ∈ h.sessions, old.Continues live) ∨
      h.sources.length ≤ live.source ∧ live.session.ephemeral = reading := by
  cases growth with
  | aside config sessions sources => exact .inl ⟨live, sessions ▸ member, .refl live⟩
  | refused source ended config sessions sources =>
    exact .inl ⟨live, sessions ▸ member, .refl live⟩
  | opened source new acquires index free placed native ephemeral config sessions sources =>
    rw [sessions] at member
    rcases List.mem_append.mp member with old | last
    · exact .inl ⟨live, old, .refl live⟩
    · rw [List.mem_singleton.mp last]
      exact .inr ⟨Nat.le_of_eq index.symm, ephemeral⟩
  | altered change continues config sessions sources =>
    rw [sessions] at member
    obtain ⟨old, listed, rfl⟩ := List.mem_map.mp member
    exact .inl ⟨old, listed, continues old listed⟩

end Growth

theorem unlisted_of_kept {lives : List Live} (distinct : (lives.map Live.source).Nodup)
    {gone : Live → Bool} {live : Live} (kept : live ∈ lives.filter fun live => !gone live) :
    live.source ∉ (lives.filter gone).map Live.source := by
  intro listed
  obtain ⟨other, filtered, same⟩ := List.mem_map.mp listed
  obtain ⟨there, doomed⟩ := List.mem_filter.mp filtered
  obtain ⟨here, spared⟩ := List.mem_filter.mp kept
  have equal : other = live := List.inj_on_of_nodup_map distinct there here same
  rw [equal] at doomed
  rw [doomed] at spared
  cases spared

theorem Closes.orderly {gone : Live → Bool} {h h' : Hub} (closes : Closes gone h h')
    (before : h.Orderly) : h'.Orderly := by
  have part : h'.sessions.Sublist h.sessions := closes.sessions ▸ List.filter_sublist
  have kept {live : Live} (member : live ∈ h'.sessions) : live ∈ h.sessions := part.subset member
  have distinct : ((h.sessions.filter gone).map Live.source).Nodup :=
    before.distinct.sublist (List.filter_sublist.map Live.source)
  have ledger (index : Nat) := getElem?_silenceAll distinct h.sources index
  rw [← closes.sources] at ledger
  constructor
  · exact before.exclusive.sublist part
  · exact before.distinct.sublist (part.map Live.source)
  · exact fun live member => before.placed live (kept member)
  · rw [closes.config]
    exact fun live member => before.native live (kept member)
  · intro live member
    obtain ⟨source, entered, acquires⟩ := before.acquired live (kept member)
    refine ⟨source, ?_, acquires⟩
    have spared := unlisted_of_kept before.distinct (closes.sessions ▸ member)
    rw [ledger, if_neg spared, entered]
  · intro index source entered unlisted
    rw [ledger] at entered
    by_cases stopped : index ∈ (h.sessions.filter gone).map Live.source
    · rw [if_pos stopped] at entered
      obtain ⟨live, filtered, rfl⟩ := List.mem_map.mp stopped
      obtain ⟨own, owned, acquires⟩ := before.acquired live (List.mem_filter.mp filtered).1
      rw [owned, Option.map_some, Option.some.injEq] at entered
      exact entered ▸ acquires.stop
    · rw [if_neg stopped] at entered
      apply before.ended index source entered
      intro listed
      obtain ⟨live, member, rfl⟩ := List.mem_map.mp listed
      cases doomed : gone live with
      | true =>
        exact stopped (List.mem_map_of_mem (List.mem_filter.mpr ⟨member, doomed⟩))
      | false =>
        apply unlisted
        apply List.mem_map_of_mem
        rw [closes.sessions]
        exact List.mem_filter.mpr ⟨member, by simp [doomed]⟩

theorem gone_of_unlisted {lives : List Live} {gone : Live → Bool} {live : Live}
    (member : live ∈ lives)
    (unlisted : live.source ∉ (lives.filter fun live => !gone live).map Live.source) :
    gone live = true := by
  by_contra kept
  have listed : live ∈ lives.filter fun live => !gone live :=
    List.mem_filter.mpr ⟨member, by simpa using kept⟩
  exact unlisted (List.mem_map_of_mem listed)

theorem Closes.gone_of_unlisted {gone : Live → Bool} {h h' : Hub} (closes : Closes gone h h')
    {live : Live} (member : live ∈ h.sessions)
    (unlisted : live.source ∉ h'.sessions.map Live.source) : gone live = true := by
  rw [closes.sessions] at unlisted
  exact Hub.gone_of_unlisted member unlisted

theorem Orderly.unlisted_iff {h : Hub} (orderly : h.Orderly) {gone : Live → Bool} {live : Live}
    (member : live ∈ h.sessions) :
    live.source ∉ (h.sessions.filter fun live => !gone live).map Live.source ↔
      gone live = true := by
  refine ⟨gone_of_unlisted member, ?_⟩
  intro doomed listed
  obtain ⟨other, filtered, same⟩ := List.mem_map.mp listed
  obtain ⟨old, kept⟩ := List.mem_filter.mp filtered
  -- sources are not shared, so the session that is still listed is this one
  have equal : other = live := orderly.of_source_eq old member same
  rw [equal, doomed] at kept
  cases kept

end Hub

end MeterHub
