import MeterHub.Frame.Samples
import MeterHub.Proofs.Hub.Order

/-!
A read that is alone on a hub. What it opens is closed at its end, with one exception: a key that
asks for a serial number besides a port stops agreeing with the session on the port when the meter
there turns out to have another number, and then neither the read nor its end reaches the session
again.
-/

set_option autoImplicit false
set_option relaxedAutoImplicit false

namespace MeterHub

theorem Identifier.tier_eq_false_iff {a b : Option String} :
    tier a b true = false ↔ ∃ x y, a = some x ∧ b = some y ∧ y ≠ x := by
  cases a with
  | none => simp [tier]
  | some x =>
    cases b with
    | none => simp [tier]
    | some y =>
      simp only [tier, beq_eq_false_iff_ne]
      constructor
      · exact fun different => ⟨x, y, rfl, rfl, different.symm⟩
      · rintro ⟨x', y', left, right, different⟩ same
        rw [Option.some.injEq] at left right
        exact different (by rw [← left, ← right, same])

namespace Hub

/-- The source at an index runs and reveals, in its start or in some moves, another serial number
than a key asks for. -/
def Mistakes (h : Hub) (key : Identifier) (index : Nat) (moves : List Move) : Prop :=
  ∃ source asked revealed, h.sources[index]? = some source ∧ source.running = true ∧
    key.serialNumber = some asked ∧
    Signal.revealed (source.script.greeting ++ moves.filterMap (Move.said index)) = some revealed ∧
    revealed ≠ asked

/-- What becomes of a read: it has ended, and what it has opened is closed unless there is a mistake
about the meter. -/
structure ReadOutcome (before begun after : Hub) (key : Identifier) (moves : List Move) : Prop where
  ended : ∃ read, after.reads[before.reads.length]? = some read ∧ read.isPending = false
  closed : ¬Mistakes begun key before.sources.length moves →
    after.sessions = [] ∧ ∀ (index : Nat) (source : Source), before.sources.length ≤ index →
      after.sources[index]? = some source → source.running = false
  dangling : Mistakes begun key before.sources.length moves →
    ∃ live source, after.sessions = [live] ∧ after.sources[before.sources.length]? = some source ∧
      source.running = true

theorem mistakes_iff {h : Hub} {index : Nat} {source : Source}
    (entered : h.sources[index]? = some source) (running : source.running = true) (key : Identifier)
    (moves : List Move) :
    Mistakes h key index moves ↔
      Identifier.tier key.serialNumber
        (Signal.revealed (source.script.greeting ++ moves.filterMap (Move.said index))) true =
      false := by
  rw [Identifier.tier_eq_false_iff]
  constructor
  · rintro ⟨other, asked, revealed, at_index, _, asks, reveals, different⟩
    rw [entered, Option.some.injEq] at at_index
    rw [← at_index] at reveals
    exact ⟨asked, revealed, asks, reveals, different⟩
  · rintro ⟨asked, revealed, asks, reveals, different⟩
    exact ⟨source, asked, revealed, entered, running, asks, reveals, different⟩

theorem finished_read {h begun : Hub} {read : Read} (idle : begun.sessions = [])
    (quiet : ∀ (index : Nat) (source : Source), h.sources.length ≤ index →
      begun.sources[index]? = some source → source.running = false)
    (at_index : begun.reads[h.reads.length]? = some read) (finished : read.isPending = false)
    (key : Identifier) {moves : List Move} (deliveries : ∀ m ∈ moves, m.IsDelivery) :
    ReadOutcome h begun ((begun.run moves).endRead h.reads.length) key moves := by
  have distinct : (begun.sessions.map Live.source).Nodup := by
    rw [idle]
    exact List.nodup_nil
  obtain ⟨lanes, reads, ran, answered⟩ := deliveries_eq distinct deliveries
  obtain ⟨answer, still⟩ := answered h.reads.length read at_index
  have nothing : (begun.run moves).endRead h.reads.length = begun.run moves := by
    rw [ran]
    exact endRead_finished still finished
  rw [nothing, ran]
  refine ⟨⟨_, still, finished⟩, ?_, ?_⟩
  · intro _
    refine ⟨?_, quiet⟩
    rw [idle]
    rfl
  · rintro ⟨source, _, _, entered, running, _⟩
    rw [quiet _ source (Nat.le_refl _) entered] at running
    cases running

private theorem registry_after_read (key : Identifier) (s : Subscriber) :
    ((({} : Registry Identifier Subscriber).subscribeTo key s).2.unsubscribeFrom key s).2 = {} :=
  Registry.unsubscribeFrom_subscribeTo rfl

private theorem isSpare_of_guest {live : Live} (guest : live.session.native = false)
    (key : Identifier) : isSpare {} [key] live = key.agrees live.identifier := by
  unfold isSpare
  rw [guest]
  simp [Registry.interested, Distinct.addAll]

theorem end_lone_read {h : Hub} {live : Live} {index : Nat} (read : Read)
    (alone : h.sessions = [live]) (guest : live.session.native = false)
    (ephemeral : live.session.ephemeral = true)
    (entered : h.registry = (({} : Registry Identifier Subscriber).subscribeTo read.key
      (.reader index)).2)
    (at_index : h.reads[index]? = some read) (pending : read.isPending = true) :
    (h.endRead index).reads[index]? = some { read with result := some read.outcome } ∧
      if read.key.agrees live.identifier = true then
        (h.endRead index).sessions = [] ∧ (h.endRead index).sources = silence h.sources live
      else (h.endRead index).sessions = [live] ∧ (h.endRead index).sources = h.sources := by
  obtain ⟨_, ended⟩ := endRead_eq at_index pending
  rw [ended, alone, entered, registry_after_read]
  have bound : index < h.reads.length := (List.getElem?_eq_some_iff.mp at_index).1
  refine ⟨List.getElem?_set_self bound, ?_⟩
  have spare := isSpare_of_guest guest read.key
  by_cases agree : read.key.agrees live.identifier = true
  · simp [agree, ephemeral, spare]
  · simp [agree, ephemeral, spare]

theorem finish_lone_read {h : Hub} {live : Live} {index : Nat} (read : Read)
    (alone : h.sessions = [live])
    (entered : h.registry = (({} : Registry Identifier Subscriber).subscribeTo read.key
      (.reader index)).2)
    (at_index : h.reads[index]? = some read) (pending : read.isPending = true) {moves : List Move}
    (deliveries : ∀ m ∈ moves, m.IsDelivery)
    (guest : (hearsAll moves live).session.native = false)
    (ephemeral : (hearsAll moves live).session.ephemeral = true) :
    let after := (h.run moves).endRead index
    (∃ ended, after.reads[index]? = some ended ∧ ended.isPending = false) ∧
      if read.key.agrees (hearsAll moves live).identifier = true then
        after.sessions = [] ∧ after.sources = silence h.sources (hearsAll moves live)
      else after.sessions = [hearsAll moves live] ∧ after.sources = h.sources := by
  have distinct : (h.sessions.map Live.source).Nodup := by
    rw [alone]
    exact List.nodup_singleton _
  obtain ⟨lanes, reads, ran, answered⟩ := deliveries_eq distinct deliveries
  obtain ⟨answer, still⟩ := answered index read at_index
  rw [alone, List.map_singleton] at ran
  obtain ⟨ended, outcome⟩ := end_lone_read
    (h := { h with lanes, reads, sessions := [hearsAll moves live] })
    { read with answer } rfl guest ephemeral entered still pending
  intro after
  have state : after = Hub.endRead _ index := congrArg (fun hub : Hub => hub.endRead index) ran
  rw [state]
  exact ⟨⟨_, ended, rfl⟩, outcome⟩

private theorem lone_session {h : Hub} (guests : h.config.nativePorts = []) {site : Site}
    (faithful : site.discovery.Faithful) {key : Identifier} {port : Port}
    (resolved : (Request.ofIdentifier key h.config.defaultMode).resolve site.discovery = .ok port)
    (mode : Mode) (greeting : List Signal) (moves : List Move) :
    let live := hearsAll moves
      ⟨h.sources.length, { h.greeted port mode greeting with ephemeral := true }⟩
    live.source = h.sources.length ∧ live.session.native = false ∧
      live.session.ephemeral = true ∧
      key.agrees live.identifier =
        Identifier.tier key.serialNumber
          (Signal.revealed (greeting ++ moves.filterMap (Move.said h.sources.length))) true := by
  let opened : Live :=
    ⟨h.sources.length, { h.greeted port mode greeting with ephemeral := true }⟩
  have continues := hearsAll_continues moves opened
  have names : key.Names port := Request.resolve_names faithful resolved
  have first : opened.identifier = port.identifier.learnAll greeting := by
    obtain ⟨_, greeted⟩ := h.greeted_eq port mode greeting
    change (h.greeted port mode greeting).identifier = _
    rw [greeted]
  refine ⟨continues.source, ?_, continues.ephemeral, ?_⟩
  · rw [hearsAll_native]
    change (h.greeted port mode greeting).native = false
    rw [greeted_native, Config.isNativePort, guests]
    rfl
  · rw [hearsAll_identifier, first, ← Identifier.learnAll_append, names.agrees_learnAll]

private theorem opened_read {h begun : Hub} (idle : h.sessions = []) (nobody : h.registry = {})
    (guests : h.config.nativePorts = []) {site : Site} (faithful : site.discovery.Faithful)
    {key : Identifier} {port : Port} {mode : Mode} {script : Script} {read : Read}
    (resolved : (Request.ofIdentifier key h.config.defaultMode).resolve site.discovery = .ok port)
    (asked : read.key = key) (pending : read.isPending = true)
    (reads : begun.reads = h.reads ++ [read])
    (registry : begun.registry = (h.registry.subscribeTo key (.reader h.reads.length)).2)
    (sources : begun.sources =
      h.sources ++ [{ port, mode, script, starts := 1, linked := true, running := true }])
    (sessions : begun.sessions = h.sessions ++
      [⟨h.sources.length, { h.greeted port mode script.greeting with ephemeral := true }⟩])
    {moves : List Move} (deliveries : ∀ m ∈ moves, m.IsDelivery) :
    ReadOutcome h begun ((begun.run moves).endRead h.reads.length) key moves := by
  obtain ⟨own, guest, ephemeral, agreement⟩ :=
    lone_session guests faithful resolved mode script.greeting moves
  rw [idle, List.nil_append] at sessions
  rw [nobody, ← asked] at registry
  have at_index : begun.reads[h.reads.length]? = some read := by
    rw [reads, List.getElem?_concat_length]
  have last : begun.sources[h.sources.length]? =
      some { port, mode, script, starts := 1, linked := true, running := true } := by
    rw [sources, List.getElem?_concat_length]
  obtain ⟨ended, outcome⟩ :=
    finish_lone_read read sessions registry at_index pending deliveries guest ephemeral
  rw [asked, agreement] at outcome
  have mistakes := mistakes_iff last rfl key moves
  refine ⟨ended, ?_, ?_⟩
  · intro right
    rw [mistakes, Bool.not_eq_false] at right
    rw [if_pos right] at outcome
    refine ⟨outcome.1, ?_⟩
    intro index source new entered
    rw [outcome.2, getElem?_silence, own] at entered
    by_cases first : h.sources.length = index
    · rw [if_pos first, ← first, last, Option.map_some, Option.some.injEq] at entered
      rw [← entered]
      rfl
    · -- the ledger ends with the source of the session
      have beyond : begun.sources.length ≤ index := by
        rw [sources, List.length_append, List.length_singleton]
        omega
      rw [if_neg first, List.getElem?_eq_none beyond] at entered
      cases entered
  · intro wrong
    rw [mistakes.mp wrong, if_neg Bool.false_ne_true] at outcome
    rw [← outcome.2] at last
    exact ⟨_, _, outcome.1, last, rfl⟩

/-- A read on a hub without sessions, subscribers and native ports ends, and it leaves nothing
behind that it has opened, unless the meter on the port reveals another serial number than the key
asks for. In that case alone the session stays and its source runs on. -/
theorem lone_read_outcome {h : Hub} (idle : h.sessions = []) (nobody : h.registry = {})
    (guests : h.config.nativePorts = []) {site : Site} (faithful : site.discovery.Faithful)
    (key : Identifier) (timeout : Option Span) {moves : List Move}
    (deliveries : ∀ m ∈ moves, m.IsDelivery) :
    let begun := h.beginRead site key timeout
    ReadOutcome h begun ((begun.run moves).endRead h.reads.length) key moves := by
  have bounded : ∀ live ∈ h.sessions, live.source < h.sources.length := by
    rw [idle]
    exact List.forall_mem_nil _
  have begins := beginRead_begins bounded site key timeout
  intro begun
  change Begins h site key timeout begun at begins
  clear_value begun
  cases begins with
  | served lookups member =>
    rw [idle] at member
    cases member
  | opened resolved free defined granted started =>
    exact opened_read idle nobody guests faithful resolved rfl rfl rfl rfl rfl rfl deliveries
  | refused read finished =>
    apply finished_read
    · exact idle
    · intro index source new entered
      rw [List.getElem?_eq_none new] at entered
      cases entered
    · exact List.getElem?_concat_length
    · exact finished
    · exact deliveries
  | unstarted read finished started stopped stillness =>
    apply finished_read
    · exact idle
    · intro index source new entered
      rcases entered_last entered with old | ⟨_, rfl⟩
      · rw [List.getElem?_eq_none new] at old
        cases old
      · exact stillness
    · exact List.getElem?_concat_length
    · exact finished
    · exact deliveries

theorem lone_read_right_meter :
    let begun := (fresh {}).beginRead (quietSite [⟨none, "a"⟩]) ⟨none, some "a", some "1", rfl⟩ none
    let after := (begun.run [.report 0 (.frame (.historicSample "1")), .takeUp 0]).endRead 0
    after.sessions = [] ∧ ∀ source ∈ after.sources, source.running = false := by
  intro begun after
  have deliveries : ∀ m ∈ [Move.report 0 (.frame (.historicSample "1")), .takeUp 0],
      m.IsDelivery := by
    simp [Move.IsDelivery]
  have outcome := lone_read_outcome (h := fresh {}) rfl rfl rfl
    (quietSite_faithful [⟨none, "a"⟩]) ⟨none, some "a", some "1", rfl⟩ none deliveries
  have right : ¬Mistakes begun ⟨none, some "a", some "1", rfl⟩ 0
      [.report 0 (.frame (.historicSample "1")), .takeUp 0] := by
    rw [mistakes_iff rfl rfl]
    decide
  obtain ⟨none, stopped⟩ := outcome.closed right
  refine ⟨none, ?_⟩
  intro source member
  obtain ⟨index, entered⟩ := List.mem_iff_getElem?.mp member
  exact stopped index source (Nat.zero_le index) entered

/-- A key with a name and a serial number opens the port of that name. Once the meter there reveals
another number, the end of the read closes nothing. -/
theorem lone_read_wrong_meter :
    let begun := (fresh {}).beginRead (quietSite [⟨none, "a"⟩]) ⟨none, some "a", some "1", rfl⟩ none
    let after := (begun.run [.report 0 (.frame (.historicSample "2"))]).endRead 0
    after.reads.map Read.isPending = [false] ∧ after.sessions.length = 1 ∧
      after.sources.map Source.running = [true] := by
  decide

end Hub

end MeterHub
