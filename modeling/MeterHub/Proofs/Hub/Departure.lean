import MeterHub.Proofs.Hub.Order

/-!
Why sessions go. A session is closed because nobody needs it any more, because its device is gone or
because the hub stops; a native one is needed by the hub itself.
-/

set_option autoImplicit false
set_option relaxedAutoImplicit false

namespace MeterHub.Hub

/-- Among some moves on a fresh hub there is the beginning of a read that entered the source at an
index into the ledger. -/
def OpenedByRead (config : Config) (moves : List Move) (index : Nat) : Prop :=
  ∃ before site key timeout after,
    moves = before ++ .beginRead site key timeout :: after ∧
      ((fresh config).run before).sources.length ≤ index ∧
      index < (((fresh config).run before).beginRead site key timeout).sources.length

theorem OpenedByRead.concat {config : Config} {moves : List Move} {index : Nat}
    (opened : OpenedByRead config moves index) (m : Move) :
    OpenedByRead config (moves ++ [m]) index := by
  obtain ⟨before, site, key, timeout, after, rfl, entered⟩ := opened
  refine ⟨before, site, key, timeout, after ++ [m], ?_, entered⟩
  rw [List.append_assoc, List.cons_append]

theorem run_ephemeral (config : Config) (moves : List Move) :
    ∀ live ∈ ((fresh config).run moves).sessions,
      live.session.ephemeral = true → OpenedByRead config moves live.source := by
  induction moves using List.reverseRecOn with
  | nil =>
    intro live member
    cases member
  | append_singleton moves m ih =>
    intro live member ephemeral
    have orderly := run_orderly config moves
    have bound := (run_orderly config (moves ++ [m])).bounded member
    rw [run_concat] at member bound
    rcases move_accounted orderly m with grows | ⟨gone, _, closes⟩
    · -- growth keeps the kind of a session, and what it opens is of the kind of the move
      rcases grows.origin member with ⟨old, listed, continues⟩ | ⟨new, kind⟩
      · rw [continues.ephemeral] at ephemeral
        rw [continues.source]
        exact (ih old listed ephemeral).concat m
      · rw [ephemeral] at kind
        cases m with
        | beginRead site key timeout => exact ⟨moves, site, key, timeout, [], rfl, new, bound⟩
        | _ => cases kind
    · rw [closes.sessions] at member
      exact (ih live (List.mem_filter.mp member).1 ephemeral).concat m

theorem OpenedByRead.of_concat {config : Config} {moves : List Move} {m : Move} {index : Nat}
    (opened : OpenedByRead config (moves ++ [m]) index) :
    OpenedByRead config moves index ∨
      m.beginsRead = true ∧ ((fresh config).run moves).sources.length ≤ index ∧
        index < (((fresh config).run moves).move m).sources.length := by
  obtain ⟨before, site, key, timeout, after, split, entered⟩ := opened
  rcases List.eq_nil_or_concat after with rfl | ⟨rest, last, rfl⟩
  · obtain ⟨rfl, only⟩ := List.append_inj' split rfl
    rw [List.singleton_inj.mp only]
    exact .inr ⟨rfl, entered⟩
  · rw [List.concat_eq_append, ← List.cons_append, ← List.append_assoc] at split
    have earlier := (List.append_inj' split rfl).1
    exact .inl ⟨before, site, key, timeout, rest, earlier, entered⟩

theorem OpenedByRead.bounded {config : Config} {moves : List Move} {index : Nat}
    (opened : OpenedByRead config moves index) :
    index < ((fresh config).run moves).sources.length := by
  induction moves using List.reverseRecOn with
  | nil =>
    obtain ⟨before, _, _, _, _, split, _⟩ := opened
    exact absurd split.symm (by simp)
  | append_singleton moves m ih =>
    rw [run_concat]
    rcases opened.of_concat with earlier | ⟨_, _, entered⟩
    · exact Nat.lt_of_lt_of_le (ih earlier) (move_sources_le (run_orderly config moves) m)
    · exact entered

theorem ephemeral_of_opened (config : Config) (moves : List Move) :
    ∀ live ∈ ((fresh config).run moves).sessions,
      OpenedByRead config moves live.source → live.session.ephemeral = true := by
  induction moves using List.reverseRecOn with
  | nil =>
    intro live member
    cases member
  | append_singleton moves m ih =>
    intro live member opened
    have orderly := run_orderly config moves
    rw [run_concat] at member
    -- a source from before the last move was opened before it
    have earlier (bound : live.source < ((fresh config).run moves).sources.length) :
        OpenedByRead config moves live.source := by
      rcases opened.of_concat with before | ⟨_, new, _⟩
      · exact before
      · omega
    rcases move_accounted orderly m with grows | ⟨gone, _, closes⟩
    · rcases grows.origin member with ⟨old, listed, continues⟩ | ⟨new, kind⟩
      · have bound := orderly.bounded listed
        rw [← continues.source] at bound
        rw [continues.ephemeral]
        exact ih old listed (continues.source ▸ earlier bound)
      · rcases opened.of_concat with before | ⟨begins, _⟩
        · have bound := before.bounded
          omega
        · exact kind.trans begins
    · rw [closes.sessions] at member
      have listed := (List.mem_filter.mp member).1
      exact ih live listed (earlier (orderly.bounded listed))

theorem openedByRead_iff {config : Config} {moves : List Move} {live : Live}
    (member : live ∈ ((fresh config).run moves).sessions) :
    OpenedByRead config moves live.source ↔ live.session.ephemeral = true :=
  ⟨ephemeral_of_opened config moves live member, run_ephemeral config moves live member⟩

/-- A session that is not native, that a key designates, and that nobody in a hub wants to hear
about. -/
structure Unneeded (h : Hub) (key : Identifier) (live : Live) : Prop where
  native : live.session.native = false
  designated : key.agrees live.identifier = true
  unwanted : h.interest live.identifier = []

theorem isUnused_iff {h : Hub} {key : Identifier} {live : Live} :
    h.isUnused key false live = true ↔ Unneeded h key live := by
  unfold isUnused
  constructor
  · intro unused
    simp only [Bool.and_eq_true, Bool.not_eq_true', List.isEmpty_iff] at unused
    exact ⟨unused.1.1.1, unused.1.2, unused.2⟩
  · rintro ⟨native, designated, unwanted⟩
    simp [native, designated, unwanted]

/-- A key that some filter had and that this filter has no longer. -/
def Removed (h h' : Hub) (key : Identifier) : Prop :=
  ∃ s, (key, s) ∈ h.registry.filtered ∧ (key, s) ∉ h'.registry.filtered

theorem unneeded_of_isSpare {h : Hub} {r : Registry Identifier Subscriber} {keys : List Identifier}
    {live : Live} (registry : h.registry = r) (spare : isSpare r keys live = true) :
    ∃ key ∈ keys, Unneeded h key live := by
  obtain ⟨native, ⟨key, member, designated⟩, unwanted⟩ := isSpare_iff.mp spare
  rw [← registry] at unwanted
  exact ⟨key, member, native, designated, unwanted⟩

/-- How a move after some others lets go of a session that nobody needs. -/
def Releases (config : Config) (moves : List Move) (live : Live) (m : Move) : Prop :=
  let h := (fresh config).run moves
  match m with
  | .unsubscribe _ | .notify _ => ∃ key, Removed h (h.move m) key ∧ Unneeded (h.move m) key live
  | .unsubscribeFrom key _ => Unneeded (h.move m) key live
  | .endRead index =>
    OpenedByRead config moves live.source ∧
      ∃ read, h.reads[index]? = some read ∧ read.isPending = true ∧
        Unneeded (h.move m) read.key live
  | _ => False

/-- How a move closes a session whoever needs it: the hub stops or is given up, or the device of the
session is unplugged. -/
def Ends (h : Hub) (live : Live) : Move → Prop
  | .stop => h.running = true
  | .discard => h.isHeld = false
  | .disappeared port => live.port.same port = true
  | .consume _ =>
    ∃ poller port rest, h.poller = some poller ∧ poller.queue = .disappeared port :: rest ∧
      live.port.same port = true
  | _ => False

theorem unsubscribe_removed {h : Hub} {s : Subscriber} {key : Identifier}
    (member : key ∈ h.registry.keysOf s) : Removed h (h.unsubscribe s) key := by
  obtain ⟨_, unsubscribed⟩ := h.unsubscribe_eq s
  refine ⟨s, Registry.mem_keysOf.mp member, ?_⟩
  rw [unsubscribed]
  simp [Registry.without]

theorem notify_removed {h : Hub} {index : Nat} {i key : Identifier}
    (noted : h.notices[index]? = some i) (entered : ∃ s, (key, s) ∈ h.registry.filtered)
    (agree : key.agrees i = true) : Removed h (h.notify index) key := by
  obtain ⟨_, _, _, notified⟩ := notify_eq noted
  obtain ⟨s, entered⟩ := entered
  refine ⟨s, entered, ?_⟩
  rw [notified]
  intro still
  have refused := (mem_unplugged.mp still).2
  rw [agree] at refused
  cases refused

theorem Closing.cause {config : Config} {moves : List Move} {m : Move} {gone : Live → Bool}
    (closing : Closing ((fresh config).run moves) m gone) {live : Live}
    (member : live ∈ ((fresh config).run moves).sessions) (doomed : gone live = true) :
    Releases config moves live m ∨ Ends ((fresh config).run moves) live m := by
  generalize state : (fresh config).run moves = h at closing member
  cases closing with
  | unsubscribe name =>
    obtain ⟨_, unsubscribed⟩ := h.unsubscribe_eq (.listener name)
    obtain ⟨key, listed, unneeded⟩ := unneeded_of_isSpare
      (h := h.unsubscribe (.listener name)) (by rw [unsubscribed]) doomed
    unfold Releases
    rw [state]
    exact .inl ⟨key, unsubscribe_removed listed, unneeded⟩
  | unsubscribeFrom key name =>
    obtain ⟨_, unsubscribed⟩ := h.unsubscribeFrom_eq key (.listener name)
    obtain ⟨only, listed, unneeded⟩ := unneeded_of_isSpare
      (h := h.unsubscribeFrom key (.listener name)) (by rw [unsubscribed]) doomed
    rw [List.mem_singleton.mp listed] at unneeded
    unfold Releases
    rw [state]
    exact .inl unneeded
  | @ended index read at_index pending =>
    obtain ⟨ephemeral, spare⟩ := Bool.and_eq_true_iff.mp doomed
    obtain ⟨_, ended⟩ := endRead_eq at_index pending
    obtain ⟨only, listed, unneeded⟩ := unneeded_of_isSpare
      (h := h.endRead index) (by rw [ended]) spare
    rw [List.mem_singleton.mp listed] at unneeded
    have opened : OpenedByRead config moves live.source :=
      run_ephemeral config moves live (state ▸ member) ephemeral
    unfold Releases
    rw [state]
    exact .inl ⟨opened, read, at_index, pending, unneeded⟩
  | @announced index i keys noted released =>
    obtain ⟨_, keys', _, notified⟩ := notify_eq noted
    obtain ⟨key, listed, unneeded⟩ := unneeded_of_isSpare
      (h := h.notify index) (by rw [notified]) doomed
    obtain ⟨entered, agree⟩ := (released key).mp listed
    unfold Releases
    rw [state]
    exact .inl ⟨key, notify_removed noted entered agree, unneeded⟩
  | unplugged port => exact .inr doomed
  | polled polling first => exact .inr ⟨_, _, _, polling, first, doomed⟩
  | stopped running => exact .inr running
  | discarded free => exact .inr free

theorem Releases.not_native {config : Config} {moves : List Move} {live : Live} {m : Move}
    (releases : Releases config moves live m) : live.session.native = false := by
  unfold Releases at releases
  cases m with
  | unsubscribe name => exact releases.choose_spec.2.native
  | notify index => exact releases.choose_spec.2.native
  | unsubscribeFrom key name => exact releases.native
  | endRead index =>
    obtain ⟨_, _, _, _, unneeded⟩ := releases
    exact unneeded.native
  | _ => exact releases.elim

/-- No session is taken from someone who needs it. A session that is gone after a move was let go by
a move that leaves nobody interested in it, or it came to its end; on a native port every session is
native, and only the latter happens. Sessions are told apart by their places in the ledger of
sources. -/
theorem run_departure (config : Config) (moves : List Move) (m : Move) :
    let h := (fresh config).run moves
    (∀ live ∈ h.sessions, live.source ∉ (h.move m).sessions.map Live.source →
        Releases config moves live m ∨ Ends h live m) ∧
      ∀ live ∈ h.sessions, config.isNativePort live.port.name = true →
        live.session.native = true ∧
          (live.source ∉ (h.move m).sessions.map Live.source → Ends h live m) := by
  intro h
  have orderly : h.Orderly := run_orderly config moves
  have cause : ∀ live ∈ h.sessions, live.source ∉ (h.move m).sessions.map Live.source →
      Releases config moves live m ∨ Ends h live m := by
    intro live member unlisted
    rcases move_accounted orderly m with grows | ⟨gone, closing, closes⟩
    · obtain ⟨after, listed, continues⟩ := grows.continued member
      rw [← continues.source] at unlisted
      exact (unlisted (List.mem_map_of_mem listed)).elim
    · exact closing.cause member (closes.gone_of_unlisted member unlisted)
  refine ⟨cause, ?_⟩
  intro live member onNative
  have kept : h.config = config := run_config config moves
  have native : live.session.native = true := orderly.native live member (kept ▸ onNative)
  refine ⟨native, ?_⟩
  intro unlisted
  rcases cause live member unlisted with releases | ends
  · have never := releases.not_native
    rw [native] at never
    cases never
  · exact ends

theorem run_departure_last_filter :
    let moves := [Move.subscribeTo (quietSite [⟨none, "a"⟩]) (.ofPortName "a") "x"]
    ∃ live ∈ ((fresh {}).run moves).sessions, Releases {} moves live (.unsubscribe "x") := by
  intro moves
  let session : Session Relay :=
    { port := ⟨none, "a"⟩
      mode := .historic
      identifier := .ofPort none "a"
      listeners := [.hub] }
  let live : Live := ⟨0, session⟩
  have member : live ∈ ((fresh {}).run moves).sessions := by decide
  have cause := (run_departure {} moves (.unsubscribe "x")).1 live member (by decide)
  exact ⟨live, member, cause.resolve_right id⟩

end MeterHub.Hub
