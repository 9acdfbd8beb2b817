import MeterHub.Proofs.Hub.Demand
import MeterHub.Proofs.Hub.Departure
import MeterHub.Proofs.Hub.Ledger
import MeterHub.Proofs.Hub.Notices

/-!
Devices that are plugged again before it is announced that they were unplugged. The announcement
finds the new session. It closes it if it takes the last filter that wants it, as losing the last
filter closes every session that is not native; otherwise it leaves it alone.
-/

set_option autoImplicit false
set_option relaxedAutoImplicit false

namespace MeterHub.Hub

/-- A move announces a device and so takes the last filter that wants a session. -/
structure Undoes (h : Hub) (live : Live) (m : Move) : Prop where
  announces : m.announces = true
  guest : live.session.native = false
  wanted : Wants h.registry live.identifier
  unwanted : ¬Wants (h.move m).registry live.identifier

theorem Wants.of_unplugged {h : Hub} {i j : Identifier} (wants : Wants (h.unplugged i) j) :
    Wants h.registry j := by
  obtain ⟨entry, entered, agree⟩ := wants
  exact ⟨entry, (mem_unplugged.mp entered).1, agree⟩

theorem isSpare_unplugged_iff {h : Hub} {i : Identifier} {keys : List Identifier}
    (released : ∀ key, key ∈ keys ↔ (∃ s, (key, s) ∈ h.registry.filtered) ∧ key.agrees i = true)
    (live : Live) :
    isSpare (h.unplugged i) keys live = true ↔
      live.session.native = false ∧ Wants h.registry live.identifier ∧
        ¬Wants (h.unplugged i) live.identifier := by
  constructor
  · intro spare
    obtain ⟨guest, ⟨key, listed, agree⟩, nobody⟩ := isSpare_iff.mp spare
    obtain ⟨⟨s, entered⟩, _⟩ := (released key).mp listed
    refine ⟨guest, ⟨(key, s), entered, agree⟩, ?_⟩
    rintro ⟨entry, still, passes⟩
    have refused := (Registry.interested_eq_nil_iff.mp nobody).2 entry still
    rw [passes] at refused
    cases refused
  · rintro ⟨guest, wanted, unwanted⟩
    exact isSpare_of_unwanted (kept_or_released released) (unplugged_unfiltered h i) guest wanted
      unwanted

theorem notify_registry {h : Hub} {index : Nat} {i : Identifier}
    (noted : h.notices[index]? = some i) : (h.notify index).registry = h.unplugged i := by
  obtain ⟨_, _, _, notified⟩ := notify_eq noted
  rw [notified]

theorem notify_sessions_subset (h : Hub) (index : Nat) :
    (h.notify index).sessions ⊆ h.sessions := by
  cases noted : h.notices[index]? with
  | none =>
    rw [notify_absent noted]
    exact List.Subset.refl _
  | some i =>
    obtain ⟨_, _, _, notified⟩ := notify_eq noted
    rw [notified]
    exact List.filter_subset_self _

theorem mem_notify_iff {h : Hub} {index : Nat} {live : Live} (member : live ∈ h.sessions) :
    live ∈ (h.notify index).sessions ↔ ¬Undoes h live (.notify index) := by
  cases noted : h.notices[index]? with
  | none =>
    have nothing : h.move (.notify index) = h := notify_absent noted
    rw [notify_absent noted]
    refine iff_of_true member ?_
    intro undoes
    have lost := undoes.unwanted
    rw [nothing] at lost
    exact lost undoes.wanted
  | some i =>
    have registry : (h.move (.notify index)).registry = h.unplugged i := notify_registry noted
    obtain ⟨_, keys, released, notified⟩ := notify_eq noted
    have spare := isSpare_unplugged_iff released live
    rw [← registry] at spare
    rw [notified, ← not_iff_not, List.mem_filter, not_not]
    constructor
    · intro closed
      have doomed : isSpare (h.unplugged i) keys live = true := by
        by_contra kept
        exact closed ⟨member, by simpa using kept⟩
      obtain ⟨guest, wanted, unwanted⟩ := spare.mp (registry ▸ doomed)
      exact ⟨rfl, guest, wanted, unwanted⟩
    · rintro ⟨_, guest, wanted, unwanted⟩ ⟨_, kept⟩
      have doomed := spare.mpr ⟨guest, wanted, unwanted⟩
      rw [registry] at doomed
      rw [doomed] at kept
      cases kept

theorem Undoes.unlisted {h : Hub} (orderly : h.Orderly) {live : Live} (member : live ∈ h.sessions)
    {m : Move} (undoes : Undoes h live m) : ¬(h.move m).IsLive live.source := by
  cases m with
  | notify index =>
    intro listed
    have fewer := h.notify_sessions_subset index
    have still := (orderly.isLive_iff_mem fewer member).mp listed
    exact (mem_notify_iff member).mp still undoes
  | _ => cases undoes.announces

theorem Ends.unlisted {h : Hub} (orderly : h.Orderly) {live : Live} (member : live ∈ h.sessions)
    {m : Move} (ends : Ends h live m) : ¬(h.move m).IsLive live.source := by
  unfold IsLive
  cases m with
  | stop =>
    obtain ⟨_, stopped⟩ := stop_eq ends
    change live.source ∉ h.stop.sessions.map Live.source
    rw [stopped]
    exact List.not_mem_nil
  | discard =>
    have free : ¬h.isHeld = true := Bool.not_eq_true _ ▸ ends
    have given : h.move .discard = h.discard := if_neg free
    rw [given]
    exact List.not_mem_nil
  | disappeared port =>
    change live.source ∉ (h.disappeared port).sessions.map Live.source
    rw [(disappeared_closes h port).sessions]
    exact (orderly.unlisted_iff member).mpr ends
  | consume site =>
    obtain ⟨poller, port, rest, polling, first, same⟩ := ends
    have handles : h.handled (.consume site) = some (.disappeared port) :=
      Option.bind_eq_some_iff.mpr ⟨poller, polling, first ▸ rfl⟩
    obtain ⟨_, consumed⟩ := consume_handled handles
    change live.source ∉ (h.consume site).sessions.map Live.source
    rw [consumed]
    change live.source ∉ (disappeared _ port).sessions.map Live.source
    rw [(disappeared_closes _ port).sessions]
    exact (orderly.unlisted_iff member).mpr same
  | _ => exact ends.elim

theorem move_isLive_iff {h : Hub} (orderly : h.Orderly) {m : Move} (background : m.IsBackground)
    {live : Live} (member : live ∈ h.sessions) (lasting : live.session.ephemeral = false) :
    (h.move m).IsLive live.source ↔ ¬(Undoes h live m ∨ Ends h live m) := by
  rw [iff_not_comm]
  constructor
  · rintro (undoes | ends)
    · exact undoes.unlisted orderly member
    · exact ends.unlisted orderly member
  · intro unlisted
    rcases move_accounted orderly m with grows | ⟨gone, closing, closes⟩
    · exact (unlisted (grows.isLive (List.mem_map_of_mem member))).elim
    · have doomed := closes.gone_of_unlisted member unlisted
      cases closing with
      | ended at_index pending =>
        have ephemeral := (Bool.and_eq_true_iff.mp doomed).1
        rw [lasting] at ephemeral
        cases ephemeral
      | @announced index i keys noted released =>
        by_contra spared
        have still := (mem_notify_iff member).mpr fun undoes => spared (.inl undoes)
        exact unlisted (List.mem_map_of_mem still)
      | unplugged port => exact .inr doomed
      | polled polling first => exact .inr ⟨_, _, _, polling, first, doomed⟩
      | _ => exact background.elim

/-- At some point in a run the session with a source is taken: an announcement takes the last filter
that wants it, or its device is unplugged. -/
def IsTaken (h : Hub) (index : Nat) : List Move → Prop
  | [] => False
  | m :: moves =>
    (∃ live ∈ h.sessions, live.source = index ∧ (Undoes h live m ∨ Ends h live m)) ∨
      (h.move m).IsTaken index moves

theorem run_isLive_iff {h : Hub} (orderly : h.Orderly) {moves : List Move}
    (background : ∀ m ∈ moves, m.IsBackground) {live : Live} (member : live ∈ h.sessions)
    (lasting : live.session.ephemeral = false) :
    (h.run moves).IsLive live.source ↔ ¬h.IsTaken live.source moves := by
  induction moves generalizing h live with
  | nil => exact iff_of_true (List.mem_map_of_mem member) id
  | cons m moves ih =>
    obtain ⟨first, later⟩ := List.forall_mem_cons.mp background
    have orderly' := move_orderly orderly m
    have now : (∃ old ∈ h.sessions, old.source = live.source ∧ (Undoes h old m ∨ Ends h old m)) ↔
        ¬(h.move m).IsLive live.source := by
      rw [move_isLive_iff orderly first member lasting, not_not]
      constructor
      · rintro ⟨old, listed, same, taken⟩
        exact orderly.of_source_eq listed member same ▸ taken
      · exact fun taken => ⟨live, member, rfl, taken⟩
    change ((h.move m).run moves).IsLive live.source ↔ ¬(_ ∨ (h.move m).IsTaken live.source moves)
    rw [now]
    by_cases stays : (h.move m).IsLive live.source
    · obtain ⟨after, listed, continues⟩ := move_continued orderly member stays
      have rest := ih orderly' later listed (continues.ephemeral.trans lasting)
      rw [continues.source] at rest
      simp only [stays, not_true_eq_false, false_or, rest]
    · have bound := Nat.lt_of_lt_of_le (orderly.bounded member) (move_sources_le orderly m)
      have gone := run_unlisted orderly' bound stays moves
      simp only [stays, gone, not_false_eq_true, true_or, not_true_eq_false]

/-- A session that pending notices spare: it is native, no filter wants it, or one that wants it is
for none of the devices. -/
def IsSpared (h : Hub) (live : Live) : Prop :=
  live.session.native = true ∨ ¬Wants h.registry live.identifier ∨
    ∃ entry ∈ h.registry.filtered,
      entry.1.agrees live.identifier = true ∧ ∀ i ∈ h.notices, entry.1.agrees i = false

instance (h : Hub) (live : Live) : Decidable (h.IsSpared live) :=
  inferInstanceAs (Decidable (_ ∨ ¬(∃ entry ∈ h.registry.filtered, _) ∨
    ∃ entry ∈ h.registry.filtered, _ ∧ ∀ i ∈ h.notices, _))

theorem isSpared_of_silent {h : Hub} (silent : h.notices = []) (live : Live) : h.IsSpared live := by
  by_cases wanted : Wants h.registry live.identifier
  · obtain ⟨entry, entered, agree⟩ := wanted
    refine .inr (.inr ⟨entry, entered, agree, ?_⟩)
    rw [silent]
    exact List.forall_mem_nil _
  · exact .inr (.inl wanted)

theorem notify_isSpared_iff {h : Hub} {index : Nat} {i : Identifier}
    (noted : h.notices[index]? = some i) {live : Live} (kept : ¬Undoes h live (.notify index)) :
    (h.notify index).IsSpared live ↔ h.IsSpared live := by
  have registry := notify_registry noted
  have notices := notify_notices noted
  unfold IsSpared
  rw [registry, notices]
  by_cases native : live.session.native = true
  · simp only [native, true_or]
  by_cases still : Wants (h.unplugged i) live.identifier
  · have entries : (∃ entry ∈ (h.unplugged i).filtered, entry.1.agrees live.identifier = true ∧
        ∀ j ∈ h.notices.eraseIdx index, entry.1.agrees j = false) ↔
        ∃ entry ∈ h.registry.filtered, entry.1.agrees live.identifier = true ∧
          ∀ j ∈ h.notices, entry.1.agrees j = false := by
      apply exists_congr
      intro entry
      simp only [mem_unplugged, mem_notices_iff noted, forall_eq_or_imp]
      tauto
    have before := still.of_unplugged
    simp only [native, still, before, not_true_eq_false, false_or, entries]
  · have before : ¬Wants h.registry live.identifier := by
      intro wanted
      have guest : live.session.native = false := by simpa using native
      have lost : ¬Wants (h.move (.notify index)).registry live.identifier := registry ▸ still
      exact kept ⟨rfl, guest, wanted, lost⟩
    simp only [still, before, not_false_eq_true, true_or, or_true]

theorem not_isSpared_of_undoes {h : Hub} {index : Nat} {i : Identifier}
    (noted : h.notices[index]? = some i) {live : Live} (undoes : Undoes h live (.notify index)) :
    ¬h.IsSpared live := by
  have registry : (h.move (.notify index)).registry = h.unplugged i := notify_registry noted
  rintro (native | unwanted | ⟨entry, entered, agree, other⟩)
  · rw [undoes.guest] at native
    cases native
  · exact unwanted undoes.wanted
  · have refused := other i (List.mem_of_getElem? noted)
    have lost := undoes.unwanted
    rw [registry] at lost
    exact lost ⟨entry, mem_unplugged.mpr ⟨entered, refused⟩, agree⟩

/-- When everything that is pending has been announced, exactly the sessions that it spares are
left. -/
theorem run_isSpared_iff {h : Hub} (orderly : h.Orderly) {moves : List Move}
    (announcing : ∀ m ∈ moves, m.announces = true) (silent : (h.run moves).notices = [])
    {live : Live} (member : live ∈ h.sessions) :
    (h.run moves).IsLive live.source ↔ h.IsSpared live := by
  induction moves generalizing h with
  | nil => exact iff_of_true (List.mem_map_of_mem member) (isSpared_of_silent silent live)
  | cons m moves ih =>
    obtain ⟨first, later⟩ := List.forall_mem_cons.mp announcing
    have orderly' := move_orderly orderly m
    cases m with
    | notify index =>
      cases noted : h.notices[index]? with
      | none =>
        have nothing : h.move (.notify index) = h := notify_absent noted
        have same : h.run (.notify index :: moves) = h.run moves := congrArg (run · moves) nothing
        rw [same] at silent ⊢
        exact ih orderly later silent member
      | some i =>
        by_cases undoes : Undoes h live (.notify index)
        · have bound : live.source < (h.move (.notify index)).sources.length :=
            Nat.lt_of_lt_of_le (orderly.bounded member) (move_sources_le orderly _)
          have gone := undoes.unlisted orderly member
          exact iff_of_false (run_unlisted orderly' bound gone moves)
            (not_isSpared_of_undoes noted undoes)
        · have still := (mem_notify_iff member).mpr undoes
          exact (ih orderly' later silent still).trans (notify_isSpared_iff noted undoes)
    | _ => cases first

theorem Opens.new_live {h after : Hub} {opening : Opening} {port : Port}
    {result : Except Failure (Nat × Bool)} (opens : Opens h opening port result after) {live : Live}
    (listed : live ∈ after.sessions) (new : live ∉ h.sessions) :
    live.port = port ∧ live.session.ephemeral = false := by
  cases opens with
  | @opened mode script _ _ _ _ _ =>
    rcases List.mem_append.mp listed with old | last
    · exact (new old).elim
    · rw [List.mem_singleton.mp last]
      exact ⟨h.greeted_port port mode script.greeting,
        h.greeted_ephemeral port mode script.greeting⟩
  | _ => exact (new listed).elim

theorem appeared_new_live {h : Hub} {site : Site} {port : Port} {polled : Bool} {live : Live}
    (listed : live ∈ (h.appeared site port polled).2.sessions) (new : live ∉ h.sessions) :
    live.port = port ∧ live.session.ephemeral = false := by
  rcases h.appeared_cases site port polled with nothing | opened
  · exact (new (nothing ▸ listed)).elim
  · rw [opened] at listed
    exact (openPort_opens h site.opening port).new_live listed new

theorem plug_new_live {h : Hub} (orderly : h.Orderly) {m : Move} {q : Port}
    (plugs : h.handled m = some (.appeared q)) {live : Live} (member : live ∈ (h.move m).sessions)
    (entered : h.sources.length ≤ live.source) :
    live.port = q ∧ live.session.ephemeral = false := by
  have new : live ∉ h.sessions := by
    intro old
    have bound := orderly.bounded old
    omega
  cases m with
  | appeared site port =>
    obtain rfl : port = q := Presence.appeared.inj (Option.some.inj plugs)
    exact appeared_new_live member new
  | consume site =>
    obtain ⟨poller, consumed⟩ := consume_handled plugs
    change live ∈ (h.consume site).sessions at member
    rw [consumed] at member
    exact appeared_new_live (h := { h with poller }) member new
  | _ => cases plugs

/-- A device is unplugged, and before that is announced one is plugged, which may be the same again
or have its id under another name. If a session is opened for it, then it stays live until an
announcement takes the last filter that wants it, unless it is native, or until its own device is
unplugged. So when all that was pending has been announced it is live just if it was spared. -/
theorem run_replug (config : Config) (moves between : List Move) {unplug plug : Move} {p q : Port}
    (unplugs : ((fresh config).run moves).handled unplug = some (.disappeared p))
    (background : ∀ m ∈ between, m.IsBackground)
    (plugs : (((fresh config).run moves).run (unplug :: between)).handled plug =
      some (.appeared q)) :
    let h := (fresh config).run moves
    let gone := h.run (unplug :: between)
    let back := gone.move plug
    (∀ old ∈ h.sessions, old.port.same p = true →
      partingIdentifier h.sources old ∈ back.notices ∨
        ∃ early index late, between = early ++ .notify index :: late ∧
          (h.run (unplug :: early)).notices[index]? = some (partingIdentifier h.sources old)) ∧
      ∀ live ∈ back.sessions, gone.sources.length ≤ live.source →
        live.port = q ∧
          (∀ rest, (∀ m ∈ rest, m.IsBackground) →
            ((back.run rest).IsLive live.source ↔ ¬back.IsTaken live.source rest)) ∧
          ∀ rest, (∀ m ∈ rest, m.announces = true) → (back.run rest).notices = [] →
            ((back.run rest).IsLive live.source ↔ back.IsSpared live) := by
  intro h gone back
  have before : h.Orderly := run_orderly config moves
  have without : gone.Orderly := before.run (unplug :: between)
  have orderly : back.Orderly := move_orderly without plug
  constructor
  · intro old member on_port
    have noted := unplug_notices before unplugs old member on_port
    rcases pending_or_announced (move_orderly before unplug) background noted with
      pending | announced
    · obtain ⟨calm, quiet⟩ := handled_background plugs
      rcases move_notices without calm pending with still | ⟨index, rfl, _⟩
      · exact .inl still
      · cases quiet
    · exact .inr announced
  · intro live member new
    obtain ⟨port, lasting⟩ := plug_new_live without plugs member new
    refine ⟨port, ?_, ?_⟩
    · intro rest background
      exact run_isLive_iff orderly background member lasting
    · intro rest announcing silent
      exact run_isSpared_iff orderly announcing silent member

/-- A filter on the old name does not want the session on the new one, so the announcement of the
old device does not concern it. -/
theorem run_replug_renamed :
    let site := quietSite [⟨some "usb-1", "COM3"⟩]
    let h := (fresh {}).run [.start site, .appeared site ⟨some "usb-1", "COM3"⟩,
      .subscribeTo site (.ofPortName "COM3") "x"]
    let gone := h.move (.disappeared ⟨some "usb-1", "COM3"⟩)
    let back := gone.move (.appeared site ⟨some "usb-1", "COM4"⟩)
    ∃ live ∈ back.sessions, gone.sources.length ≤ live.source ∧
      (back.move (.notify 0)).notices = [] ∧ (back.move (.notify 0)).IsLive live.source := by
  intro site h gone back
  have unplugs : h.handled (.disappeared ⟨some "usb-1", "COM3"⟩) =
      some (.disappeared ⟨some "usb-1", "COM3"⟩) := rfl
  have plugs : gone.handled (.appeared site ⟨some "usb-1", "COM4"⟩) =
      some (.appeared ⟨some "usb-1", "COM4"⟩) := rfl
  obtain ⟨_, opened⟩ := run_replug {} _ [] unplugs (List.forall_mem_nil _) plugs
  let session : Session Relay :=
    { port := ⟨some "usb-1", "COM4"⟩
      mode := .historic
      identifier := .ofPort (some "usb-1") "COM4"
      listeners := [.hub] }
  have member : ⟨1, session⟩ ∈ back.sessions := by decide
  have spared : back.IsSpared ⟨1, session⟩ := by decide
  have silent : (back.move (.notify 0)).notices = [] := by decide
  obtain ⟨_, _, settled⟩ := opened ⟨1, session⟩ member (by decide)
  have announcing : ∀ m ∈ [Move.notify 0], m.announces = true := by decide
  exact ⟨_, member, by decide, silent, (settled [.notify 0] announcing silent).mpr spared⟩

/-- A filter on the id of a port wants the session under the new name too. It is taken by the
announcement of the old device, and the session goes with it. -/
theorem replug_undone :
    let site := quietSite [⟨some "usb-1", "COM3"⟩]
    let h := (fresh {}).run [.start site, .poll (.ok [⟨some "usb-1", "COM3"⟩]), .consume site,
      .subscribeTo site (.ofPortId "usb-1") "x", .poll (.ok [⟨some "usb-1", "COM4"⟩])]
    let gone := h.move (.consume site)
    let back := gone.move (.consume site)
    h.running = true ∧
      h.handled (.consume site) = some (.disappeared ⟨some "usb-1", "COM3"⟩) ∧
      gone.handled (.consume site) = some (.appeared ⟨some "usb-1", "COM4"⟩) ∧
      gone.sessions = [] ∧ back.sessions.map Live.source = [1] ∧
      gone.notices.length = 1 ∧ back.notices = gone.notices ∧
      (back.move (.notify 0)).notices = [] ∧ ¬(back.move (.notify 0)).IsLive 1 := by
  decide

end MeterHub.Hub
