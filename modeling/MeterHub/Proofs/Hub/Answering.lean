import MeterHub.Proofs.Hub.Queueing

/-!
How reads end. A read waits until its end comes, and then ends by the first event routed to it if
that has come to it in time, else because its time is over; the second may happen although an event
was routed to it, as long as the event still waits in its lane. After its end nothing changes its
result, and it is in no registry and has no open lane.
-/

set_option autoImplicit false
set_option relaxedAutoImplicit false

namespace MeterHub

namespace Read

/-- How a read ends by some events, of which the first one counts. -/
def verdict (key : Identifier) (timeout : Span) : List Event → Except Failure Capture
  | [] => .error (.readTimeout key timeout)
  | .frame capture :: _ => .ok capture
  | .fault f :: _ => .error (.fault f)

theorem outcome_eq {read : Read} {events : List Event} (answer : read.answer = events.head?) :
    read.outcome = verdict read.key read.timeout events := by
  unfold outcome
  rw [answer]
  cases events with
  | nil => rfl
  | cons event events => cases event <;> rfl

theorem hearAll_eq {read : Read} (pending : read.isPending = true) {heard : List Event}
    (answer : read.answer = heard.head?) (events : List Event) :
    events.foldl hear read = { read with answer := (heard ++ events).head? } := by
  induction events generalizing read heard with
  | nil =>
    rw [List.append_nil, ← answer]
    rfl
  | cons event events ih =>
    have waits : read.result = none := Option.isNone_iff_eq_none.mp pending
    have first : read.hear event = { read with answer := (heard ++ [event]).head? } := by
      unfold hear
      cases heard with
      | nil =>
        rw [List.head?_nil] at answer
        rw [answer, waits]
        rfl
      | cons earlier heard =>
        rw [List.head?_cons] at answer
        rw [answer]
        change read = { read with answer := some earlier }
        rw [← answer]
    let later : Read := { read with answer := (heard ++ [event]).head? }
    have still : later.isPending = true := pending
    have rest := ih still rfl
    rw [List.append_assoc] at rest
    rw [List.foldl_cons, first]
    exact rest

theorem hearAll_finished {read : Read} (finished : read.isPending = false) (events : List Event) :
    events.foldl hear read = read := by
  induction events with
  | nil => rfl
  | cons event events ih =>
    have deaf : read.hear event = read := by
      unfold hear
      cases result : read.result with
      | none =>
        unfold isPending at finished
        rw [result] at finished
        cases finished
      | some outcome => cases read.answer <;> rfl
    rw [List.foldl_cons, deaf]
    exact ih

/-- The result of a read in keeping with the events that were routed to it and those of them that
had come to it by its end. -/
structure Resolved (key : Identifier) (timeout : Span) (routed handed : List Event)
    (result : Except Failure Capture) : Prop where
  first : handed ≠ [] → result = verdict key timeout routed
  overdue : handed = [] → result = .error (.readTimeout key timeout)
  found : ∀ i, result ≠ .error (.identifierNotFound i)
  matched : ∀ capture, result = .ok capture → key.agrees capture.identifier = true

theorem resolved_verdict {key : Identifier} (timeout : Span) {routed handed waiting : List Event}
    (order : handed ++ waiting = routed)
    (matched : ∀ event ∈ routed, key.agrees event.identifier = true) :
    Resolved key timeout routed handed (verdict key timeout handed) := by
  subst order
  cases handed with
  | nil => exact ⟨fun some => (some rfl).elim, fun _ => rfl, nofun, nofun⟩
  | cons event handed =>
    have agrees := matched event List.mem_cons_self
    cases event with
    | frame capture =>
      refine ⟨fun _ => rfl, nofun, nofun, ?_⟩
      intro other same
      have own : capture = other := Except.ok.inj same
      exact own ▸ agrees
    | fault f => exact ⟨fun _ => rfl, nofun, nofun, nofun⟩

end Read

namespace Hub

theorem takeUp_read {h : Hub} {index : Nat} {read : Read} (at_index : h.reads[index]? = some read)
    (lane : Nat) :
    (h.takeUp lane).reads[index]? =
      some ((h.handedTo (.reader index) (.takeUp lane)).foldl Read.hear read) := by
  have handing : h.handedTo (.reader index) (.takeUp lane) =
      Happening.handedIn (h.lanes.happens (.reader index) (.take lane)).toList := rfl
  rw [handing]
  unfold takeUp
  cases next : h.lanes.next? lane with
  | none =>
    rw [Lanes.happens_take_of_none next]
    exact at_index
  | some handed =>
    obtain ⟨s, event⟩ := handed
    rw [Lanes.happens_take_of_next next]
    cases s with
    | listener name => exact at_index
    | reader other =>
      change (h.reads.modify other fun read => read.hear event)[index]? = _
      rw [List.getElem?_modify, at_index]
      by_cases own : other = index
      · subst own
        rw [if_pos rfl]
        exact congrArg some (if_pos rfl)
      · have apart : Subscriber.reader other ≠ .reader index :=
          fun same => own (Subscriber.reader.inj same)
        rw [if_neg apart]
        exact congrArg some (if_neg own)

theorem move_read {h : Hub} (orderly : h.Orderly) {m : Move} {index : Nat} {read : Read}
    (at_index : h.reads[index]? = some read) (goesOn : m ≠ .endRead index) :
    (h.move m).reads[index]? = some ((h.handedTo (.reader index) m).foldl Read.hear read) := by
  have still {h' : Hub} (reads : h'.reads = h.reads) : h'.reads[index]? = some read :=
    reads ▸ at_index
  cases m with
  | start site => exact still (h.start_readers site).2
  | stop =>
    by_cases running : h.running = true
    · obtain ⟨_, stopped⟩ := stop_eq running
      exact still (congrArg Hub.reads stopped :)
    · exact still (congrArg Hub.reads (if_neg running))
  | subscribe name => exact at_index
  | unsubscribe name =>
    obtain ⟨_, unsubscribed⟩ := h.unsubscribe_eq (.listener name)
    exact still (congrArg Hub.reads unsubscribed :)
  | subscribeTo site key name =>
    have attaches := attach_attaches h site key (.listener name)
    have same : (h.attach site key (.listener name)).2.reads = h.reads := by
      generalize (h.attach site key (.listener name)).1 = result at attaches
      generalize (h.attach site key (.listener name)).2 = after at attaches ⊢
      cases attaches <;> rfl
    rw [← subscribeTo_eq] at same
    exact still same
  | unsubscribeFrom key name =>
    obtain ⟨_, unsubscribed⟩ := h.unsubscribeFrom_eq key (.listener name)
    exact still (congrArg Hub.reads unsubscribed :)
  | appeared site port => exact still (h.appeared_readers site port false).2
  | disappeared port => exact still (h.disappeared_readers port).2
  | beginRead site key timeout =>
    have bounded : ∀ live ∈ h.sessions, live.source < h.sources.length :=
      fun live member => orderly.bounded member
    have begins := beginRead_begins bounded site key timeout
    change (h.beginRead site key timeout).reads[index]? = some read
    generalize h.beginRead site key timeout = after at begins ⊢
    cases begins <;> exact entered_still at_index _
  | endRead other =>
    have different : other ≠ index := fun same => goesOn (congrArg Move.endRead same)
    change (h.endRead other).reads[index]? = some read
    rcases h.endRead_cases other with nothing | ⟨ending, at_other, pending⟩
    · rw [nothing]
      exact at_index
    · obtain ⟨_, ended⟩ := endRead_eq at_other pending
      rw [ended]
      exact (List.getElem?_set_ne different).trans at_index
  | report source signal =>
    obtain ⟨_, reported⟩ := report_eq orderly.distinct source signal
    exact still (congrArg Hub.reads reported :)
  | notify place =>
    cases noted : h.notices[place]? with
    | none => exact still (congrArg Hub.reads (notify_absent noted))
    | some i =>
      obtain ⟨_, _, _, notified⟩ := notify_eq noted
      exact still (congrArg Hub.reads notified :)
  | poll ports => exact at_index
  | refill => exact at_index
  | consume site => exact still (h.consume_readers site).2
  | takeUp lane => exact takeUp_read at_index lane
  | finish lane panicked => exact at_index
  | discard =>
    by_cases held : h.isHeld = true
    · exact still (congrArg Hub.reads (if_pos held))
    · have given : h.move .discard = h.discard := if_neg held
      exact still (congrArg Hub.reads given :)

theorem move_finished {h : Hub} (orderly : h.Orderly) (m : Move) {index : Nat} {read : Read}
    (at_index : h.reads[index]? = some read) (finished : read.isPending = false) :
    (h.move m).reads[index]? = some read := by
  by_cases again : m = .endRead index
  · subst again
    change (h.endRead index).reads[index]? = some read
    rw [endRead_finished at_index finished]
    exact at_index
  · rw [move_read orderly at_index again, Read.hearAll_finished finished]

theorem run_finished {h : Hub} (orderly : h.Orderly) {index : Nat} {read : Read}
    (at_index : h.reads[index]? = some read) (finished : read.isPending = false)
    (moves : List Move) : (h.run moves).reads[index]? = some read := by
  induction moves generalizing h with
  | nil => exact at_index
  | cons m moves ih =>
    exact ih (move_orderly orderly m) (move_finished orderly m at_index finished)

theorem contains_before {h : Hub} (regular : h.Regular) (m : Move) {index : Nat}
    (begun : index < h.reads.length)
    (entered : (h.move m).registry.contains (.reader index) = true) :
    h.registry.contains (.reader index) = true := by
  have registered := (move_regular regular m).registered
  rcases Registry.contains_iff.mp entered with listed | ⟨key, listed⟩
  · exact (registered.filtered index listed).elim
  · refine Registry.contains_iff.mpr (.inr ⟨key, ?_⟩)
    cases move_enrolment regular.wired.orderly m with
    | kept entries answered length => exact (entries key index).mp listed
    | begun read pending reads registry =>
      rw [registry] at listed
      rcases Registry.mem_subscribeTo.mp listed with old | new
      · exact old
      · have last := Subscriber.reader.inj (Prod.mk.inj new).2
        omega
    | refused read finished reads registry => exact registry ▸ listed
    | ended at_index finished reads registry =>
      rw [registry] at listed
      exact (Registry.mem_unsubscribeFrom.mp listed).1
    | dismissed dismisses fewer reads => exact fewer _ listed

theorem Registered.agrees_of_told {h : Hub} (registered : h.Registered) {index : Nat} {read : Read}
    (at_index : h.reads[index]? = some read) {i : Identifier}
    (told : IsTold h.registry (.reader index) i) : read.key.agrees i = true := by
  rcases told with listed | ⟨key, entered, agree⟩
  · exact (registered.filtered index listed).elim
  · obtain ⟨other, awaits, rfl⟩ := registered.enrolled key index entered
    exact awaits.eq at_index ▸ agree

/-- A read waits, having heard what it was handed; what was queued for it is in keeping with its
key, and what it is yet to be handed waits in its only lane. -/
structure Progress (h : Hub) (index : Nat) (key : Identifier) (timeout : Span)
    (queued handed : List Event) : Prop where
  at_index : h.reads[index]? = some { key, timeout, answer := handed.head? }
  lane : h.HasOneLane (.reader index)
  order : handed ++ h.lanes.waitingFor (.reader index) = queued
  matched : ∀ event ∈ queued, key.agrees event.identifier = true

theorem beginRead_granted {h : Hub} {site : Site} {key : Identifier} (timeout : Option Span)
    {opened : Option Nat} (granted : (h.attach site key (.reader h.reads.length)).1 = .ok opened) :
    (h.beginRead site key timeout).reads =
        h.reads ++ [{ key, timeout := timeout.getD h.config.readTimeout }] ∧
      (h.beginRead site key timeout).registry =
        (h.registry.subscribeTo key (.reader h.reads.length)).2 := by
  have attaches := attach_attaches h site key (.reader h.reads.length)
  unfold beginRead
  cases outcome : h.attach site key (.reader h.reads.length) with
  | mk result after =>
    rw [outcome] at attaches granted
    change result = .ok opened at granted
    subst granted
    change Attaches h site key (.reader h.reads.length) (.ok opened) after at attaches
    have same : after.reads = h.reads ∧
        after.registry = (h.registry.subscribeTo key (.reader h.reads.length)).2 := by
      cases attaches <;> exact ⟨rfl, rfl⟩
    cases opened with
    | none => exact ⟨congrArg (· ++ _) same.1, same.2⟩
    | some index => exact ⟨congrArg (· ++ _) same.1, same.2⟩

theorem beginRead_progress {h : Hub} (regular : h.Regular) {site : Site} {key : Identifier}
    (timeout : Option Span) {opened : Option Nat}
    (granted : (h.attach site key (.reader h.reads.length)).1 = .ok opened) :
    (h.move (.beginRead site key timeout)).Progress h.reads.length key
      (timeout.getD h.config.readTimeout)
      (h.queuedFor (.reader h.reads.length) (.beginRead site key timeout)) [] := by
  let s : Subscriber := .reader h.reads.length
  let begun := h.move (.beginRead site key timeout)
  have none : h.lanes.lanesOf s = [] := regular.lanesOf_eq_nil (Nat.le_refl _)
  have single : Lane.Single (begun.registry.contains s = true) (h.lanes.lanesOf s) := by
    rw [none]
    exact ⟨Nat.zero_le _, fun _ => List.forall_mem_nil _⟩
  obtain ⟨reads, registry⟩ := beginRead_granted timeout granted
  obtain ⟨⟨between, first, second⟩, _⟩ :=
    move_tended regular.wired regular.registered (m := .beginRead site key timeout) rfl
  have entering : h.entering (.beginRead site key timeout) = begun.registry := registry.symm
  rw [entering] at first
  have lane : begun.HasOneLane s :=
    second.single_lane (first.queues regular.tidy s).1 (first.single_lane regular.tidy single)
  have waiting := (move_queues regular (m := .beginRead site key timeout) rfl s).2
  have at_index : begun.reads[h.reads.length]? =
      some { key, timeout := timeout.getD h.config.readTimeout } := by
    change (h.beginRead site key timeout).reads[h.reads.length]? = _
    rw [reads, List.getElem?_concat_length]
  have empty : h.lanes.waitingFor s = [] := by
    unfold Lanes.waitingFor
    rw [none]
    rfl
  refine ⟨at_index, lane, ?_, ?_⟩
  · rw [empty, List.nil_append] at waiting
    exact waiting
  · intro event member
    have told : IsTold begun.registry s event.identifier :=
      (told_of_queuedFor regular.wired member).elim (fun asked => entering ▸ asked) id
    exact (move_regular regular _).registered.agrees_of_told at_index told

theorem Progress.move {h : Hub} (regular : h.Regular) {index : Nat} {key : Identifier}
    {timeout : Span} {queued handed : List Event}
    (progress : h.Progress index key timeout queued handed) {m : Move}
    (goesOn : m ≠ .endRead index) :
    (h.move m).Progress index key timeout (queued ++ h.queuedFor (.reader index) m)
      (handed ++ h.handedTo (.reader index) m) := by
  have begun : index < h.reads.length := (List.getElem?_eq_some_iff.mp progress.at_index).1
  obtain ⟨lane, order⟩ := move_keepsLane regular (contains_entering_reader begun)
    (contains_before regular m begun) progress.lane
  have later := move_read regular.wired.orderly progress.at_index goesOn
  rw [Read.hearAll_eq rfl rfl] at later
  refine ⟨later, lane, ?_, ?_⟩
  · rw [List.append_assoc, order, ← List.append_assoc, progress.order]
  · intro event member
    rcases List.mem_append.mp member with old | new
    · exact progress.matched event old
    · -- a reader is told events by its only entry, which asks for the key of the read
      rcases told_of_queuedFor regular.wired new with before | after
      · exact regular.registered.agrees_of_told progress.at_index
          (isTold_entering_reader begun before)
      · exact (move_regular regular m).registered.agrees_of_told later after

theorem Progress.run {h : Hub} (regular : h.Regular) {index : Nat} {key : Identifier}
    {timeout : Span} {queued handed : List Event}
    (progress : h.Progress index key timeout queued handed) {moves : List Move}
    (goesOn : ∀ m ∈ moves, m ≠ .endRead index) :
    (h.run moves).Progress index key timeout (queued ++ h.queuedIn (.reader index) moves)
      (handed ++ h.handedIn (.reader index) moves) := by
  induction moves generalizing h queued handed with
  | nil =>
    change h.Progress index key timeout (queued ++ []) (handed ++ [])
    rw [List.append_nil, List.append_nil]
    exact progress
  | cons m moves ih =>
    obtain ⟨now, later⟩ := List.forall_mem_cons.mp goesOn
    have rest := ih (move_regular regular m) (progress.move regular now) later
    rw [List.append_assoc, List.append_assoc] at rest
    exact rest

theorem Progress.ends {h : Hub} {index : Nat} {key : Identifier} {timeout : Span}
    {queued handed : List Event} (progress : h.Progress index key timeout queued handed) :
    ∃ read, (h.move (.endRead index)).reads[index]? = some read ∧
      read.result = some (Read.verdict key timeout handed) := by
  let read : Read := { key, timeout, answer := handed.head? }
  have pending : read.isPending = true := rfl
  have answer : read.answer = handed.head? := rfl
  obtain ⟨_, ended⟩ := endRead_eq progress.at_index pending
  have bound : index < h.reads.length := (List.getElem?_eq_some_iff.mp progress.at_index).1
  refine ⟨{ read with result := some read.outcome }, ?_, ?_⟩
  · change (h.endRead index).reads[index]? = _
    rw [ended]
    exact List.getElem?_set_self bound
  · rw [Read.outcome_eq answer]

theorem Regular.gone {h : Hub} (regular : h.Regular) {index : Nat} {read : Read}
    (at_index : h.reads[index]? = some read) (finished : read.isPending = false) :
    h.isSubscribed (.reader index) = false ∧ .reader index ∉ h.lanes.openListeners := by
  have gone : h.isSubscribed (.reader index) = false := by
    rw [← Bool.not_eq_true]
    intro entered
    obtain ⟨other, awaits⟩ := regular.registered.contains_reader.mp entered
    have waits := awaits.pending
    rw [awaits.eq at_index, finished] at waits
    cases waits
  refine ⟨gone, ?_⟩
  intro isOpen
  have entered := regular.housed _ isOpen
  rw [gone] at entered
  cases entered

/-- A read that finds a session waits until its end, whatever else happens. All that is routed to it
comes to it in order. If something has come to it by its end, it ends by the first event that was
routed to it; else its time is over, even if something still waits in its lane. It is never told
that nothing was found, and returns no frame that its key does not match. From then on its result
stays, and it has neither an entry nor an open lane. -/
theorem run_read (config : Config) (before : List Move) (site : Site) (key : Identifier)
    (timeout : Option Span) (moves : List Move) :
    let h := (fresh config).run before
    let index := h.reads.length
    let span := timeout.getD config.readTimeout
    let begun := h.move (.beginRead site key timeout)
    let due := begun.run moves
    let after := due.move (.endRead index)
    let routed := h.queuedIn (.reader index) (.beginRead site key timeout :: moves)
    let handed := begun.handedIn (.reader index) moves
    (∃ opened, (h.attach site key (.reader index)).1 = .ok opened) →
    (∀ m ∈ moves, m ≠ .endRead index) →
      (∀ front, front <+: moves →
        ∃ read, (begun.run front).reads[index]? = some read ∧ read.isPending = true) ∧
      handed ++ due.lanes.waitingFor (.reader index) = routed ∧
      ∃ result, Read.Resolved key span routed handed result ∧
        ∀ later,
          (∃ read, (after.run later).reads[index]? = some read ∧ read.result = some result) ∧
          (after.run later).isSubscribed (.reader index) = false ∧
          .reader index ∉ (after.run later).lanes.openListeners := by
  intro h index span begun due after routed handed lookup goesOn
  obtain ⟨opened, granted⟩ := lookup
  have regular : h.Regular := run_regular (fresh_regular config) before
  have begunRegular : begun.Regular := move_regular regular _
  have first := beginRead_progress regular timeout granted
  rw [run_config] at first
  have last : due.Progress index key span routed handed := first.run begunRegular goesOn
  obtain ⟨read, at_index, result⟩ := last.ends
  have finished : read.isPending = false := by
    unfold Read.isPending
    rw [result]
    rfl
  have afterRegular : after.Regular := move_regular (run_regular begunRegular moves) _
  refine ⟨?_, last.order, Read.verdict key span handed,
    Read.resolved_verdict span last.order last.matched, ?_⟩
  · rintro front ⟨back, rfl⟩
    have midway := first.run begunRegular fun m member =>
      goesOn m (List.mem_append_left back member)
    exact ⟨_, midway.at_index, rfl⟩
  · intro later
    have stays := run_finished afterRegular.wired.orderly at_index finished later
    exact ⟨⟨read, stays, result⟩, (run_regular afterRegular later).gone stays finished⟩

/-- The second of two reads on a port is handed its frame after the hub has stopped, and returns
it. -/
theorem run_read_stopped :
    let site := quietSite [⟨none, "a"⟩]
    let before := [.start site, .beginRead site (.ofPortName "a") none]
    let h := (fresh {}).run before
    let second := h.reads.length
    let moves := [.report 0 (.frame (.historicSample "1")), .stop, .takeUp 1]
    let begun := h.move (.beginRead site (.ofPortName "a") none)
    let after := (begun.run moves).move (.endRead second)
    let capture : Capture := ⟨⟨none, some "a", some "1", rfl⟩, .historic, .historicSample "1"⟩
    ∀ later,
      (∃ read, (after.run later).reads[second]? = some read ∧ read.result = some (.ok capture)) ∧
        .reader second ∉ (after.run later).lanes.openListeners := by
  intro site before h second moves begun after capture later
  have granted : (h.attach site (.ofPortName "a") (.reader second)).1 = .ok none := by rfl
  have goesOn : ∀ m ∈ moves, m ≠ .endRead second := by
    simp [moves]
  obtain ⟨_, _, result, resolved, final⟩ :=
    run_read {} before site (.ofPortName "a") none moves ⟨none, granted⟩ goesOn
  have told : h.queuedIn (.reader second) (.beginRead site (.ofPortName "a") none :: moves) =
      [.frame capture] := by decide
  have handed : begun.handedIn (.reader second) moves ≠ [] := by decide
  have answered : result = .ok capture :=
    (resolved.first handed).trans (congrArg (Read.verdict _ _) told)
  obtain ⟨stays, _, gone⟩ := final later
  rw [answered] at stays
  exact ⟨stays, gone⟩

/-- A frame is routed to a read while its session is being opened, but the read is over before its
lane hands the frame over, and so does not end by the first event that was routed to it. -/
theorem run_read_overdue :
    let site : Site := { quietSite [⟨none, "a"⟩] with
      opening := fun _ _ => .ok { greeting := [.frame (.historicSample "1")] } }
    let key : Identifier := .ofPortName "a"
    let span : Span := ⟨0, 0, by decide, by decide⟩
    let after := (fresh {}).run [.beginRead site key (some span), .endRead 0]
    let routed := (fresh {}).queuedIn (.reader 0) [.beginRead site key (some span), .endRead 0]
    let capture : Capture := ⟨⟨none, some "a", some "1", rfl⟩, .historic, .historicSample "1"⟩
    routed = [.frame capture] ∧
      after.reads.map Read.result = [some (.error (.readTimeout key span))] ∧
      after.reads.map Read.result ≠ [some (Read.verdict key span routed)] := by
  intro site key span after routed capture
  have told : routed = [.frame capture] := by decide
  have ended : after.reads.map Read.result = [some (.error (.readTimeout key span))] := by rfl
  refine ⟨told, ended, ?_⟩
  rw [told, ended]
  exact nofun

end Hub

end MeterHub
