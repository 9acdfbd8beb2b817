import Mathlib.Data.List.Basic
import MeterHub.Proofs.Session.Trace
import MeterHub.Session.Rounds

/-!
Histories of a session: listeners come, its source speaks, rounds go on call by call, and it is
stopped any number of times, also inside a callback. Each round calls those who had come since the
last stop when it began, one by one and no one else. So a stop silences all later rounds for whoever
came before it, and it leaves the rounds that are under way alone.
-/

set_option autoImplicit false
set_option relaxedAutoImplicit false

namespace MeterHub.Session

/-- The signal that an act brings. -/
def Act.signal? {σ : Type} : Act σ → Option Signal
  | .hear signal => some signal
  | _ => none

variable {σ : Type}

/-- The signals that some acts bring, in order. -/
def heard (acts : List (Act σ)) : List Signal := acts.filterMap Act.signal?

theorem heard_append (acts more : List (Act σ)) : heard (acts ++ more) = heard acts ++ heard more :=
  List.filterMap_append

/-- A listener came during some acts, and no stop came to its end after that. -/
def Attached (acts : List (Act σ)) (listener : σ) : Prop :=
  ∃ earlier later, acts = earlier ++ .listen listener :: later ∧ .stop ∉ later

theorem attached_concat {acts : List (Act σ)} {a : Act σ} {listener : σ} :
    Attached (acts ++ [a]) listener ↔
      a = .listen listener ∨ Attached acts listener ∧ a ≠ .stop := by
  constructor
  · rintro ⟨earlier, later, split, unstopped⟩
    rcases List.eq_nil_or_concat later with rfl | ⟨later, last, rfl⟩
    · exact .inl (List.singleton_inj.mp (List.append_inj' split rfl).2)
    · rw [List.concat_eq_append] at split unstopped
      rw [← List.cons_append, ← List.append_assoc] at split
      obtain ⟨rfl, same⟩ := List.append_inj' split rfl
      obtain rfl := List.singleton_inj.mp same
      refine .inr ⟨⟨earlier, later, rfl, fun listed => ?_⟩, fun stops => ?_⟩
      · exact unstopped (List.mem_append_left _ listed)
      · exact unstopped (List.mem_append_right _ (List.mem_singleton.mpr stops.symm))
  · rintro (rfl | ⟨⟨earlier, later, rfl, unstopped⟩, goesOn⟩)
    · exact ⟨acts, [], rfl, List.not_mem_nil⟩
    · refine ⟨earlier, later ++ [a], by simp, fun listed => ?_⟩
      rcases List.mem_append.mp listed with before | only
      · exact unstopped before
      · exact goesOn (List.mem_singleton.mp only).symm

theorem attached_nil (listener : σ) : ¬Attached [] listener := by
  rintro ⟨earlier, later, split, _⟩
  simp at split

theorem attached_since {before since : List (Act σ)} {listener : σ} :
    Attached (before ++ .stop :: since) listener ↔ Attached since listener := by
  induction since using List.reverseRecOn with
  | nil =>
    rw [attached_concat]
    refine iff_of_false ?_ (attached_nil listener)
    rintro (never | ⟨_, never⟩)
    · cases never
    · exact never rfl
  | append_singleton since a ih =>
    rw [← List.cons_append, ← List.append_assoc, attached_concat, ih, attached_concat]

theorem Attached.listened {acts : List (Act σ)} {listener : σ} (attached : Attached acts listener) :
    .listen listener ∈ acts := by
  obtain ⟨earlier, later, rfl, _⟩ := attached
  simp

theorem exists_hear (acts : List (Act σ)) {place : Nat} (early : place < (heard acts).length) :
    ∃ since signal rest, acts = since ++ .hear signal :: rest ∧ (heard since).length = place := by
  induction acts generalizing place with
  | nil => exact (Nat.not_lt_zero place early).elim
  | cons a acts ih =>
    cases brought : a.signal? with
    | none =>
      have same : heard (a :: acts) = heard acts := List.filterMap_cons_none brought
      rw [same] at early
      obtain ⟨since, signal, rest, rfl, number⟩ := ih early
      refine ⟨a :: since, signal, rest, rfl, ?_⟩
      rw [← number]
      exact congrArg List.length (List.filterMap_cons_none brought)
    | some signal =>
      have more : ∀ acts : List (Act σ), heard (a :: acts) = signal :: heard acts :=
        fun _ => List.filterMap_cons_some brought
      cases place with
      | zero =>
        cases a with
        | hear signal => exact ⟨[], signal, acts, rfl, rfl⟩
        | _ => cases brought
      | succ place =>
        rw [more] at early
        obtain ⟨since, signal, rest, rfl, number⟩ := ih (Nat.lt_of_succ_lt_succ early)
        refine ⟨a :: since, signal, rest, rfl, ?_⟩
        rw [more, List.length_cons, number]

namespace Busy

theorem proceed_due {b : Busy σ} {index : Nat} {event : Event} {listener : σ} {due : List σ}
    (begun : b.rounds[index]? = some ⟨event, listener :: due⟩) :
    b.proceed index =
      (some ⟨index, listener, event⟩, { b with rounds := b.rounds.set index ⟨event, due⟩ }) := by
  unfold proceed
  rw [begun]

theorem proceed_done {b : Busy σ} {index : Nat}
    (done : ∀ round, b.rounds[index]? = some round → round.due = []) :
    b.proceed index = (none, b) := by
  unfold proceed
  split
  · rename_i begun
    cases done _ begun
  · rfl

theorem proceed_cases (b : Busy σ) (index : Nat) :
    (∃ event listener due, b.rounds[index]? = some ⟨event, listener :: due⟩) ∨
      ∀ round, b.rounds[index]? = some round → round.due = [] := by
  cases begun : b.rounds[index]? with
  | none => exact .inr nofun
  | some round =>
    obtain ⟨event, _ | ⟨listener, due⟩⟩ := round
    · refine .inr ?_
      rintro _ ⟨⟩
      rfl
    · exact .inl ⟨event, listener, due, rfl⟩

theorem proceed_session (b : Busy σ) (index : Nat) : (b.proceed index).2.session = b.session := by
  obtain ⟨event, listener, due, begun⟩ | done := proceed_cases b index
  · rw [proceed_due begun]
  · rw [proceed_done done]

/-- The calls that belong to a round, as far as it has come. -/
def made (round : Round σ) (index turns : Nat) : List (Call σ) :=
  (round.due.take turns).map fun listener => ⟨index, listener, round.event⟩

theorem mem_made {round : Round σ} {index turns : Nat} {call : Call σ}
    (member : call ∈ made round index turns) :
    call.event = round.event ∧ call.listener ∈ round.due := by
  obtain ⟨listener, due, rfl⟩ := List.mem_map.mp member
  exact ⟨rfl, List.mem_of_mem_take due⟩

variable [DecidableEq σ]

def turns (round : Nat) (acts : List (Act σ)) : Nat := acts.count (.call round)

theorem turns_cons (index : Nat) (a : Act σ) (acts : List (Act σ)) :
    turns index (a :: acts) = turns index [a] + turns index acts := by
  unfold turns
  rw [List.count_cons, List.count_singleton, Nat.add_comm]

theorem turns_other {index : Nat} {a : Act σ} (other : a ≠ .call index) : turns index [a] = 0 := by
  unfold turns
  rw [List.count_singleton, if_neg]
  simpa using other

theorem act_round {b : Busy σ} {index : Nat} {round : Round σ}
    (begun : b.rounds[index]? = some round) (a : Act σ) :
    ((b.act a).1.toList.filter fun call => call.round = index) =
        made round index (turns index [a]) ∧
      (b.act a).2.rounds[index]? = some { round with due := round.due.drop (turns index [a]) } := by
  have bound : index < b.rounds.length := (List.getElem?_eq_some_iff.mp begun).1
  cases a with
  | call other =>
    change ((b.proceed other).1.toList.filter _) = _ ∧ (b.proceed other).2.rounds[index]? = _
    by_cases own : other = index
    · subst own
      have once : turns other [(.call other : Act σ)] = 1 := List.count_singleton_self ..
      obtain ⟨event, _ | ⟨listener, due⟩⟩ := round
      · have done : ∀ round, b.rounds[other]? = some round → round.due = [] := by
          rw [begun]
          rintro _ ⟨⟩
          rfl
        rw [proceed_done done, once]
        exact ⟨rfl, begun⟩
      · rw [proceed_due begun, once]
        simp [made, bound]
    · rw [turns_other fun same => own (Act.call.inj same)]
      obtain ⟨event, listener, due, others⟩ | done := proceed_cases b other
      · rw [proceed_due others]
        simp [made, own, begun]
      · rw [proceed_done done]
        simp [made, begun]
  | hear signal =>
    simp [act, made, turns, List.getElem?_append_left bound, begun]
  | listen _ | stop | markNative | markEphemeral =>
    simp [act, made, turns, begun]

theorem run_round {b : Busy σ} {index : Nat} {round : Round σ}
    (begun : b.rounds[index]? = some round) (acts : List (Act σ)) :
    ((b.run acts).1.filter fun call => call.round = index) =
      made round index (turns index acts) := by
  induction acts generalizing b round with
  | nil => simp [run, made, turns]
  | cons a acts ih =>
    obtain ⟨first, later⟩ := act_round begun a
    have rest := ih later
    change (((b.act a).1.toList ++ ((b.act a).2.run acts).1).filter _) = _
    rw [List.filter_append, first, rest, turns_cons index a acts]
    unfold made
    rw [← List.map_append, List.take_add]

theorem length_rounds_act (b : Busy σ) (a : Act σ) :
    (b.act a).2.rounds.length = b.rounds.length + (heard [a]).length := by
  cases a with
  | hear signal => simp [act, heard, Act.signal?]
  | call index =>
    change (b.proceed index).2.rounds.length = b.rounds.length
    obtain ⟨event, listener, due, begun⟩ | done := proceed_cases b index
    · rw [proceed_due begun, List.length_set]
    · rw [proceed_done done]
  | listen _ | stop | markNative | markEphemeral => simp [act, heard, Act.signal?]

theorem length_rounds (b : Busy σ) (acts : List (Act σ)) :
    (b.run acts).2.rounds.length = b.rounds.length + (heard acts).length := by
  induction acts generalizing b with
  | nil => rfl
  | cons a acts ih =>
    have more : heard (a :: acts) = heard [a] ++ heard acts := heard_append [a] acts
    change ((b.act a).2.run acts).2.rounds.length = _
    rw [ih, length_rounds_act, more, List.length_append, Nat.add_assoc]

theorem run_append (b : Busy σ) (acts more : List (Act σ)) :
    b.run (acts ++ more) =
      ((b.run acts).1 ++ ((b.run acts).2.run more).1, ((b.run acts).2.run more).2) := by
  induction acts generalizing b with
  | nil => rfl
  | cons a acts ih => simp only [List.cons_append, run, ih, List.append_assoc]

theorem run_concat (b : Busy σ) (acts : List (Act σ)) (a : Act σ) :
    (b.run (acts ++ [a])).2 = ((b.run acts).2.act a).2 := by
  rw [run_append]
  rfl

theorem act_call {b : Busy σ} {a : Act σ} {call : Call σ} (made : (b.act a).1 = some call) :
    call.round < b.rounds.length := by
  cases a with
  | call index =>
    change (b.proceed index).1 = some call at made
    obtain ⟨event, listener, due, begun⟩ | done := proceed_cases b index
    · rw [proceed_due begun] at made
      cases made
      exact (List.getElem?_eq_some_iff.mp begun).1
    · rw [proceed_done done] at made
      cases made
  | hear _ | listen _ | stop | markNative | markEphemeral => cases made

theorem run_calls {b : Busy σ} {acts : List (Act σ)} {call : Call σ}
    (made : call ∈ (b.run acts).1) : call.round < b.rounds.length + (heard acts).length := by
  induction acts generalizing b with
  | nil => cases made
  | cons a acts ih =>
    have more : heard (a :: acts) = heard [a] ++ heard acts := heard_append [a] acts
    rw [more, List.length_append]
    change call ∈ (b.act a).1.toList ++ ((b.act a).2.run acts).1 at made
    rcases List.mem_append.mp made with now | later
    · have bound := act_call (Option.mem_toList.mp now)
      omega
    · have bound := ih later
      rw [length_rounds_act] at bound
      omega

theorem mem_act_listeners {b : Busy σ} {a : Act σ} {listener : σ} :
    listener ∈ (b.act a).2.session.listeners ↔
      a = .listen listener ∨ listener ∈ b.session.listeners ∧ a ≠ .stop := by
  cases a with
  | listen other =>
    change listener ∈ (b.session.listen other).listeners ↔ _
    rw [listen_eq]
    simp [Distinct.mem_add, or_comm, eq_comm]
  | hear signal =>
    change listener ∈ (b.session.hear signal).2.listeners ↔ _
    simp [hear_listeners]
  | call index =>
    change listener ∈ (b.proceed index).2.session.listeners ↔ _
    rw [proceed_session]
    simp
  | stop =>
    change listener ∈ [] ↔ _
    simp
  | markNative | markEphemeral =>
    change listener ∈ b.session.listeners ↔ _
    simp

theorem nodup_act {b : Busy σ} (once : b.session.listeners.Nodup) (a : Act σ) :
    (b.act a).2.session.listeners.Nodup := by
  cases a with
  | listen other =>
    change (b.session.listen other).listeners.Nodup
    rw [listen_eq]
    exact Distinct.nodup_add once other
  | hear signal => exact (hear_listeners b.session signal).symm ▸ once
  | call index => exact (b.proceed_session index).symm ▸ once
  | stop => exact .nil
  | markNative | markEphemeral => exact once

theorem tracks_act {port : Port} {heard : List Signal} {b : Busy σ}
    (tracks : Tracks port heard b.session) (a : Act σ) :
    Tracks port (heard ++ Session.heard [a]) (b.act a).2.session := by
  cases a with
  | hear signal => exact (tracks.hear signal).2
  | call index =>
    change Tracks port (heard ++ []) (b.proceed index).2.session
    rw [List.append_nil, proceed_session]
    exact tracks
  | listen other =>
    change Tracks port (heard ++ []) (b.session.listen other)
    rw [List.append_nil, listen_eq]
    exact ⟨tracks.known, tracks.last⟩
  | stop | markNative | markEphemeral =>
    change Tracks port (heard ++ []) _
    rw [List.append_nil]
    exact ⟨tracks.known, tracks.last⟩

theorem mem_run_listeners {b : Busy σ} (unheard : b.session.listeners = []) (acts : List (Act σ))
    (listener : σ) : listener ∈ (b.run acts).2.session.listeners ↔ Attached acts listener := by
  induction acts using List.reverseRecOn with
  | nil =>
    refine iff_of_false ?_ (attached_nil listener)
    change listener ∉ b.session.listeners
    rw [unheard]
    exact List.not_mem_nil
  | append_singleton acts a ih => rw [run_concat, mem_act_listeners, ih, attached_concat]

theorem nodup_run {b : Busy σ} (once : b.session.listeners.Nodup) (acts : List (Act σ)) :
    (b.run acts).2.session.listeners.Nodup := by
  induction acts using List.reverseRecOn with
  | nil => exact once
  | append_singleton acts a ih => exact run_concat b acts a ▸ nodup_act ih a

theorem tracks_run {port : Port} {b : Busy σ} (tracks : Tracks port [] b.session)
    (acts : List (Act σ)) : Tracks port (heard acts) (b.run acts).2.session := by
  induction acts using List.reverseRecOn with
  | nil => exact tracks
  | append_singleton acts a ih =>
    rw [run_concat, heard_append]
    exact tracks_act ih a

def ofPort (port : Port) (mode : Mode) : Busy σ := ⟨.ofPort port mode, []⟩

theorem calls_of_round (port : Port) (mode : Mode) (earlier : List (Act σ)) (signal : Signal)
    (later : List (Act σ)) :
    let index := (heard earlier).length
    ∃ event listeners, Publishes port (heard earlier) signal event ∧ listeners.Nodup ∧
      (∀ listener, listener ∈ listeners ↔ Attached earlier listener) ∧
      (((ofPort port mode).run (earlier ++ .hear signal :: later)).1.filter
        fun call => call.round = index) = made ⟨event, listeners⟩ index (turns index later) := by
  intro index
  let b : Busy σ := ((ofPort port mode).run earlier).2
  have tracks : Tracks port (heard earlier) b.session := tracks_run (.ofPort port mode) earlier
  have first : b.rounds.length = index := (length_rounds _ earlier).trans (Nat.zero_add _)
  have begun : (b.act (.hear signal)).2.rounds[index]? =
      some ⟨(b.session.hear signal).1, b.session.listeners⟩ := by
    change (b.rounds ++
      [⟨(b.session.hear signal).1, (b.session.hear signal).2.listeners⟩])[index]? = _
    rw [← first, List.getElem?_concat_length, hear_listeners]
  have before :
      (((ofPort port mode).run earlier).1.filter fun call => call.round = index) = [] := by
    rw [List.filter_eq_nil_iff]
    intro call called
    have bound := run_calls called
    change call.round < 0 + index at bound
    simp only [decide_eq_true_eq]
    omega
  have once : b.session.listeners.Nodup := nodup_run (b := ofPort port mode) .nil earlier
  have came := mem_run_listeners (b := ofPort port mode) rfl earlier
  refine ⟨_, _, (tracks.hear signal).1, once, came, ?_⟩
  rw [run_append, List.filter_append, before, List.nil_append]
  exact run_round begun later

/-- Whoever is called after a stop came after it, unless a round that was under way when the stop
returned still had the listener to call. -/
theorem calls_after_stop {port : Port} {mode : Mode} {before later : List (Act σ)} {call : Call σ} :
    let b := ((ofPort port mode).run before).2
    call ∈ ((b.act .stop).2.run later).1 →
      (∃ round, b.rounds[call.round]? = some round ∧ call.event = round.event ∧
        call.listener ∈ round.due) ∨
      ∃ since signal rest, later = since ++ .hear signal :: rest ∧
        call.round = (heard before).length + (heard since).length ∧
        Attached since call.listener := by
  intro b called
  have count : b.rounds.length = (heard before).length :=
    (length_rounds _ before).trans (Nat.zero_add _)
  by_cases old : call.round < b.rounds.length
  · obtain ⟨round, begun⟩ : ∃ round, b.rounds[call.round]? = some round :=
      ⟨_, List.getElem?_eq_getElem old⟩
    have own : call ∈ ((b.act .stop).2.run later).1.filter fun c => c.round = call.round :=
      List.mem_filter.mpr ⟨called, decide_eq_true rfl⟩
    rw [run_round (b := (b.act .stop).2) begun] at own
    exact .inl ⟨round, begun, mem_made own⟩
  · have bound := run_calls called
    change call.round < b.rounds.length + (heard later).length at bound
    obtain ⟨since, signal, rest, rfl, number⟩ :=
      exists_hear later (show call.round - b.rounds.length < (heard later).length by omega)
    refine .inr ⟨since, signal, rest, rfl, by omega, ?_⟩
    obtain ⟨event, listeners, -, -, attached, calls⟩ :=
      calls_of_round port mode (before ++ .stop :: since) signal rest
    have index : (heard (before ++ .stop :: since)).length = call.round := by
      rw [heard_append, List.length_append]
      change (heard before).length + (heard since).length = _
      omega
    rw [index, List.append_assoc, run_append, List.filter_append] at calls
    have own : call ∈ made ⟨event, listeners⟩ call.round (turns call.round rest) := by
      rw [← calls]
      exact List.mem_append_right _ (List.mem_filter.mpr ⟨called, decide_eq_true rfl⟩)
    exact attached_since.mp ((attached call.listener).mp (mem_made own).2)

theorem silent_after_stop {port : Port} {mode : Mode} {before later : List (Act σ)}
    (finished : ∀ round ∈ ((ofPort port mode).run before).2.rounds, round.due = [])
    (lonely : ∀ listener, .listen listener ∉ later) :
    ((((ofPort port mode).run before).2.act .stop).2.run later).1 = [] := by
  rw [List.eq_nil_iff_forall_not_mem]
  intro call called
  rcases calls_after_stop called with ⟨round, begun, -, due⟩ | ⟨since, _, _, rfl, -, attached⟩
  · rw [finished round (List.mem_of_getElem? begun)] at due
    exact List.not_mem_nil due
  · exact lonely _ (List.mem_append_left _ attached.listened)

theorem run_replicate {b : Busy σ} {index : Nat} {event : Event} {due : List σ}
    (begun : b.rounds[index]? = some ⟨event, due⟩) :
    b.run (List.replicate due.length (.call index)) =
      (due.map fun listener => ⟨index, listener, event⟩,
        { b with rounds := b.rounds.set index ⟨event, []⟩ }) := by
  have bound : index < b.rounds.length := (List.getElem?_eq_some_iff.mp begun).1
  induction due generalizing b with
  | nil =>
    have same : b.rounds.set index ⟨event, []⟩ = b.rounds := by
      rw [List.getElem?_eq_some_iff] at begun
      obtain ⟨_, there⟩ := begun
      rw [← there, List.set_getElem_self]
    rw [same]
    rfl
  | cons listener due ih =>
    let next : Busy σ := { b with rounds := b.rounds.set index ⟨event, due⟩ }
    have began : next.rounds[index]? = some ⟨event, due⟩ := List.getElem?_set_self bound
    have rest := ih began (by rwa [List.length_set])
    have first : b.act (.call index) = (some ⟨index, listener, event⟩, next) := proceed_due begun
    rw [List.length_cons, List.replicate_succ]
    unfold run
    simp only [first, rest, next, List.set_set]
    rfl

theorem run_whole_round {b : Busy σ} {signal : Signal} {event : Event} {session : Session σ}
    (heard : b.session.hear signal = (event, session)) :
    b.run (.hear signal :: List.replicate b.session.listeners.length (.call b.rounds.length)) =
      (b.session.listeners.map fun listener => ⟨b.rounds.length, listener, event⟩,
        ⟨session, b.rounds ++ [⟨event, []⟩]⟩) := by
  let next : Busy σ := ⟨session, b.rounds ++ [⟨event, b.session.listeners⟩]⟩
  have same : session.listeners = b.session.listeners := by
    rw [← hear_listeners b.session signal, heard]
  have begins : b.act (.hear signal) = (none, next) := by
    unfold act
    simp only [heard, same, next]
  have begun : next.rounds[b.rounds.length]? = some ⟨event, b.session.listeners⟩ :=
    List.getElem?_concat_length
  unfold run
  simp only [begins, run_replicate begun, Option.toList_none, List.nil_append]
  simp [next]

theorem run_undisturbed (b : Busy σ) (signals : List Signal) :
    let told := b.run (undisturbed b.session.listeners.length b.rounds.length signals)
    (told.1.map fun call => (call.listener, call.event)) =
        b.session.calls (b.session.hearAll signals).1 ∧
      told.2.session = (b.session.hearAll signals).2 := by
  induction signals generalizing b with
  | nil => exact ⟨rfl, rfl⟩
  | cons signal signals ih =>
    cases heard : b.session.hear signal with
    | mk event session =>
      have same : session.listeners = b.session.listeners := by
        rw [← hear_listeners b.session signal, heard]
      obtain ⟨told, known⟩ := ih ⟨session, b.rounds ++ [⟨event, []⟩]⟩
      simp only [same, List.length_append, List.length_singleton] at told known
      rw [undisturbed, run_append, run_whole_round heard]
      simp only [hearAll, heard]
      refine ⟨?_, known⟩
      simp only [List.map_append, told, calls, same, List.flatMap_cons, List.map_map]
      rfl

theorem run_undisturbed_stop (b : Busy σ) (lastWords : List Signal) :
    let told := b.run (undisturbed b.session.listeners.length b.rounds.length lastWords ++ [.stop])
    (told.1.map fun call => (call.listener, call.event)) =
        b.session.calls (b.session.stop lastWords).1 ∧
      told.2.session = (b.session.stop lastWords).2 := by
  obtain ⟨told, known⟩ := run_undisturbed b lastWords
  simp only [run_append, run, act, Option.toList_none, List.append_nil, known]
  exact ⟨told, rfl⟩

/-- A stop inside the first of two callbacks leaves the second one to be made; and whoever was
attached before a stop is called again once it is attached anew. -/
theorem called_after_stop :
    let port : Port := ⟨none, "COM1"⟩
    let fault (message : String) : Event := .fault ⟨port.identifier, .otherReason, message, none⟩
    let new : Busy String := .ofPort port .historic
    let both : List (Act String) := [.listen "a", .listen "b", .hear (.error "x"), .call 0]
    let again : List (Act String) := [.listen "a", .hear (.error "x"), .call 0]
    Attached both "b" ∧
      ((((new.run both).2.act .stop).2).run [.call 0]).1 = [⟨0, "b", fault "x"⟩] ∧
      Attached [.listen "a"] "a" ∧
      ((((new.run [.listen "a"]).2.act .stop).2).run again).1 = [⟨0, "a", fault "x"⟩] := by
  intro port fault new both again
  refine ⟨⟨[.listen "a"], [.hear (.error "x"), .call 0], rfl, by decide⟩, by rfl,
    ⟨[], [], rfl, List.not_mem_nil⟩, by rfl⟩

end Busy

end MeterHub.Session
