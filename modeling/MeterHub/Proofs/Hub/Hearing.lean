import MeterHub.Hub.Move
import MeterHub.Proofs.Hub.Change
import MeterHub.Proofs.Session.Learning

/-!
What goes on by itself: sources speak and lanes hand over what they hold. The sessions of the
sources learn from what they hear, reads get their answers, and nothing else of a hub changes but
its lanes.
-/

set_option autoImplicit false
set_option relaxedAutoImplicit false

namespace MeterHub

/-- What the source at an index says in a move. -/
def Move.said (index : Nat) : Move → Option Signal
  | .report source signal => if index = source then some signal else none
  | _ => none

/-- The moves in which sources speak and lanes hand over. -/
def Move.IsDelivery : Move → Prop
  | .report _ _ | .takeUp _ | .finish _ _ => True
  | _ => False

namespace Hub

/-- A live session after a move in which its source may have spoken. -/
def hears (m : Move) (live : Live) : Live :=
  match m.said live.source with
  | some signal => { live with session := (live.session.hear signal).2 }
  | none => live

theorem hears_continues (m : Move) (live : Live) : live.Continues (hears m live) := by
  unfold hears
  cases m.said live.source with
  | none => exact .refl live
  | some signal =>
    obtain ⟨_, heard⟩ := Session.hear_eq live.session signal
    simp only [heard]
    exact ⟨rfl, rfl, Identifier.learnFrom_portId _ signal, Identifier.learnFrom_portName _ signal,
      id, rfl⟩

theorem hears_native (m : Move) (live : Live) :
    (hears m live).session.native = live.session.native := by
  unfold hears
  cases m.said live.source with
  | none => rfl
  | some signal =>
    obtain ⟨_, heard⟩ := Session.hear_eq live.session signal
    simp only [heard]

theorem hears_identifier (m : Move) (live : Live) :
    (hears m live).identifier = live.identifier.learnAll (m.said live.source).toList := by
  unfold hears
  cases m.said live.source with
  | none => rfl
  | some signal =>
    obtain ⟨_, heard⟩ := Session.hear_eq live.session signal
    simp only [heard, Live.identifier]
    rfl

theorem map_hears_source (m : Move) (lives : List Live) :
    (lives.map (hears m)).map Live.source = lives.map Live.source := by
  rw [List.map_map]
  apply List.map_congr_left
  intro live _
  exact (hears_continues m live).source

private theorem map_hears_of_silent {m : Move} {lives : List Live}
    (silent : ∀ live ∈ lives, m.said live.source = none) : lives.map (hears m) = lives := by
  refine Eq.trans (List.map_congr_left ?_) (List.map_id lives)
  intro live member
  unfold hears
  rw [silent live member]
  rfl

theorem report_eq {h : Hub} (distinct : (h.sessions.map Live.source).Nodup) (index : Nat)
    (signal : Signal) :
    ∃ lanes, h.report index signal =
      { h with lanes, sessions := h.sessions.map (hears (.report index signal)) } := by
  unfold report
  cases found : h.sessions.find? fun live => live.source == index with
  | none =>
    refine ⟨h.lanes, ?_⟩
    have deaf : h.sessions.map (hears (.report index signal)) = h.sessions := by
      apply map_hears_of_silent
      intro live member
      have other := List.find?_eq_none.mp found live member
      exact if_neg (by simpa using other)
    rw [deaf]
  | some live =>
    have member : live ∈ h.sessions := List.mem_of_find?_eq_some found
    have source : live.source = index := by simpa using List.find?_some found
    obtain ⟨lanes, published⟩ := publish_eq
      (h.modifySession index fun _ => (live.session.hear signal).2) (live.session.hear signal).2
      [(live.session.hear signal).1]
    refine ⟨lanes, published.trans ?_⟩
    -- every session with the source is set to what this one becomes, but there is only this one
    have changed : (h.sessions.map fun other => if other.source = index then
        { other with session := (live.session.hear signal).2 } else other) =
          h.sessions.map (hears (.report index signal)) := by
      apply List.map_congr_left
      intro other listed
      unfold hears Move.said
      by_cases same : other.source = index
      · have equal : other = live :=
          List.inj_on_of_nodup_map distinct listed member (same.trans source.symm)
        simp only [same, if_true]
        rw [equal]
      · simp only [same, if_false]
    unfold modifySession
    simp only [changed]

/-- Reads that may have got answers meanwhile. -/
def Answered (before after : List Read) : Prop :=
  ∀ (index : Nat) (read : Read), before[index]? = some read →
    ∃ answer, after[index]? = some { read with answer }

theorem Answered.refl (reads : List Read) : Answered reads reads :=
  fun _ read at_index => ⟨read.answer, at_index⟩

theorem Answered.trans {first second third : List Read} (left : Answered first second)
    (right : Answered second third) : Answered first third := by
  intro index read at_index
  obtain ⟨answer, answered⟩ := left index read at_index
  exact right index { read with answer } answered

theorem hear_answers (read : Read) (event : Event) :
    ∃ answer, read.hear event = { read with answer } := by
  unfold Read.hear
  split
  · exact ⟨some event, rfl⟩
  · exact ⟨read.answer, rfl⟩

theorem takeUp_eq (h : Hub) (lane : Nat) :
    ∃ lanes reads, h.takeUp lane = { h with lanes, reads } ∧ Answered h.reads reads := by
  unfold takeUp
  split
  · rename_i subscriber event _
    cases subscriber with
    | listener name => exact ⟨_, h.reads, rfl, .refl h.reads⟩
    | reader index =>
      refine ⟨_, h.reads.modify index fun read => read.hear event, rfl, ?_⟩
      intro place read at_place
      rw [List.getElem?_modify, at_place]
      by_cases same : index = place
      · obtain ⟨answer, heard⟩ := hear_answers read event
        refine ⟨answer, ?_⟩
        simp only [same, if_true, Option.map_eq_map, Option.map_some, heard]
      · refine ⟨read.answer, ?_⟩
        simp only [same, if_false, Option.map_eq_map, Option.map_some]
  · exact ⟨h.lanes, h.reads, rfl, .refl h.reads⟩

theorem delivery_eq {h : Hub} (distinct : (h.sessions.map Live.source).Nodup) {m : Move}
    (delivery : m.IsDelivery) :
    ∃ lanes reads, h.move m = { h with lanes, reads, sessions := h.sessions.map (hears m) } ∧
      Answered h.reads reads := by
  have unheard (silent : ∀ index, m.said index = none) : h.sessions.map (hears m) = h.sessions :=
    map_hears_of_silent fun live _ => silent live.source
  cases m with
  | report index signal =>
    obtain ⟨lanes, reported⟩ := report_eq distinct index signal
    exact ⟨lanes, h.reads, reported, .refl h.reads⟩
  | takeUp lane =>
    obtain ⟨lanes, reads, taken, answered⟩ := h.takeUp_eq lane
    rw [unheard fun _ => rfl]
    exact ⟨lanes, reads, taken, answered⟩
  | finish lane panicked =>
    rw [unheard fun _ => rfl]
    exact ⟨_, h.reads, rfl, .refl h.reads⟩
  | _ => exact delivery.elim

/-- A live session after some moves in which its source may have spoken. -/
def hearsAll (moves : List Move) (live : Live) : Live :=
  moves.foldl (fun live m => hears m live) live

theorem hearsAll_cons (m : Move) (moves : List Move) (live : Live) :
    hearsAll (m :: moves) live = hearsAll moves (hears m live) := rfl

theorem hearsAll_continues (moves : List Move) (live : Live) :
    live.Continues (hearsAll moves live) := by
  induction moves generalizing live with
  | nil => exact .refl live
  | cons m moves ih =>
    rw [hearsAll_cons]
    exact (hears_continues m live).trans (ih (hears m live))

theorem hearsAll_native (moves : List Move) (live : Live) :
    (hearsAll moves live).session.native = live.session.native := by
  induction moves generalizing live with
  | nil => rfl
  | cons m moves ih =>
    rw [hearsAll_cons, ih, hears_native]

theorem hearsAll_identifier (moves : List Move) (live : Live) :
    (hearsAll moves live).identifier =
      live.identifier.learnAll (moves.filterMap (Move.said live.source)) := by
  induction moves generalizing live with
  | nil => rfl
  | cons m moves ih =>
    rw [hearsAll_cons, ih, hears_identifier, (hears_continues m live).source,
      ← Identifier.learnAll_append]
    cases said : m.said live.source with
    | none => rw [List.filterMap_cons_none said]; rfl
    | some signal => rw [List.filterMap_cons_some said]; rfl

theorem deliveries_eq {h : Hub} (distinct : (h.sessions.map Live.source).Nodup) {moves : List Move}
    (deliveries : ∀ m ∈ moves, m.IsDelivery) :
    ∃ lanes reads,
      h.run moves = { h with lanes, reads, sessions := h.sessions.map (hearsAll moves) } ∧
        Answered h.reads reads := by
  induction moves generalizing h with
  | nil =>
    have same : h.sessions.map (hearsAll []) = h.sessions := List.map_id h.sessions
    rw [same]
    exact ⟨h.lanes, h.reads, rfl, .refl h.reads⟩
  | cons m moves ih =>
    have now : m.IsDelivery := deliveries m List.mem_cons_self
    have later : ∀ m ∈ moves, m.IsDelivery :=
      fun other member => deliveries other (List.mem_cons_of_mem m member)
    obtain ⟨_, _, first, begun⟩ := delivery_eq distinct now
    have still : ((h.move m).sessions.map Live.source).Nodup := by
      rw [first, map_hears_source]
      exact distinct
    obtain ⟨lanes, reads, rest, done⟩ := ih still later
    refine ⟨lanes, reads, ?_, ?_⟩
    · change (h.move m).run moves = _
      rw [rest, first]
      simp only [List.map_map]
      rfl
    · rw [first] at done
      exact begun.trans done

end Hub

end MeterHub
