import MeterHub.Session

/-!
What a session learns. Signals change nothing of a session but its identifier and its last frame,
and the identifier learns the first serial number that they reveal, unless it knows one already.
-/

set_option autoImplicit false
set_option relaxedAutoImplicit false

namespace MeterHub

/-- The serial number that a signal reveals. -/
def Signal.serialNumber? : Signal → Option String
  | .frame f => f.serialNumber?
  | .error _ => none

/-- The first serial number that some signals reveal. -/
def Signal.revealed (signals : List Signal) : Option String := signals.findSome? serialNumber?

namespace Identifier

/-- The identifier after a signal. -/
def learnFrom (i : Identifier) : Signal → Identifier
  | .frame f => i.learn f
  | .error _ => i

/-- The identifier after some signals. -/
def learnAll (i : Identifier) (signals : List Signal) : Identifier := signals.foldl learnFrom i

theorem learn_portId (i : Identifier) (f : Frame) : (i.learn f).portId = i.portId := by
  unfold learn
  split <;> rfl

theorem learn_portName (i : Identifier) (f : Frame) : (i.learn f).portName = i.portName := by
  unfold learn
  split <;> rfl

theorem learn_serialNumber (i : Identifier) (f : Frame) :
    (i.learn f).serialNumber = i.serialNumber.or f.serialNumber? := by
  unfold learn
  split
  · rename_i unknown revealed
    rw [unknown, revealed]
    rfl
  · rename_i unmatched
    cases known : i.serialNumber with
    | some serialNumber => rfl
    | none =>
      cases revealed : f.serialNumber? with
      | some serialNumber => exact (unmatched serialNumber known revealed).elim
      | none => rfl

theorem learnFrom_portId (i : Identifier) (signal : Signal) :
    (i.learnFrom signal).portId = i.portId := by
  cases signal with
  | frame f => exact learn_portId i f
  | error _ => rfl

theorem learnFrom_portName (i : Identifier) (signal : Signal) :
    (i.learnFrom signal).portName = i.portName := by
  cases signal with
  | frame f => exact learn_portName i f
  | error _ => rfl

theorem learnFrom_serialNumber (i : Identifier) (signal : Signal) :
    (i.learnFrom signal).serialNumber = i.serialNumber.or signal.serialNumber? := by
  cases signal with
  | frame f => exact learn_serialNumber i f
  | error _ =>
    change i.serialNumber = i.serialNumber.or none
    rw [Option.or_none]

theorem learnAll_portId (i : Identifier) (signals : List Signal) :
    (i.learnAll signals).portId = i.portId := by
  induction signals generalizing i with
  | nil => rfl
  | cons signal signals ih => exact (ih (i.learnFrom signal)).trans (learnFrom_portId i signal)

theorem learnAll_portName (i : Identifier) (signals : List Signal) :
    (i.learnAll signals).portName = i.portName := by
  induction signals generalizing i with
  | nil => rfl
  | cons signal signals ih => exact (ih (i.learnFrom signal)).trans (learnFrom_portName i signal)

theorem learnAll_append (i : Identifier) (signals more : List Signal) :
    i.learnAll (signals ++ more) = (i.learnAll signals).learnAll more := List.foldl_append

theorem learnAll_errors {signals : List Signal}
    (errors : ∀ signal ∈ signals, ∃ message, signal = .error message) (i : Identifier) :
    i.learnAll signals = i := by
  induction signals with
  | nil => rfl
  | cons signal signals ih =>
    obtain ⟨⟨message, rfl⟩, later⟩ := List.forall_mem_cons.mp errors
    exact ih later

theorem learnAll_serialNumber (i : Identifier) (signals : List Signal) :
    (i.learnAll signals).serialNumber = i.serialNumber.or (Signal.revealed signals) := by
  induction signals generalizing i with
  | nil =>
    change i.serialNumber = i.serialNumber.or none
    rw [Option.or_none]
  | cons signal signals ih =>
    have first : Signal.revealed (signal :: signals) =
        signal.serialNumber?.or (Signal.revealed signals) := by
      unfold Signal.revealed
      rw [List.findSome?_cons]
      cases signal.serialNumber? <;> rfl
    rw [first, ← Option.or_assoc, ← learnFrom_serialNumber]
    exact ih (i.learnFrom signal)

end Identifier

namespace Session

variable {σ : Type}

theorem hear_eq (s : Session σ) (signal : Signal) :
    ∃ lastFrame, (s.hear signal).2 =
      { s with identifier := s.identifier.learnFrom signal, lastFrame } := by
  cases signal with
  | frame f => exact ⟨some f, rfl⟩
  | error message => exact ⟨s.lastFrame, rfl⟩

theorem hearAll_cons (s : Session σ) (signal : Signal) (signals : List Signal) :
    (s.hearAll (signal :: signals)).2 = ((s.hear signal).2.hearAll signals).2 := rfl

theorem hearAll_append (s : Session σ) (signals more : List Signal) :
    (s.hearAll (signals ++ more)).1 =
      (s.hearAll signals).1 ++ ((s.hearAll signals).2.hearAll more).1 := by
  induction signals generalizing s with
  | nil => rfl
  | cons signal signals ih => exact congrArg ((s.hear signal).1 :: ·) (ih (s.hear signal).2)

theorem hearAll_eq (s : Session σ) (signals : List Signal) :
    ∃ lastFrame, (s.hearAll signals).2 =
      { s with identifier := s.identifier.learnAll signals, lastFrame } := by
  induction signals generalizing s with
  | nil => exact ⟨s.lastFrame, rfl⟩
  | cons signal signals ih =>
    obtain ⟨_, heard⟩ := hear_eq s signal
    obtain ⟨lastFrame, later⟩ := ih (s.hear signal).2
    refine ⟨lastFrame, ?_⟩
    rw [hearAll_cons, later, heard]
    rfl

/-- The identifier on an event is the one after the signal that the event is made of. -/
theorem hearAll_stamp (s : Session σ) (signals : List Signal) {place : Nat} {event : Event}
    (told : (s.hearAll signals).1[place]? = some event) :
    event.identifier = s.identifier.learnAll (signals.take (place + 1)) := by
  induction signals generalizing s place with
  | nil => cases told
  | cons signal signals ih =>
    change ((s.hear signal).1 :: ((s.hear signal).2.hearAll signals).1)[place]? = some event at told
    cases place with
    | zero =>
      rw [List.getElem?_cons_zero, Option.some.injEq] at told
      rw [← told]
      cases signal <;> rfl
    | succ place =>
      rw [List.getElem?_cons_succ] at told
      have later := ih (s.hear signal).2 told
      obtain ⟨_, learned⟩ := hear_eq s signal
      rw [learned] at later
      exact later

theorem hearAll_identifier (s : Session σ) (signals : List Signal) :
    ∀ event ∈ (s.hearAll signals).1, ∃ heard, event.identifier = s.identifier.learnAll heard := by
  intro event told
  obtain ⟨place, at_place⟩ := List.mem_iff_getElem?.mp told
  exact ⟨signals.take (place + 1), hearAll_stamp s signals at_place⟩

end Session

end MeterHub
