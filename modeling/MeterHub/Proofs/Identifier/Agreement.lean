import MeterHub.Proofs.Session.Learning

/-!
Agreement of identifiers: it is reflexive, as at least one attribute is set, and symmetric, and how
it fares while serial numbers are learned. A filter without a serial number looks at the port alone,
and a filter that is nothing but a serial number is settled once a number is known; a filter of both
kinds may agree before a number is learned and not afterwards.
-/

set_option autoImplicit false
set_option relaxedAutoImplicit false

namespace MeterHub.Identifier

/-- Whether an identifier carries a serial number and an attribute of the port as well. -/
def isMixed (i : Identifier) : Bool :=
  i.serialNumber.isSome && (i.portId.isSome || i.portName.isSome)

/-- Whether the attributes of the port agree: the ids where both are known, else the names. -/
def agreesOnPort (a b : Identifier) : Bool :=
  tier a.portId b.portId (tier a.portName b.portName false)

theorem agrees_eq_tier (a b : Identifier) :
    a.agrees b = tier a.serialNumber b.serialNumber (a.agreesOnPort b) := rfl

theorem agreesOnPort_learnAll (a b : Identifier) (signals : List Signal) :
    a.agreesOnPort (b.learnAll signals) = a.agreesOnPort b := by
  unfold agreesOnPort
  rw [learnAll_portId, learnAll_portName]

private theorem agreesOnPort_of_portless {a b : Identifier} (noId : a.portId = none)
    (noName : a.portName = none) : a.agreesOnPort b = false := by
  unfold agreesOnPort
  rw [noId, noName]
  rfl

theorem agrees_learnAll {a b : Identifier} (plain : a.isMixed = false) (agree : a.agrees b = true)
    (signals : List Signal) : a.agrees (b.learnAll signals) = true := by
  rw [agrees_eq_tier] at agree ⊢
  rw [agreesOnPort_learnAll, learnAll_serialNumber]
  cases wanted : a.serialNumber with
  | none =>
    rw [wanted] at agree
    exact agree
  | some serialNumber =>
    rw [wanted] at agree
    cases known : b.serialNumber with
    | some other =>
      rw [known] at agree
      exact agree
    | none =>
      -- a number alone agrees with nothing before one is known
      rw [known] at agree
      have noPort : a.portId.isSome = false ∧ a.portName.isSome = false := by
        simpa [isMixed, wanted] using plain
      have noId : a.portId = none := by simpa using noPort.1
      have noName : a.portName = none := by simpa using noPort.2
      have never : a.agreesOnPort b = false := agreesOnPort_of_portless noId noName
      change a.agreesOnPort b = true at agree
      rw [never] at agree
      cases agree

theorem tier_self (a : Option String) (otherwise : Bool) :
    tier a a otherwise = (a.isSome || otherwise) := by
  cases a with
  | none => rfl
  | some value => exact beq_self_eq_true value

theorem tier_comm (a b : Option String) (otherwise : Bool) :
    tier a b otherwise = tier b a otherwise := by
  cases a with
  | none => cases b <;> rfl
  | some x =>
    cases b with
    | none => rfl
    | some y => exact Bool.beq_comm

theorem agrees_self (i : Identifier) : i.agrees i = true := by
  unfold agrees
  rw [tier_self, tier_self, tier_self, Bool.or_false]
  have known := i.known
  rw [Bool.or_assoc] at known
  cases number : i.serialNumber with
  | some serialNumber => rfl
  | none =>
    rw [number, Option.isSome_none, Bool.or_false] at known
    exact known

theorem agrees_comm (a b : Identifier) : a.agrees b = b.agrees a := by
  unfold agrees
  rw [tier_comm a.serialNumber, tier_comm a.portId, tier_comm a.portName]

theorem agrees_of_unnumbered {a : Identifier} (unnumbered : a.serialNumber = none)
    (b : Identifier) : a.agrees b = a.agreesOnPort b := by
  rw [agrees_eq_tier, unnumbered]
  rfl

theorem agreesOnPort_withSerialNumber (a b : Identifier) (serialNumber : String) :
    a.agreesOnPort (b.withSerialNumber serialNumber) = a.agreesOnPort b := rfl

theorem ofParts_eq_ok_iff {portId portName serialNumber : Option String} {i : Identifier} :
    ofParts portId portName serialNumber = .ok i ↔
      i.portId = portId ∧ i.portName = portName ∧ i.serialNumber = serialNumber := by
  constructor
  · intro made
    unfold ofParts ofParts? at made
    split at made
    · rename_i found
      cases made
      split at found
      · cases found
        exact ⟨rfl, rfl, rfl⟩
      · cases found
    · cases made
  · rintro ⟨rfl, rfl, rfl⟩
    unfold ofParts
    rw [ofParts?_attributes]

theorem ofParts_eq_error_iff {portId portName serialNumber : Option String} {failure : Failure} :
    ofParts portId portName serialNumber = .error failure ↔
      failure = .invalidIdentifier ∧ portId = none ∧ portName = none ∧ serialNumber = none := by
  constructor
  · intro refused
    unfold ofParts ofParts? at refused
    split at refused
    · cases refused
    · rename_i missing
      cases refused
      split at missing
      · cases missing
      · rename_i unset
        refine ⟨rfl, ?_⟩
        simpa [and_assoc] using unset
  · rintro ⟨rfl, rfl, rfl, rfl⟩
    rfl

/-- Attributes make an identifier unless none is set. Every identifier agrees with itself, and with
another one just if that one agrees with it. Whether a filter without a serial number agrees does
not change when a number is learned or replaced, and one with a number agrees with whatever knows
this number, and with nothing that knows another one. -/
theorem agrees_laws :
    (∀ portId portName serialNumber,
      (∀ i, ofParts portId portName serialNumber = .ok i ↔
        i.portId = portId ∧ i.portName = portName ∧ i.serialNumber = serialNumber) ∧
      ∀ failure, ofParts portId portName serialNumber = .error failure ↔
        failure = .invalidIdentifier ∧ portId = none ∧ portName = none ∧ serialNumber = none) ∧
    (∀ i : Identifier, i.agrees i = true) ∧
    (∀ a b : Identifier, a.agrees b = true ↔ b.agrees a = true) ∧
    (∀ (filter i : Identifier) serialNumber, filter.serialNumber = none →
      (filter.agrees i = true ↔ filter.agrees (i.withSerialNumber serialNumber) = true)) ∧
    ∀ (filter i : Identifier) wanted serialNumber, filter.serialNumber = some wanted →
      (filter.agrees (i.withSerialNumber serialNumber) = true ↔ wanted = serialNumber) := by
  refine ⟨fun _ _ _ => ⟨fun _ => ofParts_eq_ok_iff, fun _ => ofParts_eq_error_iff⟩, agrees_self,
    ?_, ?_, ?_⟩
  · intro a b
    rw [agrees_comm]
  · intro filter i serialNumber unnumbered
    rw [agrees_of_unnumbered unnumbered, agrees_of_unnumbered unnumbered,
      agreesOnPort_withSerialNumber]
  · intro filter i wanted serialNumber numbered
    rw [agrees_eq_tier, numbered]
    exact beq_iff_eq

/-- A filter on a port keeps to it whatever number is learned there, and a filter with a number is
on another port and does not mind. -/
theorem agrees_laws_other_port :
    let named : Identifier := .ofPort none "a"
    let port : Identifier := .ofPort (some "1") "a"
    let numbered : Identifier := (Identifier.ofPort (some "2") "b").withSerialNumber "61"
    named.agrees (port.withSerialNumber "61") = true ∧
      numbered.agrees port = false ∧ numbered.agrees (port.withSerialNumber "61") = true ∧
      numbered.agrees ((port.withSerialNumber "61").withSerialNumber "62") = false := by
  intro named port numbered
  obtain ⟨-, -, -, unmoved, decided⟩ := agrees_laws
  refine ⟨(unmoved named port "61" rfl).mp (by decide), by decide,
    (decided numbered port "61" "61" rfl).mpr rfl, ?_⟩
  rw [Bool.eq_false_iff, ne_eq, decided numbered (port.withSerialNumber "61") "61" "62" rfl]
  decide

end MeterHub.Identifier
