import MeterHub.Discovery
import MeterHub.Proofs.Identifier.Agreement

/-!
What resolving an identifier leads to. Discovery that answers with ports of the id or the name that
it was asked for leads to a port that the identifier agrees with, whatever its serial number.
Discovery by enumeration leads to the first such port, and a name that is attached does not make up
for an id that is not.
-/

set_option autoImplicit false
set_option relaxedAutoImplicit false

namespace MeterHub

/-- A port that is found by id has the id, and one that is found by name has the name. -/
structure Discovery.Faithful (d : Discovery) : Prop where
  byId : ∀ id port, d.byId id = some port → port.id = some id
  byName : ∀ name port, d.byName name = some port → port.name = name

theorem Discovery.ofEnumeration_faithful (ports : Except Failure (List Port)) :
    (Discovery.ofEnumeration ports).Faithful := by
  constructor
  · intro id port found
    have hit := List.find?_some found
    simpa using hit
  · intro name port found
    have hit := List.find?_some found
    simpa using hit

/-- The port that an identifier names has its id if the identifier has one, else its name. -/
def Identifier.Names (i : Identifier) (p : Port) : Prop :=
  match i.portId, i.portName with
  | some id, _ => p.id = some id
  | none, some name => p.name = name
  | none, none => False

theorem Request.resolve_names {d : Discovery} (faithful : d.Faithful) {i : Identifier}
    {mode : Option Mode} {port : Port}
    (resolved : (Request.ofIdentifier i mode).resolve d = .ok port) : i.Names port := by
  unfold Request.resolve Request.ofIdentifier at resolved
  unfold Identifier.Names
  cases hasId : i.portId with
  | some id =>
    simp only [hasId] at resolved
    cases found : d.byId id with
    | none => simp [found] at resolved
    | some first =>
      simp only [found, Except.ok.injEq] at resolved
      exact resolved ▸ faithful.byId id first found
  | none =>
    cases hasName : i.portName with
    | none => simp [hasId, hasName] at resolved
    | some name =>
      simp only [hasId, hasName] at resolved
      cases found : d.byName name with
      | none => simp [found] at resolved
      | some first =>
        simp only [found, Except.ok.injEq] at resolved
        exact resolved ▸ faithful.byName name first found

theorem Identifier.Names.agreesOnPort {i : Identifier} {p : Port} (names : i.Names p) :
    i.agreesOnPort p.identifier = true := by
  unfold Identifier.Names at names
  unfold Identifier.agreesOnPort Port.identifier Identifier.ofPort
  cases hasId : i.portId with
  | some id =>
    simp only [hasId] at names
    simp [names, Identifier.tier]
  | none =>
    cases hasName : i.portName with
    | none => simp [hasId, hasName] at names
    | some name =>
      simp only [hasId, hasName] at names
      simp [names, Identifier.tier]

/-- An identifier agrees with a session on the port that it names, unless it wants one serial number
and the session has learned another. -/
theorem Identifier.Names.agrees_learnAll {i : Identifier} {p : Port} (names : i.Names p)
    (signals : List Signal) :
    i.agrees (p.identifier.learnAll signals) =
      Identifier.tier i.serialNumber (Signal.revealed signals) true := by
  have fresh : p.identifier.serialNumber = none := rfl
  rw [agrees_eq_tier, agreesOnPort_learnAll, names.agreesOnPort, learnAll_serialNumber, fresh,
    Option.none_or]

/-- An item of a list is of some kind, and none before it is. -/
def IsFirst {α : Type} (kind : α → Prop) (items : List α) (a : α) : Prop :=
  ∃ before after, items = before ++ a :: after ∧ kind a ∧ ∀ b ∈ before, ¬kind b

theorem find?_eq_some_iff_isFirst {α : Type} {p : α → Bool} {kind : α → Prop}
    (decides : ∀ a, p a = true ↔ kind a) {items : List α} {a : α} :
    items.find? p = some a ↔ IsFirst kind items a := by
  rw [List.find?_eq_some_iff_append]
  constructor
  · rintro ⟨hit, before, after, split, missed⟩
    refine ⟨before, after, split, (decides a).mp hit, fun b early isKind => ?_⟩
    have miss := missed b early
    rw [(decides b).mpr isKind] at miss
    cases miss
  · rintro ⟨before, after, split, isKind, first⟩
    refine ⟨(decides a).mpr isKind, before, after, split, fun b early => ?_⟩
    rw [Bool.not_eq_true', Bool.eq_false_iff, ne_eq, decides]
    exact first b early

namespace Discovery

variable {ports : Except Failure (List Port)}

theorem byId_eq_some_iff {id : String} {port : Port} :
    (ofEnumeration ports).byId id = some port ↔
      IsFirst (fun p => p.id = some id) (attached ports) port :=
  find?_eq_some_iff_isFirst fun _ => beq_iff_eq

theorem byId_eq_none_iff {id : String} :
    (ofEnumeration ports).byId id = none ↔ ∀ port ∈ attached ports, port.id ≠ some id := by
  unfold ofEnumeration scanId
  simp only [List.find?_eq_none, beq_iff_eq, ne_eq]

theorem byName_eq_some_iff {name : String} {port : Port} :
    (ofEnumeration ports).byName name = some port ↔
      IsFirst (fun p => p.name = name) (attached ports) port :=
  find?_eq_some_iff_isFirst fun _ => beq_iff_eq

theorem byName_eq_none_iff {name : String} :
    (ofEnumeration ports).byName name = none ↔ ∀ port ∈ attached ports, port.name ≠ name := by
  unfold ofEnumeration scanName
  simp only [List.find?_eq_none, beq_iff_eq, ne_eq]

end Discovery

/-- The outcomes of resolving an identifier where some ports are attached. The id decides if there
is one, whatever the name. -/
inductive Resolves (attached : List Port) (i : Identifier) : Except Failure Port → Prop
  | byId {id : String} {port : Port} (wanted : i.portId = some id)
      (first : IsFirst (fun p => p.id = some id) attached port) : Resolves attached i (.ok port)
  | byName {name : String} {port : Port} (noId : i.portId = none)
      (wanted : i.portName = some name) (first : IsFirst (fun p => p.name = name) attached port) :
      Resolves attached i (.ok port)
  | idMissing {id : String} (wanted : i.portId = some id)
      (missing : ∀ port ∈ attached, port.id ≠ some id) :
      Resolves attached i (.error (.portIdNotFound id))
  | nameMissing {name : String} (noId : i.portId = none) (wanted : i.portName = some name)
      (missing : ∀ port ∈ attached, port.name ≠ name) :
      Resolves attached i (.error (.portNameNotFound name))
  | portless (noId : i.portId = none) (noName : i.portName = none) :
      Resolves attached i (.error .portDescriptorEmpty)

theorem resolve_eq_iff {ports : Except Failure (List Port)} {i : Identifier} {mode : Option Mode}
    {outcome : Except Failure Port} :
    (Request.ofIdentifier i mode).resolve (Discovery.ofEnumeration ports) = outcome ↔
      Resolves (Discovery.attached ports) i outcome := by
  unfold Request.resolve Request.ofIdentifier
  constructor
  · rintro rfl
    cases hasId : i.portId with
    | some id =>
      cases found : (Discovery.ofEnumeration ports).byId id with
      | some port =>
        simp only [found]
        exact .byId hasId (Discovery.byId_eq_some_iff.mp found)
      | none =>
        simp only [found]
        exact .idMissing hasId (Discovery.byId_eq_none_iff.mp found)
    | none =>
      cases hasName : i.portName with
      | some name =>
        cases found : (Discovery.ofEnumeration ports).byName name with
        | some port =>
          simp only [found]
          exact .byName hasId hasName (Discovery.byName_eq_some_iff.mp found)
        | none =>
          simp only [found]
          exact .nameMissing hasId hasName (Discovery.byName_eq_none_iff.mp found)
      | none => exact .portless hasId hasName
  · intro resolves
    cases resolves with
    | byId wanted first => simp only [wanted, Discovery.byId_eq_some_iff.mpr first]
    | byName noId wanted first =>
      simp only [noId, wanted, Discovery.byName_eq_some_iff.mpr first]
    | idMissing wanted missing => simp only [wanted, Discovery.byId_eq_none_iff.mpr missing]
    | nameMissing noId wanted missing =>
      simp only [noId, wanted, Discovery.byName_eq_none_iff.mpr missing]
    | portless noId noName => simp only [noId, noName]

/-- How an identifier that has found a port misses a description under which the same port is held:
the port was found by an id of which the description does not know, or by a name other than the one
that the description has for the id. -/
inductive Identifier.Misses (i : Identifier) (held found : Port) : Prop
  | unnumbered {id : String} (byId : i.portId = some id) (numbered : found.id = some id)
      (unknown : held.id = none) (named : held.name = found.name)
      (otherwise : i.portName ≠ some held.name)
  | renamed {id : String} (nameless : i.portId = none) (byName : i.portName = some found.name)
      (numbered : found.id = some id) (known : held.id = some id)
      (otherwise : held.name ≠ found.name)

theorem Identifier.Names.misses_iff {i : Identifier} {held found : Port} (names : i.Names found)
    (same : held.same found = true) :
    i.Misses held found ↔ i.agreesOnPort held.identifier = false := by
  unfold Identifier.Names at names
  unfold Identifier.agreesOnPort Port.identifier Identifier.ofPort
  unfold Port.same at same
  constructor
  · rintro (⟨byId, numbered, unknown, named, otherwise⟩ |
      ⟨nameless, byName, numbered, known, otherwise⟩)
    · rw [byId, unknown]
      cases wanted : i.portName with
      | none => rfl
      | some name =>
        rw [wanted, ne_eq, Option.some.injEq] at otherwise
        simpa [tier] using otherwise
    · rw [nameless, byName]
      simpa [tier] using otherwise.symm
  · intro refused
    cases hasId : i.portId with
    | some id =>
      simp only [hasId] at names refused
      cases knownId : held.id with
      | some other => simp_all [tier]
      | none =>
        simp only [knownId, beq_iff_eq] at same
        refine .unnumbered hasId names knownId same ?_
        intro named
        simp [tier, knownId, named] at refused
    | none =>
      cases hasName : i.portName with
      | none => simp [hasId, hasName] at names
      | some name =>
        simp only [hasId, hasName] at names refused
        have other : held.name ≠ found.name := by
          intro equal
          simp [tier, names, equal] at refused
        cases knownId : held.id with
        | none => simp [knownId, other] at same
        | some id =>
          cases foundId : found.id with
          | none => simp [knownId, foundId, other] at same
          | some id' =>
            have equal : id = id' := by simpa [knownId, foundId] using same
            exact .renamed hasId (names ▸ hasName) foundId (equal ▸ knownId) other

end MeterHub
