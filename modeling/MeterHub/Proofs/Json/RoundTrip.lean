import MeterHub.Frame.Json
import MeterHub.Identifier.Json
import MeterHub.Lanes.Json
import MeterHub.Port.Json
import MeterHub.Proofs.Json.Reading

/-!
Values that are written and read back. Identifiers, frames, ports and delivery figures survive both
written forms, whatever characters their texts are made of; and no text makes an identifier without
attributes.
-/

set_option autoImplicit false
set_option relaxedAutoImplicit false

namespace MeterHub

open Json

/-- Both written forms of a value are read as what it stands for. -/
def ReadsBack {α : Type} (read : Node → Reading α) (v : Value) (a : α) : Prop :=
  readDocument read v.compact = .ok a ∧ readDocument read v.indented = .ok a

theorem ReadsBack.of_node {α : Type} {read : Node → Reading α} {v : Value} {a : α}
    (reads : read v.node = .ok a) : ReadsBack read v a := by
  obtain ⟨compact, indented⟩ := v.isDocument
  exact ⟨(compact.read_eq read).trans reads, (indented.read_eq read).trans reads⟩

theorem Identifier.ofNode_toJson (i : Identifier) : Identifier.ofNode i.toJson.node = .ok i := by
  obtain ⟨_ | portId, _ | portName, _ | serialNumber, known⟩ := i
  · cases known
  all_goals rfl

theorem Port.ofNode_toJson (p : Port) : Port.ofNode p.toJson.node = .ok p := by
  obtain ⟨_ | id, name⟩ := p <;> rfl

theorem Group.ofNode_toJson (g : Group) : Group.ofNode g.toJson.node = .ok g := rfl

theorem Mode.ofNode_toJson (mode : Mode) : Mode.ofNode mode.toJson.node = .ok mode := by
  cases mode <;> rfl

theorem Frame.ofNode_toJson (f : Frame) : Frame.ofNode f.toJson.node = .ok f := by
  obtain ⟨mode, groups⟩ := f
  have read := toListOf_list Group.ofNode_toJson groups
  refine (Shape.read_record ?_ : _ = Frame.shape.finish ⟨some mode, some groups⟩)
  refine Shape.fold_cons
    (Shape.step_column rfl rfl rfl (Reading.bind_ok mode.ofNode_toJson _)) ?_
  refine Shape.fold_cons (Shape.step_column rfl rfl rfl (Reading.bind_ok read _)) ?_
  exact Shape.fold_nil _

/-- All figures fit 64 bits. -/
structure DeliveryStats.Fits (s : DeliveryStats) : Prop where
  framesDelivered : s.framesDelivered < UInt64.size
  faultsDelivered : s.faultsDelivered < UInt64.size
  listenerPanics : s.listenerPanics < UInt64.size
  dropped : s.dropped < UInt64.size
  openLanes : s.openLanes < UInt64.size

namespace DeliveryStats

theorem ofNode_toJson {s : DeliveryStats} (fits : s.Fits) :
    ofNode s.toJson.node = .ok s := by
  obtain ⟨frames, faults, panics, dropped, lanes⟩ := s
  have count {n : Nat} (below : n < UInt64.size) (wanted : String) :
      DeliveryStats.count (Value.nat n).node wanted = .ok n :=
    toNatBelow_nat below (Nat.le_refl _) wanted
  refine (Shape.read_record ?_ : _ = shape.finish
    ⟨some frames, some faults, some panics, some dropped, some lanes⟩)
  refine Shape.fold_cons
    (Shape.step_column rfl rfl rfl (Reading.bind_ok (count fits.framesDelivered "u64") _)) ?_
  refine Shape.fold_cons
    (Shape.step_column rfl rfl rfl (Reading.bind_ok (count fits.faultsDelivered "u64") _)) ?_
  refine Shape.fold_cons
    (Shape.step_column rfl rfl rfl (Reading.bind_ok (count fits.listenerPanics "u64") _)) ?_
  refine Shape.fold_cons
    (Shape.step_column rfl rfl rfl (Reading.bind_ok (count fits.dropped "u64") _)) ?_
  refine Shape.fold_cons
    (Shape.step_column rfl rfl rfl (Reading.bind_ok (count fits.openLanes "usize") _)) ?_
  exact Shape.fold_nil _

end DeliveryStats

namespace Identifier

/-- A record sets none of the attributes of an identifier: each is missing or null, or its key
cannot be read. -/
def SetsNothing (fields : List (Quoted × Node)) : Prop :=
  ∀ field ∈ fields, ∀ name, field.1.read = .ok name →
    name = "portId" ∨ name = "portName" ∨ name = "serialNumber" → field.2 = .null

/-- A draft in which no attribute is set, whichever fields it has seen. -/
structure Fields.IsUnset (d : Fields) : Prop where
  portId : d.portId.getD none = none
  portName : d.portName.getD none = none
  serialNumber : d.serialNumber.getD none = none

theorem step_isUnset {draft draft' : Fields} {field : Quoted × Node} (unset : draft.IsUnset)
    (nothing : SetsNothing [field]) (stepped : shape.step draft field = .ok draft') :
    draft'.IsUnset := by
  have null (name : field.1.read = .ok "portId" ∨ field.1.read = .ok "portName" ∨
      field.1.read = .ok "serialNumber") : field.2 = .null := by
    rcases name with named | named | named
    all_goals exact nothing field List.mem_cons_self _ named (by simp)
  rcases Shape.step_cases stepped with ⟨column, listed, named, filled⟩ | rfl
  · simp only [shape, List.mem_cons, List.not_mem_nil, or_false] at listed
    rcases listed with rfl | rfl | rfl
    · rw [null (.inl named)] at filled
      cases filled
      exact ⟨rfl, unset.portName, unset.serialNumber⟩
    · rw [null (.inr (.inl named))] at filled
      cases filled
      exact ⟨unset.portId, rfl, unset.serialNumber⟩
    · rw [null (.inr (.inr named))] at filled
      cases filled
      exact ⟨unset.portId, unset.portName, rfl⟩
  · exact unset

theorem ofNode_setsNothing {fields : List (Quoted × Node)} (nothing : SetsNothing fields) :
    ∃ problem, ofNode (.record fields none) = .error problem := by
  cases outcome : ofNode (.record fields none) with
  | error problem => exact ⟨problem, rfl⟩
  | ok i =>
    obtain ⟨attributes, read, built⟩ := Reading.of_bind_ok outcome
    obtain ⟨draft, folded, finished⟩ := Reading.of_bind_ok read
    have unset : draft.IsUnset := by
      refine Shape.fold_induct ?_ ⟨rfl, rfl, rfl⟩ folded
      intro field member draft draft' before stepped
      refine step_isUnset before ?_ stepped
      intro only listed
      rw [List.mem_singleton.mp listed]
      exact nothing field member
    have empty : attributes = ⟨none, none, none⟩ := by
      cases finished
      rw [unset.portId, unset.portName, unset.serialNumber]
    rw [empty] at built
    cases built

end Identifier

/-- Every identifier, frame, port and set of delivery figures is read back from both of its written
forms. A text that is read as an identifier sets an attribute, and a record in which each of the
three attributes is missing or null is refused. -/
theorem readDocument_written :
    (∀ i : Identifier, ReadsBack Identifier.ofNode i.toJson i) ∧
      (∀ f : Frame, ReadsBack Frame.ofNode f.toJson f) ∧
      (∀ p : Port, ReadsBack Port.ofNode p.toJson p) ∧
      (∀ s : DeliveryStats, s.Fits → ReadsBack DeliveryStats.ofNode s.toJson s) ∧
      (∀ s i, readDocument Identifier.ofNode s = .ok i →
        i.portId ≠ none ∨ i.portName ≠ none ∨ i.serialNumber ≠ none) ∧
      ∀ s fields, IsDocument (.record fields none) s → Identifier.SetsNothing fields →
        ∃ problem, readDocument Identifier.ofNode s = .error problem := by
  refine ⟨fun i => .of_node i.ofNode_toJson, fun f => .of_node f.ofNode_toJson,
    fun p => .of_node p.ofNode_toJson, fun s fits => .of_node (DeliveryStats.ofNode_toJson fits),
    ?_, ?_⟩
  · intro _ i _
    have known := i.known
    simp only [Bool.or_eq_true, Option.isSome_iff_ne_none, or_assoc] at known
    exact known
  · intro s fields document nothing
    obtain ⟨problem, refused⟩ := Identifier.ofNode_setsNothing nothing
    exact ⟨problem, (document.read_eq Identifier.ofNode).trans refused⟩

/-- Figures as large as they can be, an empty attribute beside an unset one, and characters that are
escaped; a record of other fields makes no identifier. -/
theorem readDocument_written_extremes :
    let most := UInt64.size - 1
    let stats : DeliveryStats := ⟨most, 0, most, 0, most⟩
    let i : Identifier := ⟨some "", none, some "\"\\ \x00\n\x7fé", rfl⟩
    let other : Value := .record [("serialNumber", .null), ("site", .list [.bool true, .text "a"])]
    ReadsBack Identifier.ofNode i.toJson i ∧ ReadsBack DeliveryStats.ofNode stats.toJson stats ∧
      (i.portId ≠ none ∨ i.portName ≠ none ∨ i.serialNumber ≠ none) ∧
      ∃ problem, readDocument Identifier.ofNode other.indented = .error problem := by
  intro most stats i other
  obtain ⟨identifiers, _, _, figures, accepted, refused⟩ := readDocument_written
  have fits : stats.Fits := by constructor <;> decide
  have back := identifiers i
  refine ⟨back, figures stats fits, accepted _ i back.1, ?_⟩
  refine refused other.indented _ other.isDocument.2 ?_
  intro field listed name named which
  simp only [fieldNodes, List.mem_cons, List.not_mem_nil, or_false] at listed
  rcases listed with rfl | rfl
  · rfl
  · cases named
    simp at which

end MeterHub
