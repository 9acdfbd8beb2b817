import MeterHub.Frame
import MeterHub.Json.Decode
import MeterHub.Json.Value

/-!
Modes, groups and frames in the data format.
-/

set_option autoImplicit false
set_option relaxedAutoImplicit false

namespace MeterHub

open Json

def Mode.variants : List (String × Mode) :=
  [Mode.historic, Mode.standard].map fun mode => (mode.text, mode)

def Mode.toJson (mode : Mode) : Value := .text mode.text

def Mode.ofNode (node : Node) : Reading Mode := node.toVariant Mode.variants

def Group.toJson (g : Group) : Value :=
  .record [("label", .text g.label), ("value", .text g.value)]

structure Group.Fields where
  label : Option String := none
  value : Option String := none

def Group.shape : Shape Group.Fields Group where
  title := "struct DataGroup"
  columns :=
    [⟨"label", (·.label.isSome), fun node d => do
        return { d with label := some (← node.toText) }⟩,
      ⟨"value", (·.value.isSome), fun node d => do
        return { d with value := some (← node.toText) }⟩]
  blank := {}
  finish d := do
    let label ← required "label" d.label
    let value ← required "value" d.value
    return ⟨label, value⟩

def Group.ofNode (node : Node) : Reading Group := Group.shape.read node

namespace Frame

def toJson (f : Frame) : Value :=
  .record [("mode", f.mode.toJson), ("groups", .list (f.groups.map Group.toJson))]

structure Fields where
  mode : Option Mode := none
  groups : Option (List Group) := none

def shape : Shape Fields Frame where
  title := "struct TicFrame"
  columns :=
    [⟨"mode", (·.mode.isSome), fun node d => do
        return { d with mode := some (← Mode.ofNode node) }⟩,
      ⟨"groups", (·.groups.isSome), fun node d => do
        return { d with groups := some (← node.toListOf Group.ofNode) }⟩]
  blank := {}
  finish d := do
    let mode ← required "mode" d.mode
    let groups ← required "groups" d.groups
    return ⟨mode, groups⟩

def ofNode (node : Node) : Reading Frame := shape.read node

end Frame

end MeterHub
