import MeterHub.Json.Decode
import MeterHub.Json.Value
import MeterHub.Lanes

/-!
Delivery figures in the data format.
-/

set_option autoImplicit false
set_option relaxedAutoImplicit false

namespace MeterHub.DeliveryStats

open Json

def toJson (s : DeliveryStats) : Value :=
  .record
    [("frames_delivered", .nat s.framesDelivered), ("faults_delivered", .nat s.faultsDelivered),
      ("listener_panics", .nat s.listenerPanics), ("dropped", .nat s.dropped),
      ("open_lanes", .nat s.openLanes)]

/-- The fields of delivery figures as they are read. -/
structure Fields where
  framesDelivered : Option Nat := none
  faultsDelivered : Option Nat := none
  listenerPanics : Option Nat := none
  dropped : Option Nat := none
  openLanes : Option Nat := none

def count (node : Node) (wanted : String) : Reading Nat := node.toNatBelow UInt64.size wanted

def shape : Shape Fields DeliveryStats where
  title := "struct DispatchStats"
  columns :=
    [⟨"frames_delivered", (·.framesDelivered.isSome), fun node d => do
        return { d with framesDelivered := some (← count node "u64") }⟩,
      ⟨"faults_delivered", (·.faultsDelivered.isSome), fun node d => do
        return { d with faultsDelivered := some (← count node "u64") }⟩,
      ⟨"listener_panics", (·.listenerPanics.isSome), fun node d => do
        return { d with listenerPanics := some (← count node "u64") }⟩,
      ⟨"dropped", (·.dropped.isSome), fun node d => do
        return { d with dropped := some (← count node "u64") }⟩,
      ⟨"open_lanes", (·.openLanes.isSome), fun node d => do
        return { d with openLanes := some (← count node "usize") }⟩]
  blank := {}
  finish d := do
    let framesDelivered ← required "frames_delivered" d.framesDelivered
    let faultsDelivered ← required "faults_delivered" d.faultsDelivered
    let listenerPanics ← required "listener_panics" d.listenerPanics
    let dropped ← required "dropped" d.dropped
    let openLanes ← required "open_lanes" d.openLanes
    return ⟨framesDelivered, faultsDelivered, listenerPanics, dropped, openLanes⟩

def ofNode (node : Node) : Reading DeliveryStats := shape.read node

end MeterHub.DeliveryStats
