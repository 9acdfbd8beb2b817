import MeterHub.Hub.Move

/-!
Assembling a hub from its parts: a valid configuration, discovery, a way to open sources, and
something that drives background work.
-/

set_option autoImplicit false
set_option relaxedAutoImplicit false

namespace MeterHub

/-- What drives background work: nothing, what is there already, or a driver of the hub's own. -/
inductive Runtime
  | absent
  | current
  | given
deriving DecidableEq

/-- The parts that have been brought together. -/
structure Assembly where
  config : Config := {}
  hasDiscovery : Bool
  hasOpening : Bool
  runtime : Runtime

namespace Assembly

def absentRuntime : String :=
  "there is no reactor running, must be called from the context of a Tokio 1.x runtime"

/-- The hub that the parts make, or the first one that is missing or wrong. -/
def build (a : Assembly) : Except Failure Hub := do
  a.config.validate
  if !a.hasDiscovery then .error (.invalidConfiguration "a port discovery is required")
  if !a.hasOpening then .error (.invalidConfiguration "a frame source factory is required")
  if a.runtime = .absent then .error (.noRuntime absentRuntime)
  return Hub.fresh a.config

/-- The inspection form; only a driver of the hub's own is among the parts. -/
def inspect (a : Assembly) : String :=
  Text.inspectRecord "TicOrchestratorBuilder"
    [("config", a.config.inspect), ("discovery", Text.inspectBool a.hasDiscovery),
      ("source_factory", Text.inspectBool a.hasOpening),
      ("runtime", Text.inspectBool (a.runtime = .given))] false

end Assembly

end MeterHub
