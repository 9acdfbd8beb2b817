import MeterHub.Config
import MeterHub.Frame.Json
import MeterHub.Time.Span.Json

/-!
Configurations as texts. A field that is left out takes its default value.
-/

set_option autoImplicit false
set_option relaxedAutoImplicit false

namespace MeterHub.Config

open Json

def toJson (c : Config) : Value :=
  .record
    [("default_mode", .ofOption Mode.toJson c.defaultMode),
      ("native_ports", .list (c.nativePorts.map .text)),
      ("poll_interval", c.pollInterval.toJson),
      ("read_timeout", c.readTimeout.toJson)]

/-- The fields of a configuration as they are read. -/
structure Fields where
  defaultMode : Option (Option Mode) := none
  nativePorts : Option (List String) := none
  pollInterval : Option Span := none
  readTimeout : Option Span := none

/-- The fields that were read, and the default values of the others. -/
def ofFields (d : Fields) : Config :=
  let base : Config := {}
  { defaultMode := d.defaultMode.getD base.defaultMode
    nativePorts := d.nativePorts.getD base.nativePorts
    pollInterval := d.pollInterval.getD base.pollInterval
    readTimeout := d.readTimeout.getD base.readTimeout }

def shape : Shape Fields Config where
  title := "struct StreamConfig"
  columns :=
    [⟨"default_mode", (·.defaultMode.isSome), fun node d => do
        return { d with defaultMode := some (← node.toOption Mode.ofNode) }⟩,
      ⟨"native_ports", (·.nativePorts.isSome), fun node d => do
        return { d with nativePorts := some (← node.toListOf Node.toText) }⟩,
      ⟨"poll_interval", (·.pollInterval.isSome), fun node d => do
        return { d with pollInterval := some (← Span.ofNode node) }⟩,
      ⟨"read_timeout", (·.readTimeout.isSome), fun node d => do
        return { d with readTimeout := some (← Span.ofNode node) }⟩]
  blank := {}
  finish d := return ofFields d
  tolerant := true

/-- The configuration that a node describes, whether or not it has a flaw. -/
def ofNode (node : Node) : Reading Config := shape.read node

/-- The configuration of a text, whether or not it has a flaw. -/
def parse (s : String) : Except Failure Config :=
  match readDocument ofNode s with
  | .ok c => .ok c
  | .error problem => .error (.configFormat problem)

/-- The configuration of a text, which must not have a flaw. -/
def ofText (s : String) : Except Failure Config := do
  let c ← parse s
  c.validate
  return c

end MeterHub.Config
