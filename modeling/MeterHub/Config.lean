import MeterHub.Failure
import MeterHub.Text.Blank

/-!
Configurations: the mode of new sessions, the ports that are kept open whoever listens, the period
of polling and the time that a read waits.
-/

set_option autoImplicit false
set_option relaxedAutoImplicit false

namespace MeterHub

def Config.defaultPollInterval : Span := ⟨1, 0, by decide, by decide⟩

def Config.defaultReadTimeout : Span := ⟨30, 0, by decide, by decide⟩

/-- A configuration. Without a mode no session can be opened. -/
structure Config where
  defaultMode : Option Mode := some .historic
  nativePorts : List String := []
  pollInterval : Span := Config.defaultPollInterval
  readTimeout : Span := Config.defaultReadTimeout
deriving DecidableEq

namespace Config

/-- What is wrong with a list of native ports: the first name that is blank or occurs again later,
where being blank comes first. -/
def namesFlaw? : List String → Option String
  | [] => none
  | name :: names =>
    if Text.isBlankText name then some "native_ports must not contain empty names"
    else if names.contains name then some ("native port " ++ name ++ " listed twice")
    else namesFlaw? names

/-- What is wrong with a configuration, the first flaw only. -/
def flaw? (c : Config) : Option String :=
  if c.pollInterval.isZero then some "poll_interval must be greater than 0"
  else if c.readTimeout.isZero then some "read_timeout must be greater than 0"
  else namesFlaw? c.nativePorts

def validate (c : Config) : Except Failure Unit :=
  match c.flaw? with
  | some reason => .error (.invalidConfiguration reason)
  | none => .ok ()

/-- Whether a port of this name is kept open whoever listens. -/
def isNativePort (c : Config) (name : String) : Bool := c.nativePorts.contains name

def inspect (c : Config) : String :=
  Text.inspectRecord "StreamConfig"
    [("default_mode", Text.inspectOption Mode.inspect c.defaultMode),
      ("native_ports", Text.inspectList Text.inspectText c.nativePorts),
      ("poll_interval", c.pollInterval.text),
      ("read_timeout", c.readTimeout.text)] false

/-- One change to a configuration in the making. -/
inductive Change
  | defaultMode (mode : Option Mode)
  | nativePort (name : String)
  /-- These native ports in place of those before. -/
  | nativePorts (names : List String)
  | pollInterval (period : Span)
  | readTimeout (timeout : Span)

def apply (c : Config) : Change → Config
  | .defaultMode mode => { c with defaultMode := mode }
  | .nativePort name => { c with nativePorts := c.nativePorts ++ [name] }
  | .nativePorts names => { c with nativePorts := names }
  | .pollInterval period => { c with pollInterval := period }
  | .readTimeout timeout => { c with readTimeout := timeout }

/-- The default configuration with some changes made in order, provided that it has no flaw. -/
def build (changes : List Change) : Except Failure Config := do
  let c := changes.foldl apply {}
  c.validate
  return c

end Config

end MeterHub
