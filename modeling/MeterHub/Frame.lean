/-!
Decoded frames. A frame is a list of labelled groups that was sent in one of two modes; the mode
decides which label carries the serial number of the meter.
-/

set_option autoImplicit false
set_option relaxedAutoImplicit false

namespace MeterHub

/-- The two ways in which meters send their groups. -/
inductive Mode
  | historic
  | standard
deriving DecidableEq

namespace Mode

def text : Mode → String
  | .historic => "historic"
  | .standard => "standard"

/-- The label of the group that carries the serial number. -/
def serialLabel : Mode → String
  | .historic => "ADCO"
  | .standard => "ADSC"

def inspect : Mode → String
  | .historic => "Historic"
  | .standard => "Standard"

end Mode

structure Group where
  label : String
  value : String
deriving DecidableEq

/-- A decoded frame, its groups in the order of transmission. -/
structure Frame where
  mode : Mode
  groups : List Group
deriving DecidableEq

namespace Frame

/-- The value of the first group with a label. -/
def field? (f : Frame) (label : String) : Option String :=
  (f.groups.find? fun group => group.label == label).map (·.value)

/-- The serial number that the frame reveals, if it has a group for it. -/
def serialNumber? (f : Frame) : Option String := f.field? f.mode.serialLabel

def ofPairs (mode : Mode) (pairs : List (String × String)) : Frame :=
  ⟨mode, pairs.map fun pair => ⟨pair.1, pair.2⟩⟩

end Frame

end MeterHub
