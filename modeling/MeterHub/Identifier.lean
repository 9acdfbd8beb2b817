import MeterHub.Text.Inspect

/-!
Identifiers of meter streams. A stream is addressed by the id of its port, the name of its port and
the serial number of the meter, of which at least one is known. Two identifiers that know different
things are compared tier by tier: the first attribute that both know decides.
-/

set_option autoImplicit false
set_option relaxedAutoImplicit false

namespace MeterHub

/-- The address of a meter stream, as far as it is known. -/
structure Identifier where
  portId : Option String
  portName : Option String
  serialNumber : Option String
  known : (portId.isSome || portName.isSome || serialNumber.isSome) = true
deriving DecidableEq

namespace Identifier

/-- The identifier of some attributes; none if no attribute is set. -/
def ofParts? (portId portName serialNumber : Option String) : Option Identifier :=
  if known : (portId.isSome || portName.isSome || serialNumber.isSome) = true then
    some ⟨portId, portName, serialNumber, known⟩
  else none

def ofPortId (portId : String) : Identifier := ⟨some portId, none, none, rfl⟩

def ofPortName (portName : String) : Identifier := ⟨none, some portName, none, rfl⟩

def ofSerialNumber (serialNumber : String) : Identifier := ⟨none, none, some serialNumber, rfl⟩

/-- A stream known by its port, whose name is always known. -/
def ofPort (portId : Option String) (portName : String) : Identifier :=
  ⟨portId, some portName, none, by simp⟩

/-- The same address with a serial number, in place of the one it may have had. -/
def withSerialNumber (i : Identifier) (serialNumber : String) : Identifier :=
  ⟨i.portId, i.portName, some serialNumber, by simp⟩

/-- The answer of the first tier: equality of two attributes that are both known. -/
def tier (a b : Option String) (otherwise : Bool) : Bool :=
  match a, b with
  | some x, some y => x == y
  | _, _ => otherwise

/-- Whether two identifiers address the same stream. Serial numbers known on both sides decide;
else port ids known on both sides; else port names known on both sides; else they do not agree. -/
def agrees (a b : Identifier) : Bool :=
  tier a.serialNumber b.serialNumber
    (tier a.portId b.portId
      (tier a.portName b.portName false))

def parts (i : Identifier) : List (String × String) :=
  [("portId", i.portId), ("portName", i.portName), ("serialNumber", i.serialNumber)].filterMap
    fun part => part.2.map fun value => (part.1, value)

/-- The written form: the attributes that are set, in brackets. -/
def text (i : Identifier) : String :=
  "[" ++ ", ".intercalate (i.parts.map fun part => part.1 ++ "=" ++ part.2) ++ "]"

def inspect (i : Identifier) : String :=
  Text.inspectRecord "TicIdentifier"
    [("port_id", Text.inspectOption Text.inspectText i.portId),
      ("port_name", Text.inspectOption Text.inspectText i.portName),
      ("serial_number", Text.inspectOption Text.inspectText i.serialNumber)] false

inductive Attribute
  | portId
  | portName
  | serialNumber
deriving DecidableEq

/-- An identifier in the making: attributes are set one by one, and a later value replaces an
earlier one. -/
structure Draft where
  portId : Option String := none
  portName : Option String := none
  serialNumber : Option String := none
deriving DecidableEq

def Draft.set (d : Draft) (which : Attribute) (value : String) : Draft :=
  match which with
  | .portId => { d with portId := some value }
  | .portName => { d with portName := some value }
  | .serialNumber => { d with serialNumber := some value }

/-- The finished identifier; none if no attribute was set. -/
def Draft.build? (d : Draft) : Option Identifier :=
  ofParts? d.portId d.portName d.serialNumber

theorem ext_attributes {a b : Identifier} (portId : a.portId = b.portId)
    (portName : a.portName = b.portName) (serialNumber : a.serialNumber = b.serialNumber) :
    a = b := by
  cases a
  cases b
  simp_all

theorem ofParts?_attributes (i : Identifier) :
    ofParts? i.portId i.portName i.serialNumber = some i := by
  simp [ofParts?, i.known]

end Identifier

end MeterHub
