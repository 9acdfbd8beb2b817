import MeterHub.Event
import MeterHub.Json.Problem
import MeterHub.Time.Span

/-!
Failures of operations. Each one has a message and maps to one of the error codes, and each one can
be told to listeners as a fault of a stream.
-/

set_option autoImplicit false
set_option relaxedAutoImplicit false

namespace MeterHub

inductive FileProblem
  /-- The content is not a text. -/
  | invalidData
  | isADirectory
  | notADirectory
  | alreadyExists
  | notFound
  /-- A name is too long. -/
  | invalidName
  /-- A name holds a character that no name may hold. -/
  | invalidInput
deriving DecidableEq

def FileProblem.text : FileProblem → String
  | .invalidData => "InvalidData"
  | .isADirectory => "IsADirectory"
  | .notADirectory => "NotADirectory"
  | .alreadyExists => "AlreadyExists"
  | .notFound => "NotFound"
  | .invalidName => "InvalidFilename"
  | .invalidInput => "InvalidInput"

inductive Failure
  /-- An identifier without any attribute. -/
  | invalidIdentifier
  | portIdNotFound (portId : String)
  | portNameNotFound (portName : String)
  /-- A request that names no port. -/
  | portDescriptorEmpty
  | modeNotDefined
  | identifierNotFound (identifier : Identifier)
  | readTimeout (identifier : Identifier) (timeout : Span)
  | fault (fault : Fault)
  | transport (portName message : String)
  /-- Nothing drives background work. -/
  | noRuntime (reason : String)
  | invalidConfiguration (reason : String)
  | configFormat (problem : Json.Problem)
  | file (problem : FileProblem)

namespace Failure

def code : Failure → ErrorCode
  | .invalidIdentifier => .invalidIdentifier
  | .portIdNotFound _ => .portIdNotFound
  | .portNameNotFound _ => .portNameNotFound
  | .portDescriptorEmpty => .portDescriptorEmpty
  | .modeNotDefined => .modeNotDefined
  | .identifierNotFound _ => .identifierNotFound
  | .readTimeout _ _ => .readTimeout
  | .fault f => f.code
  | .transport _ _ => .otherReason
  | .noRuntime _ => .otherReason
  | .invalidConfiguration _ => .invalidConfiguration
  | .configFormat _ => .invalidConfiguration
  | .file _ => .invalidConfiguration

def message : Failure → String
  | .invalidIdentifier =>
    "Invalid identifier: a port id, port name or serial number is required"
  | .portIdNotFound portId => "Port id not found: " ++ portId
  | .portNameNotFound portName => "Port name not found: " ++ portName
  | .portDescriptorEmpty => "Port descriptor is empty: a port id or port name is required"
  | .modeNotDefined => "TIC mode is not defined"
  | .identifierNotFound i => "Identifier not found: " ++ i.text
  | .readTimeout i timeout => "No frame read from " ++ i.text ++ " within " ++ timeout.text
  | .fault f => f.text
  | .transport portName message => "Transport error on " ++ portName ++ ": " ++ message
  | .noRuntime reason => "No tokio runtime available: " ++ reason
  | .invalidConfiguration reason => "Invalid configuration: " ++ reason
  | .configFormat problem =>
    "Configuration format error: " ++ problem.message?.getD problem.category
  | .file problem => "I/O error: " ++ problem.text

def severity (failure : Failure) : Severity := failure.code.severity

def toFault (failure : Failure) (identifier : Identifier) : Fault :=
  ⟨identifier, failure.code, failure.message, none⟩

/-- A failure to find a device is a failure to find the identifier that was asked for; any other
one is passed on. -/
def onResolution (failure : Failure) (identifier : Identifier) : Failure :=
  if failure.code.concernsResolution then .identifierNotFound identifier else failure

end Failure

/-- The identifier of some attributes, of which at least one must be set. -/
def Identifier.ofParts (portId portName serialNumber : Option String) :
    Except Failure Identifier :=
  match ofParts? portId portName serialNumber with
  | some identifier => .ok identifier
  | none => .error .invalidIdentifier

def Identifier.Draft.build (d : Identifier.Draft) : Except Failure Identifier :=
  Identifier.ofParts d.portId d.portName d.serialNumber

end MeterHub
