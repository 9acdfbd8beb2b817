/-!
Error codes: the stable numbers under which failures are reported, and how severe each one is.
-/

set_option autoImplicit false
set_option relaxedAutoImplicit false

namespace MeterHub

inductive Severity
  | info
  | warning
  | error
  | critical
deriving DecidableEq

namespace Severity

def level : Severity → Nat
  | .info => 0
  | .warning => 1
  | .error => 2
  | .critical => 3

def text : Severity → String
  | .info => "INFO"
  | .warning => "WARN"
  | .error => "ERROR"
  | .critical => "CRITICAL"

def order (a b : Severity) : Ordering := compare a.level b.level

end Severity

/-- The causes of failures, as far as they have numbers of their own. -/
inductive ErrorCode
  | portIdNotFound
  | portNameNotFound
  | portDescriptorEmpty
  | modeNotDefined
  | identifierNotFound
  | streamUnplugged
  | readTimeout
  | invalidIdentifier
  | invalidConfiguration
  | otherReason
deriving DecidableEq

namespace ErrorCode

def all : List ErrorCode :=
  [.portIdNotFound, .portNameNotFound, .portDescriptorEmpty, .modeNotDefined, .identifierNotFound,
    .streamUnplugged, .readTimeout, .invalidIdentifier, .invalidConfiguration, .otherReason]

def number : ErrorCode → Nat
  | .portIdNotFound => 1
  | .portNameNotFound => 2
  | .portDescriptorEmpty => 3
  | .modeNotDefined => 4
  | .identifierNotFound => 5
  | .streamUnplugged => 6
  | .readTimeout => 7
  | .invalidIdentifier => 8
  | .invalidConfiguration => 9
  | .otherReason => 255

def ofNumber? (n : Nat) : Option ErrorCode := all.find? fun code => code.number == n

def name : ErrorCode → String
  | .portIdNotFound => "PORT_ID_NOT_FOUND"
  | .portNameNotFound => "PORT_NAME_NOT_FOUND"
  | .portDescriptorEmpty => "PORT_DESCRIPTOR_EMPTY"
  | .modeNotDefined => "MODE_NOT_DEFINED"
  | .identifierNotFound => "IDENTIFIER_NOT_FOUND"
  | .streamUnplugged => "STREAM_UNPLUGGED"
  | .readTimeout => "READ_TIMEOUT"
  | .invalidIdentifier => "INVALID_IDENTIFIER"
  | .invalidConfiguration => "INVALID_CONFIGURATION"
  | .otherReason => "OTHER_REASON"

/-- The written form: the name, and the number in parentheses. -/
def text (code : ErrorCode) : String := code.name ++ "(" ++ toString code.number ++ ")"

/-- The severity of a code. Only a device that is gone is critical, and a read without an answer is
but a warning. -/
def severity : ErrorCode → Severity
  | .streamUnplugged => .critical
  | .readTimeout => .warning
  | _ => .error

/-- Whether the failure lies in finding a device, and not in its data. -/
def concernsResolution : ErrorCode → Bool
  | .portIdNotFound | .portNameNotFound | .portDescriptorEmpty | .identifierNotFound => true
  | _ => false

theorem ofNumber?_number (code : ErrorCode) : ofNumber? code.number = some code := by
  cases code <;> decide

end ErrorCode

end MeterHub
