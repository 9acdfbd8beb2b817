import MeterHub.ErrorCode
import MeterHub.Frame
import MeterHub.Identifier

/-!
Events: what listeners are told about a stream. An event is a frame or a fault, and it carries the
address of the stream as far as it was known at that moment.
-/

set_option autoImplicit false
set_option relaxedAutoImplicit false

namespace MeterHub

/-- A frame with the address of its stream and the mode that it was decoded in. -/
structure Capture where
  identifier : Identifier
  mode : Mode
  frame : Frame
deriving DecidableEq

/-- A frame with its moment of capture, in milliseconds of a host's clock. -/
structure TimedCapture extends Capture where
  time : Int
deriving DecidableEq

/-- A failure of a stream, and the frame that came before it where that matters. -/
structure Fault where
  identifier : Identifier
  code : ErrorCode
  message : String
  frame : Option Frame
deriving DecidableEq

namespace Fault

def unplugged (identifier : Identifier) : Fault :=
  ⟨identifier, .streamUnplugged, "Stream unplugged: " ++ identifier.text, none⟩

def withFrame (f : Fault) (frame : Frame) : Fault := { f with frame := some frame }

def text (f : Fault) : String :=
  f.code.text ++ " on " ++ f.identifier.text ++ ": " ++ f.message

end Fault

inductive Event
  | frame (capture : Capture)
  | fault (fault : Fault)
deriving DecidableEq

namespace Event

def identifier : Event → Identifier
  | .frame c => c.identifier
  | .fault f => f.identifier

def isFrame : Event → Bool
  | .frame _ => true
  | .fault _ => false

end Event

/-- What a source tells its session: a decoded frame, or the message of an error. -/
inductive Signal
  | frame (frame : Frame)
  | error (message : String)
deriving DecidableEq

/-- A letter of the basic alphabet in lower case; every other character stays. -/
def lowerChar (c : Char) : Char :=
  if 'A' ≤ c ∧ c ≤ 'Z' then Char.ofNat (c.toNat + 32) else c

/-- Whether a word stands somewhere in a text. -/
def occursIn (word : List Char) : List Char → Bool
  | [] => word.isEmpty
  | c :: cs => word.isPrefixOf (c :: cs) || occursIn word cs

/-- The code of a source's error: a message that mentions a timeout, in letters of either case, is
a read that got no answer. -/
def classify (message : String) : ErrorCode :=
  if occursIn "timeout".toList (message.toList.map lowerChar) then .readTimeout else .otherReason

end MeterHub
