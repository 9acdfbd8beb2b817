import MeterHub.Event

/-!
Recorders: listeners for benches. A recorder keeps what it is told until it is asked, or only counts
it; some panic, and one kind leaves after the first event.
-/

set_option autoImplicit false
set_option relaxedAutoImplicit false

namespace MeterHub.Bench

inductive Recorder
  /-- Keeps the events since it was last asked. -/
  | log (fresh : List Event)
  /-- Keeps events, and panics on frames. -/
  | framePanics (fresh : List Event)
  /-- Keeps events, and gives up its subscriptions when it is told one. -/
  | once (fresh : List Event)
  /-- Panics whatever it is told, and counts. -/
  | panicking (calls : Nat)
  /-- Counts frames and faults, and keeps the last frame. -/
  | recording (frames faults : Nat) (last : Option Capture)
deriving DecidableEq

namespace Recorder

def hear : Recorder → Event → Recorder
  | .log fresh, event => .log (fresh ++ [event])
  | .framePanics fresh, event => .framePanics (fresh ++ [event])
  | .once fresh, event => .once (fresh ++ [event])
  | .panicking calls, _ => .panicking (calls + 1)
  | .recording frames faults _, .frame capture => .recording (frames + 1) faults (some capture)
  | .recording frames faults last, .fault _ => .recording frames (faults + 1) last

def panics : Recorder → Event → Bool
  | .framePanics _, event => event.isFrame
  | .panicking _, _ => true
  | _, _ => false

/-- Whether a recorder leaves once it has been told something. -/
def leaves : Recorder → Bool
  | .once _ => true
  | _ => false

/-- Whether the callback of a recorder can be kept waiting. -/
def canWait : Recorder → Bool
  | .log _ => true
  | _ => false

/-- The recorder after it was asked: it forgets the events that it told. -/
def asked : Recorder → Recorder
  | .log _ => .log []
  | .framePanics _ => .framePanics []
  | .once _ => .once []
  | recorder => recorder

end Recorder

abbrev Crowd := List (String × Recorder)

namespace Crowd

def modify (crowd : Crowd) (name : String) (change : Recorder → Recorder) : Crowd :=
  crowd.map fun member => if member.1 = name then (name, change member.2) else member

def hear (crowd : Crowd) (name : String) (event : Event) : Crowd :=
  crowd.modify name fun recorder => recorder.hear event

def panics (crowd : Crowd) (name : String) (event : Event) : Bool :=
  (crowd.lookup name).any fun recorder => recorder.panics event

def leaves (crowd : Crowd) (name : String) : Bool := (crowd.lookup name).any Recorder.leaves

def canWait (crowd : Crowd) (name : String) : Bool := (crowd.lookup name).any Recorder.canWait

def asked (crowd : Crowd) : Crowd := crowd.map fun member => (member.1, member.2.asked)

end Crowd

end MeterHub.Bench
