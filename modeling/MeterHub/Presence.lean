import MeterHub.Failure
import MeterHub.Port

/-!
Presence: which ports come and go. The difference of two snapshots is a list of changes, removals
first. A poller compares each snapshot with the one before and announces the changes through a queue
of limited room; it polls nothing while changes still wait for room.
-/

set_option autoImplicit false
set_option relaxedAutoImplicit false

namespace MeterHub

inductive Presence
  | appeared (port : Port)
  | disappeared (port : Port)
deriving DecidableEq

namespace Presence

def port : Presence → Port
  | .appeared p => p
  | .disappeared p => p

/-- The changes from one snapshot to the next: what is gone, then what is new. -/
def changes (previous current : List Port) : List Presence :=
  ((previous.filter fun port => !current.contains port).map disappeared) ++
    ((current.filter fun port => !previous.contains port).map appeared)

end Presence

/-- A poller: the snapshot that it knows, the snapshot that it is announcing with the changes that
wait for room, and the queue. -/
structure Poller where
  known : List Port := []
  announcing : Option (List Port × List Presence) := none
  queue : List Presence := []
deriving DecidableEq

namespace Poller

/-- The room of the queue. -/
def capacity : Nat := 64

/-- Moves waiting changes into the room of the queue; when the last one is in, the announced
snapshot is the known one. -/
def refill (p : Poller) : Poller :=
  match p.announcing with
  | none => p
  | some (snapshot, waiting) =>
    let room := capacity - p.queue.length
    let queue := p.queue ++ waiting.take room
    match waiting.drop room with
    | [] => { known := snapshot, announcing := none, queue }
    | rest => { p with announcing := some (snapshot, rest), queue }

def isBlocked (p : Poller) : Bool := p.announcing.isSome

/-- Takes a snapshot into account. A failed enumeration changes nothing, and while changes wait for
room there is no enumeration. -/
def poll (p : Poller) (ports : Except Failure (List Port)) : Poller :=
  match p.announcing, ports with
  | none, .ok current =>
    { p with announcing := some (current, Presence.changes p.known current) }.refill
  | _, _ => p

def take (p : Poller) (limit : Nat) : List Presence × Poller :=
  (p.queue.take limit, { p with queue := p.queue.drop limit })

end Poller

end MeterHub
