import MeterHub.Presence

/-!
Steps of a poller: what happens between the ports, the poller and its consumer, one thing at a time.
Polling and refilling send as many changes as there is room for; they may also be taken apart into
an enumeration and changes that are sent one by one. The consumer takes changes out whenever it
likes.
-/

set_option autoImplicit false
set_option relaxedAutoImplicit false

namespace MeterHub.Poller

/-- The changes of the announced snapshot that wait for room. -/
def waiting (p : Poller) : List Presence :=
  match p.announcing with
  | none => []
  | some (_, waiting) => waiting

/-- The changes that the consumer has yet to take. -/
def pending (p : Poller) : List Presence := p.queue ++ p.waiting

/-- The last snapshot that was taken into account. -/
def latest (p : Poller) : List Port :=
  match p.announcing with
  | none => p.known
  | some (snapshot, _) => snapshot

/-- The snapshot of an enumeration. There is none if it fails, or if changes still wait for room. -/
def heeded (p : Poller) (ports : Except Failure (List Port)) : List (List Port) :=
  match p.announcing, ports with
  | none, .ok current => [current]
  | _, _ => []

/-- Takes a snapshot into account before any of its changes is sent. -/
def enumerate (p : Poller) (ports : Except Failure (List Port)) : Poller :=
  match p.announcing, ports with
  | none, .ok current => { p with announcing := some (current, Presence.changes p.known current) }
  | _, _ => p

/-- Sends one change if there is room for it. When none waits any more, the announced snapshot is
the known one. -/
def send (p : Poller) : Poller :=
  match p.announcing with
  | none => p
  | some (snapshot, []) => { p with known := snapshot, announcing := none }
  | some (snapshot, change :: rest) =>
    if p.queue.length < capacity then
      { p with announcing := some (snapshot, rest), queue := p.queue ++ [change] }
    else p

/-- One thing that happens to a poller. -/
inductive Step
  | poll (ports : Except Failure (List Port))
  | refill
  | enumerate (ports : Except Failure (List Port))
  | send
  /-- The consumer takes at most as many changes as told. -/
  | take (limit : Nat)

/-- A poller, the snapshots that it has taken into account, and the changes that its consumer has
received. -/
structure Watch where
  poller : Poller := {}
  snapshots : List (List Port) := []
  received : List Presence := []

namespace Watch

def step (w : Watch) : Step → Watch
  | .poll ports =>
    { w with poller := w.poller.poll ports, snapshots := w.snapshots ++ w.poller.heeded ports }
  | .refill => { w with poller := w.poller.refill }
  | .enumerate ports =>
    { w with poller := w.poller.enumerate ports, snapshots := w.snapshots ++ w.poller.heeded ports }
  | .send => { w with poller := w.poller.send }
  | .take limit =>
    { w with
      poller := (w.poller.take limit).2
      received := w.received ++ (w.poller.take limit).1 }

def run (w : Watch) : List Step → Watch
  | [] => w
  | step :: steps => (w.step step).run steps

/-- All changes that were sent: those that were received, and those in the queue. -/
def sent (w : Watch) : List Presence := w.received ++ w.poller.queue

end Watch

end MeterHub.Poller
