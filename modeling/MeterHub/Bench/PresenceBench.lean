import MeterHub.Discovery.Board
import MeterHub.Presence
import MeterHub.Time.Ticker

/-!
A bench for a poller: a board whose ports are set by hand, a clock that is moved by hand, and a
consumer that takes changes when it is told to.
-/

set_option autoImplicit false
set_option relaxedAutoImplicit false

namespace MeterHub.Bench

/-- A bench: the board, the clock in nanoseconds, the ticker and the poller, whether the poller has
ended, whether its handle is still held, and whether the consumer still listens. -/
structure PresenceBench where
  board : PortBoard
  clock : Nat := 0
  ticker : Ticker
  poller : Poller := {}
  ended : Bool := false
  held : Bool := true
  listening : Bool := true

namespace PresenceBench

def milli : Nat := 1000000

inductive Action
  | set (ports : List Port)
  | fail (on : Bool)
  | panic (on : Bool)
  | advance (millis : Nat)
  | receive (limit : Option Nat)
  | stop
  | dropHandle
  | dropReceiver

/-- What an action is answered. Received changes may be followed by the word that no more will
come. -/
inductive Answer
  | nothing
  | received (changes : List Presence) (closed : Bool)

/-- The poller ends; changes that still waited for room are lost. -/
def cease (b : PresenceBench) : PresenceBench :=
  { b with ended := true, poller := { b.poller with announcing := none } }

/-- Serves a tick that is due. A poller whose consumer is gone ends at its first change. -/
def tick (b : PresenceBench) : PresenceBench :=
  let b := { b with ticker := b.ticker.tick b.clock, board := b.board.count }
  let poller := b.poller.poll b.board.enumeration
  if b.listening then { b with poller }
  else if poller.queue.isEmpty then { b with poller }
  else { b with poller := { b.poller with queue := [] } }.cease

def isDue (b : PresenceBench) : Bool :=
  !b.ended && !b.poller.isBlocked && b.ticker.isDue b.clock

/-- Serves ticks as long as one is due, at most as often as told. -/
def serve : Nat → PresenceBench → PresenceBench
  | 0, b => b
  | fuel + 1, b => if b.isDue then serve fuel b.tick else b

/-- A bound for the ticks that can be due: those within the tolerance, and one that comes too late.
-/
def ticksDue (b : PresenceBench) : Nat :=
  Ticker.tolerance / b.ticker.period + 3

def settle (b : PresenceBench) : PresenceBench := serve b.ticksDue b

/-- One action with its answer, before due ticks are served. -/
def act (b : PresenceBench) : Action → Answer × PresenceBench
  | .set ports =>
    (.nothing, { b with board := { b.board with ports := (PortBoard.ofPorts ports).ports } })
  | .fail on => (.nothing, { b with board := { b.board with failing := on } })
  | .panic on => (.nothing, { b with board := { b.board with panicking := on } })
  | .advance millis => (.nothing, { b with clock := b.clock + millis * milli })
  | .receive limit =>
    if b.listening then
      let (changes, poller) := b.poller.take (limit.getD b.poller.queue.length)
      let wantsMore := limit.all fun limit => changes.length < limit
      (.received changes (b.ended && wantsMore && poller.queue.isEmpty),
        { b with poller := poller.refill })
    else (.received [] false, b)
  | .stop => (.nothing, if b.held then b.cease else b)
  | .dropHandle => (.nothing, { b.cease with held := false })
  | .dropReceiver =>
    let b := { b with listening := false }
    let blocked := b.poller.isBlocked
    let b := { b with poller := { b.poller with queue := [] } }
    (.nothing, if blocked then b.cease else b)

def run : PresenceBench → List Action → List (Answer × PresenceBench)
  | _, [] => []
  | b, action :: actions =>
    let (answer, after) := b.act action
    let after := after.settle
    (answer, after) :: run after actions

/-- A bench whose first tick has been served. A poller without a period ends before it polls. -/
def start (ports : List Port) (failing : Bool) (periodMillis : Nat) : PresenceBench :=
  let b : PresenceBench :=
    { board := { PortBoard.ofPorts ports with failing }
      ticker := { period := periodMillis * milli } }
  if periodMillis = 0 then b.cease else b.settle

end PresenceBench

end MeterHub.Bench
