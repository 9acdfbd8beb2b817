import MeterHub.Hub.Delivery
import MeterHub.Hub.Lifecycle

/-!
Moves: everything that can happen to a hub, one thing at a time. Consumers ask, devices come and go,
sources speak, and background work goes on at any moment: notices are announced, the poller polls,
its changes are handled, lanes hand over events, reads end. A state is reachable if some moves lead
to it from a fresh hub.

A move is a whole operation. What other threads may do inside one is not represented: an
announcement between the entry of a subscriber and the search for its session, a subscriber that
leaves between the look-up of who is told and the delivery, an entry that is made between the
closing of the sessions of a hub that stops and the clearing of its registry.
-/

set_option autoImplicit false
set_option relaxedAutoImplicit false

namespace MeterHub

/-- One thing that happens to a hub. What surrounds the hub may be another each time. -/
inductive Move
  | start (site : Site)
  | stop
  | subscribe (name : String)
  | unsubscribe (name : String)
  | subscribeTo (site : Site) (key : Identifier) (name : String)
  | unsubscribeFrom (key : Identifier) (name : String)
  | appeared (site : Site) (port : Port)
  | disappeared (port : Port)
  | beginRead (site : Site) (key : Identifier) (timeout : Option Span)
  /-- A read ends, by its answer or because its time is over. -/
  | endRead (index : Nat)
  /-- The source at an index says something. -/
  | report (source : Nat) (signal : Signal)
  /-- The notice at an index is announced. -/
  | notify (index : Nat)
  | poll (ports : Except Failure (List Port))
  | refill
  | consume (site : Site)
  /-- The lane at an index hands over its next event. -/
  | takeUp (lane : Nat)
  | finish (lane : Nat) (panicked : Bool)
  /-- The last holder gives up the hub. -/
  | discard

namespace Hub

/-- Whether work that is under way holds the hub. -/
def isHeld (h : Hub) : Bool := !h.notices.isEmpty || h.reads.any Read.isPending

/-- A hub after a move. A hub that is held is not given up. -/
def move (h : Hub) : Move → Hub
  | .start site => h.start site
  | .stop => h.stop
  | .subscribe name => h.subscribe (.listener name)
  | .unsubscribe name => h.unsubscribe (.listener name)
  | .subscribeTo site key name => (h.subscribeTo site key (.listener name)).2
  | .unsubscribeFrom key name => h.unsubscribeFrom key (.listener name)
  | .appeared site port => (h.appeared site port false).2
  | .disappeared port => h.disappeared port
  | .beginRead site key timeout => h.beginRead site key timeout
  | .endRead index => h.endRead index
  | .report source signal => h.report source signal
  | .notify index => h.notify index
  | .poll ports => h.poll ports
  | .refill => h.refill
  | .consume site => h.consume site
  | .takeUp lane => h.takeUp lane
  | .finish lane panicked => h.finish lane panicked
  | .discard => if h.isHeld then h else h.discard

def run (h : Hub) : List Move → Hub
  | [] => h
  | m :: moves => (h.move m).run moves

/-- The hub of a configuration to which nothing has happened yet. -/
def fresh (config : Config) : Hub := { config }

/-- A hub that moves lead to from a fresh one. -/
def Reachable (h : Hub) : Prop := ∃ config moves, h = (fresh config).run moves

theorem run_append (h : Hub) (moves more : List Move) :
    h.run (moves ++ more) = (h.run moves).run more := by
  induction moves generalizing h with
  | nil => rfl
  | cons m moves ih => exact ih (h.move m)

theorem run_concat (h : Hub) (moves : List Move) (m : Move) :
    h.run (moves ++ [m]) = (h.run moves).move m := run_append h moves [m]

/-- What holds of every fresh hub and is kept by every move holds of every reachable hub. -/
theorem Reachable.induct {P : Hub → Prop} (start : ∀ config, P (fresh config))
    (keep : ∀ h m, P h → P (h.move m)) {h : Hub} (reachable : h.Reachable) : P h := by
  obtain ⟨config, moves, rfl⟩ := reachable
  suffices ∀ g, P g → P (g.run moves) from this _ (start config)
  induction moves with
  | nil => exact fun g holds => holds
  | cons m moves ih => exact fun g holds => ih (g.move m) (keep g m holds)

end Hub

end MeterHub
