import MeterHub.Session

/-!
Rounds of a session. When a session hears a signal it notes who listens, and then calls these
listeners one by one. Nothing is locked meanwhile: a callback may use the session, and so may anyone
else between two calls, so listeners come and stops come to their ends while rounds are under way.
A callback that panics ends its round, and the stop inside which it was called: neither goes on.
-/

set_option autoImplicit false
set_option relaxedAutoImplicit false

namespace MeterHub.Session

/-- A round under way: the event that is told, and the listeners that are yet to be called. -/
structure Round (σ : Type) where
  event : Event
  due : List σ
deriving DecidableEq

/-- A call, with the number of the round that it belongs to. -/
structure Call (σ : Type) where
  round : Nat
  listener : σ
  event : Event
deriving DecidableEq

/-- A session with its rounds, the finished ones too: one for each signal that it has heard. -/
structure Busy (σ : Type) where
  session : Session σ
  rounds : List (Round σ) := []
deriving DecidableEq

/-- One thing that happens to a session. What happens inside a callback comes after its call. -/
inductive Act (σ : Type)
  | listen (listener : σ)
  /-- A signal arrives, and its round begins. -/
  | hear (signal : Signal)
  /-- A round calls the next of its listeners. -/
  | call (round : Nat)
  /-- A stop is about to return: the source has been stopped, and the listeners go. -/
  | stop
  | markNative
  | markEphemeral
deriving DecidableEq

/-- The acts that a session on which nothing else happens makes of signals: each round is over
before the next signal. -/
def undisturbed {σ : Type} (listeners : Nat) : Nat → List Signal → List (Act σ)
  | _, [] => []
  | round, signal :: signals =>
    .hear signal :: List.replicate listeners (.call round) ++
      undisturbed listeners (round + 1) signals

variable {σ : Type} [DecidableEq σ]

namespace Busy

/-- A round calls the next of its listeners, if anyone is left. -/
def proceed (b : Busy σ) (round : Nat) : Option (Call σ) × Busy σ :=
  match b.rounds[round]? with
  | some ⟨event, listener :: due⟩ =>
    (some ⟨round, listener, event⟩, { b with rounds := b.rounds.set round ⟨event, due⟩ })
  | _ => (none, b)

/-- What an act does, with the call that it makes. -/
def act (b : Busy σ) : Act σ → Option (Call σ) × Busy σ
  | .listen listener => (none, { b with session := b.session.listen listener })
  | .hear signal =>
    let (event, session) := b.session.hear signal
    (none, { session, rounds := b.rounds ++ [⟨event, session.listeners⟩] })
  | .call round => b.proceed round
  | .stop => (none, { b with session := (b.session.stop []).2 })
  | .markNative => (none, { b with session := { b.session with native := true } })
  | .markEphemeral => (none, { b with session := { b.session with ephemeral := true } })

def run (b : Busy σ) : List (Act σ) → List (Call σ) × Busy σ
  | [] => ([], b)
  | a :: acts =>
    let (call, b) := b.act a
    let (calls, b) := b.run acts
    (call.toList ++ calls, b)

end Busy

end MeterHub.Session
