import MeterHub.Registry

/-!
Scripts for registries: requests that are made one after another, each with its answer.
-/

set_option autoImplicit false
set_option relaxedAutoImplicit false

namespace MeterHub.Registry

inductive Order (κ σ : Type)
  | subscribe (s : σ)
  | subscribeTo (key : κ) (s : σ)
  | unsubscribe (s : σ)
  | unsubscribeUnfiltered (s : σ)
  | unsubscribeFrom (key : κ) (s : σ)
  | unsubscribeMatching (probe : κ) (s : σ)
  | interested (probe : κ) (all : Bool)
  | keysOf (s : σ)
  | contains (s : σ)
  | clear
  | inspect

inductive Answer (κ σ : Type)
  | flag (b : Bool)
  | count (n : Nat)
  | keys (keys : List κ)
  | subscribers (subscribers : List σ)
  | text (s : String)

variable {κ σ : Type} [DecidableEq κ] [DecidableEq σ]

/-- One request with its answer. Clearing answers who was there. -/
def obey (agrees : κ → κ → Bool) (inspectKey : κ → String) (r : Registry κ σ) :
    Order κ σ → Answer κ σ × Registry κ σ
  | .subscribe s => (.flag (r.subscribe s).1, (r.subscribe s).2)
  | .subscribeTo key s => (.flag (r.subscribeTo key s).1, (r.subscribeTo key s).2)
  | .unsubscribe s => (.count (r.unsubscribe s).1, (r.unsubscribe s).2)
  | .unsubscribeUnfiltered s =>
    (.flag (r.unsubscribeUnfiltered s).1, (r.unsubscribeUnfiltered s).2)
  | .unsubscribeFrom key s => (.flag (r.unsubscribeFrom key s).1, (r.unsubscribeFrom key s).2)
  | .unsubscribeMatching probe s =>
    (.keys (r.unsubscribeMatching agrees probe s).1, (r.unsubscribeMatching agrees probe s).2)
  | .interested probe all => (.subscribers (r.interested agrees probe all), r)
  | .keysOf s => (.keys (r.keysOf s), r)
  | .contains s => (.flag (r.contains s), r)
  | .clear => (.subscribers r.subscribers, empty)
  | .inspect => (.text (r.inspect inspectKey), r)

/-- The answers to requests made in order, each with the registry that it leaves. -/
def obeyAll (agrees : κ → κ → Bool) (inspectKey : κ → String) :
    Registry κ σ → List (Order κ σ) → List (Answer κ σ × Registry κ σ)
  | _, [] => []
  | r, order :: orders =>
    let step := r.obey agrees inspectKey order
    step :: obeyAll agrees inspectKey step.2 orders

def startsWith (key probe : String) : Bool := key.toList.isPrefixOf probe.toList

end MeterHub.Registry
