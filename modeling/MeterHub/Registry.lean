import MeterHub.Distinct
import MeterHub.Text.Inspect

/-!
Registries: who wants to hear what. A subscriber is entered without a filter, or under any number of
keys; a relation between keys and probes tells which filters a probe passes. No entry is there
twice, and entries keep the order in which they were made.
-/

set_option autoImplicit false
set_option relaxedAutoImplicit false

namespace MeterHub

/-- The entries without a filter, and the entries under a key. -/
structure Registry (κ σ : Type) where
  unfiltered : List σ := []
  filtered : List (κ × σ) := []
deriving DecidableEq

namespace Registry

variable {κ σ : Type} [DecidableEq κ] [DecidableEq σ]

def empty : Registry κ σ := {}

/-- Adds the entry without a filter; the answer is whether it is new. -/
def subscribe (r : Registry κ σ) (s : σ) : Bool × Registry κ σ :=
  if r.unfiltered.contains s then (false, r)
  else (true, { r with unfiltered := r.unfiltered ++ [s] })

/-- Adds the entry under a key; the answer is whether it is new. -/
def subscribeTo (r : Registry κ σ) (key : κ) (s : σ) : Bool × Registry κ σ :=
  if r.filtered.contains (key, s) then (false, r)
  else (true, { r with filtered := r.filtered ++ [(key, s)] })

def size (r : Registry κ σ) : Nat := r.unfiltered.length + r.filtered.length

def isEmpty (r : Registry κ σ) : Bool := r.unfiltered.isEmpty && r.filtered.isEmpty

def without (r : Registry κ σ) (s : σ) : Registry κ σ :=
  { unfiltered := r.unfiltered.filter (· != s)
    filtered := r.filtered.filter fun entry => entry.2 != s }

/-- Removes every entry of a subscriber; the answer is their number. -/
def unsubscribe (r : Registry κ σ) (s : σ) : Nat × Registry κ σ :=
  (r.size - (r.without s).size, r.without s)

/-- Removes the entry without a filter; the answer is whether there was one. -/
def unsubscribeUnfiltered (r : Registry κ σ) (s : σ) : Bool × Registry κ σ :=
  (r.unfiltered.contains s, { r with unfiltered := r.unfiltered.filter (· != s) })

/-- Removes the entry under an equal key; the answer is whether there was one. -/
def unsubscribeFrom (r : Registry κ σ) (key : κ) (s : σ) : Bool × Registry κ σ :=
  (r.filtered.contains (key, s), { r with filtered := r.filtered.filter (· != (key, s)) })

/-- Removes the entries of a subscriber whose key the probe passes; the answer is those keys. -/
def unsubscribeMatching (agrees : κ → κ → Bool) (r : Registry κ σ) (probe : κ) (s : σ) :
    List κ × Registry κ σ :=
  let hit (entry : κ × σ) : Bool := entry.2 == s && agrees entry.1 probe
  ((r.filtered.filter hit).map (·.1),
    { r with filtered := r.filtered.filter fun entry => !hit entry })

/-- The subscribers that have a filter which the probe passes, in order and without repetition.
Where `all`, those without a filter come first. -/
def interested (agrees : κ → κ → Bool) (r : Registry κ σ) (probe : κ) (all : Bool) : List σ :=
  Distinct.addAll (if all then r.unfiltered else [])
    ((r.filtered.filter fun entry => agrees entry.1 probe).map (·.2))

def keysOf (r : Registry κ σ) (s : σ) : List κ :=
  (r.filtered.filter fun entry => entry.2 == s).map (·.1)

def contains (r : Registry κ σ) (s : σ) : Bool :=
  r.unfiltered.contains s || r.filtered.any fun entry => entry.2 == s

/-- Every subscriber once: those without a filter, then the others in order. -/
def subscribers (r : Registry κ σ) : List σ :=
  Distinct.addAll r.unfiltered (r.filtered.map (·.2))

/-- The inspection form; it shows keys but no subscribers. -/
def inspect (inspectKey : κ → String) (r : Registry κ σ) : String :=
  Text.inspectRecord "FilteredRegistry"
    [("unfiltered", toString r.unfiltered.length),
      ("filtered", Text.inspectList inspectKey (r.filtered.map (·.1)))] false

end Registry

end MeterHub
