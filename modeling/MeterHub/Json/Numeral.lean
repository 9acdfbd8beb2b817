import MeterHub.Json.Shortest

/-!
Numerals: the literals of numbers, and the quantities that they stand for. A numeral without
fraction and exponent is an integer as long as it fits 64 bits; every other one is a double.
-/

set_option autoImplicit false
set_option relaxedAutoImplicit false

namespace MeterHub.Json

/-- The literal of a number: a sign, a whole part, the digits behind the point and a power of ten.
-/
structure Numeral where
  negative : Bool
  whole : Nat
  fraction : List (Fin 10)
  exponent : Option Int
deriving DecidableEq

inductive Quantity
  | integer (value : Int)
  | floating (value : Float)

namespace Numeral

def ofNat (n : Nat) : Numeral := ⟨false, n, [], none⟩

def digitChar (d : Fin 10) : Char := Char.ofNat (48 + d.val)

def chars (n : Numeral) : List Char :=
  (if n.negative then ['-'] else []) ++ Nat.toDigits 10 n.whole ++
    (if n.fraction.isEmpty then [] else '.' :: n.fraction.map digitChar) ++
    (match n.exponent with
      | none => []
      | some e => 'e' :: (if e < 0 then ['-'] else []) ++ Nat.toDigits 10 e.natAbs)

/-- Leading digits whose value fits 64 bits, and how many digits are left over. -/
def gather (acc : Nat) : List Nat → Nat × Nat
  | [] => (acc, 0)
  | d :: ds => if acc * 10 + d < UInt64.size then gather (acc * 10 + d) ds else (acc, ds.length + 1)

/-- The significand and the power of ten that a double is computed from: the digits that fit 64
bits, where each dropped digit of the whole part counts as a factor ten. -/
def scaled (n : Numeral) : Nat × Int :=
  let whole := gather 0 ((Nat.toDigits 10 n.whole).map fun c => c.toNat - 48)
  let fraction := gather whole.1 (n.fraction.map (·.val))
  (fraction.1, (whole.2 : Int) - ((n.fraction.length - fraction.2 : Nat) : Int) + n.exponent.getD 0)

def tenTo (k : Nat) : Float := Float.ofScientific 1 false k

/-- `significand · 10 ^ power` as a double, rounded once per operation; none if it is beyond the
largest double. -/
def toFloat? (significand : Nat) (power : Int) : Option Float :=
  let base := Float.ofNat significand
  if significand = 0 then some base
  else if 308 < power then none
  else if 0 ≤ power then
    let product := base * tenTo power.toNat
    if product.isInf then none else some product
  else if -308 ≤ power then some (base / tenTo (-power).toNat)
  else if -616 ≤ power then some (base / tenTo 308 / tenTo (-power - 308).toNat)
  else some 0.0

/-- The quantity of a numeral; none if no double is large enough. Zero with a minus sign is a
double. -/
def quantity? (n : Numeral) : Option Quantity :=
  if n.fraction.isEmpty && n.exponent.isNone && n.whole < UInt64.size then
    if !n.negative then some (.integer n.whole)
    else if 0 < n.whole && n.whole ≤ UInt64.size / 2 then some (.integer (-(n.whole : Int)))
    else some (.floating (-(Float.ofNat n.whole)))
  else
    let (significand, power) := n.scaled
    (toFloat? significand power).map fun x => .floating (if n.negative then -x else x)

end Numeral

end MeterHub.Json
