/-!
The shortest decimal that reads back to a binary fraction of double precision, found by exact
arithmetic: for one digit, two digits and so on, the two neighbours of the value on that decimal
grid are tried until one rounds back to the value.
-/

set_option autoImplicit false
set_option relaxedAutoImplicit false

namespace MeterHub.Json

/-- A positive value with the ends of the interval of reals that round to it, over one denominator.
The ends belong to the interval when `closed`. -/
structure Neighbourhood where
  low : Nat
  value : Nat
  high : Nat
  denominator : Nat
  closed : Bool

/-- The neighbourhood of the finite double with the given bits, its sign set aside. Below a power of
two the gap is half as wide as above it. -/
def Neighbourhood.ofBits (bits : UInt64) : Neighbourhood :=
  let biased := ((bits >>> 52) &&& 0x7FF).toNat
  let fraction := (bits &&& 0xFFFFFFFFFFFFF).toNat
  let mantissa := if biased = 0 then fraction else Nat.pow 2 52 + fraction
  let power : Int := if biased = 0 then -1074 else (biased : Int) - 1075
  let grow := Nat.pow 2 power.toNat
  let below := if fraction = 0 ∧ 1 < biased then 1 else 2
  { low := (4 * mantissa - below) * grow
    value := 4 * mantissa * grow
    high := (4 * mantissa + 2) * grow
    denominator := 4 * Nat.pow 2 (-power).toNat
    closed := mantissa % 2 == 0 }

def Neighbourhood.holds (n : Neighbourhood) (digits : Nat) (scale : Int) : Bool :=
  let point := digits * Nat.pow 10 scale.toNat * n.denominator
  let shrink := Nat.pow 10 (-scale).toNat
  if n.closed then n.low * shrink ≤ point && point ≤ n.high * shrink
  else n.low * shrink < point && point < n.high * shrink

/-- The number of digits in front of the point; zero or less counts the zeros behind it. -/
def Neighbourhood.magnitude (n : Neighbourhood) : Int :=
  if n.denominator ≤ n.value then ((Nat.toDigits 10 (n.value / n.denominator)).length : Int)
  else
    match (List.range 330).find? fun shift => n.denominator ≤ n.value * Nat.pow 10 shift with
    | some shift => 1 - (shift : Int)
    | none => -330

/-- The neighbour of the value on the grid of `10 ^ scale` that reads back, the nearer one if both
do, and the even one if they are equally near. -/
def Neighbourhood.onGrid? (n : Neighbourhood) (scale : Int) : Option Nat :=
  let value := n.value * Nat.pow 10 (-scale).toNat
  let unit := n.denominator * Nat.pow 10 scale.toNat
  let lower := value / unit
  match n.holds lower scale, n.holds (lower + 1) scale with
  | true, false => some lower
  | false, true => some (lower + 1)
  | false, false => none
  | true, true =>
    match compare (2 * value) ((2 * lower + 1) * unit) with
    | .lt => some lower
    | .gt => some (lower + 1)
    | .eq => some (if lower % 2 = 0 then lower else lower + 1)

/-- The shortest digits of a positive value and the count of digits in front of the point. -/
def Neighbourhood.shortest (n : Neighbourhood) : List Char × Int :=
  let magnitude := n.magnitude
  let hit := (List.range 17).findSome? fun (extra : Nat) =>
    (n.onGrid? (magnitude - ((extra : Int) + 1))).map fun digits =>
      (Nat.toDigits 10 digits, extra + 1)
  match hit with
  | some (digits, count) =>
    let significant := (digits.reverse.dropWhile (· == '0')).reverse
    (significant, magnitude + ((digits.length : Int) - (count : Int)))
  | none => (Nat.toDigits 10 (n.value / n.denominator), magnitude)

/-- Digits with the point after the first `front` of them. From 10⁻⁵ up to 10¹⁶ the number is
written out, and beyond that with a signed exponent. -/
def layOut (digits : List Char) (front : Int) : String :=
  let exponent := front - 1
  if -5 ≤ exponent ∧ exponent ≤ 15 then
    if front ≤ 0 then
      "0." ++ String.ofList (List.replicate (-front).toNat '0' ++ digits)
    else
      let whole := digits.take front.toNat
      let rest := digits.drop front.toNat
      String.ofList (whole ++ List.replicate (front.toNat - whole.length) '0') ++ "." ++
        (if rest.isEmpty then "0" else String.ofList rest)
  else
    String.ofList (digits.take 1) ++
      (if digits.length ≤ 1 then "" else "." ++ String.ofList (digits.drop 1)) ++
      "e" ++ (if exponent < 0 then "-" else "+") ++
      String.ofList (Nat.toDigits 10 exponent.natAbs)

def floatText (x : Float) : String :=
  let bits := x.toBits
  let sign := if bits >>> 63 = 1 then "-" else ""
  if bits <<< 1 = 0 then sign ++ "0.0"
  else
    let (digits, front) := (Neighbourhood.ofBits bits).shortest
    sign ++ layOut digits front

end MeterHub.Json
