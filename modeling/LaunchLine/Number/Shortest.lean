/-!
# Number/Shortest — the fewest decimal digits that read back as a float

A float stands for an interval of numbers, those that round to it.  On the grid of the multiples of
`10 ^ k` the candidates for its text are the two neighbours of its value; the coarsest grid on which
a neighbour lies in the interval gives the fewest digits, and of two neighbours the nearer is taken,
the upper one if they are equally near.  The digits are written out with a point, never with an
exponent.
-/

namespace LaunchLine.Shortest

/-- The number of values of a float's fraction field, which has 52 bits. -/
def fractions : Nat := Nat.pow 2 52

/-- The number of values of its exponent field, which has 11 bits. -/
def exponents : Nat := Nat.pow 2 11

/-- A positive value together with the ends of the interval that rounds to it, all in units of
`2 ^ unit`; `closed` tells whether the ends themselves round to the value. -/
structure Interval where
  low : Nat
  value : Nat
  high : Nat
  unit : Int
  closed : Bool

/-- The interval of numbers that round to `significand * 2 ^ exponent`.  Below a power of two the
floats are twice as dense, unless they are subnormal: there the interval is shorter. -/
def Interval.ofBinary (significand : Nat) (exponent : Int) : Interval where
  low := 4 * significand - if significand = fractions && -1074 < exponent then 1 else 2
  value := 4 * significand
  high := 4 * significand + 2
  unit := exponent - 2
  closed := significand % 2 = 0

/-- The multiple of `10 ^ k` that stands for the value, if the interval holds one next to it. -/
def Interval.gridPoint? (i : Interval) (k : Int) : Option Nat :=
  let num := Nat.pow 2 i.unit.toNat * Nat.pow 10 (-k).toNat
  let den := Nat.pow 2 (-i.unit).toNat * Nat.pow 10 k.toNat
  let below := i.value * num / den
  let above := below + 1
  let belowFits :=
    if i.closed then i.low * num ≤ below * den else i.low * num < below * den
  let aboveFits :=
    if i.closed then above * den ≤ i.high * num else above * den < i.high * num
  if belowFits && (!aboveFits || 2 * (i.value * num - below * den) < den) then some below
  else if aboveFits then some above
  else none

/-- Refine the grid until it has a point for the value: at most `fuel` steps, from `10 ^ k` on. -/
def Interval.search (i : Interval) : (fuel : Nat) → (k : Int) → Nat × Int
  | 0, k => (i.value * Nat.pow 10 (-k).toNat / Nat.pow 2 (-i.unit).toNat, k)
  | fuel + 1, k =>
    match i.gridPoint? k with
    | some n => (n, k)
    | none => i.search fuel (k - 1)

/-- The digits that stand for `significand * 2 ^ exponent`, as a number times a power of ten.  The
search begins above the value, which has at most seventeen digits. -/
def digits (significand : Nat) (exponent : Int) : Nat × Int :=
  (Interval.ofBinary significand exponent).search 24
    ((significand.log2 + 1 + exponent) * 30103 / 100000 + 1)

/-- The number `n * 10 ^ k`, written with a point and no exponent. -/
def positional (n : Nat) (k : Int) : List Char :=
  let ds := Nat.toDigits 10 n
  let places := (-k).toNat
  if places = 0 then ds ++ List.replicate k.toNat '0'
  else if places < ds.length then
    ds.take (ds.length - places) ++ '.' :: ds.drop (ds.length - places)
  else '0' :: '.' :: List.replicate (places - ds.length) '0' ++ ds

/-- The text of a finite float without its sign, from its fields in memory. -/
def finite (biased fraction : Nat) : List Char :=
  if biased = 0 && fraction = 0 then ['0']
  else
    let (n, k) :=
      if biased = 0 then digits fraction (-1074) else digits (fractions + fraction) (biased - 1075)
    positional n k

/-- The text of a float. -/
def render (x : Float) : String :=
  let bits := x.toBits.toNat
  let biased := bits / fractions % exponents
  let fraction := bits % fractions
  let sign := if exponents * fractions ≤ bits then ['-'] else []
  if biased = exponents - 1 then
    if fraction = 0 then String.ofList (sign ++ ['i', 'n', 'f']) else "NaN"
  else String.ofList (sign ++ finite biased fraction)

end LaunchLine.Shortest
