/-!
# Number/Decimal — numbers written in decimal, and the float nearest to one

A `Decimal` is a signed coefficient times a power of ten.  `Decimal.parse?` reads one,
`Decimal.toFloat` rounds it to the nearest float.
-/

namespace LaunchLine

/-- Whether the character is an ASCII digit. -/
def isDigit (c : Char) : Bool :=
  '0' ≤ c && c ≤ '9'

/-- The number that a run of decimal digits denotes. -/
def digitsToNat (digits : List Char) : Nat :=
  digits.foldl (fun n d => 10 * n + (d.toNat - '0'.toNat)) 0

/-- The number `± coefficient * 10 ^ exponent`. -/
structure Decimal where
  negative : Bool
  coefficient : Nat
  exponent : Int
  deriving DecidableEq, Repr

namespace Decimal

/-- A sign in front of a number, plus if there is none, and the rest. -/
def readSign : List Char → Bool × List Char
  | '-' :: rest => (true, rest)
  | '+' :: rest => (false, rest)
  | rest => (false, rest)

/-- An exponent with its sign, to the end of the text. -/
def readExponent? (text : List Char) : Option Int :=
  let (negative, digits) := readSign text
  if digits = [] || !digits.all isDigit then none
  else
    let e : Int := digitsToNat digits
    some (if negative then -e else e)

/-- Read a decimal number: a sign, digits with a point anywhere among them or at either end, and an
exponent.  Sign, point and exponent may be absent. -/
def parse? (text : List Char) : Option Decimal :=
  let (negative, rest) := readSign text
  let (whole, rest) := rest.span isDigit
  let (fraction, rest) :=
    match rest with
    | '.' :: rest => rest.span isDigit
    | rest => ([], rest)
  let exponent? :=
    match rest with
    | [] => some 0
    | c :: rest => if c = 'e' || c = 'E' then readExponent? rest else none
  if whole = [] && fraction = [] then none
  else exponent?.map fun e => ⟨negative, digitsToNat (whole ++ fraction), e - fraction.length⟩

/-- The float nearest to a coefficient times a power of ten.  Exponents that are out of reach of
every float of the coefficient's size are not expanded. -/
def magnitude (coefficient : Nat) (exponent : Int) : Float :=
  if coefficient = 0 then 0.0
  else if 400 < exponent then 1.0 / 0.0
  else if exponent < -400 - coefficient.log2 then 0.0
  else Float.ofScientific coefficient (exponent < 0) exponent.natAbs

/-- The float nearest to the number. -/
def toFloat (d : Decimal) : Float :=
  if d.negative then -magnitude d.coefficient d.exponent else magnitude d.coefficient d.exponent

end Decimal

end LaunchLine
