import LaunchLine.Json.Reader
import LaunchLine.Number.Decimal

/-!
# Json/Standard — JSON as the standard has it

`standard` is the dialect.  The numbers of a config are read from their lexemes: a count is digits
only, a float keeps the leading digits that fit into sixty-four bits and scales them by a power of
ten.
-/

namespace LaunchLine.Json.Standard

/-- Drop blanks. -/
def skip (text : List Char) : Option (List Char) :=
  some (text.dropWhile fun c => c = ' ' || c = '\t' || c = '\n' || c = '\r')

/-- The character that an escape of one letter denotes. -/
def escaped? (c : Char) : Option Char :=
  match c with
  | '\"' => some '\"'
  | '\\' => some '\\'
  | '/' => some '/'
  | 'b' => some '\x08'
  | 'f' => some '\x0c'
  | 'n' => some '\n'
  | 'r' => some '\r'
  | 't' => some '\t'
  | _ => none

/-- The pieces of a string literal behind its opening quote, and what follows it. -/
def stringBody? : List Char → Option (List Piece × List Char)
  | [] => none
  | '\"' :: rest => some ([], rest)
  | '\\' :: 'u' :: a :: b :: c :: d :: rest => do
    let u ← hexToNat? [a, b, c, d]
    let (pieces, rest) ← stringBody? rest
    some (.unit u :: pieces, rest)
  | '\\' :: c :: rest => do
    let e ← escaped? c
    let (pieces, rest) ← stringBody? rest
    some (.char e :: pieces, rest)
  | c :: rest =>
    if c < ' ' then none
    else (stringBody? rest).map fun (pieces, rest) => (.char c :: pieces, rest)

/-- The code point of a surrogate pair. -/
def pair (high low : Nat) : Nat :=
  0x10000 + (high - 0xD800) * 0x400 + (low - 0xDC00)

/-- A string literal. -/
def string? : List Char → Option (Option String × List Char)
  | '\"' :: rest =>
    (stringBody? rest).map fun (pieces, rest) => (textOfPieces? pair pieces, rest)
  | _ => none

/-- Digits, one at least. -/
def digits? (text : List Char) : Option (List Char × List Char) :=
  match text.span isDigit with
  | ([], _) => none
  | (ds, rest) => some (ds, rest)

/-- The integer part of a number, which has no leading zero. -/
def whole? (text : List Char) : Option (List Char × List Char) :=
  match text with
  | '0' :: rest => some (['0'], rest)
  | text => digits? text

/-- The fraction of a number, with its point; it may be absent. -/
def fraction? (text : List Char) : Option (List Char × List Char) :=
  match text with
  | '.' :: rest => (digits? rest).map fun (ds, rest) => ('.' :: ds, rest)
  | text => some ([], text)

/-- The exponent of a number, with its letter; it may be absent. -/
def exponent? (text : List Char) : Option (List Char × List Char) :=
  match text with
  | e :: rest =>
    if e = 'e' || e = 'E' then
      match rest with
      | '+' :: rest => (digits? rest).map fun (ds, rest) => (e :: '+' :: ds, rest)
      | '-' :: rest => (digits? rest).map fun (ds, rest) => (e :: '-' :: ds, rest)
      | rest => (digits? rest).map fun (ds, rest) => (e :: ds, rest)
    else some ([], text)
  | [] => some ([], [])

/-- A number literal. -/
def number? (text : List Char) : Option (List Char × List Char) := do
  let (sign, rest) :=
    match text with
    | '-' :: rest => (['-'], rest)
    | rest => ([], rest)
  let (whole, rest) ← whole? rest
  let (fraction, rest) ← fraction? rest
  let (exponent, rest) ← exponent? rest
  some (sign ++ whole ++ fraction ++ exponent, rest)

end Standard

/-- The dialect of the standard. -/
def standard : Dialect where
  skip := Standard.skip
  string? := Standard.string?
  key? := Standard.string?
  number? := Standard.number?
  trailingComma := false

namespace Standard

/-- The count that a number literal denotes: digits only, below `2 ^ 32`. -/
def count? (lexeme : String) : Option UInt32 :=
  let ds := lexeme.toList
  if ds.all isDigit && digitsToNat ds < UInt32.size then some (digitsToNat ds).toUInt32 else none

/-- Append digits to a number as long as it stays below `2 ^ 64`; what is left begins with the digit
that no longer fits. -/
def absorb : (n : Nat) → List Char → Nat × List Char
  | n, [] => (n, [])
  | n, d :: ds =>
    let next := 10 * n + digitsToNat [d]
    if next < UInt64.size then absorb next ds else (n, d :: ds)

/-- A power of ten as a float, exactly rounded. -/
def powerOfTen (e : Nat) : Float :=
  Decimal.magnitude 1 e

/-- A significand below `2 ^ 64`, scaled by a power of ten.  Each step rounds, and a result that is
too large is an error.  A small result takes two steps, after which it is zero. -/
def scale? (significand : Nat) (exponent : Int) : Option Float :=
  let f := Decimal.magnitude significand 0
  if 308 < exponent then if significand = 0 then some f else none
  else if 0 ≤ exponent then
    let scaled := f * powerOfTen exponent.toNat
    if scaled.isInf then none else some scaled
  else if -308 ≤ exponent then some (f / powerOfTen exponent.natAbs)
  else if -616 ≤ exponent then some (f / powerOfTen 308 / powerOfTen (exponent.natAbs - 308))
  else some 0.0

/-- The largest exponent that is taken into account. -/
def maxExponent : Nat := UInt32.size / 2 - 1

/-- The float that a number literal without its sign denotes. -/
def magnitude? (lexeme : List Char) : Option Float :=
  let (whole, rest) := lexeme.span isDigit
  let (fraction, rest) :=
    match rest with
    | '.' :: rest => rest.span isDigit
    | rest => ([], rest)
  let (negative, ds) := Decimal.readSign (rest.drop 1)
  let exponent := digitsToNat ds
  let (n, leftWhole) := absorb 0 whole
  let (n, leftFraction) := absorb n fraction
  let shift : Int := leftWhole.length + leftFraction.length - fraction.length
  if maxExponent < exponent then if n ≠ 0 && !negative then none else some 0.0
  else scale? n (if negative then shift - exponent else shift + exponent)

/-- The float that a number literal denotes. -/
def float? (lexeme : String) : Option Float :=
  match lexeme.toList with
  | '-' :: rest => (magnitude? rest).map (- ·)
  | text => magnitude? text

end LaunchLine.Json.Standard
