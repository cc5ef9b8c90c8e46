import LaunchLine.Json.Reader
import LaunchLine.Number.Decimal
import LaunchLine.Text.Identifier

/-!
# Json/Json5 — JSON as people write it

The dialect has comments, trailing commas, single quotes, keys without quotes, hexadecimal numbers,
infinities and NaN.  Every value of a document has to denote something, also where nobody asks for
it: `isDenoting`.
-/

namespace LaunchLine.Json.Json5

/-- The characters that end a line. -/
def isLineEnd (c : Char) : Bool :=
  c == '\n' || c == '\r' || c == '\u2028' || c == '\u2029'

/-- The characters that may stand between two words. -/
def isSpace (c : Char) : Bool :=
  isLineEnd c || c == '\t' || c == '\x0b' || c == '\x0c' || c == ' ' || c == '\u00a0' ||
    c == '\ufeff' || c == '\u1680' || ('\u2000' ≤ c && c ≤ '\u200a') || c == '\u202f' ||
    c == '\u205f' || c == '\u3000'

/-- Where one is between two words: outside comments, in a comment to the end of the line, or in a
comment that has to be closed. -/
inductive Gap
  | plain
  | line
  | block

/-- Drop blanks and comments. -/
def skipGap : Gap → List Char → Option (List Char)
  | .plain, '/' :: '/' :: rest => skipGap .line rest
  | .plain, '/' :: '*' :: rest => skipGap .block rest
  | .plain, c :: rest => if isSpace c then skipGap .plain rest else some (c :: rest)
  | .plain, [] => some []
  | .line, c :: rest => if isLineEnd c then skipGap .plain rest else skipGap .line rest
  | .line, [] => some []
  | .block, '*' :: '/' :: rest => skipGap .plain rest
  | .block, _ :: rest => skipGap .block rest
  | .block, [] => none

/-- The character that a backslash before `c` denotes: a control for some letters, NUL for a zero,
and else the character itself.  Other digits, and the letters of numeric escapes, denote nothing
here. -/
def escaped? (c : Char) : Option Char :=
  match c with
  | 'b' => some '\x08'
  | 'f' => some '\x0c'
  | 'n' => some '\n'
  | 'r' => some '\r'
  | 't' => some '\t'
  | 'v' => some '\x0b'
  | '0' => some '\x00'
  | c => if isDigit c || c == 'x' || c == 'u' || isLineEnd c then none else some c

/-- The pieces of a string literal up to its closing quote, and what follows it. -/
def stringBody? (quote : Char) : List Char → Option (List Piece × List Char)
  | [] => none
  | '\\' :: '\r' :: '\n' :: rest => stringBody? quote rest
  | '\\' :: 'x' :: a :: b :: rest => do
    let n ← hexToNat? [a, b]
    let (pieces, rest) ← stringBody? quote rest
    some (.char (Char.ofNat n) :: pieces, rest)
  | '\\' :: 'u' :: a :: b :: c :: d :: rest => do
    let u ← hexToNat? [a, b, c, d]
    let (pieces, rest) ← stringBody? quote rest
    some (.unit u :: pieces, rest)
  | '\\' :: c :: rest =>
    if isLineEnd c then stringBody? quote rest
    else do
      let e ← escaped? c
      let (pieces, rest) ← stringBody? quote rest
      some (.char e :: pieces, rest)
  | c :: rest =>
    if c = quote then some ([], rest)
    else if c = '\\' || isLineEnd c then none
    else (stringBody? quote rest).map fun (pieces, rest) => (.char c :: pieces, rest)

/-- The code point of a surrogate pair.  The offset of the planes is joined in bit by bit, so that
the second half decides about the sixteenth bit. -/
def pair (high low : Nat) : Nat :=
  ((high - 0xD800) <<< 10) ||| (low - 0xDC00 + 0x10000)

/-- A string literal, between double or single quotes. -/
def string? : List Char → Option (Option String × List Char)
  | [] => none
  | q :: rest =>
    if q = '\"' || q = '\x27' then
      (stringBody? q rest).map fun (pieces, rest) => (textOfPieces? pair pieces, rest)
    else none

/-- The pieces of a name from some character on, and what follows the name. -/
def namePieces? (first : Bool) : List Char → Option (List Piece × List Char)
  | '\\' :: 'u' :: a :: b :: c :: d :: rest => do
    let u ← hexToNat? [a, b, c, d]
    let (pieces, rest) ← namePieces? false rest
    some (.unit u :: pieces, rest)
  | c :: rest =>
    if (if first then Text.isNameStart c else Text.isNamePart c) then do
      let (pieces, rest) ← namePieces? false rest
      some (.char c :: pieces, rest)
    else if first then none
    else some ([], c :: rest)
  | [] => if first then none else some ([], [])

/-- A key: a string literal or a name. -/
def key? (text : List Char) : Option (Option String × List Char) :=
  match string? text with
  | some result => some result
  | none => (namePieces? true text).map fun (pieces, rest) => (textOfPieces? pair pieces, rest)

/-- A letter `e` with a sign and digits behind it, if there is one. -/
def exponent (text : List Char) : List Char × List Char :=
  match text with
  | e :: rest =>
    if e = 'e' || e = 'E' then
      let (sign, rest) :=
        match rest with
        | '+' :: rest => (['+'], rest)
        | '-' :: rest => (['-'], rest)
        | rest => ([], rest)
      match rest.span isDigit with
      | ([], _) => ([], text)
      | (ds, rest) => (e :: sign ++ ds, rest)
    else ([], text)
  | [] => ([], [])

/-- The integer part of a number, which has no leading zero; it may be absent. -/
def whole (text : List Char) : List Char × List Char :=
  match text with
  | '0' :: rest => (['0'], rest)
  | text => text.span isDigit

/-- A decimal number without sign; its point may stand at either end. -/
def decimal? (text : List Char) : Option (List Char × List Char) :=
  let (w, rest) := whole text
  match rest with
  | '.' :: afterPoint =>
    let (fraction, afterFraction) := afterPoint.span isDigit
    if w = [] && fraction = [] then none
    else
      let (e, rest) := exponent afterFraction
      some (w ++ '.' :: fraction ++ e, rest)
  | rest =>
    if w = [] then none
    else
      let (e, rest) := exponent rest
      some (w ++ e, rest)

/-- A number without sign. -/
def unsigned? (text : List Char) : Option (List Char × List Char) :=
  match text with
  | 'I' :: 'n' :: 'f' :: 'i' :: 'n' :: 'i' :: 't' :: 'y' :: rest => some ("Infinity".toList, rest)
  | 'N' :: 'a' :: 'N' :: rest => some ("NaN".toList, rest)
  | '0' :: x :: rest =>
    if x = 'x' || x = 'X' then
      match rest.span fun c => (hexValue? c).isSome with
      | ([], _) => decimal? text
      | (ds, rest) => some ('0' :: x :: ds, rest)
    else decimal? text
  | text => decimal? text

/-- A number literal. -/
def number? (text : List Char) : Option (List Char × List Char) :=
  match text with
  | '+' :: rest => (unsigned? rest).map fun (ds, rest) => ('+' :: ds, rest)
  | '-' :: rest => (unsigned? rest).map fun (ds, rest) => ('-' :: ds, rest)
  | text => unsigned? text

end Json5

/-- The dialect of people. -/
def json5 : Dialect where
  skip := Json5.skipGap .plain
  string? := Json5.string?
  key? := Json5.key?
  number? := Json5.number?
  trailingComma := true

namespace Json5

/-- The digits of a hexadecimal number literal, which has no sign. -/
def hexDigits? (lexeme : List Char) : Option (List Char) :=
  match lexeme with
  | '0' :: x :: d :: ds => if x = 'x' || x = 'X' then some (d :: ds) else none
  | _ => none

/-- A hexadecimal number below `2 ^ 32`. -/
def hexNumber? (ds : List Char) : Option Nat := do
  let n ← hexToNat? ds
  if n < UInt32.size then some n else none

/-- The float that a number literal denotes.  A plus is no sign of infinity, and no finite number
may round to one. -/
def float? (lexeme : String) : Option Float :=
  match lexeme with
  | "Infinity" => some (1.0 / 0.0)
  | "-Infinity" => some (-1.0 / 0.0)
  | "NaN" => some (0.0 / 0.0)
  | "-NaN" => some (0.0 / 0.0)
  | _ =>
    match hexDigits? lexeme.toList with
    | some ds => (hexNumber? ds).map fun n => Decimal.magnitude n 0
    | none =>
      match Decimal.parse? lexeme.toList with
      | some d => if d.toFloat.isInf then none else some d.toFloat
      | none => none

/-- The count that a number literal denotes: its float without the fraction, and the nearest count
if it is none.  What is no number counts as zero. -/
def count? (lexeme : String) : Option UInt32 :=
  (float? lexeme).map Float.toUInt32

/-- The integer that a decimal literal denotes, if it fits into sixty-four bits. -/
def integerFits (lexeme : List Char) : Bool :=
  let (negative, ds) := Decimal.readSign lexeme
  ds ≠ [] && ds.all isDigit &&
    (if negative then digitsToNat ds ≤ UInt64.size / 2 else digitsToNat ds < UInt64.size / 2)

/-- Whether a number literal denotes a number: an integer must fit into sixty-four bits, any other
into a float. -/
def numberDenotes (lexeme : String) : Bool :=
  let text := lexeme.toList
  match hexDigits? text with
  | some ds => (hexNumber? ds).isSome
  | none =>
    if text.contains '.' || text.contains 'e' || text.contains 'E' ||
        ["Infinity", "-Infinity", "NaN", "-NaN"].contains lexeme then
      (float? lexeme).isSome
    else integerFits text

mutual

/-- Whether everything in a value denotes something. -/
def isDenoting : Value → Bool
  | .garbled => false
  | .number lexeme => numberDenotes lexeme
  | .array items => itemsDenote items
  | .object members => membersDenote members
  | _ => true

/-- Whether everything in some items denotes something. -/
def itemsDenote : List Value → Bool
  | [] => true
  | item :: items => isDenoting item && itemsDenote items

/-- Whether everything in some members denotes something. -/
def membersDenote : List (String × Value) → Bool
  | [] => true
  | (_, value) :: members => isDenoting value && membersDenote members

end

end LaunchLine.Json.Json5
