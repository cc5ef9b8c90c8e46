/-!
# Json/Literal — what a string literal denotes

Inside a string literal stand characters and escapes.  An escape of four hexadecimal digits names a
16-bit unit; units that are halves of a surrogate pair denote one character together and none apart.
-/

namespace LaunchLine.Json

/-- A piece of a string literal: a character, or a 16-bit unit that an escape names. -/
inductive Piece
  | char (c : Char)
  | unit (u : Nat)
  deriving DecidableEq, Repr

/-- The first half of a surrogate pair. -/
def isHighHalf (u : Nat) : Bool :=
  0xD800 ≤ u && u < 0xDC00

/-- The second half of a surrogate pair. -/
def isLowHalf (u : Nat) : Bool :=
  0xDC00 ≤ u && u < 0xE000

/-- The characters of a literal; `pair` says which code point two halves denote.  A half on its own
denotes nothing. -/
def joinPieces? (pair : Nat → Nat → Nat) : List Piece → Option (List Char)
  | [] => some []
  | .char c :: rest => (joinPieces? pair rest).map (c :: ·)
  | .unit u :: rest =>
    if isLowHalf u then none
    else if isHighHalf u then
      match rest with
      | .unit v :: rest =>
        if isLowHalf v then (joinPieces? pair rest).map (Char.ofNat (pair u v) :: ·) else none
      | _ => none
    else (joinPieces? pair rest).map (Char.ofNat u :: ·)

/-- The text of a literal, if it denotes one. -/
def textOfPieces? (pair : Nat → Nat → Nat) (pieces : List Piece) : Option String :=
  (joinPieces? pair pieces).map String.ofList

/-- The value of a hexadecimal digit, in upper or lower case. -/
def hexValue? (c : Char) : Option Nat :=
  if '0' ≤ c && c ≤ '9' then some (c.toNat - '0'.toNat)
  else if 'a' ≤ c && c ≤ 'f' then some (c.toNat - 'a'.toNat + 10)
  else if 'A' ≤ c && c ≤ 'F' then some (c.toNat - 'A'.toNat + 10)
  else none

/-- The number that hexadecimal digits denote. -/
def hexToNat? (digits : List Char) : Option Nat :=
  digits.foldl (fun n? d => do return 16 * (← n?) + (← hexValue? d)) (some 0)

end LaunchLine.Json
