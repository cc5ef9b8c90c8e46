/-!
# Text/Utf8 — bytes as text

`Utf8.decode?` reads a byte string as text and refuses ill-formed bytes; `Utf8.decodeLossy` reads
any byte string and puts U+FFFD for each maximal ill-formed piece.  Both step with
`Utf8.decodeChar`, which reads one character off the front or says how many bytes cannot be read.
-/

namespace LaunchLine

/-- A byte string. -/
abbrev Bytes := List UInt8

namespace Utf8

/-- What the first byte of a character promises: how many bytes follow it, the range of the first of
these, and the bits that it holds itself. -/
structure Lead where
  followers : Nat
  low : UInt8
  high : UInt8
  bits : Nat

/-- The first bytes that begin a character of two to four bytes.  The narrower ranges of the second
byte keep out overlong forms, surrogates and code points above U+10FFFF. -/
def lead? (b : UInt8) : Option Lead :=
  if 0xC2 ≤ b && b ≤ 0xDF then some ⟨1, 0x80, 0xBF, b.toNat - 0xC0⟩
  else if b == 0xE0 then some ⟨2, 0xA0, 0xBF, 0⟩
  else if b == 0xED then some ⟨2, 0x80, 0x9F, 0xD⟩
  else if 0xE1 ≤ b && b ≤ 0xEF then some ⟨2, 0x80, 0xBF, b.toNat - 0xE0⟩
  else if b == 0xF0 then some ⟨3, 0x90, 0xBF, 0⟩
  else if 0xF1 ≤ b && b ≤ 0xF3 then some ⟨3, 0x80, 0xBF, b.toNat - 0xF0⟩
  else if b == 0xF4 then some ⟨3, 0x80, 0x8F, 4⟩
  else none

/-- Read `followers` further bytes, the first of them between `low` and `high`; `seen` bytes are
behind.  An error is the number of bytes that had fitted so far. -/
def follow (low high : UInt8) (bits seen : Nat) :
    (followers : Nat) → Bytes → Except Nat (Nat × Bytes)
  | 0, rest => .ok (bits, rest)
  | _ + 1, [] => .error seen
  | n + 1, b :: rest =>
    if low ≤ b && b ≤ high then
      follow 0x80 0xBF (bits * 64 + (b.toNat - 0x80)) (seen + 1) n rest
    else .error seen

/-- The first character and the bytes behind it, or the length of the ill-formed piece in front. -/
def decodeChar : Bytes → Except Nat (Char × Bytes)
  | [] => .error 0
  | b :: rest =>
    if b < 0x80 then .ok (Char.ofNat b.toNat, rest)
    else
      match lead? b with
      | none => .error 1
      | some lead =>
        (follow lead.low lead.high lead.bits 1 lead.followers rest).map
          fun (point, rest) => (Char.ofNat point, rest)

/-- The characters of well-formed bytes; `fuel` bounds their number. -/
def decodeChars? : (fuel : Nat) → Bytes → Option (List Char)
  | _, [] => some []
  | 0, _ => none
  | fuel + 1, bytes =>
    match decodeChar bytes with
    | .ok (c, rest) => (decodeChars? fuel rest).map (c :: ·)
    | .error _ => none

/-- The text of well-formed bytes. -/
def decode? (bytes : Bytes) : Option String :=
  (decodeChars? bytes.length bytes).map String.ofList

/-- The characters of any bytes, U+FFFD for each ill-formed piece; `fuel` bounds their number. -/
def decodeCharsLossy : (fuel : Nat) → Bytes → List Char
  | _, [] => []
  | 0, _ => []
  | fuel + 1, bytes =>
    match decodeChar bytes with
    | .ok (c, rest) => c :: decodeCharsLossy fuel rest
    | .error n => '\ufffd' :: decodeCharsLossy fuel (bytes.drop n)

/-- The text of any bytes, U+FFFD for each ill-formed piece. -/
def decodeLossy (bytes : Bytes) : String :=
  String.ofList (decodeCharsLossy bytes.length bytes)

/-- What is said of bytes that are no text. -/
def notTextMessage : String := "stream did not contain valid UTF-8"

/-- The bytes of a text. -/
def encode (text : String) : Bytes :=
  text.toList.flatMap String.utf8EncodeChar

end Utf8

end LaunchLine
