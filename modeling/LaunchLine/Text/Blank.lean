/-!
# Text/Blank — the characters that surround a text without belonging to it

`isBlank` is the Unicode property `White_Space`; `trim` drops blanks at both ends of a text and
`trimStart` those in front.
-/

namespace LaunchLine.Text

/-- Whether the character has the Unicode property `White_Space`. -/
def isBlank (c : Char) : Bool :=
  c == ' ' || ('\t' ≤ c && c ≤ '\r') || c == '\u0085' || c == '\u00a0' || c == '\u1680' ||
    ('\u2000' ≤ c && c ≤ '\u200a') || c == '\u2028' || c == '\u2029' || c == '\u202f' ||
    c == '\u205f' || c == '\u3000'

/-- The text without the blanks in front of it. -/
def trimStart (text : String) : String :=
  String.ofList (text.toList.dropWhile isBlank)

/-- The text without the blanks around it. -/
def trim (text : String) : String :=
  String.ofList ((text.toList.dropWhile isBlank).reverse.dropWhile isBlank).reverse

/-- The text without the blanks around it, unless nothing is left. -/
def trimmed? (text : String) : Option String :=
  if trim text = "" then none else some (trim text)

end LaunchLine.Text
