/-!
# Text/CharRange — classes of characters given as tables of code point ranges

A class of characters is a list of closed ranges of code points, in increasing order; `contains` is
membership.  A range may bridge the surrogates, where no character lies.
-/

namespace LaunchLine.Text

/-- A class of characters: closed ranges of code points. -/
abbrev CharRanges := List (Nat × Nat)

namespace CharRanges

/-- Whether the character lies in one of the ranges. -/
def contains (ranges : CharRanges) (c : Char) : Bool :=
  ranges.any fun (low, high) => low ≤ c.toNat && c.toNat ≤ high

end CharRanges

end LaunchLine.Text
