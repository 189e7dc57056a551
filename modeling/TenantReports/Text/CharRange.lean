/-!
# Ranges of characters

A character class is a list of ranges of code points. A range has a step, for the blocks in
which the members of a class alternate with other characters.

## Main definitions

* `CharRange`: from `first` to `last`, every `step`-th code point
* `CharRange.inSome rs c`: the character lies in one of the ranges
-/

namespace TenantReports.Text

/-- The code points from `first` to `last`, every `step`-th one. -/
structure CharRange where
  first : Nat
  last : Nat
  step : Nat
deriving DecidableEq, Repr

namespace CharRange

/-- The character is one of the range's. -/
def contains (r : CharRange) (c : Char) : Bool :=
  r.first ≤ c.toNat && c.toNat ≤ r.last && (c.toNat - r.first) % r.step == 0

/-- The character is in one of the ranges. -/
def inSome (rs : List CharRange) (c : Char) : Bool := rs.any (·.contains c)

end CharRange

end TenantReports.Text
