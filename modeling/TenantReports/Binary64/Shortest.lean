import TenantReports.Binary64.Basic

/-!
# The shortest decimal that reads back

A finite double stands for every real that rounds to it: the reals between the midpoints to its
two neighbours, midpoints included when its significand is even. Its shortest decimal is the one
with the fewest digits among those reals, and of these the nearest to the double.

## Main definitions

* `Decimal`: a coefficient and a power of ten
* `Binary64.Rounding`: the interval of reals that round to a double
* `Binary64.shortest`: the shortest decimal of a positive finite double
-/

namespace TenantReports

/-- The number `coeff · 10^exp`. -/
structure Decimal where
  coeff : Nat
  exp : Int
deriving DecidableEq, Repr

namespace Decimal

/-- The digits of the coefficient, most significant first. -/
def digits (d : Decimal) : List Char := Nat.toDigits 10 d.coeff

/-- The power of ten of the first digit. -/
def leading (d : Decimal) : Int := d.exp + d.digits.length - 1

/-- The same number without trailing zeros in the coefficient, dropping at most `fuel` of them. -/
def stripZeros : Nat → Decimal → Decimal
  | 0, d => d
  | fuel + 1, d =>
    if d.coeff ≠ 0 ∧ d.coeff % 10 = 0 then stripZeros fuel ⟨d.coeff / 10, d.exp + 1⟩ else d

end Decimal

namespace Binary64

/-- The reals that round to a double: those between `low / den` and `high / den`, with the two
ends if `closed`. The double itself is `mid / den`. -/
structure Rounding where
  low : Nat
  mid : Nat
  high : Nat
  den : Nat
  closed : Bool

/-- The reals that round to `m · 2^q`. Below a power of two the neighbour is half as far. -/
def Rounding.of (m : Nat) (q : Int) : Rounding :=
  let below := if m = Nat.pow 2 52 ∧ -1074 < q then 1 else 2
  let up := Nat.pow 2 (q - 2).toNat
  ⟨(4 * m - below) * up, 4 * m * up, (4 * m + 2) * up, Nat.pow 2 (2 - q).toNat, m % 2 = 0⟩

/-- The decimal rounds to the double. -/
def Rounding.covers (r : Rounding) (d : Decimal) : Bool :=
  let value := d.coeff * Nat.pow 10 d.exp.toNat * r.den
  let unit := Nat.pow 10 (-d.exp).toNat
  if r.closed then r.low * unit ≤ value && value ≤ r.high * unit
  else r.low * unit < value && value < r.high * unit

/-- Twice the distance of a decimal to the double, in units that depend on the power of ten
only. -/
def Rounding.distance (r : Rounding) (d : Decimal) : Nat :=
  let value := d.coeff * Nat.pow 10 d.exp.toNat * r.den
  let target := r.mid * Nat.pow 10 (-d.exp).toNat
  (value - target) + (target - value)

/-- The nearest decimal to the double, of those with last power `exp` that round to it: one of
the double's two neighbours on that grid. -/
def Rounding.onGrid (r : Rounding) (exp : Int) : Option Decimal :=
  let k := (r.mid * Nat.pow 10 (-exp).toNat) / (r.den * Nat.pow 10 exp.toNat)
  let below : Decimal := ⟨k, exp⟩
  let above : Decimal := ⟨k + 1, exp⟩
  match r.covers below, r.covers above with
  | true, true =>
    if r.distance below < r.distance above then some below
    else if r.distance above < r.distance below then some above
    else if k % 2 = 0 then some below else some above
  | true, false => some below
  | false, true => some above
  | false, false => none

/-- The power of ten of the first digit of `num / den`, which is positive. -/
def leadingPower (num den : Nat) : Int :=
  let guess : Int := (digitCount num : Int) - digitCount den
  if den * Nat.pow 10 guess.toNat ≤ num * Nat.pow 10 (-guess).toNat then guess else guess - 1

/-- The first of the grids with `n`, `n + 1`, … digits that has a decimal of the double. -/
def Rounding.firstGrid (r : Rounding) (lead : Int) : Nat → Nat → Option Decimal
  | 0, _ => none
  | fuel + 1, n =>
    match r.onGrid (lead - n + 1) with
    | some d => some d
    | none => r.firstGrid lead fuel (n + 1)

/-- The shortest decimal of `m · 2^q`. Seventeen digits always suffice. -/
def shortest (m : Nat) (q : Int) : Decimal :=
  if m = 0 then ⟨0, 0⟩
  else
    let r := Rounding.of m q
    let lead := leadingPower r.mid r.den
    match r.firstGrid lead 17 1 with
    | some d => d.stripZeros 20
    | none => ⟨m, 0⟩

end Binary64

end TenantReports
