/-!
# Binary floating-point numbers

Doubles as their 64 bits. A finite double is `±m · 2^q`; arithmetic is exact arithmetic on
natural numbers followed by one rounding to nearest, ties to the even significand.

## Main definitions

* `Binary64`: the 64 bits
* `Binary64.view`: not a number, an infinity, or a sign, a significand and an exponent
* `Binary64.ofRatio`: the double nearest to a quotient of natural numbers
* `Binary64.ofDecimal`: the double nearest to `coeff · 10^exp`
* `Binary64.ofInt`: the double nearest to an integer
-/

namespace TenantReports

/-- A double, as its 64 bits. -/
structure Binary64 where
  bits : UInt64
deriving DecidableEq, Repr

namespace Binary64

/-- What a double denotes. A finite one is `m · 2^q`, negated if `neg`. -/
inductive View where
  | nan
  | infinite (neg : Bool)
  | finite (neg : Bool) (m : Nat) (q : Int)
deriving DecidableEq, Repr

/-- The sign bit is set. -/
def isNegative (x : Binary64) : Bool := Nat.pow 2 63 ≤ x.bits.toNat

/-- The bits below the sign. -/
def magnitudeBits (x : Binary64) : Nat := x.bits.toNat % Nat.pow 2 63

/-- Not a number, an infinity, or a sign, a significand and an exponent. -/
def view (x : Binary64) : View :=
  let biased : Nat := x.magnitudeBits / Nat.pow 2 52
  let fraction : Nat := x.magnitudeBits % Nat.pow 2 52
  if biased = 2047 then
    if fraction = 0 then .infinite x.isNegative else .nan
  else if biased = 0 then .finite x.isNegative fraction (-1074)
  else .finite x.isNegative (Nat.pow 2 52 + fraction) ((biased : Int) - 1075)

/-- Neither an infinity nor not a number. -/
def isFinite (x : Binary64) : Bool := x.magnitudeBits / Nat.pow 2 52 != 2047

/-- One of the two infinities. -/
def isInfinite (x : Binary64) : Bool := x.magnitudeBits == 2047 * Nat.pow 2 52

/-- One of the two zeros. -/
def isZero (x : Binary64) : Bool := x.magnitudeBits == 0

/-- The double with this sign and these bits below it. -/
def ofMagnitudeBits (neg : Bool) (magnitude : Nat) : Binary64 :=
  ⟨UInt64.ofNat ((if neg then Nat.pow 2 63 else 0) + magnitude)⟩

/-- An infinity. -/
def infinity (neg : Bool) : Binary64 := ofMagnitudeBits neg (2047 * Nat.pow 2 52)

/-- A zero. -/
def zero (neg : Bool) : Binary64 := ofMagnitudeBits neg 0

/-- The quiet not-a-number. -/
def nan : Binary64 := ofMagnitudeBits false (2047 * Nat.pow 2 52 + Nat.pow 2 51)

/-- The double with the opposite sign. -/
def negate (x : Binary64) : Binary64 := ofMagnitudeBits (!x.isNegative) x.magnitudeBits

/-- The natural number nearest to `num / den`, ties to even. -/
def roundQuotient (num den : Nat) : Nat :=
  let n := num / den
  let twice := 2 * (num % den)
  if twice < den then n
  else if den < twice then n + 1
  else n + n % 2

/-- The numerator and denominator of `num / den / 2^q`. -/
def scaleDown (num den : Nat) (q : Int) : Nat × Nat :=
  if 0 ≤ q then (num, den * Nat.pow 2 q.toNat) else (num * Nat.pow 2 (-q).toNat, den)

/-- The exponent of the last bit kept of `num / den`: the one that leaves 53 bits, and never
below that of the smallest doubles. -/
def lastExponent (num den : Nat) : Int :=
  let guess : Int := max ((num.log2 : Int) - den.log2 - 53) (-1074)
  let (n, d) := scaleDown num den guess
  if n / d < Nat.pow 2 53 then guess else guess + 1

/-- The double nearest to `num / den`, ties to even; an infinity beyond the largest double. -/
def ofRatio (neg : Bool) (num den : Nat) : Binary64 :=
  if num = 0 then zero neg
  else
    let q := lastExponent num den
    let (n, d) := scaleDown num den q
    let magnitude := (q + 1074).toNat * Nat.pow 2 52 + roundQuotient n d
    if 2047 * Nat.pow 2 52 ≤ magnitude then infinity neg else ofMagnitudeBits neg magnitude

/-- The double nearest to `m · 2^q`. -/
def ofScaled (neg : Bool) (m : Nat) (q : Int) : Binary64 :=
  if 0 ≤ q then ofRatio neg (m * Nat.pow 2 q.toNat) 1 else ofRatio neg m (Nat.pow 2 (-q).toNat)

/-- The number of decimal digits of a natural number, none for zero. -/
def digitCount (n : Nat) : Nat := if n = 0 then 0 else (Nat.toDigits 10 n).length

/-- The double nearest to `coeff · 10^exp`. Values far outside the range of doubles are decided
by their number of digits, before any power is taken. -/
def ofDecimal (neg : Bool) (coeff : Nat) (exp : Int) : Binary64 :=
  if coeff = 0 then zero neg
  else
    let top : Int := digitCount coeff + exp
    if top < -330 then zero neg
    else if 310 < top then infinity neg
    else if 0 ≤ exp then ofRatio neg (coeff * Nat.pow 10 exp.toNat) 1
    else ofRatio neg coeff (Nat.pow 10 (-exp).toNat)

/-- The double nearest to a natural number. -/
def ofNat (n : Nat) : Binary64 := ofRatio false n 1

/-- The double nearest to an integer. -/
def ofInt (n : Int) : Binary64 := ofRatio (n < 0) n.natAbs 1

/-- The double nearest to a product of finite doubles. -/
def mul (x y : Binary64) : Binary64 :=
  match x.view, y.view with
  | .finite s m p, .finite t n q => ofScaled (s != t) (m * n) (p + q)
  | .nan, _ => nan
  | _, .nan => nan
  | _, _ => if x.isZero || y.isZero then nan else infinity (x.isNegative != y.isNegative)

/-- The double nearest to a quotient of finite doubles. -/
def div (x y : Binary64) : Binary64 :=
  match x.view, y.view with
  | .finite s m p, .finite t n q =>
    if n = 0 then if m = 0 then nan else infinity (s != t)
    else
      let e := p - q
      if 0 ≤ e then ofRatio (s != t) (m * Nat.pow 2 e.toNat) n
      else ofRatio (s != t) m (n * Nat.pow 2 (-e).toNat)
  | .nan, _ => nan
  | _, .nan => nan
  | .infinite _, .infinite _ => nan
  | .infinite s, .finite t _ _ => infinity (s != t)
  | .finite s _ _, .infinite t => zero (s != t)

end Binary64

end TenantReports
