import TenantReports.Json.Value
import TenantReports.Binary64.Text

/-!
# JSON numbers

Digits are collected into a significand of 64 bits and a power of ten. Digits that no longer fit
count towards the power if they stand before the point and not at all after it. A number with
neither point nor exponent is an integer if it fits into 64 bits, signed or unsigned. All others
are doubles: the significand, rounded, is multiplied or divided by the rounded power of ten, in
steps of at most `10^308`.

## Main definitions

* `Json.Scan`: a significand, a power of ten and the characters left
* `Json.scaleByTen?`: a double times a power of ten
* `Json.number?`: a number at the start of a text, and the characters left
-/

namespace TenantReports.Json

open Binary64 (digitValue digitsValue)

/-- The largest significand. -/
def significandLimit : Nat := Nat.pow 2 64 - 1

/-- The greatest exponent that is read as such. -/
def exponentLimit : Nat := Nat.pow 2 31 - 1

/-- A significand, a power of ten, and the characters left. -/
structure Scan where
  significand : Nat
  power : Int
  rest : List Char

/-- The whole digits after those of `s`. Once a digit does not fit, it and those after it count
towards the power. -/
def scanWhole (s : Nat) : List Char → Scan
  | [] => ⟨s, 0, []⟩
  | c :: cs =>
    if c.isDigit then
      let n := 10 * s + digitValue c
      if significandLimit < n then
        let more := cs.takeWhile Char.isDigit
        ⟨s, more.length + 1, cs.dropWhile Char.isDigit⟩
      else scanWhole n cs
    else ⟨s, 0, c :: cs⟩

/-- The digits after the point. Once a digit does not fit, it and those after it are skipped. -/
def scanFraction (s : Nat) (power : Int) : List Char → Scan
  | [] => ⟨s, power, []⟩
  | c :: cs =>
    if c.isDigit then
      let n := 10 * s + digitValue c
      if significandLimit < n then ⟨s, power, cs.dropWhile Char.isDigit⟩
      else scanFraction n (power - 1) cs
    else ⟨s, power, c :: cs⟩

/-- A finite nonnegative double times `10^power`: one multiplication, or divisions by at most
`10^308` until the power is used up or nothing is left. Fails beyond the largest double. -/
def scaleByTen? (x : Binary64) (power : Int) : Option Binary64 :=
  if 0 ≤ power then
    if 308 < power then if x.isZero then some x else none
    else
      let y := x.mul (.ofNat (Nat.pow 10 power.toNat))
      if y.isInfinite then none else some y
  else if -308 ≤ power then some (x.div (.ofNat (Nat.pow 10 (-power).toNat)))
  else if x.isZero then some x
  else scaleByTen? (x.div (.ofNat (Nat.pow 10 308))) (power + 308)
termination_by (-power).toNat

/-- The double of a sign, a significand and a power of ten. -/
def doubleOf? (neg : Bool) (significand : Nat) (power : Int) : Option Json :=
  (scaleByTen? (.ofNat significand) power).map fun x =>
    .double (if neg then x.negate else x)

/-- An exponent after its `e`, which shifts the power of ten of what was read before. -/
def scanExponent? (neg : Bool) (s : Scan) (cs : List Char) : Option (Json × List Char) :=
  let (down, ds) := match cs with
    | '-' :: r => (true, r)
    | '+' :: r => (false, r)
    | r => (false, r)
  let digits := ds.takeWhile Char.isDigit
  let rest := ds.dropWhile Char.isDigit
  if digits.isEmpty then none
  else
    let e := digitsValue 0 digits
    if exponentLimit < e then
      if s.significand ≠ 0 ∧ ¬ down then none
      else some (.double (.zero neg), rest)
    else
      (doubleOf? neg s.significand (s.power + (if down then -(e : Int) else e))).map (·, rest)

/-- What may follow the digits: an exponent, or nothing of the number. -/
def scanTail? (neg : Bool) (s : Scan) : Option (Json × List Char) :=
  match s.rest with
  | 'e' :: cs => scanExponent? neg s cs
  | 'E' :: cs => scanExponent? neg s cs
  | rest => (doubleOf? neg s.significand s.power).map (·, rest)

/-- The integer of a sign and a significand if it fits into 64 bits. Minus zero and what lies
below the least signed integer are doubles. -/
def integerOf (neg : Bool) (significand : Nat) : Json :=
  if ¬ neg then .int significand
  else if significand = 0 ∨ Nat.pow 2 63 < significand then
    .double ((Binary64.ofNat significand).negate)
  else .int (-significand)

/-- A number without its sign at the start of a text, and the characters left. -/
def unsignedNumber? (neg : Bool) (cs : List Char) : Option (Json × List Char) :=
  match cs with
  | '0' :: d :: _ => if d.isDigit then none else afterWhole ⟨0, 0, cs.drop 1⟩
  | c :: _ => if c.isDigit then afterWhole (scanWhole 0 cs) else none
  | [] => none
where
  afterWhole (s : Scan) : Option (Json × List Char) :=
    match s.rest with
    | '.' :: d :: ds =>
      if d.isDigit then scanTail? neg (scanFraction s.significand s.power (d :: ds)) else none
    | '.' :: [] => none
    | 'e' :: _ => scanTail? neg s
    | 'E' :: _ => scanTail? neg s
    | rest => if s.power = 0 then some (integerOf neg s.significand, rest) else scanTail? neg s

/-- A number at the start of a text, and the characters left. -/
def number? : List Char → Option (Json × List Char)
  | '-' :: cs => unsignedNumber? true cs
  | cs => unsignedNumber? false cs

/-- The text of an integer. -/
def intText (n : Int) : String :=
  if n < 0 then "-" ++ String.ofList (Nat.toDigits 10 n.natAbs)
  else String.ofList (Nat.toDigits 10 n.natAbs)

end TenantReports.Json
