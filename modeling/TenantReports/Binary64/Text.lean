import TenantReports.Binary64.Shortest

/-!
# Texts of doubles

Three notations share the shortest digits and differ in where positional notation ends and in
the sign of the exponent. A fourth has a fixed number of places. Numbers are read with any
number of digits and rounded once.

## Main definitions

* `NumberStyle`: where positional notation ends, and the sign of a positive exponent
* `Binary64.toText`: a double in a style
* `Binary64.toFixed`: a double with a fixed number of places
* `Binary64.ofText?`: the double a text denotes
-/

namespace TenantReports

/-- How the shortest digits of a double are written: positionally if the power of ten of the
first digit is between `lowest` and `highest`, else with an exponent. -/
structure NumberStyle where
  lowest : Int
  highest : Int
  plus : Bool

namespace NumberStyle

/-- JSON numbers: `1.0`, `1e-7`, `1e+16`. -/
def json : NumberStyle := ⟨-5, 15, true⟩

/-- SQL literals: `1.0`, `1e-7`, `1e16`. -/
def sql : NumberStyle := ⟨-5, 15, false⟩

/-- Diagnostic listings: `1.0`, `1e-5`, `1e16`. -/
def diagnostic : NumberStyle := ⟨-4, 15, false⟩

/-- A positive decimal in this style. -/
def write (f : NumberStyle) (d : Decimal) : List Char :=
  let ds := d.digits
  let e := d.leading
  if f.lowest ≤ e ∧ e ≤ f.highest then
    if e < 0 then '0' :: '.' :: (List.replicate (-e - 1).toNat '0' ++ ds)
    else
      let whole := e.toNat + 1
      let fraction := ds.drop whole
      ds.take whole ++ List.replicate (whole - ds.length) '0' ++ '.' ::
        (if fraction.isEmpty then ['0'] else fraction)
  else
    let fraction := ds.drop 1
    ds.take 1 ++ (if fraction.isEmpty then [] else '.' :: fraction) ++ 'e' ::
      ((if e < 0 then ['-'] else if f.plus then ['+'] else []) ++ Nat.toDigits 10 e.natAbs)

end NumberStyle

namespace Binary64

/-- A double in a style; `NaN` and `inf` where it is not finite. -/
def toText (f : NumberStyle) (x : Binary64) : String :=
  match x.view with
  | .nan => "NaN"
  | .infinite neg => if neg then "-inf" else "inf"
  | .finite neg m q =>
    let body := if m = 0 then ['0', '.', '0'] else f.write (shortest m q)
    String.ofList (if neg then '-' :: body else body)

/-- The natural number nearest to `m · 2^q · scale`, ties to even. -/
def roundScaled (m : Nat) (q : Int) (scale : Nat) : Nat :=
  roundQuotient (m * Nat.pow 2 q.toNat * scale) (Nat.pow 2 (-q).toNat)

/-- A natural number of units of `10^-places`, written with that many places. -/
def fixedText (places n : Nat) : List Char :=
  let ds := Nat.toDigits 10 n
  let padded := List.replicate (places + 1 - ds.length) '0' ++ ds
  let whole := padded.length - places
  padded.take whole ++ '.' :: padded.drop whole

/-- A finite double with a fixed number of places: its exact value rounded half to even. The sign
is kept even where only zeros remain. -/
def toFixed (places : Nat) (x : Binary64) : String :=
  match x.view with
  | .nan => "NaN"
  | .infinite neg => if neg then "-inf" else "inf"
  | .finite neg m q =>
    let body := fixedText places (roundScaled m q (Nat.pow 10 places))
    String.ofList (if neg then '-' :: body else body)

/-- The value of a digit. -/
def digitValue (c : Char) : Nat := c.toNat - '0'.toNat

/-- The number that a list of digits denotes, after the digits of `start`. -/
def digitsValue (start : Nat) (ds : List Char) : Nat :=
  ds.foldl (fun n c => 10 * n + digitValue c) start

/-- The exponent part of a number, if it is well formed: nothing, or `e`, a sign and digits. -/
def exponentOf? : List Char → Option Int
  | [] => some 0
  | e :: cs =>
    if e ≠ 'e' ∧ e ≠ 'E' then none
    else
      let (neg, ds) := match cs with
        | '-' :: r => (true, r)
        | '+' :: r => (false, r)
        | r => (false, r)
      if ds.isEmpty ∨ ¬ ds.all Char.isDigit then none
      else
        let n : Int := digitsValue 0 ds
        some (if neg then -n else n)

/-- An unsigned number: digits, a point and digits, and an exponent. One of the two digit runs
may be empty. -/
def unsignedOf? (neg : Bool) (cs : List Char) : Option Binary64 :=
  let whole := cs.takeWhile Char.isDigit
  let rest := cs.dropWhile Char.isDigit
  let (fraction, tail) := match rest with
    | '.' :: r => (r.takeWhile Char.isDigit, r.dropWhile Char.isDigit)
    | r => ([], r)
  if whole.isEmpty ∧ fraction.isEmpty then none
  else (exponentOf? tail).map fun e =>
    ofDecimal neg (digitsValue (digitsValue 0 whole) fraction) (e - fraction.length)

/-- The double that a text denotes: a number with any number of digits, or one of the words
`inf`, `infinity` and `nan` in any case, after a sign. -/
def ofText? (s : String) : Option Binary64 :=
  let (neg, cs) := match s.toList with
    | '-' :: r => (true, r)
    | '+' :: r => (false, r)
    | r => (false, r)
  let word := cs.map Char.toLower
  if word = ['i', 'n', 'f'] ∨ word = ['i', 'n', 'f', 'i', 'n', 'i', 't', 'y'] then
    some (infinity neg)
  else if word = ['n', 'a', 'n'] then some nan
  else unsignedOf? neg cs

end Binary64

end TenantReports
