import TenantReports.Binary64.Text
import TenantReports.Time.Instant

/-!
# Instants as text

Instants are written as RFC 3339 says, in universal time with a `Z`. Years beyond four digits
have a sign. In reading, an offset from universal time may be given.

## Main definitions

* `padded`: a number with at least so many digits
* `rfc3339`, `rfc3339Micros`: with the fewest fraction digits that lose nothing, and with six
* `parseRfc3339?`: reading
-/

namespace TenantReports.Time

/-- A number with at least `width` digits. -/
def padded (width n : Nat) : List Char :=
  let ds := Nat.toDigits 10 n
  List.replicate (width - ds.length) '0' ++ ds

/-- A year: four digits, or a sign and at least four where those do not suffice. -/
def yearChars (year : Int) : List Char :=
  if 0 ≤ year ∧ year ≤ 9999 then padded 4 year.toNat
  else (if year < 0 then '-' else '+') :: padded 4 year.natAbs

/-- A date, as in `2024-01-31`. -/
def dateChars (d : Date) : List Char :=
  yearChars d.year ++ '-' :: padded 2 d.month ++ '-' :: padded 2 d.day

/-- A time of day to the second, as in `08:30:00`. A leap second is the sixtieth. -/
def clockChars (c : Clock) : List Char :=
  let second := if 1000000000 ≤ c.nanos then c.second + 1 else c.second
  padded 2 c.hour ++ ':' :: padded 2 c.minute ++ ':' :: padded 2 second

/-- The nanoseconds within the second that is written. -/
def nanosShown (c : Clock) : Nat := if 1000000000 ≤ c.nanos then c.nanos - 1000000000 else c.nanos

/-- The fewest fraction digits of none, three, six and nine that lose nothing. -/
def fractionChars (nanos : Nat) : List Char :=
  if nanos = 0 then []
  else if nanos % 1000000 = 0 then '.' :: padded 3 (nanos / 1000000)
  else if nanos % 1000 = 0 then '.' :: padded 6 (nanos / 1000)
  else '.' :: padded 9 nanos

/-- Date and time of day with a `T` between them. -/
def dateClockChars (t : Instant) : List Char := dateChars t.date ++ 'T' :: clockChars t.clock

/-- An instant with the fewest fraction digits that lose nothing, and a given end. -/
def rfc3339With (zone : List Char) (t : Instant) : String :=
  String.ofList (dateClockChars t ++ fractionChars (nanosShown t.clock) ++ zone)

/-- An instant with the fewest fraction digits that lose nothing. -/
def rfc3339 (t : Instant) : String := rfc3339With ['Z'] t

/-- An instant with six fraction digits; what is below a microsecond is cut off. -/
def rfc3339Micros (t : Instant) : String :=
  String.ofList (dateClockChars t ++ '.' :: padded 6 (nanosShown t.clock / 1000) ++ ['Z'])

/-- A number of exactly `n` digits at the start of a text, and the characters left. -/
def fixedDigits? (n : Nat) (cs : List Char) : Option (Nat × List Char) :=
  let ds := cs.take n
  if ds.length = n ∧ ds.all Char.isDigit then some (Binary64.digitsValue 0 ds, cs.drop n) else none

/-- The nanoseconds that fraction digits denote. Those after the ninth are ignored. -/
def fractionNanos (ds : List Char) : Nat :=
  let kept := ds.take 9
  Binary64.digitsValue 0 kept * Nat.pow 10 (9 - kept.length)

/-- The seconds and nanoseconds of a stated second, the sixtieth being a leap second. -/
def leapAware? (second nanos : Nat) : Option (Nat × Nat) :=
  if second < 60 then some (second, nanos)
  else if second = 60 then some (59, 1000000000 + nanos)
  else none

/-- The seconds by which a zone is ahead of universal time. -/
def zoneSeconds? : List Char → Option Int
  | ['Z'] => some 0
  | ['z'] => some 0
  | sign :: cs => do
    let ahead ← if sign = '+' then some true
      else if sign = '-' ∨ sign = '\u2212' then some false else none
    let (hour, r) ← fixedDigits? 2 cs
    let ':' :: r := r | none
    let (minute, r) ← fixedDigits? 2 r
    if r.isEmpty ∧ hour ≤ 23 ∧ minute ≤ 59 then
      let s : Int := hour * 3600 + minute * 60
      some (if ahead then s else -s)
    else none
  | [] => none

/-- The instant that a text denotes. -/
def parseRfc3339? (text : String) : Option Instant := do
  let (year, r) ← fixedDigits? 4 text.toList
  let '-' :: r := r | none
  let (month, r) ← fixedDigits? 2 r
  let '-' :: r := r | none
  let (day, r) ← fixedDigits? 2 r
  let t :: r := r | none
  if t ≠ 'T' ∧ t ≠ 't' ∧ t ≠ ' ' then none
  let (hour, r) ← fixedDigits? 2 r
  let ':' :: r := r | none
  let (minute, r) ← fixedDigits? 2 r
  let ':' :: r := r | none
  let (second, r) ← fixedDigits? 2 r
  let (fraction, r) ← match r with
    | '.' :: r =>
      if (r.takeWhile Char.isDigit).isEmpty then none
      else some (r.takeWhile Char.isDigit, r.dropWhile Char.isDigit)
    | r => some ([], r)
  let zone ← zoneSeconds? r
  let date : Date := ⟨year, month, day⟩
  let (second, nanos) ← leapAware? second (fractionNanos fraction)
  if date.isValid ∧ hour ≤ 23 ∧ minute ≤ 59 then
    some ((Instant.ofDateClock date ⟨hour, minute, second, nanos⟩).addSeconds (-zone))
  else none

end TenantReports.Time
