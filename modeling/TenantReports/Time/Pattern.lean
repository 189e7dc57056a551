import TenantReports.Text.Blank
import TenantReports.Time.Rfc3339

/-!
# Dates and times by pattern

A pattern is a list of parts. Blanks may stand before every number; a blank in a pattern stands
for any number of them. Numbers may have fewer digits than their place has room for, and a year
with a sign may have any number of digits.

## Main definitions

* `Part`: the parts of patterns
* `Fields`: the numbers read
* `readParts?`: reading a text by a pattern
* `parseDate?`, `parseDateClock?`: the date, or date and time, that a text denotes
-/

namespace TenantReports.Time

/-- A part of a pattern. -/
inductive Part where
  | year
  | month
  | day
  | hour
  | minute
  | second
  | fraction
  | char (c : Char)
  | blanks
deriving DecidableEq, Repr

/-- The numbers read. -/
structure Fields where
  year : Int := 0
  month : Nat := 1
  day : Nat := 1
  hour : Nat := 0
  minute : Nat := 0
  second : Nat := 0
  nanos : Nat := 0

/-- A number of one to `width` digits after blanks, and the characters left. -/
def shortNumber? (width : Nat) (cs : List Char) : Option (Nat × List Char) :=
  let cs := Text.dropBlanks cs
  let ds := (cs.take width).takeWhile Char.isDigit
  if ds.isEmpty then none else some (Binary64.digitsValue 0 ds, cs.drop ds.length)

/-- A number with any number of digits, and the characters left. -/
def longNumber? (cs : List Char) : Option (Nat × List Char) :=
  let ds := cs.takeWhile Char.isDigit
  if ds.isEmpty then none else some (Binary64.digitsValue 0 ds, cs.dropWhile Char.isDigit)

/-- A year after blanks: up to four digits, or a sign and any number of digits. -/
def year? (cs : List Char) : Option (Int × List Char) :=
  match Text.dropBlanks cs with
  | '-' :: r => (longNumber? r).map fun (n, r) => (-(n : Int), r)
  | '+' :: r => (longNumber? r).map fun (n, r) => ((n : Int), r)
  | r => (shortNumber? 4 r).map fun (n, r) => ((n : Int), r)

/-- A number of one or two digits between bounds, and the characters left. -/
def within? (low high : Nat) (cs : List Char) : Option (Nat × List Char) :=
  match shortNumber? 2 cs with
  | some (n, r) => if low ≤ n ∧ n ≤ high then some (n, r) else none
  | none => none

/-- One part of a pattern read, and the characters left. -/
def readPart? (p : Part) (f : Fields) (cs : List Char) : Option (Fields × List Char) :=
  match p with
  | .year => (year? cs).map fun (n, r) => ({ f with year := n }, r)
  | .month => (within? 1 12 cs).map fun (n, r) => ({ f with month := n }, r)
  | .day => (within? 1 31 cs).map fun (n, r) => ({ f with day := n }, r)
  | .hour => (within? 0 23 cs).map fun (n, r) => ({ f with hour := n }, r)
  | .minute => (within? 0 59 cs).map fun (n, r) => ({ f with minute := n }, r)
  | .second => (within? 0 60 cs).map fun (n, r) => ({ f with second := n }, r)
  | .fraction =>
    match cs with
    | '.' :: r =>
      let ds := r.takeWhile Char.isDigit
      if ds.isEmpty then none
      else some ({ f with nanos := fractionNanos ds }, r.dropWhile Char.isDigit)
    | r => some (f, r)
  | .char c =>
    match cs with
    | d :: r => if d = c then some (f, r) else none
    | [] => none
  | .blanks => some (f, Text.dropBlanks cs)

/-- A text read by a pattern, to its end. -/
def readParts? : List Part → Fields → List Char → Option Fields
  | [], f, cs => if cs.isEmpty then some f else none
  | p :: ps, f, cs =>
    match readPart? p f cs with
    | some (f, r) => readParts? ps f r
    | none => none

/-- Year, month and day with hyphens between them. -/
def datePattern : List Part := [.year, .char '-', .month, .char '-', .day]

/-- Hour and minute with a colon between them. -/
def minutePattern : List Part := [.hour, .char ':', .minute]

/-- Hour, minute and second with colons between them, and perhaps a fraction. -/
def secondPattern : List Part := minutePattern ++ [.char ':', .second, .fraction]

/-- The date of the numbers read, if it exists. -/
def Fields.date? (f : Fields) : Option Date :=
  let d : Date := ⟨f.year, f.month, f.day⟩
  if d.isValid then some d else none

/-- The date that a text denotes by its pattern. -/
def parseDate? (cs : List Char) : Option Date := (readParts? datePattern {} cs).bind Fields.date?

/-- The date and time of day that a text denotes by a pattern. -/
def parseDateClock? (pattern : List Part) (cs : List Char) : Option (Date × Clock) := do
  let f ← readParts? pattern {} cs
  let date ← f.date?
  let (second, nanos) ← leapAware? f.second f.nanos
  return (date, ⟨f.hour, f.minute, second, nanos⟩)

end TenantReports.Time
