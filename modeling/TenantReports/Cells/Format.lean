import TenantReports.Json.Value
import TenantReports.Report.Vocabulary
import TenantReports.Time.Pattern

/-!
# Formatting cells

How the cells of a result are shown. Amounts have two places, with a comma after every three
digits of the whole part; dates and times are brought into one form. A cell that a format cannot
read is shown as it is.

## Main definitions

* `groupThousands`: the commas of an amount
* `amountText`: an amount with two places
* `moment?`: the date and time of day that a text denotes
* `CellFormatter.format`: a cell in a format
-/

namespace TenantReports

open Time (Date Clock)

/-- Digits with a comma wherever a multiple of three digits follows. -/
def groupDigits : List Char → List Char
  | [] => []
  | [d] => [d]
  | d :: ds => if ds.length % 3 = 0 then d :: ',' :: groupDigits ds else d :: groupDigits ds

/-- A plain decimal with a comma after every three digits of its whole part. -/
def groupThousands (plain : List Char) : List Char :=
  let (sign, rest) := match plain with
    | '-' :: r => (['-'], r)
    | r => ([], r)
  sign ++ groupDigits (rest.takeWhile (· != '.')) ++ rest.dropWhile (· != '.')

/-- An amount with two places and its commas. -/
def amountText (x : Binary64) : String :=
  String.ofList (groupThousands (x.toFixed 2).toList)

/-- The number that a cell denotes: a number, or a text of a finite one. -/
def cellNumber? : Json → Option Binary64
  | .int n => some (.ofInt n)
  | .double x => some x
  | .string s =>
    match Binary64.ofText? (Text.trim s) with
    | some x => if x.isFinite then some x else none
    | none => none
  | _ => none

/-- The forms of date and time that are read: to the second with a blank or a `T`, or to the
minute. -/
def momentPatterns : List (List Time.Part) :=
  [Time.datePattern ++ .blanks :: Time.secondPattern,
    Time.datePattern ++ .char 'T' :: Time.secondPattern,
    Time.datePattern ++ .blanks :: Time.minutePattern]

/-- The date and time of day that a text denotes. One with an offset is brought to universal
time; a date alone is its midnight. -/
def moment? (s : String) : Option (Date × Clock) :=
  let trimmed := Text.trim s
  match Time.parseRfc3339? trimmed with
  | some t => some (t.date, t.clock)
  | none =>
    match momentPatterns.findSome? fun p => Time.parseDateClock? p trimmed.toList with
    | some m => some m
    | none => (Time.parseDate? trimmed.toList).map fun d => (d, ⟨0, 0, 0, 0⟩)

/-- The date and time of day that a cell denotes. -/
def cellMoment? (j : Json) : Option (Date × Clock) := j.asString?.bind moment?

/-- How amounts of money end. -/
structure CellFormatter where
  currencySuffix : String := "€"
deriving DecidableEq, Repr

namespace CellFormatter

/-- The text of a cell in a format, if the format can read it. -/
def text? (f : CellFormatter) (format : ColumnFormat) (cell : Json) : Option String :=
  match format with
  | .text => none
  | .number => (cellNumber? cell).map amountText
  | .currency => (cellNumber? cell).map fun x =>
    if f.currencySuffix = "" then amountText x else amountText x ++ " " ++ f.currencySuffix
  | .percent => (cellNumber? cell).map fun x => x.toFixed 2 ++ "%"
  | .date => (cellMoment? cell).map fun (d, _) => String.ofList (Time.dateChars d)
  | .datetime => (cellMoment? cell).map fun (d, c) =>
    String.ofList (Time.dateChars d ++ ' ' :: Time.clockChars c)

/-- A cell in a format. A cell that the format cannot read stays as it is. -/
def format (f : CellFormatter) (format : ColumnFormat) (cell : Json) : Json :=
  match f.text? format cell with
  | some s => .string s
  | none => cell

/-- A row with a format for each cell. Cells beyond the last format stay as they are. -/
def formatRow (f : CellFormatter) : List ColumnFormat → List Json → List Json
  | format :: formats, cell :: cells => f.format format cell :: f.formatRow formats cells
  | _, cells => cells

/-- Rows with a format for each column. -/
def formatRows (f : CellFormatter) (formats : List ColumnFormat) (rows : List (List Json)) :
    List (List Json) :=
  rows.map (f.formatRow formats)

end CellFormatter

end TenantReports
