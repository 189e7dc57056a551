import TenantReports.Json.Printer

/-!
# Comma-separated values

A record a line. A field is quoted if it has a comma, a quote or a line break; a quote inside is
written twice. A record whose text would be empty is written as a quoted empty field. All records
have as many fields as the first one.

## Main definitions

* `Csv.fieldChars`, `Csv.recordChars`: a field and a record
* `Csv.write`: records, or the first one of another length
* `cellText`: the text of a cell
-/

namespace TenantReports

/-- The text of a cell: nothing for `null`, a text as it is, any other value as JSON. -/
def cellText : Json → String
  | .null => ""
  | .string s => s
  | j => j.compact

namespace Csv

/-- The characters that a field is quoted for. -/
def isSpecial (c : Char) : Bool := c == ',' || c == '"' || c == '\n' || c == '\r'

/-- A field in quotes, with quotes inside written twice. -/
def quoteChars (cs : List Char) : List Char :=
  '"' :: cs.flatMap (fun c => if c = '"' then ['"', '"'] else [c]) ++ ['"']

/-- A field, quoted if it has to be. -/
def fieldChars (s : String) : List Char :=
  if s.toList.any isSpecial then quoteChars s.toList else s.toList

/-- Fields with a comma between them. -/
def joinFields : List (List Char) → List Char
  | [] => []
  | [f] => f
  | f :: fs => f ++ ',' :: joinFields fs

/-- A record and its line break. -/
def recordChars (fields : List String) : List Char :=
  let line := joinFields (fields.map fieldChars)
  (if line.isEmpty then ['"', '"'] else line) ++ ['\n']

/-- A record of another length than the first one. -/
structure UnequalLengths where
  found : Nat
  expected : Nat
deriving DecidableEq, Repr

/-- How a record of another length is told. -/
def UnequalLengths.message (e : UnequalLengths) : String :=
  s!"CSV export failed: CSV error: found record with {e.found} fields, "
    ++ s!"but the previous record has {e.expected} fields"

/-- Records one after the other, all of one length. -/
def recordsChars (width : Nat) : List (List String) → Except UnequalLengths (List Char)
  | [] => .ok []
  | r :: rs =>
    if r.length = width then (recordsChars width rs).map (recordChars r ++ ·)
    else .error ⟨r.length, width⟩

/-- The text of a header and rows. -/
def write (labels : List String) (rows : List (List Json)) : Except UnequalLengths String :=
  (recordsChars labels.length (labels :: rows.map fun r => r.map cellText)).map String.ofList

end Csv

end TenantReports
