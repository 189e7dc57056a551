import TenantReports.Export.Sheet
import TenantReports.Export.Slug

/-!
# Exported files

A result exported in a format is a file with a name and a content.

## Main definitions

* `FileContent`: what a file holds
* `Artifact`: a file
* `ExportError`: why there is none
* `exportRows`: labels and rows as a file
-/

namespace TenantReports

/-- What an exported file holds. -/
inductive FileContent where
  | csv (text : String)
  | sheet (cells : List SheetCell)
deriving DecidableEq, Repr

/-- Why a file cannot be written. -/
inductive FileError where
  | nameTooLong
deriving DecidableEq, Repr

/-- How an error is told. -/
def FileError.message : FileError → String
  | .nameTooLong => "File name too long (os error 36)"

/-- Why an export fails. -/
inductive ExportError where
  | csv (e : Csv.UnequalLengths)
  | sheet (e : SheetError)
  | file (e : FileError)
deriving DecidableEq, Repr

/-- The name of the kind of error. -/
def ExportError.code : ExportError → String
  | .csv _ => "Csv"
  | .sheet _ => "Xlsx"
  | .file _ => "Io"

/-- How an error is told. -/
def ExportError.message : ExportError → String
  | .csv e => e.message
  | .sheet e => e.message
  | .file e => s!"IO error: {e.message}"

/-- An exported file, and where it was saved, if it was. -/
structure Artifact where
  filename : String
  format : ExportFormat
  content : FileContent
  path : Option String := none
deriving DecidableEq, Repr

/-- The content of labels and rows in a format. -/
def exportContent (format : ExportFormat) (labels : List String) (rows : List (List Json)) :
    Except ExportError FileContent :=
  match format with
  | .csv => match Csv.write labels rows with
    | .ok text => .ok (.csv text)
    | .error e => .error (.csv e)
  | .xlsx => match Sheet.write labels rows with
    | .ok cells => .ok (.sheet cells)
    | .error e => .error (.sheet e)

/-- The file of labels and rows, named after a report and an instant. -/
def exportRows (format : ExportFormat) (name : String) (at_ : Time.Instant) (labels : List String)
    (rows : List (List Json)) : Except ExportError Artifact := do
  let content ← exportContent format labels rows
  return { filename := exportFilename name format at_, format, content }

end TenantReports
