import TenantReports.Named

/-!
# The lifecycle of runs

A run is pending until it is processed, and ends completed or failed. Final states never change.

## Main definitions

* `Status`, `Status.next`: the states and the steps between them
* `Trigger`: what started a run
* `ExportFormat`: the formats of exported files
-/

namespace TenantReports

/-- The state of a run. -/
inductive Status where
  | pending
  | processing
  | completed
  | failed
deriving DecidableEq, Repr

instance : Named Status where
  all := [.pending, .processing, .completed, .failed]
  name
    | .pending => "pending"
    | .processing => "processing"
    | .completed => "completed"
    | .failed => "failed"

namespace Status

/-- The states that may follow. -/
def next : Status → List Status
  | .pending => [.processing, .failed]
  | .processing => [.completed, .failed]
  | .completed => []
  | .failed => []

/-- The second state may follow the first. -/
def CanBecome (s t : Status) : Prop := t ∈ s.next

instance (s t : Status) : Decidable (CanBecome s t) := inferInstanceAs (Decidable (t ∈ s.next))

/-- Nothing may follow. -/
def isTerminal (s : Status) : Bool := s.next.isEmpty

end Status

/-- What started a run. -/
inductive Trigger where
  | adHoc
  | scheduled
deriving DecidableEq, Repr

instance : Named Trigger where
  all := [.adHoc, .scheduled]
  name
    | .adHoc => "ad_hoc"
    | .scheduled => "scheduled"

/-- The formats of exported files. -/
inductive ExportFormat where
  | csv
  | xlsx
deriving DecidableEq, Repr

instance : Named ExportFormat where
  all := [.csv, .xlsx]
  name
    | .csv => "csv"
    | .xlsx => "xlsx"

namespace ExportFormat

/-- The extension of file names. -/
def extension : ExportFormat → String
  | .csv => "csv"
  | .xlsx => "xlsx"

/-- The content type of files. -/
def contentType : ExportFormat → String
  | .csv => "text/csv"
  | .xlsx => "application/vnd.openxmlformats-officedocument.spreadsheetml.sheet"

end ExportFormat

end TenantReports
