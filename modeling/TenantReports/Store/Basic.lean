import TenantReports.Json.Parser
import TenantReports.Report.Definition
import TenantReports.Report.Execution
import TenantReports.Report.Schedule
import TenantReports.Time.Rfc3339

/-!
# The store

The store keeps reports, runs and schedules as rows of three tables. Structured values and times
are kept as text; times all have six fraction digits and a `Z`, so that the order of the texts is
the order of time. A row is read back by reading its texts. An id that was given once is never
given again.

## Main definitions

* `DefinitionRow`, `ExecutionRow`, `ScheduleRow`: the rows
* `Store`: the three tables and the greatest ids given so far
* `StoreError`: why an operation fails
-/

namespace TenantReports

open Time (Instant)

/-- The row of a saved report. -/
structure DefinitionRow extends ReportInfo where
  layout : String
  lastExecutedAt : Option String
  createdAt : String
  updatedAt : String
deriving DecidableEq, Repr

/-- The row of a run. -/
structure ExecutionRow extends ExecutionInfo where
  filters : String
  createdAt : String
  startedAt : Option String := none
  completedAt : Option String := none
deriving DecidableEq, Repr

/-- The row of a schedule. -/
structure ScheduleRow extends ScheduleInfo where
  recurrence : String
  preset : String
  recipients : String
  nextRunAt : String
  lastRunAt : Option String
  createdAt : String
  updatedAt : String
deriving DecidableEq, Repr

/-- The three tables, each in the order in which rows were added, and the greatest ids given so
far. -/
structure Store where
  definitions : List DefinitionRow := []
  executions : List ExecutionRow := []
  schedules : List ScheduleRow := []
  lastDefinition : Int := 0
  lastSchedule : Int := 0

/-- Why an operation on the store fails. -/
inductive StoreError where
  /-- A text of a row does not read back. -/
  | unreadable
  | notFound (kind id : String)
  | invalidTransition (id : String) (before after : Status)
deriving DecidableEq, Repr

/-- The name of the kind of error. -/
def StoreError.code : StoreError → String
  | .unreadable => "Sqlite"
  | .notFound _ _ => "NotFound"
  | .invalidTransition _ _ _ => "InvalidTransition"

/-- How an error is told. -/
def StoreError.message : StoreError → String
  | .unreadable => "A stored value cannot be read"
  | .notFound kind id => s!"{kind} {id} not found"
  | .invalidTransition id before after =>
    s!"Execution {id} cannot move from {Named.name before} to {Named.name after}"

/-- An optional text, read if it is there. -/
def readOptional? {α : Type} (read : String → Option α) : Option String → Option (Option α)
  | none => some none
  | some text => (read text).map some

/-- The text of filter values. -/
def FilterValues.text (values : FilterValues) : String := (Json.object values).compact

/-- The filter values that a text is. -/
def FilterValues.ofText? (text : String) : Option FilterValues :=
  (Json.parse? text).bind Json.asObject?

namespace DefinitionRow

/-- The report that a row holds. -/
def read? (r : DefinitionRow) : Option Definition := do
  let layout ← (Json.parse? r.layout).bind Layout.ofJson?
  let lastExecutedAt ← readOptional? Time.parseRfc3339? r.lastExecutedAt
  let createdAt ← Time.parseRfc3339? r.createdAt
  let updatedAt ← Time.parseRfc3339? r.updatedAt
  return ⟨r.toReportInfo, layout, lastExecutedAt, createdAt, updatedAt⟩

/-- The row of a report, with the digest of its layout. -/
def ofDefinition (d : Definition) : DefinitionRow :=
  ⟨{ d.toReportInfo with hash := d.layout.hash }, d.layout.text,
    d.lastExecutedAt.map Time.rfc3339Micros, Time.rfc3339Micros d.createdAt,
    Time.rfc3339Micros d.updatedAt⟩

end DefinitionRow

namespace ExecutionRow

/-- The run that a row holds. -/
def read? (r : ExecutionRow) : Option Execution := do
  let filters ← FilterValues.ofText? r.filters
  let createdAt ← Time.parseRfc3339? r.createdAt
  let startedAt ← readOptional? Time.parseRfc3339? r.startedAt
  let completedAt ← readOptional? Time.parseRfc3339? r.completedAt
  return ⟨r.toExecutionInfo, filters, createdAt, startedAt, completedAt⟩

end ExecutionRow

namespace ScheduleRow

/-- The schedule that a row holds. -/
def read? (r : ScheduleRow) : Option Schedule := do
  let recurrence ← (Json.parse? r.recurrence).bind Recurrence.ofJson?
  let preset ← FilterValues.ofText? r.preset
  let recipients ← (Json.parse? r.recipients).bind (Json.listOf? Json.asString?)
  let nextRunAt ← Time.parseRfc3339? r.nextRunAt
  let lastRunAt ← readOptional? Time.parseRfc3339? r.lastRunAt
  let createdAt ← Time.parseRfc3339? r.createdAt
  let updatedAt ← Time.parseRfc3339? r.updatedAt
  return ⟨r.toScheduleInfo, recurrence, preset, recipients, nextRunAt, lastRunAt, createdAt,
    updatedAt⟩

/-- The row of a schedule. -/
def ofSchedule (s : Schedule) : ScheduleRow :=
  ⟨s.toScheduleInfo, s.recurrence.toJson.compact, s.preset.text,
    (Json.ofStrings s.recipients).compact, Time.rfc3339Micros s.nextRunAt,
    s.lastRunAt.map Time.rfc3339Micros, Time.rfc3339Micros s.createdAt,
    Time.rfc3339Micros s.updatedAt⟩

end ScheduleRow

/-- What was read, or the error of a row that does not read back. -/
def orUnreadable {α : Type} : Option α → Except StoreError α
  | some a => .ok a
  | none => .error .unreadable

/-- A row that may be missing, read. -/
def readRow {ρ α : Type} (read : ρ → Option α) : Option ρ → Except StoreError (Option α)
  | none => .ok none
  | some r => (orUnreadable (read r)).map some

/-- All rows, read. -/
def readRows {ρ α : Type} (read : ρ → Option α) (rows : List ρ) : Except StoreError (List α) :=
  orUnreadable (rows.mapM read)

end TenantReports
