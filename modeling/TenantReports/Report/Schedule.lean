import TenantReports.Recurrence.Basic
import TenantReports.Report.FilterValues
import TenantReports.Report.Lifecycle
import TenantReports.Time.Instant

/-!
# Schedules

A schedule runs a report again and again and sends the result to its recipients.

## Main definitions

* `ScheduleSpec`: what someone wants of a schedule
* `ScheduleSpec.ofJson?`: the wish that a value is
* `ScheduleInfo`: what is known of a schedule besides its wish and times
* `Schedule`: a schedule
-/

namespace TenantReports

open Time (Instant)

/-- What someone wants of a schedule. -/
structure ScheduleSpec where
  recurrence : Recurrence
  /-- The filter values of every run. -/
  preset : FilterValues := []
  recipients : List String := []
  exportAs : ExportFormat

namespace ScheduleSpec

/-- What a record asks of a schedule. -/
def ofJson? (j : Json) : Option ScheduleSpec := do
  let r ← j.asRecord? ["recurrence", "filter_preset", "recipients", "export_format"]
  return ⟨← r.required? "recurrence" Recurrence.ofJson?,
    ← r.withDefault? "filter_preset" [] Json.asObject?,
    ← r.withDefault? "recipients" [] (Json.listOf? Json.asString?),
    ← r.required? "export_format" Named.ofJson?⟩

end ScheduleSpec

/-- What is known of a schedule besides what was wanted and its times. -/
structure ScheduleInfo where
  id : Int := 0
  report : Int
  tenant : Int
  user : Int
  exportAs : ExportFormat
  active : Bool := true
  lastExecution : Option String := none
deriving DecidableEq, Repr

/-- A schedule of a report. -/
structure Schedule extends ScheduleInfo where
  recurrence : Recurrence
  preset : FilterValues
  recipients : List String
  nextRunAt : Instant
  lastRunAt : Option Instant := none
  createdAt : Instant
  updatedAt : Instant

namespace Schedule

/-- A schedule that has not been saved yet. -/
def new (report tenant user : Int) (spec : ScheduleSpec) (nextRunAt now : Instant)
    (active : Bool := true) : Schedule :=
  { report, tenant, user, exportAs := spec.exportAs, active, recurrence := spec.recurrence,
    preset := spec.preset, recipients := spec.recipients, nextRunAt, createdAt := now,
    updatedAt := now }

/-- A schedule with another wish and next run. -/
def withSpec (s : Schedule) (spec : ScheduleSpec) (nextRunAt : Instant) : Schedule :=
  { s with
    exportAs := spec.exportAs, recurrence := spec.recurrence, preset := spec.preset,
    recipients := spec.recipients, nextRunAt }

end Schedule

end TenantReports
