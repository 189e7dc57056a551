import TenantReports.Report.FilterValues
import TenantReports.Report.Lifecycle
import TenantReports.Time.Instant

/-!
# Records of runs

Every run leaves a record that is never taken away.

## Main definitions

* `ExecutionInfo`: what is known of a run besides its filters and times
* `Execution`: the record of a run
* `NewExecution`: what a record begins with
* `RunResult`: what is recorded when a run completes
-/

namespace TenantReports

open Time (Instant)

/-- What is known of a run besides its filters and times. -/
structure ExecutionInfo where
  id : String
  report : Int
  user : Int
  tenant : Int
  status : Status := .pending
  trigger : Trigger
  schedule : Option Int := none
  durationMs : Option Int := none
  rowCount : Option Int := none
  truncated : Bool := false
  exportPath : Option String := none
  error : Option String := none
deriving DecidableEq, Repr

/-- The record of a run. -/
structure Execution extends ExecutionInfo where
  filters : FilterValues
  createdAt : Instant
  startedAt : Option Instant := none
  completedAt : Option Instant := none

/-- What the record of a run begins with. -/
structure NewExecution where
  report : Int
  user : Int
  tenant : Int
  filters : FilterValues
  trigger : Trigger
  schedule : Option Int

/-- What is recorded when a run completes. -/
structure RunResult where
  rowCount : Int
  durationMs : Int
  truncated : Bool
  exportPath : Option String
deriving DecidableEq, Repr

end TenantReports
