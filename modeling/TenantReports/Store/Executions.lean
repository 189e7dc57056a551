import TenantReports.Store.Basic

/-!
# Runs in the store

Records of runs are added and moved on through their states; they are never taken away.

## Main definitions

* `Store.createExecution`: a new record
* `Store.getExecution`, `Store.listExecutions`: reading
* `Store.markProcessing`, `Store.markCompleted`, `Store.markFailed`: the steps of a run
-/

namespace TenantReports

open Time (Instant)

/-- The error of a run that is not there. -/
def StoreError.noExecution (id : String) : StoreError := .notFound "execution" id

namespace Store

/-- A pending record with a given id, as it is stored at an instant. -/
def createExecution (s : Store) (id : String) (new : NewExecution) (now : Instant) :
    Execution × Store :=
  let info : ExecutionInfo :=
    { id, report := new.report, user := new.user, tenant := new.tenant, trigger := new.trigger,
      schedule := new.schedule }
  (⟨info, new.filters, now, none, none⟩,
    { s with
      executions := s.executions ++
        [⟨info, new.filters.text, Time.rfc3339Micros now, none, none⟩] })

/-- A run of a tenant, if it is there. -/
def getExecution (s : Store) (tenant : Int) (id : String) : Except StoreError (Option Execution) :=
  readRow ExecutionRow.read? (s.executions.find? fun r => r.tenant == tenant && r.id == id)

/-- The latest runs of a report, latest first. -/
def listExecutions (s : Store) (tenant report : Int) (limit : Nat) :
    Except StoreError (List Execution) :=
  let rows := s.executions.filter fun r => r.tenant == tenant && r.report == report
  let latestFirst := rows.reverse.mergeSort fun a b => !decide (a.createdAt < b.createdAt)
  readRows ExecutionRow.read? (latestFirst.take limit)

/-- A run moved on to a state, and changed otherwise, if the state may follow. -/
def moveExecution (s : Store) (id : String) (status : Status) (f : ExecutionRow → ExecutionRow) :
    Except StoreError Unit × Store :=
  match s.executions.find? (·.id == id) with
  | none => (.error (.noExecution id), s)
  | some current =>
    if current.status.CanBecome status then
      (.ok (), { s with
        executions := s.executions.map fun r => if r.id == id then { f r with status } else r })
    else (.error (.invalidTransition id current.status status), s)

/-- A run begins. -/
def markProcessing (s : Store) (id : String) (now : Instant) : Except StoreError Unit × Store :=
  s.moveExecution id .processing fun r => { r with startedAt := some (Time.rfc3339Micros now) }

/-- A run ends well. -/
def markCompleted (s : Store) (id : String) (result : RunResult) (now : Instant) :
    Except StoreError Unit × Store :=
  s.moveExecution id .completed fun r =>
    { r with
      completedAt := some (Time.rfc3339Micros now), durationMs := some result.durationMs
      rowCount := some result.rowCount, truncated := result.truncated
      exportPath := result.exportPath }

/-- A run fails. -/
def markFailed (s : Store) (id error : String) (durationMs : Option Int) (now : Instant) :
    Except StoreError Unit × Store :=
  s.moveExecution id .failed fun r =>
    { r with
      completedAt := some (Time.rfc3339Micros now), durationMs, error := some error }

end Store

end TenantReports
