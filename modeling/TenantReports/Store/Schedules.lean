import TenantReports.Store.Basic

/-!
# Schedules in the store

Clients find a schedule by its tenant and id. The sweep sees the schedules of all tenants.

## Main definitions

* `Store.insertSchedule`, `Store.insertScheduleWithinCap`: new schedules
* `Store.getSchedule`, `Store.listSchedules`, `Store.countActive`: reading
* `Store.updateSchedule`, `Store.setScheduleActive`, `Store.deleteSchedule`: writing
* `Store.dueSchedules`, `Store.staleSchedules`: what a sweep and a recovery look for
* `Store.markScheduleRun`, `Store.reschedule`: what they write
-/

namespace TenantReports

open Time (Instant)

/-- The row is this schedule of this tenant. -/
def ScheduleRow.isAt (tenant id : Int) (r : ScheduleRow) : Bool := r.tenant == tenant && r.id == id

/-- The error of a schedule that is not there. -/
def StoreError.noSchedule (id : Int) : StoreError := .notFound "schedule" s!"{id}"

namespace Store

/-- The rows that satisfy a condition, changed, if there are any. -/
def changeSchedules (s : Store) (p : ScheduleRow → Bool) (f : ScheduleRow → ScheduleRow) :
    Option Store :=
  if s.schedules.any p then
    some { s with schedules := s.schedules.map fun r => if p r then f r else r }
  else none

/-- A schedule, if it is there. -/
def getSchedule (s : Store) (tenant id : Int) : Except StoreError (Option Schedule) :=
  readRow ScheduleRow.read? (s.schedules.find? (ScheduleRow.isAt tenant id))

/-- A schedule that has to be there. -/
def needSchedule (s : Store) (tenant id : Int) : Except StoreError Schedule := do
  match ← s.getSchedule tenant id with
  | some d => .ok d
  | none => .error (.noSchedule id)

/-- A new schedule, saved under the next id. -/
def insertSchedule (s : Store) (new : Schedule) : Except StoreError Schedule × Store :=
  let id := s.lastSchedule + 1
  let row := ScheduleRow.ofSchedule new
  let s := { s with schedules := s.schedules ++ [{ row with id }], lastSchedule := id }
  (s.needSchedule new.tenant id, s)

/-- The number of a tenant's active schedules. -/
def countActive (s : Store) (tenant : Int) : Nat :=
  s.schedules.countP fun r => r.tenant == tenant && r.active

/-- A new schedule, unless its tenant has `cap` active ones. If it does not read back, nothing is
saved. -/
def insertScheduleWithinCap (s : Store) (new : Schedule) (cap : Nat) :
    Except StoreError (Option Schedule) × Store :=
  if cap ≤ s.countActive new.tenant then (.ok none, s)
  else match s.insertSchedule new with
    | (.ok saved, s) => (.ok (some saved), s)
    | (.error e, _) => (.error e, s)

/-- The schedules of a tenant, or of one of its reports, by id. -/
def listSchedules (s : Store) (tenant : Int) (report : Option Int) :
    Except StoreError (List Schedule) :=
  readRows ScheduleRow.read? (s.schedules.filter fun r =>
    r.tenant == tenant && report.all (· == r.report))

/-- What can be changed of a schedule, written back. -/
def updateSchedule (s : Store) (new : Schedule) (now : Instant) :
    Except StoreError Schedule × Store :=
  let row := ScheduleRow.ofSchedule new
  match s.changeSchedules (ScheduleRow.isAt new.tenant new.id) fun r =>
      { r with
        recurrence := row.recurrence, preset := row.preset, recipients := row.recipients
        exportAs := row.exportAs, active := row.active, nextRunAt := row.nextRunAt
        updatedAt := Time.rfc3339Micros now } with
  | none => (.error (.noSchedule new.id), s)
  | some s => (s.needSchedule new.tenant new.id, s)

/-- A schedule, made active or not. -/
def setScheduleActive (s : Store) (tenant id : Int) (active : Bool) (now : Instant) :
    Except StoreError Unit × Store :=
  match s.changeSchedules (ScheduleRow.isAt tenant id) fun r =>
      { r with active, updatedAt := Time.rfc3339Micros now } with
  | none => (.error (.noSchedule id), s)
  | some s => (.ok (), s)

/-- A schedule, taken away; whether there was one. -/
def deleteSchedule (s : Store) (tenant id : Int) : Bool × Store :=
  (s.schedules.any (ScheduleRow.isAt tenant id),
    { s with schedules := s.schedules.filter fun r => !r.isAt tenant id })

/-- The active schedules whose next run is not after an instant, by next run and id. -/
def dueSchedules (s : Store) (now : Instant) : Except StoreError (List Schedule) :=
  let rows := s.schedules.filter fun r =>
    r.active && decide (r.nextRunAt ≤ Time.rfc3339Micros now)
  readRows ScheduleRow.read? (rows.mergeSort fun a b =>
    decide (a.nextRunAt < b.nextRunAt) || (a.nextRunAt == b.nextRunAt && decide (a.id ≤ b.id)))

/-- The active schedules that ran but were not given a next run after that, with a next run that
is not after an instant, by id. -/
def staleSchedules (s : Store) (now : Instant) : Except StoreError (List Schedule) :=
  readRows ScheduleRow.read? (s.schedules.filter fun r =>
    r.active && r.lastRunAt.any (fun last => decide (r.nextRunAt ≤ last))
      && decide (r.nextRunAt ≤ Time.rfc3339Micros now))

/-- A run is recorded. The next run stays as it is, and so does the last execution if there is
none. -/
def markScheduleRun (s : Store) (id : Int) (execution : Option String) (runAt now : Instant) :
    Except StoreError Unit × Store :=
  match s.changeSchedules (·.id == id) fun r =>
      { r with
        lastRunAt := some (Time.rfc3339Micros runAt)
        lastExecution := execution <|> r.lastExecution
        updatedAt := Time.rfc3339Micros now } with
  | none => (.error (.noSchedule id), s)
  | some s => (.ok (), s)

/-- The next run is moved. -/
def reschedule (s : Store) (id : Int) (nextRunAt now : Instant) : Except StoreError Unit × Store :=
  match s.changeSchedules (·.id == id) fun r =>
      { r with
        nextRunAt := Time.rfc3339Micros nextRunAt, updatedAt := Time.rfc3339Micros now } with
  | none => (.error (.noSchedule id), s)
  | some s => (.ok (), s)

end Store

end TenantReports
