import TenantReports.Recurrence.Next
import TenantReports.Scheduling.Delivery
import TenantReports.Store.Schedules

/-!
# Scheduling

A sweep runs every schedule that is due, delivers what comes of it, records the run and moves the
next run on. Record and next run are two steps; a schedule that was cut short between them is
found by a recovery.

## Main definitions

* `isRecipient`: the form of a recipient's address
* `ScheduleError`: what can go wrong with a schedule
* `Scheduler`: an engine and a channel
* `Scheduler.create`, `Scheduler.update`, `Scheduler.deactivate`, `Scheduler.delete`
* `Scheduler.sweep`, `Scheduler.recover`
-/

namespace TenantReports

open Time (Instant)

/-- Neither blanks nor an `@`. -/
def isAddressPart (cs : List Char) : Bool := cs.all fun c => !Text.isBlank c && c != '@'

/-- An address: a name, an `@`, and a host with a dot inside, all without blanks. -/
def isRecipient (s : String) : Bool :=
  let (name, host) := s.toList.span (· != '@')
  match host with
  | [] => false
  | _ :: host =>
    !name.isEmpty && isAddressPart name && isAddressPart host
      && (host.drop 1).dropLast.contains '.'

/-- What can go wrong with a schedule. -/
inductive ScheduleError where
  | recurrence (e : RecurrenceError)
  | invalidRecipient (text : String)
  | limitReached (tenant : Int) (limit : Nat)
  | notFound (id : Int)
  | store (e : StoreError)
deriving DecidableEq, Repr

/-- The name of the kind of error. -/
def ScheduleError.code : ScheduleError → String
  | .recurrence e => e.code
  | .invalidRecipient _ => "InvalidRecipient"
  | .limitReached _ _ => "LimitReached"
  | .notFound _ => "ScheduleNotFound"
  | .store e => e.code

/-- How an error is told. -/
def ScheduleError.message : ScheduleError → String
  | .recurrence e => e.message
  | .invalidRecipient text => s!"Invalid recipient '{text}'"
  | .limitReached tenant limit => s!"Tenant {tenant} already has {limit} active schedules"
  | .notFound id => s!"Schedule {id} not found"
  | .store e => e.message

/-- What is wrong with a wish, if anything: its recurrence or its first bad recipient. -/
def ScheduleSpec.check (spec : ScheduleSpec) : Except ScheduleError Unit := do
  spec.recurrence.validate.mapError .recurrence
  match spec.recipients.find? fun r => !isRecipient r with
  | some bad => .error (.invalidRecipient bad)
  | none => .ok ()

/-- The counts of a sweep. -/
structure SweepSummary where
  due : Nat := 0
  succeeded : Nat := 0
  failed : Nat := 0
deriving DecidableEq, Repr

/-- An engine, and a channel for what comes of scheduled runs. -/
structure Scheduler (δ : Type) where
  engine : Engine δ
  channel : Channel δ := Channel.log

namespace Scheduler

variable {δ α : Type}

/-- An operation on schedules, which may fail. -/
abbrev Op (δ : Type) := World.Op δ ScheduleError

/-- A result, as an operation on schedules. -/
def ofExcept (r : Except ScheduleError α) : Op δ α := ExceptT.mk (pure r)

/-- The next run of a recurrence. -/
def nextRun (r : Recurrence) (now : Instant) : Op δ Instant :=
  ofExcept ((r.next now).mapError .recurrence)

/-- The mark of a scheduled report, brought up to date. -/
def refreshScheduled (tenant report : Int) : Process (World δ) Unit :=
  World.onStore fun s => ((), (s.refreshScheduled tenant report).2)

/-- A schedule of a tenant. -/
def get (tenant id : Int) : Op δ Schedule := do
  match ← World.orFail .store (World.ofStore fun s => s.getSchedule tenant id) with
  | some s => return s
  | none => throw (.notFound id)

/-- A new schedule of a report, within the limit of active schedules. -/
def create (sch : Scheduler δ) (d : Definition) (user : Int) (spec : ScheduleSpec)
    (now : Instant) : Op δ Schedule := do
  ofExcept spec.check
  let next ← nextRun spec.recurrence now
  let cap := sch.engine.limits.maxActiveSchedules
  match ← World.orFail .store (World.onStore fun s =>
      s.insertScheduleWithinCap (Schedule.new d.id d.tenant user spec next now) cap) with
  | none => throw (.limitReached d.tenant cap)
  | some s =>
    World.always (refreshScheduled d.tenant d.id)
    return s

/-- A schedule with another wish; its next run is found from `now`. -/
def update (sch : Scheduler δ) (tenant id : Int) (spec : ScheduleSpec) (now : Instant) :
    Op δ Schedule := do
  ofExcept spec.check
  let s ← get tenant id
  let next ← nextRun spec.recurrence now
  World.orFail .store (World.onStoreNow sch.engine.host fun at_ store =>
    store.updateSchedule (s.withSpec spec next) at_)

/-- A schedule, stopped. -/
def deactivate (sch : Scheduler δ) (tenant id : Int) : Op δ Unit := do
  let s ← get tenant id
  World.orFail .store (World.onStoreNow sch.engine.host fun at_ store =>
    store.setScheduleActive tenant id false at_)
  World.always (refreshScheduled tenant s.report)

/-- A schedule, taken away. -/
def delete (tenant id : Int) : Op δ Unit := do
  let s ← get tenant id
  let _ ← World.always (World.onStore fun store => store.deleteSchedule tenant id)
  World.always (refreshScheduled tenant s.report)

/-- The schedules of a tenant, or of one of its reports. -/
def list (tenant : Int) (report : Option Int) : Op δ (List Schedule) :=
  World.orFail .store (World.ofStore fun s => s.listSchedules tenant report)

/-- The schedules that are due. -/
def due (now : Instant) : Op δ (List Schedule) :=
  World.orFail .store (World.ofStore fun s => s.dueSchedules now)

/-- The next run of a schedule, found from `now`. A schedule that has none is stopped. -/
def advance (sch : Scheduler δ) (s : Schedule) (now : Instant) : Process (World δ) Unit := do
  match s.recurrence.next now with
  | .ok next =>
    let _ ← World.onStoreNow sch.engine.host fun at_ store => store.reschedule s.id next at_
  | .error _ =>
    match ← World.onStoreNow sch.engine.host fun at_ store =>
        store.setScheduleActive s.tenant s.id false at_ with
    | .error _ => return
    | .ok () => refreshScheduled s.tenant s.report

/-- The run of a schedule and its delivery: the id of its record, and whether all went well. -/
def runAndDeliver (sch : Scheduler δ) (s : Schedule) (d : Definition) :
    Process (World δ) (String × Bool) := do
  match ← sch.engine.execute d (.ofSchedule s) with
  | .error failure => return (failure.execution, false)
  | .ok outcome =>
    let delivered ← Process.atomically (sch.channel
      ⟨s, d.name, outcome.rows.length, outcome.truncated, outcome.artifact⟩)
    return (outcome.execution, delivered)

/-- A schedule that is due: run, recorded and moved on. A schedule whose report is gone is only
moved on. -/
def runSchedule (sch : Scheduler δ) (now : Instant) (s : Schedule) : Process (World δ) Bool := do
  match ← World.ofStore fun store => store.getDefinition s.tenant s.report with
  | .ok (some d) =>
    let (execution, ok) ← sch.runAndDeliver s d
    let _ ← World.onStoreNow sch.engine.host fun at_ store =>
      store.markScheduleRun s.id (some execution) now at_
    sch.advance s now
    return ok
  | _ =>
    sch.advance s now
    return false

/-- Processes one after the other. -/
def sequence : List (Process (World δ) α) → Process (World δ) (List α)
  | [] => return []
  | p :: ps => do
    let a ← p
    let rest ← sequence ps
    return a :: rest

/-- All schedules that are due are run, one after the other. One that fails does not stop the
others. -/
def sweep (sch : Scheduler δ) (now : Instant) : Op δ SweepSummary := do
  let found ← due now
  let results ← World.always (sequence (found.map (sch.runSchedule now)))
  let succeeded := results.countP id
  return ⟨found.length, succeeded, found.length - succeeded⟩

/-- All schedules that ran but were not moved on are moved on; how many. -/
def recover (sch : Scheduler δ) (now : Instant) : Op δ Nat := do
  let stale ← World.orFail .store (World.ofStore fun s => s.staleSchedules now)
  let _ ← World.always (sequence (stale.map fun s => sch.advance s now))
  return stale.length

end Scheduler

end TenantReports
