import TenantReports.Advice
import TenantReports.Scheduling.Scheduler
import TenantReports.Validation.Validator

/-!
# A tenant's reports

What a tenant can do with its reports: save, change, copy, mark and delete them, try and run them,
and have them run on schedules. Every operation is told the tenant and sees nothing of others.

## Main definitions

* `ReportError`: why an operation fails
* `Reports`: a scheduler and its engine, as seen by tenants
* `Reports.save`, `Reports.update`, `Reports.clone`, `Reports.delete`, `Reports.get`,
  `Reports.list`, `Reports.setDefault`, `Reports.toggleFavorite`, `Reports.analyze`
* `Reports.test`, `Reports.run`, `Reports.executions`
* `Reports.createSchedule`, `Reports.updateSchedule`, `Reports.deactivateSchedule`,
  `Reports.deleteSchedule`, `Reports.listSchedules`
-/

namespace TenantReports

open Time (Instant)

/-- Why an operation on reports fails. -/
inductive ReportError where
  | invalid (problems : List Problem)
  | notFound (id : Int)
  | run (f : RunFailure)
  | schedule (e : ScheduleError)
  | store (e : StoreError)

/-- How an error is told. -/
def ReportError.message : ReportError → String
  | .invalid problems => s!"Report configuration is invalid ({problems.length} problems)"
  | .notFound id => s!"Report {id} not found"
  | .run f => f.message
  | .schedule e => e.message
  | .store e => e.message

/-- The reports of all tenants. -/
structure Reports (δ : Type) where
  scheduler : Scheduler δ

namespace Reports

variable {δ α : Type}

/-- An operation on reports, which may fail. -/
abbrev Op (δ : Type) := World.Op δ ReportError

/-- The engine that runs reports. -/
def engine (r : Reports δ) : Engine δ := r.scheduler.engine

/-- What drafts are checked against. -/
def validator (r : Reports δ) : Validator := ⟨r.engine.catalog, r.engine.limits⟩

/-- A step on the store that may fail. -/
def onStore (f : Store → Except StoreError α × Store) : Op δ α :=
  World.orFail .store (World.onStore f)

/-- An operation on schedules. -/
def onSchedules (op : Scheduler.Op δ α) : Op δ α := World.orFail .schedule op.run

/-- The time of the clock. -/
def now (r : Reports δ) : Process (World δ) Instant := .atomically (World.now r.engine.host)

/-- The layout of a draft that has no problems. -/
def build (r : Reports δ) (d : Draft) (full : Bool) : Op δ Layout :=
  World.orFail .invalid (pure (r.validator.build d full))

/-- A report of a tenant. -/
def get (tenant id : Int) : Op δ Definition := do
  match ← onStore fun s => (s.getDefinition tenant id, s) with
  | some d => return d
  | none => throw (.notFound id)

/-- What a draft says of a report, put into it. -/
def applyDraft (d : Definition) (draft : Draft) : Definition :=
  { d with
    name := draft.name.getD "", description := draft.description, category := draft.category
    shared := draft.shared, favorite := draft.favorite }

/-- A draft, checked in full and saved as a new report. -/
def save (r : Reports δ) (tenant user : Int) (draft : Draft) : Op δ Definition := do
  let layout ← r.build draft true
  let now ← r.now
  onStore fun s =>
    s.insertDefinition (applyDraft (.new tenant user (draft.name.getD "") layout now) draft)

/-- A draft, checked and run for a few rows. Nothing is saved. -/
def test (r : Reports δ) (tenant : Int) (draft : Draft) : Op δ Preview := do
  let layout ← r.build draft false
  r.engine.preview layout tenant r.engine.limits.previewLimit

/-- A run of a saved report. -/
def run (r : Reports δ) (report : Int) (request : RunRequest) : Op δ RunOutcome := do
  let d ← get request.tenant report
  World.orFail .run (r.engine.execute d request)

/-- A report, replaced by what a draft says. -/
def update (r : Reports δ) (tenant report : Int) (draft : Draft) : Op δ Definition := do
  let layout ← r.build draft true
  let d ← get tenant report
  World.orFail .store (World.onStoreNow r.engine.host fun now s =>
    s.updateDefinition { applyDraft d draft with layout } now)

/-- A report and its schedules, taken away. -/
def delete (tenant report : Int) : Op δ Unit := do
  let found ← (World.onStore fun s => s.deleteDefinition tenant report : Process (World δ) Bool)
  if !found then throw (.notFound report)

/-- The user's own reports and the shared ones. -/
def list (tenant user : Int) : Op δ (List Definition) :=
  onStore fun s => (s.listDefinitions tenant user, s)

/-- A copy of a report for a user: neither shared nor scheduled, and never run. -/
def clone (r : Reports δ) (tenant user report : Int) (name : Option String) :
    Op δ Definition := do
  let source ← get tenant report
  let now ← r.now
  let copy := Definition.new tenant user (name.getD (source.name ++ " (copy)")) source.layout now
  onStore fun s => s.insertDefinition
    { copy with description := source.description, category := source.category }

/-- A report, made the default one of its category. -/
def setDefault (tenant report : Int) : Op δ Definition := do
  let _ ← get tenant report
  onStore fun s => s.setDefault tenant report

/-- The mark of a favorite, turned; what it is then. -/
def toggleFavorite (tenant report : Int) : Op δ Bool := do
  let _ ← get tenant report
  onStore fun s => s.toggleFavorite tenant report

/-- Advice on a report. -/
def analyze (r : Reports δ) (tenant report : Int) : Op δ Analysis := do
  let d ← get tenant report
  return d.layout.analyze r.engine.catalog r.engine.limits

/-- The latest runs of a report. -/
def executions (tenant report : Int) (limit : Nat) : Op δ (List Execution) :=
  onStore fun s => (s.listExecutions tenant report limit, s)

/-- A new schedule of a report. -/
def createSchedule (r : Reports δ) (tenant user report : Int) (spec : ScheduleSpec) :
    Op δ Schedule := do
  let d ← get tenant report
  let now ← r.now
  onSchedules (r.scheduler.create d user spec now)

/-- A schedule, changed. -/
def updateSchedule (r : Reports δ) (tenant id : Int) (spec : ScheduleSpec) : Op δ Schedule := do
  let now ← r.now
  onSchedules (r.scheduler.update tenant id spec now)

/-- A schedule, stopped. -/
def deactivateSchedule (r : Reports δ) (tenant id : Int) : Op δ Unit :=
  onSchedules (r.scheduler.deactivate tenant id)

/-- A schedule, taken away. -/
def deleteSchedule (tenant id : Int) : Op δ Unit := onSchedules (Scheduler.delete tenant id)

/-- The schedules of a tenant, or of one of its reports. -/
def listSchedules (tenant : Int) (report : Option Int) : Op δ (List Schedule) :=
  onSchedules (Scheduler.list tenant report)

end Reports

end TenantReports
