import TenantReports.Cells.Format
import TenantReports.Compile.Filters
import TenantReports.Run.World
import TenantReports.Settings.Limits
import TenantReports.Store.Definitions
import TenantReports.Store.Executions

/-!
# Running reports

A run is recorded before anything else happens. It is compiled for its tenant and narrowed by its
filters; one row more than the cap is asked for, which tells whether the result was cut; the cells
are formatted and, if wanted, exported. The record ends completed or failed. A preview leaves no
record.

## Main definitions

* `RunRequest`, `RunOutcome`, `RunFailure`: what is wanted of a run and what comes of it
* `Engine`: what runs need
* `Engine.execute`: a run
* `Engine.preview`: a preview
-/

namespace TenantReports

open Time (Instant)

/-- What is wanted of a run. -/
structure RunRequest where
  tenant : Int
  user : Int
  filters : FilterValues := []
  exportAs : Option ExportFormat := none
  trigger : Trigger := .adHoc
  schedule : Option Int := none
  cancelled : Bool := false

/-- A run that a schedule starts. -/
def RunRequest.ofSchedule (s : Schedule) : RunRequest :=
  { tenant := s.tenant, user := s.user, filters := s.preset, exportAs := some s.exportAs,
    trigger := .scheduled, schedule := some s.id }

/-- What failed in a run. -/
inductive FailureKind where
  | compile
  | timeout
  | cancelled
  | dataStore
  | exportFile
  | store
deriving DecidableEq, Repr

instance : Named FailureKind where
  all := [.compile, .timeout, .cancelled, .dataStore, .exportFile, .store]
  name
    | .compile => "compile"
    | .timeout => "timeout"
    | .cancelled => "cancelled"
    | .dataStore => "data_store"
    | .exportFile => "export"
    | .store => "store"

/-- A fault of a run: what failed, and in which way. -/
structure Fault where
  kind : FailureKind
  message : String
deriving DecidableEq, Repr

namespace Fault

/-- A fault of the store. -/
def ofStore (e : StoreError) : Fault := ⟨.store, e.message⟩

/-- A layout that does not compile. -/
def ofCompile (e : CompileError) : Fault := ⟨.compile, e.message⟩

/-- A file that cannot be made. -/
def ofExport (e : ExportError) : Fault := ⟨.exportFile, e.message⟩

/-- A query without rows. -/
def ofQuery (e : QueryError) : Fault :=
  ⟨match e with
    | .timeout _ => .timeout
    | .cancelled => .cancelled
    | .lockPoisoned => .dataStore
    | .database _ => .dataStore, e.message⟩

end Fault

/-- A failed run, by the id of its record. -/
structure RunFailure where
  execution : String
  fault : Fault
deriving DecidableEq, Repr

/-- How a failure is told. -/
def RunFailure.message (f : RunFailure) : String :=
  s!"Execution failed ({Named.name f.fault.kind}): {f.fault.message}"

/-- What comes of a run: formatted rows, whether there were more than the cap allows, and the
exported file. -/
structure RunOutcome where
  execution : String
  columns : List OutputColumn
  rows : List (List Json)
  truncated : Bool
  artifact : Option Artifact

/-- What comes of a preview. -/
structure Preview where
  columns : List OutputColumn
  rows : List (List Json)
  queryText : Option String
  error : Option String

/-- What runs need. A run that failed after it compiled counts if `countFailed`. Exported files
are saved in the directory for exports, if there is one. -/
structure Engine (δ : Type) where
  host : Host δ
  catalog : Catalog
  limits : Limits := {}
  formatter : CellFormatter := {}
  exportDir : Option String := none
  countFailed : Bool := true

namespace Engine

variable {δ : Type}

/-- The rows of a compiled query. -/
def fetch (e : Engine δ) (c : CompiledQuery) (cancelled : Bool) :
    Process (World δ) (Except QueryError (List (List Json))) :=
  .atomically fun w =>
    let request := ⟨c.statement e.host.dialect, e.limits.queryTimeoutSecs, cancelled⟩
    let (answer, data) := e.host.query request w.data
    (answer, { w with data })

/-- One run more that counts for a report. A report that is gone has no count. -/
def recordAttempt (e : Engine δ) (d : Definition) : Process (World δ) Unit := do
  let _ ← World.onStoreNow e.host fun now s => s.recordAttempt d.tenant d.id now

/-- The rows as a file, saved if there is a directory for exports. -/
def exportResult (e : Engine δ) (format : ExportFormat) (name : String)
    (columns : List OutputColumn) (rows : List (List Json)) :
    Process (World δ) (Except ExportError Artifact) :=
  .atomically fun w =>
    let (now, w) := w.now e.host
    match exportRows format name now (columns.map (·.label)) rows with
    | .error err => (.error err, w)
    | .ok a => match e.exportDir with
      | none => (.ok a, w)
      | some dir => match w.saveFile dir a.filename a.content with
        | (.ok path, w) => (.ok { a with path := some path }, w)
        | (.error err, w) => (.error (.file err), w)

/-- The record of a run that begins. -/
def openExecution (e : Engine δ) (d : Definition) (r : RunRequest) :
    Process (World δ) Execution :=
  .atomically fun w =>
    let (id, w) := w.freshId e.host
    let (now, w) := w.now e.host
    let (x, store) := w.store.createExecution id
      ⟨d.id, r.user, r.tenant, r.filters, r.trigger, r.schedule⟩ now
    (x, { w with store })

/-- The milliseconds that a run took. -/
def elapsedMs (start finish : Instant) : Int :=
  ((finish.seconds - start.seconds) * 1000 + ((finish.nanos : Int) - start.nanos) / 1000000)

/-- The steps of a run whose record is there. -/
def perform (e : Engine δ) (d : Definition) (r : RunRequest) (x : Execution) :
    World.Op δ Fault RunOutcome := do
  World.orFail .ofStore (World.onStoreNow e.host fun now s => s.markProcessing x.id now)
  let compiled ← World.orFail .ofCompile (pure (d.layout.compile e.catalog r.tenant))
  if e.countFailed then e.recordAttempt d
  let compiled := compiled.applyFilters e.catalog r.filters d.layout
  let found ← World.orFail .ofQuery (e.fetch (compiled.withLimit e.limits.rowsAsked) r.cancelled)
  let truncated := decide (e.limits.rowCap < found.length)
  let columns := compiled.columns
  let rows := e.formatter.formatRows (columns.map (·.format)) (found.take e.limits.rowCap)
  let artifact ← match r.exportAs with
    | none => pure none
    | some format => some <$> World.orFail .ofExport (e.exportResult format d.name columns rows)
  World.orFail .ofStore (World.onStoreNow e.host fun now s =>
    s.markCompleted x.id ⟨rows.length, elapsedMs x.createdAt now, truncated,
      artifact.bind (·.path)⟩ now)
  if !e.countFailed then e.recordAttempt d
  return ⟨x.id, columns, rows, truncated, artifact⟩

/-- A run of a report for the tenant and the user of a request. -/
def execute (e : Engine δ) (d : Definition) (r : RunRequest) :
    Process (World δ) (Except RunFailure RunOutcome) := do
  let x ← e.openExecution d r
  match ← (e.perform d r x).run with
  | .ok outcome => return .ok outcome
  | .error fault =>
    let _ ← World.onStoreNow e.host fun now s =>
      s.markFailed x.id fault.message (some (elapsedMs x.createdAt now)) now
    return .error ⟨x.id, fault⟩

/-- A preview of a layout: at most that many rows, and no record. -/
def preview (e : Engine δ) (l : Layout) (tenant : Int) (limit : Nat) :
    Process (World δ) Preview := do
  match l.compile e.catalog tenant with
  | .error err => return ⟨[], [], none, some err.message⟩
  | .ok compiled =>
    let compiled := compiled.withLimit limit
    let columns := compiled.columns
    match ← e.fetch compiled false with
    | .error err => return ⟨columns, [], some compiled.text, some err.message⟩
    | .ok rows =>
      let rows := e.formatter.formatRows (columns.map (·.format)) (rows.take limit)
      return ⟨columns, rows, some compiled.text, none⟩

end Engine

end TenantReports
