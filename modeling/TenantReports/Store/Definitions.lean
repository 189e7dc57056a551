import TenantReports.Store.Basic

/-!
# Reports in the store

A report is found by its tenant and id; those of other tenants cannot be seen.

## Main definitions

* `Store.getDefinition`, `Store.listDefinitions`: reading
* `Store.insertDefinition`, `Store.updateDefinition`, `Store.deleteDefinition`: writing
* `Store.setDefault`, `Store.toggleFavorite`: marks
* `Store.recordAttempt`, `Store.refreshScheduled`: what follows from runs and schedules
-/

namespace TenantReports

open Time (Instant)

/-- The row is this report of this tenant. -/
def DefinitionRow.isAt (tenant id : Int) (r : DefinitionRow) : Bool :=
  r.tenant == tenant && r.id == id

/-- The error of a report that is not there. -/
def StoreError.noReport (id : Int) : StoreError := .notFound "report" s!"{id}"

namespace Store

/-- The row of a report. -/
def definitionRow? (s : Store) (tenant id : Int) : Option DefinitionRow :=
  s.definitions.find? (DefinitionRow.isAt tenant id)

/-- The rows of a report, changed. -/
def changeDefinition (s : Store) (tenant id : Int) (f : DefinitionRow → DefinitionRow) : Store :=
  { s with definitions := s.definitions.map fun r => if r.isAt tenant id then f r else r }

/-- A report, if it is there. -/
def getDefinition (s : Store) (tenant id : Int) : Except StoreError (Option Definition) :=
  readRow DefinitionRow.read? (s.definitionRow? tenant id)

/-- A report that has to be there. -/
def needDefinition (s : Store) (tenant id : Int) : Except StoreError Definition := do
  match ← s.getDefinition tenant id with
  | some d => .ok d
  | none => .error (.noReport id)

/-- The user's own reports and the shared ones of the tenant, by name and id. -/
def listDefinitions (s : Store) (tenant user : Int) : Except StoreError (List Definition) :=
  let rows := s.definitions.filter fun r => r.tenant == tenant && (r.user == user || r.shared)
  readRows DefinitionRow.read? (rows.mergeSort fun a b =>
    decide (a.name < b.name) || (a.name == b.name && decide (a.id ≤ b.id)))

/-- A new report, saved under the next id. -/
def insertDefinition (s : Store) (d : Definition) : Except StoreError Definition × Store :=
  let id := s.lastDefinition + 1
  let row := DefinitionRow.ofDefinition d
  let s := { s with
    definitions := s.definitions ++ [{ row with id }]
    lastDefinition := id }
  (s.needDefinition d.tenant id, s)

/-- What can be edited of a report, written back. The version is one more if the digest of the
layout is another. -/
def updateDefinition (s : Store) (d : Definition) (now : Instant) :
    Except StoreError Definition × Store :=
  match s.needDefinition d.tenant d.id with
  | .error e => (.error e, s)
  | .ok current =>
    let hash := d.layout.hash
    let version := if hash = current.hash then current.version else current.version + 1
    let s := s.changeDefinition d.tenant d.id fun r =>
      { r with
        name := d.name, description := d.description, category := d.category
        layout := d.layout.text, shared := d.shared, favorite := d.favorite
        version, hash, updatedAt := Time.rfc3339Micros now }
    (s.needDefinition d.tenant d.id, s)

/-- A report and its schedules, taken away; whether there was one. Its runs stay. -/
def deleteDefinition (s : Store) (tenant id : Int) : Bool × Store :=
  (s.definitions.any (DefinitionRow.isAt tenant id),
    { s with
      definitions := s.definitions.filter fun r => !r.isAt tenant id
      schedules := s.schedules.filter fun r => !(r.tenant == tenant && r.report == id) })

/-- A report, made the only default one of its category. -/
def setDefault (s : Store) (tenant id : Int) : Except StoreError Definition × Store :=
  match s.needDefinition tenant id with
  | .error e => (.error e, s)
  | .ok current =>
    let rows := s.definitions.map fun r =>
      if r.isAt tenant id then { r with isDefault := true }
      else if r.tenant == tenant && r.category == current.category then
        { r with isDefault := false }
      else r
    let s := { s with definitions := rows }
    (s.needDefinition tenant id, s)

/-- The mark of a favorite, turned; what it is then. -/
def toggleFavorite (s : Store) (tenant id : Int) : Except StoreError Bool × Store :=
  match s.definitionRow? tenant id with
  | none => (.error (.noReport id), s)
  | some r =>
    (.ok !r.favorite, s.changeDefinition tenant id fun r => { r with favorite := !r.favorite })

/-- One run more that counts. -/
def recordAttempt (s : Store) (tenant id : Int) (now : Instant) : Except StoreError Unit × Store :=
  match s.definitionRow? tenant id with
  | none => (.error (.noReport id), s)
  | some _ => (.ok (), s.changeDefinition tenant id fun r =>
      { r with
        executionCount := r.executionCount + 1
        lastExecutedAt := some (Time.rfc3339Micros now) })

/-- A report has an active schedule. -/
def hasActiveSchedule (s : Store) (tenant report : Int) : Bool :=
  s.schedules.any fun r => r.tenant == tenant && r.report == report && r.active

/-- The mark of a scheduled report, brought up to date; what it is then. -/
def refreshScheduled (s : Store) (tenant id : Int) : Bool × Store :=
  let scheduled := s.hasActiveSchedule tenant id
  ((s.definitionRow? tenant id).isSome && scheduled,
    s.changeDefinition tenant id fun r => { r with scheduled })

end Store

end TenantReports
