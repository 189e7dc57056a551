import TenantReports.Settings.EnvText
import TenantReports.Settings.Limits
import TenantReports.Toml.Document
import TenantReports.Toml.Record

/-!
# Settings

Settings are read from TOML. What is missing has a default. Paths may name variables of the
environment.

## Main definitions

* `Settings`: the settings and their defaults
* `SettingsError`: what can be wrong with them
* `Settings.ofToml`: the settings of a text, checked
* `Settings.databasePath`, `Settings.dataPath`, `Settings.exportPath`, `Settings.deliveryPath`,
  `Settings.catalogPath`: the paths, with their variables replaced
* `FileRead`, `Settings.load`: the settings of a file, or of the first file that is there
-/

namespace TenantReports

/-- The settings. -/
structure Settings where
  limits : Limits := {}
  /-- Runs that compiled count even if they fail. -/
  countFailed : Bool := true
  /-- The directory of exported files; without one they are not saved. -/
  exportDir : Option String := none
  /-- The seconds between two sweeps. -/
  tickSecs : Nat := 60
  /-- How many schedules run at once. -/
  maxConcurrency : Nat := 4
  /-- The directory of delivered files; without one nothing is sent. -/
  deliveryDir : Option String := none
  currencySuffix : String := "€"
  /-- The database of reports, runs and schedules. -/
  database : String := "quarry.db"
  /-- The database that reports read; without one it is the same. -/
  data : Option String := none
  /-- The catalog's file; without one the catalog is the built-in one. -/
  catalog : Option String := none

/-- What can be wrong with settings. -/
inductive SettingsError where
  | fileNotFound (path : String)
  | unreadable
  | malformed
  | missingVariable (name : String)
  | invalid (reason : String)
deriving DecidableEq, Repr

/-- The name of the kind of error. -/
def SettingsError.code : SettingsError → String
  | .fileNotFound _ => "FileNotFound"
  | .unreadable => "ReadError"
  | .malformed => "ParseError"
  | .missingVariable _ => "MissingEnvVar"
  | .invalid _ => "InvalidConfig"

/-- How an error is told. -/
def SettingsError.message : SettingsError → String
  | .fileNotFound path => s!"Config file not found: {path}"
  | .unreadable => "Failed to read config file"
  | .malformed => "Failed to parse config file"
  | .missingVariable name => s!"Missing environment variable: {name}"
  | .invalid reason => s!"Invalid configuration: {reason}"

/-- What comes of reading a file. -/
inductive FileRead where
  | missing
  | unreadable
  | text (content : String)
deriving DecidableEq, Repr

namespace Settings

/-- A text that may be missing. -/
def text? (r : Record) (field : String) : Option (Option String) :=
  r.withDefault? field none fun j => j.asString?.map some

/-- A part of the settings as a record. One that is missing has no fields. -/
def part? (r : Record) (name : String) (fields : List String) : Option Record :=
  r.withDefault? name ⟨true, []⟩ (Toml.asRecord? fields)

/-- The names of the parts. -/
def partNames : List String :=
  ["limits", "execution", "scheduler", "format", "storage", "catalog"]

/-- The settings that a document holds, with defaults for what is missing. -/
def ofJson? (j : Json) : Option Settings := do
  let d : Settings := {}
  let r ← Toml.asRecord? partNames j
  let limits ← part? r "limits" Limits.fieldNames
  let execution ← part? r "execution" ["count_failed_attempts", "export_dir"]
  let scheduler ← part? r "scheduler" ["tick_secs", "max_concurrency", "delivery_dir"]
  let format ← part? r "format" ["currency_suffix"]
  let storage ← part? r "storage" ["database", "data"]
  let catalog ← part? r "catalog" ["path"]
  return {
    limits := ← Limits.ofRecord? limits
    countFailed := ← execution.withDefault? "count_failed_attempts" d.countFailed Json.asBool?
    exportDir := ← text? execution "export_dir"
    tickSecs := ← scheduler.withDefault? "tick_secs" d.tickSecs Json.nat64?
    maxConcurrency := ← scheduler.withDefault? "max_concurrency" d.maxConcurrency Json.nat64?
    deliveryDir := ← text? scheduler "delivery_dir"
    currencySuffix := ← format.withDefault? "currency_suffix" d.currencySuffix Json.asString?
    database := ← storage.withDefault? "database" d.database Json.asString?
    data := ← text? storage "data"
    catalog := ← text? catalog "path" }

/-- The settings as a record of records. -/
def toJson (s : Settings) : Json :=
  .object [("limits", s.limits.toJson),
    ("execution", .object [("count_failed_attempts", .bool s.countFailed),
      ("export_dir", .ofString? s.exportDir)]),
    ("scheduler", .object [("tick_secs", .int s.tickSecs),
      ("max_concurrency", .int s.maxConcurrency), ("delivery_dir", .ofString? s.deliveryDir)]),
    ("format", .object [("currency_suffix", .string s.currencySuffix)]),
    ("storage", .object [("database", .string s.database), ("data", .ofString? s.data)]),
    ("catalog", .object [("path", .ofString? s.catalog)])]

/-- The first thing that makes settings unusable. -/
def flaw? (s : Settings) : Option String :=
  if s.limits.rowCap = 0 then some "limits.row_cap must be at least 1"
  else if s.limits.queryTimeoutSecs = 0 then some "limits.query_timeout_secs must be at least 1"
  else if s.maxConcurrency = 0 then some "scheduler.max_concurrency must be at least 1"
  else if s.tickSecs = 0 then some "scheduler.tick_secs must be at least 1"
  else if s.limits.veryHighCostThreshold < s.limits.highCostThreshold then
    some "limits.very_high_cost_threshold must not be below high_cost_threshold"
  else none

/-- The settings of a text, checked. -/
def ofToml (text : String) : Except SettingsError Settings :=
  match (Toml.parse? text).bind ofJson? with
  | none => .error .malformed
  | some s => match s.flaw? with
    | some reason => .error (.invalid reason)
    | none => .ok s

/-- A path with its variables replaced. -/
def expandPath (env : Environment) (path : String) : Except SettingsError String :=
  (expandEnv env path).mapError .missingVariable

/-- A path that may be missing, with its variables replaced. -/
def expandPath? (env : Environment) : Option String → Except SettingsError (Option String)
  | none => .ok none
  | some path => (expandPath env path).map some

/-- The paths as they are given. -/
def pathTexts (s : Settings) : List String :=
  s.database :: (s.data.toList ++ s.exportDir.toList ++ s.deliveryDir.toList ++ s.catalog.toList)

/-- The path of the database of reports. -/
def databasePath (s : Settings) (env : Environment) : Except SettingsError String :=
  expandPath env s.database

/-- The path of the database that reports read. -/
def dataPath (s : Settings) (env : Environment) : Except SettingsError String :=
  match s.data with
  | some path => expandPath env path
  | none => s.databasePath env

/-- The directory of exported files. -/
def exportPath (s : Settings) (env : Environment) : Except SettingsError (Option String) :=
  expandPath? env s.exportDir

/-- The directory of delivered files. -/
def deliveryPath (s : Settings) (env : Environment) : Except SettingsError (Option String) :=
  expandPath? env s.deliveryDir

/-- The path of the catalog's file. -/
def catalogPath (s : Settings) (env : Environment) : Except SettingsError (Option String) :=
  expandPath? env s.catalog

/-- The settings of a file, given what reading it brings. -/
def ofFile (path : String) : FileRead → Except SettingsError Settings
  | .missing => .error (.fileNotFound path)
  | .unreadable => .error .unreadable
  | .text content => ofToml content

variable {m : Type → Type} [Monad m]

/-- The settings of the first file that is there, else the defaults. -/
def firstOf (read : String → m FileRead) : List String → m (Except SettingsError Settings)
  | [] => return .ok {}
  | path :: paths => do
    match ← read path with
    | .missing => firstOf read paths
    | found => return ofFile path found

/-- The settings of a file that is named, else of a file here or of the user. -/
def load (read : String → m FileRead) (named userFile : Option String) :
    m (Except SettingsError Settings) :=
  match named with
  | some path => return ofFile path (← read path)
  | none => firstOf read ("quarry.toml" :: userFile.toList)

end Settings

end TenantReports
