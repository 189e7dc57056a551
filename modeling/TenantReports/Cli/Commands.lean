import TenantReports.Catalog.Builtin
import TenantReports.Catalog.Reader
import TenantReports.Cli.Arguments
import TenantReports.Reports
import TenantReports.Settings.Settings
import TenantReports.Text.Shown

/-!
# Commands

What the commands do, as a function of the command line and of what they find around them.

## Main definitions

* `Shell`: the variables, files and time that a command finds
* `Outcome`: what a command writes, and its status
* `run`: a command line, run
-/

namespace TenantReports.Cli

open Time (Instant)

/-- The variables, files and time that a command finds, and whether databases can be opened for the
store and for the data. -/
structure Shell (m : Type → Type) where
  env : String → m (Option String)
  read : String → m FileRead
  opens (store data : String) : m Bool
  /-- The user's own configuration file. -/
  userFile : Option String := none
  now : Instant

/-- What a command writes, and its status. A command that runs until it is interrupted runs again
after `again` seconds. -/
structure Outcome where
  status : Nat := 0
  out : String := ""
  err : String := ""
  again : Option Nat := none
deriving DecidableEq, Repr

variable {m : Type → Type} [Monad m]

/-- A command, which may fail. -/
abbrev Command (m : Type → Type) := ExceptT Outcome m

/-- A command fails with a line on what went wrong. -/
def failWith {α : Type} (line : String) : Command m α := throw { status := 1, err := line ++ "\n" }

/-- A result whose error is told after a title. -/
def orTell {ε α : Type} (title : String) (message : ε → String) : Except ε α → Command m α
  | .ok a => return a
  | .error e => failWith (title ++ message e)

/-- The settings of a command line. -/
def settingsFor (sh : Shell m) (a : Arguments) : Command m Settings := do
  let named := a.value? "config" <|> (← sh.env "QUARRY_CONFIG")
  let loaded ← ExceptT.lift (Settings.load sh.read named sh.userFile)
  orTell "Configuration error: " SettingsError.message loaded

/-- The variables that the paths of settings name. -/
def environmentFor (sh : Shell m) (s : Settings) : Command m Environment := do
  let values ← (s.pathTexts.flatMap envNames).mapM fun name => return (name, ← sh.env name)
  return fun name => (values.lookup name).join

/-- The built-in catalog, or that of a file. -/
def catalogOf (sh : Shell m) : Option String → Command m Catalog
  | none => return .builtin
  | some path => do
    orTell "Catalog error: " CatalogError.message <| match ← sh.read path with
      | .text content => Catalog.ofToml content
      | _ => .error .unreadable

/-- The catalog that settings name. -/
def catalogFor (sh : Shell m) (s : Settings) : Command m Catalog := do
  let env ← environmentFor sh s
  catalogOf sh (← orTell "Configuration error: " SettingsError.message (s.catalogPath env))

/-- The draft of a file. -/
def draftOfFile (sh : Shell m) (path : String) : Command m Draft := do
  match ← sh.read path with
  | .text content => match Draft.ofText? content with
    | some d => return d
    | none => failWith s!"Error parsing '{path}'"
  | _ => failWith s!"Error reading file '{path}'"

/-- The layout of a file's draft. -/
def layoutOfFile (sh : Shell m) (s : Settings) (c : Catalog) (path : String) (full : Bool) :
    Command m Layout := do
  let d ← draftOfFile sh path
  match (Validator.mk c s.limits).build d full with
  | .ok l => return l
  | .error problems =>
    failWith ("Validation errors:" ++ String.join (problems.map fun p => "\n  " ++ p.message))

/-- The operand of a command line. -/
def operandOf (a : Arguments) : String := a.operand.getD ""

/-- The dialect of a command line. -/
def dialectOf (a : Arguments) : Sql.Dialect :=
  ((a.value? "dialect").bind fun name => Sql.Dialect.all.find? (·.name == name)).getD .sqlite

/-- Checks a draft. -/
def validate (sh : Shell m) (a : Arguments) : Command m String := do
  let s ← settingsFor sh a
  let c ← catalogFor sh s
  let _ ← layoutOfFile sh s c (operandOf a) (a.value? "full").isSome
  return s!"OK: {operandOf a} is valid\n"

/-- A bound value for readers. -/
def shownLiteral : Sql.Literal → String
  | .int n => s!"Int({n})"
  | .float x => "Float(" ++ x.toText .diagnostic ++ ")"
  | .string s => "String(" ++ String.ofList (Text.quotedChars s.toList) ++ ")"
  | .bool b => s!"Bool({b})"
  | .null => "Null"

/-- The lines on bound values, from number `n` on. -/
def paramLines : Nat → List Sql.Literal → List String
  | _, [] => []
  | n, v :: vs => s!"-- ${n} = {shownLiteral v}" :: paramLines (n + 1) vs

/-- The filter values of a command line. -/
def filtersOf (a : Arguments) : Command m FilterValues :=
  match a.value? "filters" with
  | none => return []
  | some text => match Json.parse? text with
    | some j => return filterValues j
    | none => failWith "Invalid --filters JSON"

/-- The query of a draft, and the values bound in it. -/
def compile (sh : Shell m) (a : Arguments) : Command m String := do
  let s ← settingsFor sh a
  let c ← catalogFor sh s
  let l ← layoutOfFile sh s c (operandOf a) false
  let values ← filtersOf a
  let tenant := ((a.value? "tenant").bind int64OfText?).getD 1
  let q ← orTell "Compilation error: " CompileError.message (l.compile c tenant)
  let statement := (q.applyFilters c values l).statement (dialectOf a)
  let params := paramLines 1 statement.params
  return lines (statement.sql :: if params.isEmpty then [] else "" :: params)

/-- The analysis of a draft, and the statements that create the indexes it suggests. -/
def analyze (sh : Shell m) (a : Arguments) : Command m String := do
  let s ← settingsFor sh a
  let c ← catalogFor sh s
  let l ← layoutOfFile sh s c (operandOf a) false
  let analysis := l.analyze c s.limits
  let indexes := analysis.indexes.map fun i => i.sql (dialectOf a) ++ ";"
  return lines (analysis.toJson.indented :: if indexes.isEmpty then [] else "" :: indexes)

/-- The instant that a command line names, else the time. -/
def startOf (sh : Shell m) (a : Arguments) : Command m Instant :=
  match a.value? "from" with
  | none => return sh.now
  | some text => match Time.parseRfc3339? text with
    | some t => return t
    | none => failWith "Invalid --from timestamp"

/-- The next runs of a recurrence, a line each. -/
def recurrence (sh : Shell m) (a : Arguments) : Command m String := do
  let _ ← settingsFor sh a
  let some r := Recurrence.ofText? (operandOf a) | failWith "Invalid recurrence"
  let start ← startOf sh a
  let count := ((a.value? "count").bind natOfText?).getD 5
  let (runs, stop) := r.runs count start
  let out := lines (runs.map (Time.rfc3339With "+00:00".toList))
  match stop with
  | none => return out
  | some e => throw { status := 1, out, err := s!"Error: {e.message}\n" }

/-- A database without rows, at a time that stands still. -/
def emptyHost (now : Instant) : Host Unit :=
  ⟨.sqlite, fun _ w => (.ok [], w), fun _ => now, fun n => s!"{n}"⟩

/-- The scheduler that settings describe. -/
def openScheduler (sh : Shell m) (s : Settings) : Command m (Scheduler Unit) := do
  let path {α : Type} (p : Except SettingsError α) : Command m α :=
    orTell "Error opening report service: " SettingsError.message p
  let env ← environmentFor sh s
  let catalog ← catalogOf sh (← path (s.catalogPath env))
  if !(← sh.opens (← path (s.databasePath env)) (← path (s.dataPath env))) then
    failWith "Error opening report service: not a database"
  let exportDir ← path (s.exportPath env)
  let channel := match ← path (s.deliveryPath env) with
    | some root => Channel.directory root
    | none => Channel.log
  return ⟨⟨emptyHost sh.now, catalog, s.limits, ⟨s.currencySuffix⟩, exportDir, s.countFailed⟩,
    channel⟩

/-- A recovery and a sweep of a scheduler: what was recovered, and the counts. -/
def round (scheduler : Scheduler Unit) (now : Instant) : Command m (Nat × SweepSummary) :=
  let op : Scheduler.Op Unit (Nat × SweepSummary) := do
    let recovered ← scheduler.recover now
    let summary ← scheduler.sweep now
    return (recovered, summary)
  orTell "Sweep failed: " ScheduleError.message (World.perform op { data := () }).1

/-- Recovers, sweeps once, and counts. -/
def sweep (sh : Shell m) (a : Arguments) : Command m String := do
  let scheduler ← openScheduler sh (← settingsFor sh a)
  let (recovered, c) ← round scheduler sh.now
  let counts := s!"due: {c.due}, succeeded: {c.succeeded}, failed: {c.failed}"
  let out := s!"{counts}, recovered: {recovered}\n"
  if 0 < c.failed then throw { status := 1, out } else return out

/-- Opens the scheduler, then sweeps in silence again and again. -/
def schedule (sh : Shell m) (a : Arguments) : Command m String := do
  let s ← settingsFor sh a
  let scheduler ← openScheduler sh s
  let _ ← round scheduler sh.now
  throw { again := some s.tickSecs }

/-- The command of a name. -/
def command (sh : Shell m) (a : Arguments) : Command m String :=
  match a.command with
  | "validate" => validate sh a
  | "compile" => compile sh a
  | "analyze" => analyze sh a
  | "recurrence" => recurrence sh a
  | "sweep" => sweep sh a
  | _ => schedule sh a

/-- What is written about a command line that is wrong. -/
def usageError : String := "error: invalid arguments\n\nFor more information, try '--help'.\n"

/-- A command line, run. -/
def run (sh : Shell m) (args : List String) : m Outcome := do
  match parseArguments args with
  | .told text => return { out := text }
  | .wrong => return { status := 2, err := usageError }
  | .run a => match ← (command sh a).run with
    | .ok out => return { out }
    | .error outcome => return outcome

end TenantReports.Cli
