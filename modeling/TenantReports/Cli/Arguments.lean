import TenantReports.Compile.Filters
import TenantReports.Sql.Dialect

/-!
# Command line arguments

A command line is a command with at most one operand and with options, most of which take a value.
A value follows its option, or is joined to it; one that begins with a hyphen has to be joined.
After two hyphens everything is an operand. The option for the configuration is understood before
and after the command.

## Main definitions

* `Flag`, `CommandSpec`: options and commands, with what is said of them
* `Arguments`: a command line that was understood
* `Parsed`: what comes of a command line
* `parseArguments`: reading
* `CommandSpec.help`, `rootHelp`, `helpOnHelp`: the texts of help
-/

namespace TenantReports.Cli

/-- An option. -/
structure Flag where
  long : String
  short : Option Char := none
  /-- The name of its value, if it takes one. -/
  value : Option String := none
  /-- The values that it takes. -/
  accepts : String → Bool := fun _ => true
  help : String

/-- A command. -/
structure CommandSpec where
  name : String
  about : String
  /-- The name of the operand and what is said of it. -/
  operand : Option (String × String) := none
  /-- The operands that it takes. -/
  accepts : String → Bool := fun _ => true
  flags : List Flag

/-- The text is an integer of 64 bits. -/
def isInteger (s : String) : Bool := (int64OfText? s).isSome

/-- The number that a text denotes: digits after at most a plus sign. -/
def natOfText? (s : String) : Option Nat :=
  let ds := match s.toList with
    | '+' :: r => r
    | r => r
  if ds.isEmpty ∨ ¬ ds.all Char.isDigit then none
  else
    let n := Binary64.digitsValue 0 ds
    if n < Nat.pow 2 64 then some n else none

/-- A path is not empty. -/
def isPath (s : String) : Bool := !s.isEmpty

/-- The text names a dialect. -/
def isDialect (s : String) : Bool := Sql.Dialect.all.any (·.name == s)

/-- The option for the configuration. -/
def configFlag : Flag where
  long := "config"
  short := some 'c'
  value := some "CONFIG"
  accepts := isPath
  help := "Path to quarry.toml (defaults to QUARRY_CONFIG, ./quarry.toml, then the user config dir)"

/-- The option for help. -/
def helpFlag : Flag where
  long := "help"
  short := some 'h'
  help := "Print help"

/-- The option for the version. -/
def versionFlag : Flag where
  long := "version"
  short := some 'V'
  help := "Print version"

/-- The operand of the commands that read a draft. -/
def draftOperand : String × String := ("FILE", "Path to the draft JSON file")

/-- An option for the dialect. -/
def dialectFlag (help : String) : Flag where
  long := "dialect"
  short := some 'd'
  value := some "DIALECT"
  accepts := isDialect
  help := help ++ " [default: sqlite] [possible values: sqlite, postgres, mysql]"

/-- The command that checks a draft. -/
def validateSpec : CommandSpec where
  name := "validate"
  about := "Validate a draft report configuration"
  operand := some draftOperand
  accepts := isPath
  flags := [configFlag, { long := "full", help := "Also require name and category" }]

/-- The command that writes a draft as a query. -/
def compileSpec : CommandSpec where
  name := "compile"
  about := "Compile a draft report to SQL"
  operand := some draftOperand
  accepts := isPath
  flags := [configFlag,
    { long := "tenant", short := some 't', value := some "TENANT", accepts := isInteger,
      help := "Tenant the query is scoped to [default: 1]" },
    dialectFlag "SQL dialect to generate",
    { long := "filters", value := some "FILTERS",
      help := "Runtime filter values as a JSON object" }]

/-- The command that estimates what a draft costs. -/
def analyzeSpec : CommandSpec where
  name := "analyze"
  about := "Estimate cost and suggest indexes for a draft report"
  operand := some draftOperand
  accepts := isPath
  flags := [configFlag, dialectFlag "SQL dialect for index statements"]

/-- The command that lists the next runs of a recurrence. -/
def recurrenceSpec : CommandSpec where
  name := "recurrence"
  about := "Print upcoming runs of a recurrence"
  operand := some ("RECURRENCE",
    "Recurrence as JSON, e.g. \x7b\"type\":\"daily\",\"time\":\"08:00\"\x7d")
  flags := [configFlag,
    { long := "from", value := some "FROM",
      help := "Compute from this instant instead of now (RFC 3339)" },
    { long := "count", short := some 'n', value := some "COUNT",
      accepts := fun s => (natOfText? s).isSome, help := "Number of runs to print [default: 5]" }]

/-- The command that runs what is due, once. -/
def sweepSpec : CommandSpec where
  name := "sweep"
  about := "Run all due schedules once"
  flags := [configFlag]

/-- The command that runs what is due until it is interrupted. -/
def schedulerSpec : CommandSpec where
  name := "scheduler"
  about := "Run the scheduler until interrupted"
  flags := [configFlag]

/-- The commands. -/
def commands : List CommandSpec :=
  [validateSpec, compileSpec, analyzeSpec, recurrenceSpec, sweepSpec, schedulerSpec]

/-- A command of a name. -/
def command? (name : String) : Option CommandSpec := commands.find? (·.name == name)

/-! ## Help -/

/-- Lines in two columns, the first as wide as its widest cell. -/
def twoColumns (rows : List (String × String)) : List String :=
  let width := (rows.map (·.1.length)).foldl max 0
  rows.map fun (left, right) =>
    "  " ++ left ++ String.ofList (List.replicate (width - left.length) ' ') ++ "  " ++ right

/-- How an option is written. -/
def Flag.usage (f : Flag) : String :=
  (match f.short with
    | some c => "-" ++ String.singleton c ++ ", "
    | none => "    ") ++ "--" ++ f.long ++ (match f.value with
    | some v => " <" ++ v ++ ">"
    | none => "")

/-- The lines on options. -/
def optionLines (flags : List Flag) : List String :=
  "Options:" :: twoColumns (flags.map fun f => (f.usage, f.help))

/-- Lines as a text. -/
def lines (ls : List String) : String := String.join (ls.map (· ++ "\n"))

/-- What is said of a command. -/
def CommandSpec.help (c : CommandSpec) : String :=
  let operand := match c.operand with
    | some (name, _) => " <" ++ name ++ ">"
    | none => ""
  let arguments := match c.operand with
    | some (name, help) => "Arguments:" :: twoColumns [("<" ++ name ++ ">", help)] ++ [""]
    | none => []
  lines ([c.about, "", "Usage: quarry " ++ c.name ++ " [OPTIONS]" ++ operand, ""] ++ arguments
    ++ optionLines (c.flags ++ [helpFlag]))

/-- What is said of the command for help. -/
def aboutHelp : String := "Print this message or the help of the given subcommand(s)"

/-- What the command for help says of itself. -/
def helpOnHelp : String :=
  lines (aboutHelp :: "" :: "Usage: quarry help [COMMAND]..." :: "" :: "Arguments:"
    :: twoColumns [("[COMMAND]...", "Print help for the subcommand(s)")])

/-- What is said of the program. -/
def rootHelp : String :=
  lines (["Quarry - tenant-scoped custom report engine", "", "Usage: quarry [OPTIONS] <COMMAND>",
      "", "Commands:"]
    ++ twoColumns (commands.map (fun c => (c.name, c.about))
      ++ [("help", aboutHelp)])
    ++ "" :: optionLines [configFlag, helpFlag, versionFlag])

/-- The version of the program. -/
def versionText : String := "quarry 0.1.0\n"

/-! ## Reading -/

/-- A command line that was understood: the values of options by their long names. -/
structure Arguments where
  command : String
  operand : Option String
  values : List (String × String)

/-- What comes of a command line: it is understood, it asks for a text, or it is wrong. -/
inductive Parsed where
  | run (a : Arguments)
  | told (text : String)
  | wrong

/-- An option at the start of a command line: with a value, or without one. -/
inductive Given where
  | value (f : Flag) (v : String)
  | switch (f : Flag)

/-- A text cut at its first equals sign. -/
def cutAtEquals (cs : List Char) : List Char × Option (List Char) :=
  match cs.dropWhile (· != '=') with
  | [] => (cs, none)
  | _ :: v => (cs.takeWhile (· != '='), some v)

/-- The text can be a value of its own: it does not look like an option. -/
def isFree (s : String) : Bool := s == "-" || !s.startsWith "-"

/-- A value that an option takes. -/
def Flag.take? (f : Flag) (v : String) (rest : List String) : Option (Given × List String) :=
  if f.accepts v then some (.value f v, rest) else none

/-- An option with the value that is joined to it, or that follows. -/
def Flag.give? (f : Flag) (joined : Option (List Char)) (rest : List String) :
    Option (Given × List String) :=
  match f.value, joined, rest with
  | none, none, rest => some (.switch f, rest)
  | none, some _, _ => none
  | some _, some v, rest => f.take? (String.ofList v) rest
  | some _, none, v :: rest => if isFree v then f.take? v rest else none
  | some _, none, [] => none

/-- The option that a text begins, and the texts left. -/
def given? (flags : List Flag) (text : String) (rest : List String) :
    Option (Given × List String) :=
  match text.toList with
  | '-' :: '-' :: cs =>
    let (name, joined) := cutAtEquals cs
    (flags.find? (·.long == String.ofList name)).bind fun f => f.give? joined rest
  | '-' :: c :: cs =>
    (flags.find? (·.short == some c)).bind fun f =>
      match f.value, cs with
      | none, _ => some (.switch f, rest)
      | some _, [] => f.give? none rest
      | some _, '=' :: v => f.give? (some v) rest
      | some _, v => f.give? (some v) rest
  | _ => none

/-- The values of options with one more. None is given twice. -/
def addValue? (values : List (String × String)) (f : Flag) (v : String) :
    Option (List (String × String)) :=
  if values.any (·.1 == f.long) then none else some ((f.long, v) :: values)

/-- The rest of a command line after its command. Once there are only operands, nothing is an
option. -/
def parseCommand (c : CommandSpec) (outer : List (String × String)) :
    Nat → Bool → Option String → List (String × String) → List String → Parsed
  | 0, _, _, _, _ => .wrong
  | fuel + 1, onlyOperands, operand, values, args =>
    match args with
    | [] =>
      if c.operand.isSome && operand.isNone then .wrong
      else .run ⟨c.name, operand, values ++ outer⟩
    | a :: rest =>
      if !onlyOperands && a == "--" then parseCommand c outer fuel true operand values rest
      else if onlyOperands || isFree a then
        if c.operand.isSome && operand.isNone && c.accepts a then
          parseCommand c outer fuel onlyOperands (some a) values rest
        else .wrong
      else match given? (c.flags ++ [helpFlag]) a rest with
        | none => .wrong
        | some (.switch f, rest) =>
          if f.long == "help" then .told c.help
          else match addValue? values f "" with
            | some values => parseCommand c outer fuel onlyOperands operand values rest
            | none => .wrong
        | some (.value f v, rest) =>
          match addValue? values f v with
          | some values => parseCommand c outer fuel onlyOperands operand values rest
          | none => .wrong

/-- The command for help: of the program, or of a command, itself among them. -/
def parseHelp : List String → Parsed
  | [] => .told rootHelp
  | [name] => if name == "help" then .told helpOnHelp else match command? name with
    | some c => .told c.help
    | none => .wrong
  | _ => .wrong

/-- A command line up to its command. -/
def parseRoot : Nat → List (String × String) → List String → Parsed
  | 0, _, _ => .wrong
  | _, _, [] => .wrong
  | fuel + 1, values, a :: rest =>
    if isFree a then
      if a == "help" then parseHelp rest
      else match command? a with
        | some c => parseCommand c values (rest.length + 1) false none [] rest
        | none => .wrong
    else match given? [configFlag, helpFlag, versionFlag] a rest with
      | none => .wrong
      | some (.switch f, _) => .told (if f.long == "help" then rootHelp else versionText)
      | some (.value f v, rest) =>
        match addValue? values f v with
        | some values => parseRoot fuel values rest
        | none => .wrong

/-- A command line. Of a value given before and after the command, the latter is kept. -/
def parseArguments (args : List String) : Parsed := parseRoot (args.length + 1) [] args

/-- The value of an option. -/
def Arguments.value? (a : Arguments) (long : String) : Option String := a.values.lookup long

end TenantReports.Cli
