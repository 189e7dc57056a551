import TenantReports.Cli.Commands

/-!
# Files in memory

A shell over files that are held in memory, with no effects at all. They lie in the working
directory. Of what is around it only what every system has is known.

## Main definitions

* `Entry`: what stands at a place
* `Place`, `Place.step`: where a path leads, name by name
* `entryAt`, `readFrom`: what stands at a path, and what reading it brings
* `opensStore`, `opensData`: whether a database opens at a path
* `Shell.ofFiles`: the shell
-/

namespace TenantReports.Cli

/-- Files by their paths from the working directory. -/
abbrev Files := List (String × String)

/-- What stands at a place. -/
inductive Entry where
  | directory
  | file (content : String)
deriving DecidableEq, Repr

/-- A place below the working directory, one of the directories above it, or a place below the
root. -/
inductive Place where
  | here (names : List String)
  | above
  | root (names : List String)
deriving DecidableEq, Repr

/-- The names in a path that lead somewhere. -/
def pathNames (path : String) : List String :=
  (path.splitOn "/").filter fun name => name != "" && name != "."

/-- What stands where names lead from the directory that holds the files. -/
def Files.entry? (files : Files) (names : List String) : Option Entry :=
  if names.isEmpty then some .directory
  else match files.find? fun f => pathNames f.1 == names with
    | some f => some (.file f.2)
    | none =>
      if files.any fun f => names.isPrefixOf (pathNames f.1) then some .directory else none

/-- Files that every system has below its root. -/
def systemFiles : Files :=
  [("dev/null", ""), ("etc/hosts", "127.0.0.1 localhost\n"),
    ("etc/passwd", "root:x:0:0:root:/root:/bin/sh\n")]

/-- Directories that every system has at its root. -/
def systemDirectories : List String :=
  ["bin", "home", "lib", "opt", "proc", "root", "run", "sbin", "sys", "tmp", "usr", "var"]

/-- What stands below the root of every system. -/
def systemEntry? (names : List String) : Option Entry :=
  match systemFiles.entry? names, names with
  | some e, _ => some e
  | none, [name] => if systemDirectories.contains name then some .directory else none
  | none, _ => none

namespace Place

/-- What stands at a place. -/
def entry? (files : Files) : Place → Option Entry
  | .here names => files.entry? names
  | .above => some .directory
  | .root names => systemEntry? names

/-- The place that a name leads to from a directory. Nothing is known of what else the
directories above hold. -/
def step (name : String) (p : Place) : Option Place :=
  if name = "" ∨ name = "." then some p
  else if name = ".." then some (match p with
    | .here [] => .above
    | .here names => .here names.dropLast
    | .above => .above
    | .root names => .root names.dropLast)
  else match p with
    | .here names => some (.here (names ++ [name]))
    | .above => none
    | .root names => some (.root (names ++ [name]))

/-- The place that names lead to, each but the last to a directory. -/
def walk (files : Files) : List String → Place → Option Place
  | [], p => some p
  | name :: names, p =>
    if p.entry? files = some .directory then (p.step name).bind (walk files names) else none

/-- No file stands in the way of directories that are made for a path. -/
def isClear (files : Files) : List String → Place → Bool
  | [], _ => true
  | name :: names, p =>
    match p.entry? files with
    | some (.file _) => false
    | _ => match p.step name with
      | some q => isClear files names q
      | none => true

/-- The place where a path begins. -/
def start (path : String) : Place := if path.startsWith "/" then .root [] else .here []

end Place

/-- What stands at a path. -/
def entryAt (files : Files) (path : String) : Option Entry :=
  if path = "" then none
  else ((Place.start path).walk files (path.splitOn "/")).bind (Place.entry? files)

/-- What reading a path brings: nothing can be read from a directory. -/
def readFrom (files : Files) (path : String) : FileRead :=
  match entryAt files path with
  | some (.file content) => .text content
  | some .directory => .unreadable
  | none => .missing

/-- A database that is kept in no file. -/
def isTemporary (path : String) : Bool := path == "" || path == ":memory:"

/-- The store opens in an empty file, or where there is none; directories are made for it. -/
def opensStore (files : Files) (path : String) : Bool :=
  isTemporary path || match entryAt files path with
    | some (.file content) => content.isEmpty
    | some .directory => false
    | none => (Place.start path).isClear files (path.splitOn "/")

/-- The data opens in any file, as it is not looked at yet, or where there is none but a
directory for it. -/
def opensData (files : Files) (path : String) : Bool :=
  isTemporary path || match entryAt files path with
    | some (.file _) => true
    | some .directory => false
    | none =>
      let parent := (Place.start path).walk files (path.splitOn "/").dropLast
      parent.bind (Place.entry? files) = some .directory

/-- A shell in the user's own directory, which holds the files. -/
def Shell.ofFiles (files : Files) (env : Environment) (now : Time.Instant) : Shell Id where
  env := env
  read := readFrom files
  opens store data := opensStore files store && opensData (files ++ [(store, "")]) data
  userFile := some ".config/quarry/config.toml"
  now := now

end TenantReports.Cli
