import TenantReports.Export.Artifact
import TenantReports.Process
import TenantReports.Sql.Statement
import TenantReports.Store.Basic

/-!
# The world of a run

A run needs more than the store: a database to ask, a clock, fresh ids and a place for files. The
clock and the ids are sequences, of which a world knows how many members were used.

## Main definitions

* `QueryRequest`, `QueryError`: what a database is asked, and why it gives no rows
* `Host`: a database, a clock and ids
* `World`: the store, the state of the database and the files
* `World.saveFile`: a file written to a directory
* `World.onStore`, `World.onStoreNow`: steps on the store
* `World.Op`, `World.perform`: operations that may fail
-/

namespace TenantReports

open Time (Instant)

/-- What a database is asked. A cancelled request gives no rows. -/
structure QueryRequest where
  statement : Sql.Statement
  timeoutSecs : Nat
  cancelled : Bool := false
deriving DecidableEq, Repr

/-- Why a database gives no rows. -/
inductive QueryError where
  | timeout (secs : Nat)
  | cancelled
  | lockPoisoned
  | database (detail : String)
deriving DecidableEq, Repr

/-- The name of the kind of error. -/
def QueryError.code : QueryError → String
  | .timeout _ => "Timeout"
  | .cancelled => "Cancelled"
  | .lockPoisoned => "LockPoisoned"
  | .database _ => "Sqlite"

/-- How an error is told. -/
def QueryError.message : QueryError → String
  | .timeout secs => s!"Query exceeded the {secs}s time limit"
  | .cancelled => "cancelled"
  | .lockPoisoned => "Data store lock poisoned"
  | .database detail => s!"Query failed: {detail}"

/-- The seconds that a clock can count. -/
def clockLimit : Nat := Nat.pow 2 63

/-- The least that a clock has counted when a request comes. -/
def leastUptime : Nat := 3600

/-- A clock reaches the end of a request's time. -/
def QueryRequest.hasDeadline (r : QueryRequest) : Bool :=
  r.timeoutSecs + leastUptime < clockLimit

/-- Why a request ends before its first row: it was cancelled, or it has no time at all. -/
def QueryRequest.refusal? (r : QueryRequest) : Option QueryError :=
  if r.cancelled then some .cancelled
  else if r.timeoutSecs = 0 then some (.timeout 0)
  else none

/-- A database with states of type `δ` that understands a dialect, a clock and fresh ids. -/
structure Host (δ : Type) where
  dialect : Sql.Dialect
  query : QueryRequest → δ → Except QueryError (List (List Json)) × δ
  clock : Nat → Instant
  executionId : Nat → String

/-- The store, the state of the database, how often the clock was read, how many ids were given,
the directories that were made, and the files by their paths. -/
structure World (δ : Type) where
  store : Store := {}
  data : δ
  readings : Nat := 0
  issued : Nat := 0
  directories : List String := []
  files : List (String × FileContent) := []

/-- The path of a file in a directory. -/
def joinPath (dir name : String) : String :=
  if dir.isEmpty ∨ dir.endsWith "/" then dir ++ name else dir ++ "/" ++ name

/-- The greatest number of bytes in the name of a file. -/
def maxFileName : Nat := 255

namespace World

variable {δ α : Type}

/-- A reading of the clock. -/
def now (h : Host δ) (w : World δ) : Instant × World δ :=
  (h.clock w.readings, { w with readings := w.readings + 1 })

/-- A fresh id. -/
def freshId (h : Host δ) (w : World δ) : String × World δ :=
  (h.executionId w.issued, { w with issued := w.issued + 1 })

/-- A file, written in the place of one of the same path. -/
def writeFile (path : String) (content : FileContent) (w : World δ) : World δ :=
  { w with files := (path, content) :: w.files.filter (·.1 != path) }

/-- A directory, made unless it is there. -/
def makeDirectory (dir : String) (w : World δ) : World δ :=
  { w with directories := w.directories.insert dir }

/-- A file written to a directory, which is made first: its path, unless its name is too long. -/
def saveFile (dir name : String) (content : FileContent) (w : World δ) :
    Except FileError String × World δ :=
  let w := w.makeDirectory dir
  if maxFileName < name.utf8ByteSize then (.error .nameTooLong, w)
  else (.ok (joinPath dir name), w.writeFile (joinPath dir name) content)

/-- What a file holds. -/
def file? (w : World δ) (path : String) : Option FileContent := w.files.lookup path

/-- A step on the store. -/
def onStore (f : Store → α × Store) : Process (World δ) α :=
  .atomically fun w =>
    let (a, store) := f w.store
    (a, { w with store })

/-- A step that reads the store. -/
def ofStore (f : Store → α) : Process (World δ) α := onStore fun s => (f s, s)

/-- A step on the store at the time of the clock. -/
def onStoreNow (h : Host δ) (f : Instant → Store → α × Store) : Process (World δ) α :=
  .atomically fun w =>
    let (now, w) := w.now h
    let (a, store) := f now w.store
    (a, { w with store })

/-- An operation on the world, which may fail. -/
abbrev Op (δ ε : Type) := ExceptT ε (Process (World δ))

/-- A process that may fail, as an operation. -/
def orFail {ε ε' : Type} (cause : ε → ε') (p : Process (World δ) (Except ε α)) : Op δ ε' α :=
  ExceptT.mk do return (← p).mapError cause

/-- A process that cannot fail, as an operation. -/
def always {ε : Type} (p : Process (World δ) α) : Op δ ε α := ExceptT.lift p

/-- What comes of an operation that runs alone, and the world after it. -/
def perform {ε : Type} (op : Op δ ε α) (w : World δ) : Except ε α × World δ := op.run.run w

end World

end TenantReports
