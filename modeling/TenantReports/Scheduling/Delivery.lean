import TenantReports.Run.Engine

/-!
# Delivery

The result of a scheduled run is delivered to its recipients. How is up to a channel.

## Main definitions

* `Delivery`: what is delivered
* `Channel`: a way to deliver
* `Channel.log`, `Channel.directory`: nothing is sent; files are written to a directory
-/

namespace TenantReports

/-- The result of a scheduled run. -/
structure Delivery where
  schedule : Schedule
  reportName : String
  rowCount : Nat
  truncated : Bool
  artifact : Option Artifact

/-- A way to deliver: whether it succeeded, and the world after it. -/
abbrev Channel (δ : Type) := Delivery → World δ → Bool × World δ

namespace Channel

variable {δ : Type}

/-- Nothing is sent. -/
def log : Channel δ := fun _ w => (true, w)

/-- The directory of a schedule's files. -/
def scheduleDir (root : String) (schedule : Int) : String := joinPath root s!"schedule_{schedule}"

/-- Files are written to a directory for each schedule. Without a file there is nothing to
deliver, and one whose name is too long is not delivered. -/
def directory (root : String) : Channel δ := fun d w =>
  match d.artifact with
  | none => (false, w)
  | some a =>
    match w.saveFile (scheduleDir root d.schedule.id) a.filename a.content with
    | (.ok _, w) => (true, w)
    | (.error _, w) => (false, w)

end Channel

end TenantReports
