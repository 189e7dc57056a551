import TenantReports.Json.Parser
import TenantReports.Json.Record
import TenantReports.Settings.Limits

/-!
# Recurrences

When a schedule fires: daily, weekly or monthly at a time of day, or by a cron expression. Times
are in universal time. The texts are kept as they are given; whether they make sense is checked
where they are used.

## Main definitions

* `Recurrence`: the four kinds
* `Recurrence.toJson`, `Recurrence.ofJson?`, `Recurrence.ofText?`: writing and reading
* `RecurrenceError`: what can be wrong with a recurrence
-/

namespace TenantReports

/-- When a schedule fires. -/
inductive Recurrence where
  | daily (time : String)
  | weekly (day : String) (time : String)
  | monthly (day : Nat) (time : String)
  | cron (expression : String)
deriving DecidableEq, Repr

namespace Recurrence

/-- The name of the kind of recurrence. -/
def kind : Recurrence → String
  | .daily _ => "daily"
  | .weekly _ _ => "weekly"
  | .monthly _ _ => "monthly"
  | .cron _ => "cron"

/-- A recurrence as a record, with its kind under `type`. -/
def toJson (r : Recurrence) : Json :=
  .object (("type", .string r.kind) :: match r with
    | .daily time => [("time", .string time)]
    | .weekly day time => [("day_of_week", .string day), ("time", .string time)]
    | .monthly day time => [("day_of_month", .int day), ("time", .string time)]
    | .cron expression => [("expression", .string expression)])

/-- A recurrence of a kind, from the other parts of its record. -/
def ofParts? (kind : String) (parts : Json) : Option Recurrence :=
  match kind with
  | "daily" => do
    let r ← parts.asRecord? ["time"]
    return .daily (← r.required? "time" Json.asString?)
  | "weekly" => do
    let r ← parts.asRecord? ["day_of_week", "time"]
    return .weekly (← r.required? "day_of_week" Json.asString?)
      (← r.required? "time" Json.asString?)
  | "monthly" => do
    let r ← parts.asRecord? ["day_of_month", "time"]
    return .monthly (← r.required? "day_of_month" Json.nat32?) (← r.required? "time" Json.asString?)
  | "cron" => do
    let r ← parts.asRecord? ["expression"]
    return .cron (← r.required? "expression" Json.asString?)
  | _ => none

/-- Reads a recurrence: a record with its kind under `type`, or a list that begins with it. -/
def ofJson? : Json → Option Recurrence
  | .object entries => do
    let kind ← (entries.lookup "type").bind Json.asString?
    ofParts? kind (.object entries)
  | .array (.string kind :: parts) => ofParts? kind (.array parts)
  | _ => none

/-- The names of the parts of a kind. -/
def partNames : Recurrence → List String
  | .daily _ => ["type", "time"]
  | .weekly _ _ => ["type", "day_of_week", "time"]
  | .monthly _ _ => ["type", "day_of_month", "time"]
  | .cron _ => ["type", "expression"]

/-- The recurrence that a text is. No part of its kind may occur twice. -/
def ofText? (text : String) : Option Recurrence := do
  let r ← (Json.parse? text).bind ofJson?
  match Json.skipBlanks text.toList with
  | '\x7b' :: cs =>
    let (entries, _) ← Json.entries? (Json.value? (Json.depthLimit - 1)) cs
    if r.partNames.all fun name => entries.countP (·.1 == name) ≤ 1 then some r else none
  | _ => some r

end Recurrence

/-- What can be wrong with a recurrence. -/
inductive RecurrenceError where
  | invalidTime (text : String)
  | invalidWeekday (text : String)
  | invalidDayOfMonth (day : Nat)
  | invalidCron (expression : String)
  | noUpcomingRun (expression : String)
deriving DecidableEq, Repr

/-- The name of the kind of error. -/
def RecurrenceError.code : RecurrenceError → String
  | .invalidTime _ => "InvalidTime"
  | .invalidWeekday _ => "InvalidWeekday"
  | .invalidDayOfMonth _ => "InvalidDayOfMonth"
  | .invalidCron _ => "InvalidCron"
  | .noUpcomingRun _ => "NoUpcomingRun"

/-- How an error is told. -/
def RecurrenceError.message : RecurrenceError → String
  | .invalidTime text => s!"Invalid time '{text}': expected HH:MM"
  | .invalidWeekday text => s!"Invalid day of week '{text}'"
  | .invalidDayOfMonth day => s!"Invalid day of month {day}: expected 1-31"
  | .invalidCron expression =>
    s!"Invalid cron expression '{expression}': Invalid expression: Invalid cron expression."
  | .noUpcomingRun expression => s!"Cron expression '{expression}' has no upcoming run"

end TenantReports
