import TenantReports.Json.Record

/-!
# Limits

How much a report may hold and a run may take.

## Main definitions

* `Limits`: the limits and their defaults
* `Limits.ofRecord?`, `Limits.ofJson?`: reading, with defaults for what is missing
* `Limits.toJson`: writing
* `Limits.rowsAsked`: how many rows a run asks for
-/

namespace TenantReports

/-- The limits. Costs above the two thresholds count as high and very high. -/
structure Limits where
  maxJoins : Nat := 7
  maxColumns : Nat := 50
  maxAggregations : Nat := 10
  maxFilters : Nat := 20
  maxActiveSchedules : Nat := 10
  rowCap : Nat := 10000
  queryTimeoutSecs : Nat := 30
  previewLimit : Nat := 20
  highCostThreshold : Nat := 300
  veryHighCostThreshold : Nat := 500
deriving DecidableEq, Repr

/-- A natural number below a bound. -/
def Json.natBelow? (bound : Nat) : Json → Option Nat
  | .int n => if 0 ≤ n ∧ n < bound then some n.toNat else none
  | _ => none

/-- A natural number of 64 bits. -/
def Json.nat64? : Json → Option Nat := Json.natBelow? (Nat.pow 2 64)

/-- A natural number of 32 bits. -/
def Json.nat32? : Json → Option Nat := Json.natBelow? (Nat.pow 2 32)

namespace Limits

/-- The names of the limits. -/
def fieldNames : List String :=
  ["max_joins", "max_columns", "max_aggregations", "max_filters", "max_active_schedules",
    "row_cap", "query_timeout_secs", "preview_limit", "high_cost_threshold",
    "very_high_cost_threshold"]

/-- The limits that a record holds, with defaults for those that are missing. -/
def ofRecord? (r : Record) : Option Limits := do
  let d : Limits := {}
  return {
    maxJoins := ← r.withDefault? "max_joins" d.maxJoins Json.nat64?
    maxColumns := ← r.withDefault? "max_columns" d.maxColumns Json.nat64?
    maxAggregations := ← r.withDefault? "max_aggregations" d.maxAggregations Json.nat64?
    maxFilters := ← r.withDefault? "max_filters" d.maxFilters Json.nat64?
    maxActiveSchedules := ← r.withDefault? "max_active_schedules" d.maxActiveSchedules Json.nat64?
    rowCap := ← r.withDefault? "row_cap" d.rowCap Json.nat64?
    queryTimeoutSecs := ← r.withDefault? "query_timeout_secs" d.queryTimeoutSecs Json.nat64?
    previewLimit := ← r.withDefault? "preview_limit" d.previewLimit Json.nat64?
    highCostThreshold := ← r.withDefault? "high_cost_threshold" d.highCostThreshold Json.nat32?
    veryHighCostThreshold :=
      ← r.withDefault? "very_high_cost_threshold" d.veryHighCostThreshold Json.nat32? }

/-- The limits that a value holds. -/
def ofJson? (j : Json) : Option Limits := (j.asRecord? fieldNames).bind ofRecord?

/-- How many rows a run asks for: one more than the cap, as a number of 64 bits. -/
def rowsAsked (l : Limits) : Nat := (l.rowCap + 1) % Nat.pow 2 64

/-- The limits as a record. -/
def toJson (l : Limits) : Json :=
  .object (fieldNames.zip ([l.maxJoins, l.maxColumns, l.maxAggregations, l.maxFilters,
    l.maxActiveSchedules, l.rowCap, l.queryTimeoutSecs, l.previewLimit, l.highCostThreshold,
    l.veryHighCostThreshold].map fun n : Nat => Json.int n))

end Limits

end TenantReports
