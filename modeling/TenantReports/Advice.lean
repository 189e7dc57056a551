import TenantReports.Catalog.Source
import TenantReports.Json.Number
import TenantReports.Report.Layout
import TenantReports.Settings.Limits
import TenantReports.Sql.Statement

/-!
# Advice

The cost of a report, what could be done about it, and the indexes that would help. Nothing of it
stands in the way of a run.

## Main definitions

* `Layout.cost`, `Complexity`: the weighted number of a layout's parts, and how high it is
* `Suggestion`, `Layout.suggestions`: what could be done
* `IndexSuggestion`, `Layout.indexSuggestions`: the indexes that would help
* `Analysis`, `Layout.analyze`: all of it
-/

namespace TenantReports

/-- How high the cost of a report is. -/
inductive Complexity where
  | normal
  | high
  | veryHigh
deriving DecidableEq, Repr

/-- How a complexity is told. -/
def Complexity.name : Complexity → String
  | .normal => "normal"
  | .high => "high"
  | .veryHigh => "very_high"

/-- Something that could be done about a report. -/
inductive Suggestion where
  | highComplexity (cost : Nat)
  | veryHighComplexity (cost : Nat)
  | manyJoins (count : Nat)
  | manyAggregations (count : Nat)
  | noFilters
  | noSorting
  | ungroupedColumn (label : String)
deriving DecidableEq, Repr

namespace Suggestion

/-- The name of the kind of suggestion. -/
def kind : Suggestion → String
  | .highComplexity _ => "high_complexity"
  | .veryHighComplexity _ => "very_high_complexity"
  | .manyJoins _ => "many_joins"
  | .manyAggregations _ => "many_aggregations"
  | .noFilters => "no_filters"
  | .noSorting => "no_sorting"
  | .ungroupedColumn _ => "ungrouped_column"

/-- How a suggestion is told. -/
def message : Suggestion → String
  | .veryHighComplexity cost =>
    "Very high complexity (cost " ++ Json.intText cost
      ++ "): split the report or narrow it with filters"
  | .highComplexity cost =>
    "High complexity (cost " ++ Json.intText cost ++ "): consider fewer joins or columns"
  | .manyJoins n => Json.intText n ++ " joins: consider splitting into several reports"
  | .manyAggregations n =>
    Json.intText n ++ " aggregation functions: consider fewer summaries"
  | .noFilters => "No filters: every run reads all of the tenant's rows"
  | .noSorting => "No sorting: row order is not guaranteed between runs"
  | .ungroupedColumn label =>
    s!"Column '{label}' is neither grouped nor aggregated; its value is arbitrary per group"

/-- A suggestion as a record. -/
def toJson (s : Suggestion) : Json :=
  .object [("kind", .string s.kind), ("message", .string s.message)]

end Suggestion

/-- An index on a table, with the tenant column first. -/
structure IndexSuggestion where
  source : String
  table : String
  columns : List String
deriving DecidableEq, Repr

namespace IndexSuggestion

/-- The name of the index. -/
def name (i : IndexSuggestion) : String := "idx_" ++ i.table ++ "_" ++ "_".intercalate i.columns

/-- The text that creates the index. -/
def sql (i : IndexSuggestion) (d : Sql.Dialect) : String :=
  Sql.createIndex d i.name i.table i.columns

/-- A suggested index as a record. -/
def toJson (i : IndexSuggestion) : Json :=
  .object [("source", .string i.source), ("table", .string i.table),
    ("columns", .ofStrings i.columns)]

end IndexSuggestion

/-- All advice on a layout. -/
structure Analysis where
  cost : Nat
  complexity : Complexity
  suggestions : List Suggestion
  indexes : List IndexSuggestion
  relations : List String
deriving DecidableEq, Repr

/-- An analysis as a record. -/
def Analysis.toJson (a : Analysis) : Json :=
  .object [("estimated_cost", .int a.cost), ("complexity", .string a.complexity.name),
    ("suggestions", .array (a.suggestions.map Suggestion.toJson)),
    ("indexes", .array (a.indexes.map IndexSuggestion.toJson)),
    ("used_relations", .ofStrings a.relations)]

/-- The greatest cost. -/
def maxCost : Nat := Nat.pow 2 32 - 1

/-- How many joins, and how many aggregations, are still few. -/
def fewParts : Nat := 5

/-- How high a cost is. -/
def Limits.complexity (l : Limits) (cost : Nat) : Complexity :=
  if l.veryHighCostThreshold < cost then .veryHigh
  else if l.highCostThreshold < cost then .high
  else .normal

/-- The index that helps to find a field's values within a tenant. -/
def Catalog.indexFor? (c : Catalog) (f : FieldRef) :
    Option IndexSuggestion := do
  let s ← c.source? f.source
  let field ← s.field? f.field
  if field.columnName = s.tenantColumn then none
  else some ⟨s.key, s.table, [s.tenantColumn, field.columnName]⟩

namespace Layout

/-- The weighted number of a layout's parts. -/
def cost (l : Layout) : Nat :=
  min maxCost (100 * l.sources.joins.length + 10 * l.filters.length
    + 50 * l.aggregations.functions.length + 30 * l.aggregations.groupBy.length
    + 5 * l.columns.length)

/-- The columns of a grouped layout whose value differs within a group: those that aggregate
nothing and have a field that is not grouped by. -/
def ungroupedColumns (l : Layout) : List Column :=
  if l.isAggregated then
    l.columns.filter fun c =>
      c.aggregate.isNone && c.expr.fields.any fun f => !l.aggregations.groupBy.contains f
  else []

/-- What could be done about a layout. -/
def suggestions (l : Layout) (limits : Limits) : List Suggestion :=
  let joins := l.sources.joins.length
  let functions := l.aggregations.functions.length
  (match limits.complexity l.cost with
    | .veryHigh => [.veryHighComplexity l.cost]
    | .high => [.highComplexity l.cost]
    | .normal => [])
  ++ (if fewParts < joins then [.manyJoins joins] else [])
  ++ (if fewParts < functions then [.manyAggregations functions] else [])
  ++ (if l.filters.isEmpty then [.noFilters] else [])
  ++ (if l.sorting.isEmpty then [.noSorting] else [])
  ++ l.ungroupedColumns.map fun c => .ungroupedColumn c.label

/-- The fields that rows are found, joined, ordered or grouped by. -/
def indexedFields (l : Layout) : List FieldRef :=
  l.filters.map (·.field) ++ l.sources.joins.flatMap (fun j => [j.left, j.right])
    ++ l.sorting.filterMap (fun s => match s.target with
      | .field f => some f
      | .output _ => none)
    ++ l.aggregations.groupBy

/-- The indexes that would help, each once. -/
def indexSuggestions (l : Layout) (c : Catalog) : List IndexSuggestion :=
  (l.indexedFields.filterMap c.indexFor?).eraseDups

/-- The relations of the primary source whose targets are joined or referenced. -/
def usedRelations (l : Layout) (c : Catalog) : List String :=
  let reached := l.sources.joins.map (·.table) ++ l.referencedSources
  (((c.source? l.sources.primary).map (·.relations)).getD []).filterMap fun r =>
    if reached.contains r.target then some r.key else none

/-- All advice on a layout. -/
def analyze (l : Layout) (c : Catalog) (limits : Limits) : Analysis where
  cost := l.cost
  complexity := limits.complexity l.cost
  suggestions := l.suggestions limits
  indexes := l.indexSuggestions c
  relations := l.usedRelations c

end Layout

end TenantReports
