import TenantReports.Report.Field
import TenantReports.Report.Vocabulary

/-!
# Report layouts

A layout is what a report shows, fully typed: its sources, columns, filter slots, aggregations
and sort entries. Everything after validation works on layouts only.

## Main definitions

* `Layout` and its parts: `Sources`, `Join`, `Column`, `ColumnExpr`, `FilterSlot`,
  `Aggregation`, `Aggregations`, `SortEntry`
* `Layout.isAggregated`: rows are grouped
* `Layout.outputAliases`: the names in the output
* `Layout.referencedSources`: the sources whose fields occur
-/

namespace TenantReports

/-- A joined source, with the two fields that must be equal. -/
structure Join where
  table : String
  kind : JoinKind
  left : FieldRef
  right : FieldRef
deriving DecidableEq, Repr

/-- The primary source and the joined ones, in order. -/
structure Sources where
  primary : String
  joins : List Join := []
deriving DecidableEq, Repr

/-- The sources in scope: the primary one, then the joined ones. -/
def Sources.inScope (s : Sources) : List String := s.primary :: s.joins.map (·.table)

/-- The value of a column: a field, a constant, or a function of such values. -/
inductive ColumnExpr where
  | field (f : FieldRef)
  | literal (value : Json)
  | call (function : ScalarFunction) (args : List ColumnExpr)

namespace ColumnExpr

/-- The fields of an expression, from left to right. -/
def fields : ColumnExpr → List FieldRef
  | .field f => [f]
  | .literal _ => []
  | .call _ args => fieldsOfArgs args
where
  /-- The fields of a list of arguments. -/
  fieldsOfArgs : List ColumnExpr → List FieldRef
    | [] => []
    | e :: es => fields e ++ fieldsOfArgs es

/-- The field, if the expression is one. -/
def asField? : ColumnExpr → Option FieldRef
  | .field f => some f
  | _ => none

end ColumnExpr

/-- An output column. -/
structure Column where
  expr : ColumnExpr
  label : String
  format : ColumnFormat
  aggregate : Option Aggregate
  name : String

/-- A filter whose value is given when the report runs. Its options are advice to whoever asks
for the value. -/
structure FilterSlot where
  field : FieldRef
  label : String
  kind : FilterKind
  required : Bool
  options : List Json

/-- A named aggregate of a field. -/
structure Aggregation where
  field : FieldRef
  function : Aggregate
  name : String
deriving DecidableEq, Repr

/-- How rows are grouped and what is computed of each group. -/
structure Aggregations where
  groupBy : List FieldRef := []
  functions : List Aggregation := []
deriving DecidableEq, Repr

/-- What a sort entry orders by. -/
inductive SortTarget where
  | field (f : FieldRef)
  | output (name : String)
deriving DecidableEq, Repr

/-- A sort entry. -/
structure SortEntry where
  target : SortTarget
  direction : Direction
deriving DecidableEq, Repr

/-- A report layout. -/
structure Layout where
  sources : Sources
  columns : List Column
  filters : List FilterSlot := []
  aggregations : Aggregations := {}
  sorting : List SortEntry := []

namespace Layout

/-- Rows are grouped: the layout groups, aggregates, or has a column that aggregates. -/
def isAggregated (l : Layout) : Bool :=
  !l.aggregations.functions.isEmpty || !l.aggregations.groupBy.isEmpty
    || l.columns.any (·.aggregate.isSome)

/-- The filter slot on a field. -/
def filterSlot? (l : Layout) (fullName : String) : Option FilterSlot :=
  l.filters.find? (·.field.fullName == fullName)

/-- The names in the output: those of columns, then those of aggregations that no column shows,
each once. -/
def outputAliases (l : Layout) : List String :=
  (l.columns.map (·.name) ++ l.aggregations.functions.map (·.name)).eraseDups

/-- The fields of columns, filters, groups, aggregations and sort entries. -/
def fields (l : Layout) : List FieldRef :=
  l.columns.flatMap (·.expr.fields) ++ l.filters.map (·.field) ++ l.aggregations.groupBy
    ++ l.aggregations.functions.map (·.field)
    ++ l.sorting.filterMap fun s => match s.target with
      | .field f => some f
      | .output _ => none

/-- The sources whose fields occur in the layout, in ascending order. -/
def referencedSources (l : Layout) : List String :=
  (orderKeys (l.fields.map fun f => (f.source, ()))).map (·.1)

end Layout

end TenantReports
