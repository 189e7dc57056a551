import TenantReports.Json.Printer
import TenantReports.Report.Vocabulary

/-!
# What can be wrong with a draft

A problem says what is wrong and, unless it concerns a whole section, where.

## Main definitions

* `Place`: a section of a draft, or an item of a section
* `Capability`: what a field can be used for
* `ExprProblem`: what can be wrong with the expression of a column
* `Problem`: what can be wrong with a draft
* `Problem.code`, `Problem.message`, `Problem.place?`: how a problem is told
* `Problem.toJson`: a problem as a record
-/

namespace TenantReports

/-- A section of a draft, or an item of a section by its index. -/
inductive Place where
  | sources
  | primary
  | joins
  | join (index : Nat)
  | columns
  | column (index : Nat)
  | aggregations
  | groups
  | group (index : Nat)
  | functions
  | function (index : Nat)
  | filters
  | filter (index : Nat)
  | sorting
  | sort (index : Nat)
deriving DecidableEq, Repr

/-- An item of a list, by its index. -/
def itemText (list : String) (index : Nat) : String :=
  list ++ "[" ++ Json.intText index ++ "]"

/-- How a place is told. -/
def Place.text : Place → String
  | .sources => "data_sources"
  | .primary => "data_sources.primary"
  | .joins => "data_sources.joins"
  | .join i => itemText "joins" i
  | .columns => "columns"
  | .column i => itemText "columns" i
  | .aggregations => "aggregations"
  | .groups => "aggregations.group_by"
  | .group i => itemText "group_by" i
  | .functions => "aggregations.functions"
  | .function i => itemText "aggregations" i
  | .filters => "filters"
  | .filter i => itemText "filters" i
  | .sorting => "sorting"
  | .sort i => itemText "sorting" i

/-- What a field can be used for. -/
inductive Capability where
  | filterable
  | sortable
  | aggregatable
deriving DecidableEq, Repr

/-- How a capability is told. -/
def Capability.text : Capability → String
  | .filterable => "filterable"
  | .sortable => "sortable"
  | .aggregatable => "aggregatable"

/-- The sections whose length is limited. -/
inductive Counted where
  | joins
  | columns
  | aggregations
  | filters
deriving DecidableEq, Repr

/-- How a limited section is told. -/
def Counted.text : Counted → String
  | .joins => "joins"
  | .columns => "columns"
  | .aggregations => "aggregations"
  | .filters => "filters"

/-- What can be wrong with the expression of a column. -/
inductive ExprProblem where
  | aggregated
  | tooDeep
  | noExpression
  | fieldNotText
  | literalNotScalar
  | unknownFunction (name : Json)
  | argsNotList
  | wrongArity (function : ScalarFunction) (count : Nat)

/-- How a fault of an expression is told. -/
def ExprProblem.message : ExprProblem → String
  | .aggregated => "aggregations apply to plain fields only"
  | .tooDeep => "expression is nested too deeply"
  | .noExpression => "expected an object with 'field', 'value' or 'function'"
  | .fieldNotText => "'field' must be a source.field name"
  | .literalNotScalar => "literal values must be scalars"
  | .unknownFunction name => "function " ++ name.compact ++ " is not allowed"
  | .argsNotList => "'args' must be a list"
  | .wrongArity f count =>
    f.sqlName ++ " takes " ++ Json.intText f.arity.1 ++ "..=" ++ Json.intText f.arity.2
      ++ " arguments, got " ++ Json.intText count

/-- What can be wrong with a draft. -/
inductive Problem where
  | missingMetadata (field : String)
  | malformed (place : Place) (expected : String)
  | missingValue (place : Place) (key : String)
  | invalidValue (place : Place) (what : String) (value : Json)
  | unknownSource (place : Place) (source : String)
  | unknownField (place : Place) (field : String)
  | outOfScope (place : Place) (field : String)
  | notPermitted (place : Place) (field : String) (capability : Capability)
  | tooMany (section? : Counted) (count max : Nat)
  | noColumns
  | invalidJoinCondition (place : Place)
  | duplicateJoin (place : Place) (table : String)
  | duplicateAlias (place : Place) (name : String)
  | duplicateFilter (place : Place) (field : String)
  | groupByWithoutAggregations
  | invalidExpression (place : Place) (cause : ExprProblem)

namespace Problem

/-- The name of the kind of problem. -/
def code : Problem → String
  | .missingMetadata _ => "MissingMetadata"
  | .malformed _ _ => "Malformed"
  | .missingValue _ _ => "MissingValue"
  | .invalidValue _ _ _ => "InvalidValue"
  | .unknownSource _ _ => "UnknownSource"
  | .unknownField _ _ => "UnknownField"
  | .outOfScope _ _ => "OutOfScope"
  | .notPermitted _ _ _ => "NotPermitted"
  | .tooMany _ _ _ => "TooMany"
  | .noColumns => "NoColumns"
  | .invalidJoinCondition _ => "InvalidJoinCondition"
  | .duplicateJoin _ _ => "DuplicateJoin"
  | .duplicateAlias _ _ => "DuplicateAlias"
  | .duplicateFilter _ _ => "DuplicateFilter"
  | .groupByWithoutAggregations => "GroupByWithoutAggregations"
  | .invalidExpression _ _ => "InvalidExpression"

/-- Where the problem is, unless it concerns a whole section. -/
def place? : Problem → Option Place
  | .malformed p _ | .missingValue p _ | .invalidValue p _ _ | .unknownSource p _
  | .unknownField p _ | .outOfScope p _ | .notPermitted p _ _ | .invalidJoinCondition p
  | .duplicateJoin p _ | .duplicateAlias p _ | .duplicateFilter p _ | .invalidExpression p _ =>
    some p
  | .missingMetadata _ | .tooMany _ _ _ | .noColumns | .groupByWithoutAggregations => none

/-- A text as it is, any other value as JSON. -/
def valueText : Json → String
  | .string s => s
  | j => j.compact

/-- What is wrong, without the place. -/
def description : Problem → String
  | .missingMetadata field => field ++ " is required"
  | .malformed _ expected => "expected " ++ expected
  | .missingValue _ key => "'" ++ key ++ "' is required"
  | .invalidValue _ what value => "invalid " ++ what ++ " '" ++ valueText value ++ "'"
  | .unknownSource _ source => "unknown data source '" ++ source ++ "'"
  | .unknownField _ field => "unknown field '" ++ field ++ "'"
  | .outOfScope _ field => "field '" ++ field ++ "' does not belong to a selected data source"
  | .notPermitted _ field capability => "field '" ++ field ++ "' is not " ++ capability.text
  | .tooMany s count max =>
    s.text ++ ": " ++ Json.intText count ++ " entries exceed the limit of " ++ Json.intText max
  | .noColumns => "columns: at least one column is required"
  | .invalidJoinCondition _ => "join condition must name exactly two fields"
  | .duplicateJoin _ table => "'" ++ table ++ "' is already part of the report"
  | .duplicateAlias _ name => "alias '" ++ name ++ "' is already used"
  | .duplicateFilter _ field => "a filter on '" ++ field ++ "' is already declared"
  | .groupByWithoutAggregations =>
    "aggregations: group_by requires at least one aggregation function"
  | .invalidExpression _ cause => cause.message

/-- The place, if there is one, and what is wrong. -/
def message (p : Problem) : String :=
  match p.place? with
  | some place => place.text ++ ": " ++ p.description
  | none => p.description

/-- A section has more entries than it may have. -/
def isTooMany : Problem → Bool
  | .tooMany _ _ _ => true
  | _ => false

/-- A problem as a record of its kind, its place and its message. -/
def toJson (p : Problem) : Json :=
  .object [("kind", .string p.code), ("path", .ofString? (p.place?.map Place.text)),
    ("message", .string p.message)]

end Problem

end TenantReports
