import TenantReports.Report.Layout
import TenantReports.Validation.Scope

/-!
# Checking aggregations

Rows are grouped by fields in scope, each counted once. Every aggregation has a function, a field
that permits it, and an alias of its own. Grouping needs at least one aggregation.

## Main definitions

* `permitAggregate`: a field may be aggregated by a function
* `checkAggregation`: one aggregation
* `checkAggregations`: the section
-/

namespace TenantReports

/-- The name an aggregation has unless another is given. -/
def defaultAggregateAlias (function : Aggregate) (field : FieldRef) : String :=
  Named.name function ++ "_" ++ field.defaultAlias

/-- Anything may be counted; other functions need a field that is aggregatable. -/
def permitAggregate (place : Place) (function : Aggregate) (r : Resolved) : Checked Unit :=
  .require (function = .count || r.field.aggregatable)
    (.notPermitted place r.ref.fullName .aggregatable)

/-- The function of an aggregation. -/
def aggregateFunction (place : Place) (entries : List (String × Json)) : Checked Aggregate :=
  match given? entries "function" with
  | none => .fail (.missingValue place "function")
  | some j =>
    .ofOption (j.asString?.bind Named.parse?) (.invalidValue place "aggregate function" j)

/-- The alias of an aggregation: the one given, or the default one, which is empty as long as the
function or the field is not known. -/
def aggregateAlias (place : Place) (entries : List (String × Json)) (function : Option Aggregate)
    (field : Option Resolved) : Checked String :=
  match given? entries "alias" with
  | some j => .ofOption (identifier? j) (.invalidValue place "alias" j)
  | none => .ok (match function, field with
    | some f, some r => defaultAggregateAlias f r.ref
    | _, _ => "")

/-- An aggregation, and the aliases that aggregations have so far. -/
def checkAggregation (scope : Scope) (index : Nat) (item : Json) (aliases : List String) :
    Checked Aggregation × List String :=
  let place := Place.function index
  match item with
  | .object entries =>
    let function := aggregateFunction place entries
    let field := (requiredText place entries "field").andThen (scope.resolve place)
    let permitted := match function.value?, field.value? with
      | some f, some r => permitAggregate place f r
      | _, _ => .ok ()
    let named := aggregateAlias place entries function.value? field.value?
    let name := named.value?.getD ""
    let fresh := Checked.require (!aliases.contains name) (.duplicateAlias place name)
    let checked := (fun f (r : Resolved) () name () => (⟨r.ref, f, name⟩ : Aggregation))
      <$> function <*> field <*> permitted <*> named <*> fresh
    (checked, if name = "" || aliases.contains name then aliases else aliases ++ [name])
  | _ => (.fail (.malformed place "an aggregation object"), aliases)

/-- A field to group by. -/
def checkGroup (scope : Scope) (index : Nat) (item : Json) (_ : Unit) : Checked FieldRef × Unit :=
  let place := Place.group index
  (match item with
    | .string name => (·.ref) <$> scope.resolve place name
    | j => .fail (.invalidValue place "field" j), ())

/-- Grouping without an aggregation. -/
def groupingProblem (groups functions : Nat) : List Problem :=
  if 0 < groups && functions == 0 then [.groupByWithoutAggregations] else []

/-- What the check of the aggregations comes to. -/
structure AggregationsOutcome where
  problems : List Problem
  spec : Aggregations

/-- The two lists of the section. -/
def aggregationLists (entries : List (String × Json)) :
    Except Problem (List Json) × Except Problem (List Json) :=
  (listSection? .groups "a list of fields" ((entries.lookup "group_by").getD .null),
    listSection? .functions "a list of aggregation functions"
      ((entries.lookup "functions").getD .null))

/-- The problem of a section of aggregations that is no object. -/
def aggregationsMalformed : Problem :=
  .malformed .aggregations "an object with group_by and functions"

/-- The aggregations, or the problem that the section has the wrong shape. -/
def checkAggregations (scope : Scope) (limits : Limits) :
    Json → Except Problem AggregationsOutcome
  | .null => .ok ⟨[], {}⟩
  | .object entries => do
    let (groups, functions) := aggregationLists entries
    let groupItems ← groups
    let functionItems ← functions
    let (groups, _) := Checked.checkAll (checkGroup scope) 0 groupItems ()
    let (functions, _) := Checked.checkAll (checkAggregation scope) 0 functionItems []
    return {
      problems := atMost .aggregations functionItems.length limits.maxAggregations
        ++ groups.flatMap Checked.problems ++ functions.flatMap Checked.problems
        ++ groupingProblem groupItems.length functionItems.length
      spec := ⟨(groups.filterMap Checked.value?).eraseDups, functions.filterMap Checked.value?⟩ }
  | _ => .error aggregationsMalformed

end TenantReports
