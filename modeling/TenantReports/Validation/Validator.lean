import TenantReports.Report.Draft
import TenantReports.Validation.Columns
import TenantReports.Validation.Filters
import TenantReports.Validation.Joins

/-!
# Validating drafts

All problems of a draft are found in one walk, in the order of its sections. A section of the
wrong shape ends the walk, as the sections after it cannot be resolved. Without a primary source
only shapes, numbers and the need of grouping for an aggregation are checked.

## Main definitions

* `Validator`: a catalog and limits
* `Validator.check`: the problems of a draft and, if there are none, its layout
* `Validator.validate`: the problems alone
* `Validator.build`: the layout, or the problems
-/

namespace TenantReports

/-- What drafts are checked against. -/
structure Validator where
  catalog : Catalog
  limits : Limits := {}

/-- The problems of a draft and, if there are none, its layout. -/
structure Verdict where
  problems : List Problem
  layout : Option Layout

/-- The problem of a section that has the wrong shape, if it has. -/
def shapeProblem {α : Type} : Except Problem α → List Problem
  | .error p => [p]
  | .ok _ => []

/-- The name and the category are required to have more than blanks. -/
def metadataProblems (d : Draft) : List Problem :=
  let missing := fun (field : String) (value : Option String) =>
    if value.all Text.isBlankText then [Problem.missingMetadata field] else []
  missing "name" d.name ++ missing "category" d.category

/-- What can be told of the aggregations without a primary source. -/
def unscopedAggregations (limits : Limits) : Json → List Problem
  | .null => []
  | .object entries =>
    let (groups, functions) := aggregationLists entries
    shapeProblem groups ++ shapeProblem functions ++ match functions with
      | .error _ => []
      | .ok fs => atMost .aggregations fs.length limits.maxAggregations ++ match groups with
        | .error _ => []
        | .ok gs => groupingProblem gs.length fs.length
  | _ => [aggregationsMalformed]

/-- What can be told of the later sections without a primary source. -/
def unscopedProblems (limits : Limits) (d : Draft) : List Problem :=
  (match listSection? .columns "a list of columns" d.columns with
    | .error p => [p]
    | .ok items =>
      (if items.isEmpty then [.noColumns] else [])
        ++ atMost .columns items.length limits.maxColumns)
  ++ unscopedAggregations limits d.aggregations
  ++ (match listSection? .filters "a list of filters" d.filters with
    | .error p => [p]
    | .ok items => atMost .filters items.length limits.maxFilters)

namespace Validator

/-- The sections after the sources, and the layout if nothing at all is wrong. Aggregations are
checked first, as columns may show them, but their problems come after those of the columns. -/
def checkScoped (v : Validator) (d : Draft) (before : List Problem) (sources : Sources)
    (scope : Scope) : Verdict :=
  let aggregations := checkAggregations scope v.limits d.aggregations
  let declared := match aggregations with
    | .ok a => a.spec.functions
    | .error _ => []
  let columns := checkColumns scope v.limits declared d.columns
  match columns, aggregations with
  | .error p, .error q => ⟨before ++ [p] ++ [q], none⟩
  | .error p, .ok a => ⟨before ++ [p] ++ a.problems, none⟩
  | .ok c, .error q => ⟨before ++ c.problems ++ [q], none⟩
  | .ok c, .ok a =>
    let before := before ++ c.problems ++ a.problems
    match checkFilters scope v.limits d.filters with
    | .error p => ⟨before ++ [p], none⟩
    | .ok f =>
      let before := before ++ f.problems
      let aliases := c.values.map (·.name) ++ a.spec.functions.map (·.name)
      match checkSorting scope aliases d.sorting with
      | .error p => ⟨before ++ [p], none⟩
      | .ok s =>
        let problems := before ++ s.problems
        ⟨problems, if problems.isEmpty then
          some ⟨sources, c.values, f.values, a.spec, s.values⟩ else none⟩

/-- The problems of a draft and, if there are none, its layout. With `full` the metadata is
required too. -/
def check (v : Validator) (d : Draft) (full : Bool) : Verdict :=
  let metadata := if full then metadataProblems d else []
  match checkSources v.catalog v.limits d.sources with
  | .malformed problems => ⟨metadata ++ problems, none⟩
  | .noPrimary problems => ⟨metadata ++ problems ++ unscopedProblems v.limits d, none⟩
  | .scoped primary joins scope =>
    v.checkScoped d (metadata ++ joins.problems) ⟨primary, joins.values⟩ ⟨v.catalog, scope⟩

/-- The problems of a draft. It is valid if there are none. -/
def validate (v : Validator) (d : Draft) (full : Bool) : List Problem := (v.check d full).problems

/-- The layout of a draft, or its problems. -/
def build (v : Validator) (d : Draft) (full : Bool) : Except (List Problem) Layout :=
  match v.check d full with
  | ⟨[], some layout⟩ => .ok layout
  | verdict => .error verdict.problems

end Validator

end TenantReports
