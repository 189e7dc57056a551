import TenantReports.Proofs.Validation.Columns
import TenantReports.Proofs.Validation.Filters
import TenantReports.Proofs.Validation.Joins
import TenantReports.Validation.Validator

/-!
# Building a layout

A draft has a layout exactly if it has no problems. Then every item of every section has passed
its check, with one part of the layout for each item, in order.

## Main definitions

* `Layout.scope`, `Layout.outputNames`: what the checks of the later sections know
* `Validator.Passed`: the items of all sections pass, to the parts of a layout
* `shop`, `salesDraft`, `salesLayout`: a catalog, a draft and its layout

## Main results

* `Validator.check_cases`: a draft has a problem, or its items pass to a layout
* `Validator.build_eq_ok`, `Validator.build_eq_error`: when a layout is built, and when not
* `Validator.passed_of_build`: what a layout that is built comes from
-/

namespace TenantReports

open Checked (Passes)

/-- The catalog and the sources of a layout. -/
def Layout.scope (l : Layout) (c : Catalog) : Scope := ⟨c, l.sources.inScope⟩

/-- The aliases that a sort entry of a layout may name: those of columns and of aggregations. -/
def Layout.outputNames (l : Layout) : List String :=
  l.columns.map (·.name) ++ l.aggregations.functions.map (·.name)

namespace Validator

/-- **The items of all sections of a draft pass** to the parts of a layout: each in the scope of
its section, and no section longer than its limit. -/
structure Passed (v : Validator) (d : Draft) (l : Layout) : Prop where
  primary_valid : v.catalog.isValidSource l.sources.primary = true
  joins : Passes (checkJoin v.catalog) 0 d.joinItems [l.sources.primary] l.sources.joins
    l.sources.inScope
  joins_le : d.joinItems.length ≤ v.limits.maxJoins
  groups : ∃ groups, l.aggregations.groupBy = groups.eraseDups ∧
    Passes (checkGroup (l.scope v.catalog)) 0 d.groupItems () groups ()
  grouping : d.groupItems ≠ [] → d.functionItems ≠ []
  functions : ∃ names, Passes (checkAggregation (l.scope v.catalog)) 0 d.functionItems []
    l.aggregations.functions names
  functions_le : d.functionItems.length ≤ v.limits.maxAggregations
  columns : ∃ used, Passes (checkColumn (l.scope v.catalog) l.aggregations.functions) 0
    d.columnItems [] l.columns used
  columns_ne_nil : d.columnItems ≠ []
  columns_le : d.columnItems.length ≤ v.limits.maxColumns
  filters : ∃ seen, Passes (checkFilter (l.scope v.catalog)) 0 d.filterItems [] l.filters seen
  filters_le : d.filterItems.length ≤ v.limits.maxFilters
  sorting : Passes (checkSort (l.scope v.catalog) l.outputNames) 0 d.sortItems () l.sorting ()

variable {v : Validator} {d : Draft} {full : Bool}

/-! ## Problems and layouts -/

/-- Sources of the wrong shape have a problem. -/
theorem malformed_ne_nil {c : Catalog} {limits : Limits} {sources : Json}
    {problems : List Problem} (h : checkSources c limits sources = .malformed problems) :
    problems ≠ [] := by
  rintro rfl
  unfold checkSources at h
  cases sources with
  | object entries =>
    simp only at h
    split at h
    next => simp at h
    next => cases hprimary : checkPrimary c entries <;> simp [hprimary] at h
  | _ => simp at h

/-- Sources without a primary one have a problem. -/
theorem noPrimary_ne_nil {c : Catalog} {limits : Limits} {sources : Json}
    {problems : List Problem} (h : checkSources c limits sources = .noPrimary problems) :
    problems ≠ [] := by
  rintro rfl
  unfold checkSources at h
  cases sources with
  | object entries =>
    simp only at h
    split at h
    next => cases h
    next => cases hprimary : checkPrimary c entries <;> simp [hprimary] at h
  | _ => simp at h

/-- Scoped sections have a problem, or all pass without one and have a layout. -/
theorem checkScoped_cases (v : Validator) (d : Draft) (before : List Problem) (sources : Sources)
    (scope : Scope) :
    ((v.checkScoped d before sources scope).problems ≠ [] ∧
      (v.checkScoped d before sources scope).layout = none) ∨
    ∃ a cols f s, before = [] ∧
      (checkAggregations scope v.limits d.aggregations = .ok a ∧ a.problems = []) ∧
      (checkColumns scope v.limits a.spec.functions d.columns = .ok cols ∧ cols.problems = []) ∧
      (checkFilters scope v.limits d.filters = .ok f ∧ f.problems = []) ∧
      (checkSorting scope (cols.values.map (·.name) ++ a.spec.functions.map (·.name)) d.sorting
        = .ok s ∧ s.problems = []) ∧
      v.checkScoped d before sources scope =
        ⟨[], some ⟨sources, cols.values, f.values, a.spec, s.values⟩⟩ := by
  unfold checkScoped
  -- a section of the wrong shape ends the walk with its problem and without a layout
  cases ha : checkAggregations scope v.limits d.aggregations with
  | error q =>
    left
    -- the columns are checked all the same, with no aggregations to show
    cases hc : checkColumns scope v.limits [] d.columns <;> simp [hc]
  | ok a =>
    cases hc : checkColumns scope v.limits a.spec.functions d.columns with
    | error p => left; simp [hc]
    | ok cols =>
      cases hf : checkFilters scope v.limits d.filters with
      | error p => left; simp [hc]
      | ok f =>
        cases hs : checkSorting scope
            (cols.values.map (·.name) ++ a.spec.functions.map (·.name)) d.sorting with
        | error p => left; simp [hc, hs]
        | ok s =>
          -- all sections have their shape: the layout is there exactly without problems
          simp only [hc, hs, List.isEmpty_iff]
          by_cases hnil : before ++ cols.problems ++ a.problems ++ f.problems ++ s.problems = []
          · right
            have hparts := hnil
            simp only [List.append_eq_nil_iff] at hparts
            obtain ⟨⟨⟨⟨hbefore, hcols⟩, haggregations⟩, hfilters⟩, hsorting⟩ := hparts
            exact ⟨a, cols, f, s, hbefore, ⟨rfl, haggregations⟩, ⟨hc, hcols⟩, ⟨rfl, hfilters⟩,
              ⟨hs, hsorting⟩, by rw [if_pos hnil, hnil]⟩
          · left
            rw [if_neg hnil]
            exact ⟨hnil, rfl⟩

/-- **The walk of a draft** ends with a problem and no layout, or with no problem and the layout
that all its items pass to. -/
theorem check_cases (v : Validator) (d : Draft) (full : Bool) :
    ((v.check d full).problems ≠ [] ∧ (v.check d full).layout = none) ∨
      ∃ l, v.check d full = ⟨[], some l⟩ ∧ v.Passed d l := by
  unfold check
  match hsources : checkSources v.catalog v.limits d.sources with
  | .malformed problems =>
    have hne := malformed_ne_nil hsources
    left
    simp [hne]
  | .noPrimary problems =>
    have hne := noPrimary_ne_nil hsources
    left
    simp [hne]
  | .scoped primary joins scope =>
    simp only
    rcases checkScoped_cases v d ((if full then metadataProblems d else []) ++ joins.problems)
        ⟨primary, joins.values⟩ ⟨v.catalog, scope⟩ with
      hproblem | ⟨a, cols, f, s, hbefore, ⟨ha, haok⟩, ⟨hc, hcok⟩, ⟨hf, hfok⟩, ⟨hs, hsok⟩, heq⟩
    · exact .inl hproblem
    · refine .inr ⟨_, heq, ?_⟩
      rw [List.append_eq_nil_iff] at hbefore
      obtain ⟨hprimary, hjoinsLe, hjoins⟩ := checkSources_ok hsources hbefore.2
      obtain ⟨hfunctionsLe, hgrouping, hgroups, hfunctions⟩ := checkAggregations_ok ha haok
      obtain ⟨hcolumnsNe, hcolumnsLe, hcolumns⟩ := checkColumns_ok hc hcok
      obtain ⟨hfiltersLe, hfilters⟩ := checkFilters_ok hf hfok
      -- the scope that the walk carries is that of the layout
      obtain rfl : scope = primary :: joins.values.map (·.table) := (scope_of_joins hjoins).1
      exact {
        primary_valid := hprimary
        joins := hjoins
        joins_le := hjoinsLe
        groups := hgroups
        grouping := hgrouping
        functions := hfunctions
        functions_le := hfunctionsLe
        columns := hcolumns
        columns_ne_nil := hcolumnsNe
        columns_le := hcolumnsLe
        filters := hfilters
        filters_le := hfiltersLe
        sorting := checkSorting_ok hs hsok }

/-- A layout is built exactly if the walk ends with it. -/
theorem build_eq_ok {l : Layout} : v.build d full = .ok l ↔ v.check d full = ⟨[], some l⟩ := by
  unfold build
  rcases check_cases v d full with ⟨hne, hnone⟩ | ⟨l', heq, -⟩
  · generalize v.check d full = verdict at hnone ⊢
    obtain ⟨problems, layout⟩ := verdict
    obtain rfl : layout = none := hnone
    simp
  · simp [heq]

/-- The problems of a failed build are those of the walk, and there is one. -/
theorem build_eq_error {problems : List Problem} :
    v.build d full = .error problems ↔ problems = v.validate d full ∧ problems ≠ [] := by
  unfold build validate
  rcases check_cases v d full with ⟨hne, hnone⟩ | ⟨l', heq, -⟩
  · generalize v.check d full = verdict at hne hnone ⊢
    obtain ⟨found, layout⟩ := verdict
    obtain rfl : layout = none := hnone
    simp only [Except.error.injEq]
    exact ⟨fun h => h ▸ ⟨rfl, hne⟩, fun h => h.1.symm⟩
  · simp [heq]

/-- A layout that is built is what the items of the draft pass to. -/
theorem passed_of_build {l : Layout} (h : v.build d full = .ok l) : v.Passed d l := by
  rw [build_eq_ok] at h
  rcases check_cases v d full with ⟨-, hnone⟩ | ⟨l', heq, hpassed⟩
  -- a walk with a problem has no layout
  · rw [h] at hnone
    cases hnone
  · rw [h] at heq
    cases heq
    exact hpassed

end Validator

/-! ## A shop

Orders and the customers they come from; the table of customers has another name than their
source. -/

/-- Orders and customers. -/
def shop : Catalog where
  sources := [
    { key := "customers", label := "Customers", category := "sales", table := "people",
      model := "Customer", tenantColumn := "org",
      fields := [
        { key := "id", label := "Id", type := .number },
        { key := "name", label := "Name", type := .text, filterable := true, sortable := true }],
      relations := [] },
    { key := "orders", label := "Orders", category := "sales", table := "orders",
      model := "Order", tenantColumn := "org",
      fields := [
        { key := "customer", label := "Customer", type := .number },
        { key := "total", label := "Total", type := .number, aggregatable := true }],
      relations := [] }]

/-- What every customer has ordered, with the greatest sum first. -/
def salesDraft : Draft where
  sources := .object [
    ("joins", .array [.object [
      ("on", .array [.string "orders.customer", .string "customers.id"]),
      ("table", .string "customers"), ("type", .string "left")]]),
    ("primary", .string "orders")]
  columns := .array [
    .object [
      ("expression", .object [
        ("args", .array [.object [("field", .string "customers.name")]]),
        ("function", .string "upper")]),
      ("label", .string "Customer")],
    .object [("field", .string "revenue"), ("label", .string "Revenue")]]
  filters := .array [.object [("field", .string "customers.name"), ("type", .string "text")]]
  aggregations := .object [
    ("functions", .array [.object [
      ("alias", .string "revenue"), ("field", .string "orders.total"),
      ("function", .string "sum")]]),
    ("group_by", .array [.string "customers.name"])]
  sorting := .array [.object [("direction", .string "desc"), ("field", .string "revenue")]]

/-- The layout of `salesDraft`. -/
def salesLayout : Layout where
  sources := ⟨"orders", [⟨"customers", .left, ⟨"orders", "customer"⟩, ⟨"customers", "id"⟩⟩]⟩
  columns := [
    ⟨.call .upper [.field ⟨"customers", "name"⟩], "Customer", .text, none, "column_0"⟩,
    ⟨.field ⟨"orders", "total"⟩, "Revenue", .number, some .sum, "revenue"⟩]
  filters := [⟨⟨"customers", "name"⟩, "Name", .text, false, []⟩]
  aggregations := ⟨[⟨"customers", "name"⟩], [⟨⟨"orders", "total"⟩, .sum, "revenue"⟩]⟩
  sorting := [⟨.output "revenue", .desc⟩]

theorem build_salesDraft : (⟨shop, {}⟩ : Validator).build salesDraft false = .ok salesLayout := rfl

end TenantReports
