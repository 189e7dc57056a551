import TenantReports.Proofs.Validation.Build

/-!
# The problems of each part of a draft

The walk of a draft tells the problems of its parts one after another. Which of them it looks at
depends on shapes alone: a part of the wrong shape ends the walk before the parts that need it, and
without a usable primary source only what needs no catalog is told of the parts after the sources.

## Main definitions

* `Draft.Part`: the parts of a draft, in order
* `Draft.shaped`: a part has its shape
* `Draft.primaryUsable`: the primary source is a complete one
* `Validator.problemsOf`: the problems of a part

## Main results

* `checkSources_cases`: what the check of the sources comes to
* `Validator.validate_eq`: the problems of a draft are those of its parts, in order
-/

namespace TenantReports

/-! ## Shapes -/

/-- The parts of a draft, in order. -/
inductive Draft.Part where
  | metadata
  | sources
  | columns
  | aggregations
  | filters
  | sorting
deriving DecidableEq, Repr

/-- All parts, in order. -/
def Draft.Part.all : List Draft.Part :=
  [.metadata, .sources, .columns, .aggregations, .filters, .sorting]

/-- A list, or nothing. -/
def Json.isList : Json → Bool
  | .null => true
  | .array _ => true
  | _ => false

/-- An object. -/
def Json.isObject : Json → Bool
  | .object _ => true
  | _ => false

namespace Draft

/-- A part has its shape: lists are lists or missing, the sources are an object, the aggregations
are one or missing, and a sort entry may stand by itself. -/
def shaped (d : Draft) : Part → Bool
  | .metadata => true
  | .sources => d.sources.isObject && (d.sources.get "joins").isList
  | .columns => d.columns.isList
  | .aggregations => (d.aggregations.isNull || d.aggregations.isObject)
      && (d.aggregations.get "group_by").isList && (d.aggregations.get "functions").isList
  | .filters => d.filters.isList
  | .sorting => d.sorting.isList || d.sorting.isObject

/-- The primary source is a complete one of the catalog. -/
def primaryUsable (d : Draft) (c : Catalog) : Bool :=
  match d.sources.get "primary" with
  | .string key => !Text.isBlankText key && c.isValidSource key
  | _ => false

end Draft

theorem listSection?_eq (place : Place) (expected : String) (j : Json) :
    listSection? place expected j =
      if j.isList then .ok j.items else .error (.malformed place expected) := by
  cases j <;> rfl

/-! ## Sections that have their shape -/

variable {scope : Scope} {limits : Limits} {c : Catalog} {d : Draft}

/-- Joins in the scope that a primary source opens, and the scope after them. -/
def joinSection (c : Catalog) (limits : Limits) (primary : String) (items : List Json) :
    Section Join × List String :=
  let (joins, scope) := Checked.checkAll (checkJoin c) 0 items [primary]
  (.ofItems (atMost .joins items.length limits.maxJoins) joins [], scope)

/-- Columns, of which there is at least one. -/
def columnSection (scope : Scope) (limits : Limits) (declared : List Aggregation)
    (items : List Json) : Section Column :=
  if items.isEmpty then ⟨[.noColumns], []⟩
  else .ofItems (atMost .columns items.length limits.maxColumns)
    (Checked.checkAll (checkColumn scope declared) 0 items []).1 []

/-- Groups and aggregations. -/
def aggregationSection (scope : Scope) (limits : Limits) (groups functions : List Json) :
    AggregationsOutcome :=
  let groupChecks := (Checked.checkAll (checkGroup scope) 0 groups ()).1
  let functionChecks := (Checked.checkAll (checkAggregation scope) 0 functions []).1
  { problems := atMost .aggregations functions.length limits.maxAggregations
      ++ groupChecks.flatMap Checked.problems ++ functionChecks.flatMap Checked.problems
      ++ groupingProblem groups.length functions.length
    spec := ⟨(groupChecks.filterMap Checked.value?).eraseDups,
      functionChecks.filterMap Checked.value?⟩ }

/-- Filter slots. -/
def filterSection (scope : Scope) (limits : Limits) (items : List Json) : Section FilterSlot :=
  .ofItems (atMost .filters items.length limits.maxFilters)
    (Checked.checkAll (checkFilter scope) 0 items []).1 []

/-- Sort entries. -/
def sortSection (scope : Scope) (aliases : List String) (items : List Json) :
    Section SortEntry :=
  .ofItems [] (Checked.checkAll (checkSort scope aliases) 0 items ()).1 []

theorem problems_ofItems {α : Type} (before : List Problem) (items : List (Checked α)) :
    (Section.ofItems before items []).problems = before ++ items.flatMap Checked.problems :=
  List.append_nil _

theorem checkColumns_eq (declared : List Aggregation) :
    checkColumns scope limits declared d.columns =
      if d.shaped .columns then .ok (columnSection scope limits declared d.columnItems)
      else .error (.malformed .columns "a list of columns") := by
  unfold checkColumns columnSection Draft.columnItems
  rw [listSection?_eq]
  cases h : d.columns.isList with
  | false => simp only [Draft.shaped, h]; rfl
  | true =>
    simp only [Draft.shaped, h, if_true]
    -- without an item there is one problem more
    cases d.columns.items <;> rfl

theorem checkFilters_eq :
    checkFilters scope limits d.filters =
      if d.shaped .filters then .ok (filterSection scope limits d.filterItems)
      else .error (.malformed .filters "a list of filters") := by
  unfold checkFilters
  rw [listSection?_eq]
  cases h : d.filters.isList <;> simp only [Draft.shaped, h] <;> rfl

theorem checkSorting_eq (aliases : List String) :
    checkSorting scope aliases d.sorting =
      if d.shaped .sorting then .ok (sortSection scope aliases d.sortItems)
      else .error (.malformed .sorting "a list of sort entries") := by
  unfold checkSorting Draft.shaped Draft.sortItems
  cases d.sorting <;> rfl

/-- The problems of aggregations of the wrong shape. -/
def aggregationShapes (j : Json) : List Problem :=
  if j.isNull || j.isObject then
    (if (j.get "group_by").isList then [] else [.malformed .groups "a list of fields"]) ++
      if (j.get "functions").isList then []
      else [.malformed .functions "a list of aggregation functions"]
  else [aggregationsMalformed]

theorem place_of_aggregationShapes {j : Json} {p : Problem} (hp : p ∈ aggregationShapes j) :
    ∃ place ∈ [Place.aggregations, .groups, .functions], p.place? = some place := by
  unfold aggregationShapes at hp
  split at hp
  next =>
    simp only [List.mem_append, List.mem_ite_nil_left, List.mem_singleton] at hp
    rcases hp with ⟨-, rfl⟩ | ⟨-, rfl⟩
    · exact ⟨.groups, by simp, rfl⟩
    · exact ⟨.functions, by simp, rfl⟩
  next =>
    obtain rfl := List.mem_singleton.mp hp
    exact ⟨.aggregations, by simp, rfl⟩

/-- The problem of aggregations of the wrong shape that is told in a scope: the first. -/
def aggregationsShape (j : Json) : Problem := (aggregationShapes j).headD aggregationsMalformed

theorem place_of_aggregationsShape (j : Json) :
    ∃ place ∈ [Place.aggregations, .groups, .functions],
      (aggregationsShape j).place? = some place := by
  unfold aggregationsShape
  cases h : aggregationShapes j with
  | nil => exact ⟨.aggregations, by simp, rfl⟩
  | cons p ps => exact place_of_aggregationShapes (h ▸ List.mem_cons_self)

theorem checkAggregations_eq :
    checkAggregations scope limits d.aggregations =
      if d.shaped .aggregations then
        .ok (aggregationSection scope limits d.groupItems d.functionItems)
      else .error (aggregationsShape d.aggregations) := by
  unfold checkAggregations Draft.shaped Draft.groupItems Draft.functionItems aggregationsShape
    aggregationShapes
  cases d.aggregations with
  | object entries =>
    simp only [aggregationLists, listSection?_eq, Json.get, Json.get?]
    -- the groups are looked at before the aggregations
    by_cases hgroups : ((entries.lookup "group_by").getD .null).isList = true
    · by_cases hfunctions : ((entries.lookup "functions").getD .null).isList = true
      · simp only [hgroups, hfunctions]
        rfl
      · simp only [hgroups, hfunctions]
        rfl
    · simp only [hgroups]
      rfl
  | _ => rfl

/-! ## Sources -/

/-- The problems that the check of the sources tells. -/
def SourcesOutcome.problems : SourcesOutcome → List Problem
  | .malformed problems => problems
  | .noPrimary problems => problems
  | .scoped _ joins _ => joins.problems

/-- What is wrong with the primary source; nothing is told of it if the sources are no object. -/
def primaryProblems (c : Catalog) : Json → List Problem
  | .object entries => (checkPrimary c entries).problems
  | _ => []

/-- The problem of sources of the wrong shape. -/
def sourcesShape (j : Json) : Problem :=
  if j.isObject then .malformed .joins "a list of joins"
  else .malformed .sources "an object with a primary source"

/-- What is wrong with the primary source is told of it, or of the sources if they name none. -/
theorem place_of_primaryProblems {j : Json} {p : Problem} (hp : p ∈ primaryProblems c j) :
    p.place? = some .sources ∨ p.place? = some .primary := by
  cases j with
  | object entries =>
    change p ∈ ((Checked.ofOption (nonBlank? entries "primary") _).andThen _).problems at hp
    cases hkey : nonBlank? entries "primary" with
    | none =>
      rw [hkey] at hp
      obtain rfl := List.mem_singleton.mp hp
      exact .inl rfl
    | some key =>
      rw [hkey] at hp
      simp only [Checked.ofOption, Checked.andThen] at hp
      split at hp
      next => cases hp
      next =>
        obtain rfl := List.mem_singleton.mp hp
        exact .inr rfl
  | _ => cases hp

theorem place_of_sourcesShape (j : Json) :
    (sourcesShape j).place? = some .sources ∨ (sourcesShape j).place? = some .joins := by
  unfold sourcesShape
  split
  next => exact .inr rfl
  next => exact .inl rfl

theorem primaryUsable_iff {entries : List (String × Json)} (h : d.sources = .object entries) :
    d.primaryUsable c = true ↔ ∃ key, checkPrimary c entries = .ok key := by
  simp only [checkPrimary_eq_ok, Draft.primaryUsable, nonBlank?, h, Json.get, Json.get?]
  cases entries.lookup "primary" with
  | none => simp
  | some j =>
    cases j with
    | string key => cases hblank : Text.isBlankText key <;> simp
    | _ => simp

/-- **What the check of the sources comes to**, whatever the limits: the end of the walk, a draft
without a usable primary source, or a scope. -/
theorem checkSources_cases (c : Catalog) (d : Draft) :
    (d.shaped .sources = false ∧ ∀ limits, checkSources c limits d.sources
      = .malformed (primaryProblems c d.sources ++ [sourcesShape d.sources])) ∨
    (d.shaped .sources = true ∧ d.primaryUsable c = false ∧
      ∀ limits, checkSources c limits d.sources = .noPrimary (primaryProblems c d.sources
        ++ atMost .joins d.joinItems.length limits.maxJoins)) ∨
    (d.shaped .sources = true ∧ d.primaryUsable c = true ∧
      ∃ key, ∀ limits, checkSources c limits d.sources
        = .scoped key (joinSection c limits key d.joinItems).1
            (joinSection c limits key d.joinItems).2) := by
  unfold checkSources primaryProblems sourcesShape joinSection Draft.shaped Draft.joinItems
  cases hsources : d.sources with
  | object entries =>
    simp only [listSection?_eq, Json.isObject, Bool.true_and, Json.get, Json.get?]
    by_cases hjoins : ((entries.lookup "joins").getD .null).isList = true
    · right
      cases hprimary : checkPrimary c entries with
      | bad p ps =>
        have hnot : d.primaryUsable c = false := by
          rw [← Bool.not_eq_true, primaryUsable_iff hsources, hprimary]
          simp
        simp [hjoins, hnot]
      | ok key =>
        have husable := (primaryUsable_iff hsources).mpr ⟨key, hprimary⟩
        simp only [hjoins, husable, Checked.problems_ok, List.nil_append, if_true]
        exact .inr ⟨trivial, trivial, key, fun _ => rfl⟩
    · simp [hjoins]
  | _ => simp [Json.isObject]

/-! ## Parts that need no scope -/

theorem mem_metadataProblems {p : Problem} (hp : p ∈ metadataProblems d) :
    ∃ field, p = .missingMetadata field := by
  rcases List.mem_append.mp hp with hname | hcategory
  · simp only [List.mem_ite_nil_right, List.mem_singleton] at hname
    exact ⟨_, hname.2⟩
  · simp only [List.mem_ite_nil_right, List.mem_singleton] at hcategory
    exact ⟨_, hcategory.2⟩

theorem mem_groupingProblem {groups functions : Nat} {p : Problem}
    (hp : p ∈ groupingProblem groups functions) : p = .groupByWithoutAggregations := by
  simp only [groupingProblem, List.mem_ite_nil_right, List.mem_singleton] at hp
  exact hp.2

/-- Without a scope the shapes of aggregations are told first, of both lists, then their number
and the need of grouping for them. -/
theorem unscopedAggregations_eq :
    unscopedAggregations limits d.aggregations =
      aggregationShapes d.aggregations ++
        if (d.aggregations.get "functions").isList then
          atMost .aggregations d.functionItems.length limits.maxAggregations ++
            if (d.aggregations.get "group_by").isList then
              groupingProblem d.groupItems.length d.functionItems.length
            else []
        else [] := by
  unfold unscopedAggregations aggregationShapes Draft.groupItems Draft.functionItems
  cases d.aggregations with
  | object entries =>
    simp only [aggregationLists, listSection?_eq, Json.get, Json.get?]
    by_cases hgroups : ((entries.lookup "group_by").getD .null).isList = true <;>
      by_cases hfunctions : ((entries.lookup "functions").getD .null).isList = true <;>
      simp [shapeProblem, Json.isNull, Json.isObject, hgroups, hfunctions]
  | _ => rfl

/-! ## The walk -/

/-- What is told of a part that is looked at: that it has the wrong shape, or its problems. -/
def told (shaped : Bool) (shape : Problem) (problems : List Problem) : List Problem :=
  if shaped then problems else [shape]

/-- What is told of a part without a primary source. -/
def unscopedPart (limits : Limits) (d : Draft) : Draft.Part → List Problem
  | .columns => told (d.shaped .columns) (.malformed .columns "a list of columns")
      ((if d.columnItems.isEmpty then [.noColumns] else [])
        ++ atMost .columns d.columnItems.length limits.maxColumns)
  | .aggregations => unscopedAggregations limits d.aggregations
  | .filters => told (d.shaped .filters) (.malformed .filters "a list of filters")
      (atMost .filters d.filterItems.length limits.maxFilters)
  | _ => []

namespace Validator

/-- The aggregations that columns may show. -/
def declared (v : Validator) (d : Draft) (scope : Scope) : List Aggregation :=
  if d.shaped .aggregations then
    (aggregationSection scope v.limits d.groupItems d.functionItems).spec.functions
  else []

/-- The aliases that sort entries may name. -/
def aliases (v : Validator) (d : Draft) (scope : Scope) : List String :=
  (columnSection scope v.limits (v.declared d scope) d.columnItems).values.map (·.name)
    ++ (v.declared d scope).map (·.name)

/-- What is told of a part in a scope. Filters and sort entries are looked at after parts that have
their shape. -/
def scopedPart (v : Validator) (d : Draft) (scope : Scope) : Draft.Part → List Problem
  | .columns => told (d.shaped .columns) (.malformed .columns "a list of columns")
      (columnSection scope v.limits (v.declared d scope) d.columnItems).problems
  | .aggregations => told (d.shaped .aggregations) (aggregationsShape d.aggregations)
      (aggregationSection scope v.limits d.groupItems d.functionItems).problems
  | .filters =>
    if d.shaped .columns && d.shaped .aggregations then
      told (d.shaped .filters) (.malformed .filters "a list of filters")
        (filterSection scope v.limits d.filterItems).problems
    else []
  | .sorting =>
    if d.shaped .columns && d.shaped .aggregations && d.shaped .filters then
      told (d.shaped .sorting) (.malformed .sorting "a list of sort entries")
        (sortSection scope (v.aliases d scope) d.sortItems).problems
    else []
  | _ => []

/-- The problems of a part after the sources, by what the check of these came to. -/
def problemsAfter (v : Validator) (d : Draft) (t : Draft.Part) : SourcesOutcome → List Problem
  | .malformed _ => []
  | .noPrimary _ => unscopedPart v.limits d t
  | .scoped _ _ scope => v.scopedPart d ⟨v.catalog, scope⟩ t

/-- The problems of a part of a draft. -/
def problemsOf (v : Validator) (d : Draft) (full : Bool) : Draft.Part → List Problem
  | .metadata => if full then metadataProblems d else []
  | .sources => (checkSources v.catalog v.limits d.sources).problems
  | t => v.problemsAfter d t (checkSources v.catalog v.limits d.sources)

theorem unscopedProblems_eq :
    unscopedProblems limits d = unscopedPart limits d .columns
      ++ unscopedPart limits d .aggregations ++ unscopedPart limits d .filters := by
  unfold unscopedProblems unscopedPart told
  rw [listSection?_eq, listSection?_eq]
  cases hcolumns : d.columns.isList <;> cases hfilters : d.filters.isList <;>
    simp [Draft.shaped, Draft.columnItems, Draft.filterItems, hcolumns, hfilters]

theorem checkScoped_problems (v : Validator) (d : Draft) (before : List Problem)
    (sources : Sources) (scope : Scope) :
    (v.checkScoped d before sources scope).problems = before ++ v.scopedPart d scope .columns
      ++ v.scopedPart d scope .aggregations ++ v.scopedPart d scope .filters
      ++ v.scopedPart d scope .sorting := by
  unfold checkScoped scopedPart aliases declared told
  simp only [checkAggregations_eq, checkColumns_eq, checkFilters_eq, checkSorting_eq]
  -- aggregations and columns are told together, the other two if the parts before have their shape
  cases haggregations : d.shaped .aggregations <;> cases hcolumns : d.shaped .columns
  · simp
  · simp
  · simp
  · cases hfilters : d.shaped .filters with
    | false => simp
    | true => cases hsorting : d.shaped .sorting <;> simp

/-- **The problems of a draft are those of its parts, in order.** -/
theorem validate_eq (v : Validator) (d : Draft) (full : Bool) :
    v.validate d full = Draft.Part.all.flatMap (v.problemsOf d full) := by
  unfold validate check Draft.Part.all problemsOf problemsAfter
  match checkSources v.catalog v.limits d.sources with
  | .malformed problems => simp [SourcesOutcome.problems]
  | .noPrimary problems => simp [SourcesOutcome.problems, unscopedProblems_eq, unscopedPart]
  | .scoped primary joins scope => simp [SourcesOutcome.problems, checkScoped_problems]

end Validator

end TenantReports
