import TenantReports.Proofs.Validation.Build

/-!
# Layouts that are built are admissible

Whatever the JSON of a draft, a layout that is built of it stays inside the catalog and the
limits. Everything after validation may rely on that.

## Main definitions

* `Sources.scopeAfter`: the sources in scope after some joins
* `Layout.Admissible`: the sources of a layout are complete and distinct, its sections are within
  the limits, and its fields are in scope and permit what the layout does with them

## Main results

* `Validator.Passed.admissible`: a layout whose items pass is admissible
* `build_within_catalog`: so is a layout that is built; its stated conditions know only the sources
  up to their join, and its derived columns are not aggregated
-/

namespace TenantReports

/-- The sources in scope after the first joins. -/
def Sources.scopeAfter (s : Sources) (n : Nat) : List String :=
  s.primary :: (s.joins.take n).map (·.table)

/-- Where the fields of a layout come from. -/
theorem Layout.mem_fields {l : Layout} {f : FieldRef} :
    f ∈ l.fields ↔
      (∃ col ∈ l.columns, f ∈ col.expr.fields) ∨ (∃ slot ∈ l.filters, slot.field = f) ∨
        f ∈ l.aggregations.groupBy ∨ (∃ a ∈ l.aggregations.functions, a.field = f) ∨
        ∃ entry ∈ l.sorting, entry.target = .field f := by
  simp only [Layout.fields, List.mem_append, List.mem_flatMap, List.mem_map, List.mem_filterMap,
    or_assoc]
  refine or_congr_right (or_congr_right (or_congr_right (or_congr_right ?_)))
  refine exists_congr fun entry => and_congr_right fun _ => ?_
  cases entry.target <;> simp

/-- **A layout stays inside a catalog and limits.** -/
structure Layout.Admissible (c : Catalog) (limits : Limits) (l : Layout) : Prop where
  sources_valid : ∀ key ∈ l.sources.inScope, c.isValidSource key = true
  sources_nodup : l.sources.inScope.Nodup
  joins_le : l.sources.joins.length ≤ limits.maxJoins
  columns_ne_nil : l.columns ≠ []
  columns_le : l.columns.length ≤ limits.maxColumns
  functions_le : l.aggregations.functions.length ≤ limits.maxAggregations
  filters_le : l.filters.length ≤ limits.maxFilters
  /-- Every field of the layout, at any depth of an expression, is declared and in scope. -/
  fields_resolve : ∀ f ∈ l.fields, c.Resolves l.sources.inScope f
  filters_filterable : ∀ slot ∈ l.filters,
    c.isFilterable slot.field.source slot.field.field = true
  filters_nodup : (l.filters.map (·.field)).Nodup
  sorting_sortable : ∀ entry ∈ l.sorting, ∀ f, entry.target = .field f →
    c.isSortable f.source f.field = true
  sorting_named : ∀ entry ∈ l.sorting, ∀ name, entry.target = .output name →
    name ∈ l.outputNames
  functions_permitted : ∀ a ∈ l.aggregations.functions, c.Permits a.function a.field
  /-- Only plain fields are aggregated, in columns too. -/
  columns_permitted : ∀ col ∈ l.columns, ∀ g, col.aggregate = some g →
    ∃ f, col.expr = .field f ∧ c.Permits g f
  grouping : l.aggregations.groupBy ≠ [] → l.aggregations.functions ≠ []
  exprs_wellFormed : ∀ col ∈ l.columns, col.expr.WellFormed
  exprs_depth : ∀ col ∈ l.columns, col.expr.callDepth ≤ maxExprDepth

namespace Validator.Passed

variable {v : Validator} {d : Draft} {l : Layout}

/-! ## Sources -/

theorem sources_valid (h : v.Passed d l) :
    ∀ key ∈ l.sources.inScope, v.catalog.isValidSource key = true := by
  intro key hkey
  -- the primary source, or that of a join
  rcases List.mem_cons.mp hkey with rfl | hjoined
  · exact h.primary_valid
  · obtain ⟨join, hjoin, rfl⟩ := List.mem_map.mp hjoined
    obtain ⟨n, item, earlier, after, hcheck⟩ := h.joins.check_of_mem hjoin
    obtain ⟨-, -, -, hvalid, -⟩ := checkJoin_ok hcheck
    exact hvalid

theorem sources_nodup (h : v.Passed d l) : l.sources.inScope.Nodup := by
  obtain ⟨-, hnodup⟩ := scope_of_joins h.joins
  exact hnodup (List.nodup_singleton _)

/-- A join passed its check with the sources before it in scope, and left its own behind them. -/
theorem check_of_join (h : v.Passed d l) {n : Nat} {join : Join}
    (hjoin : l.sources.joins[n]? = some join) :
    ∃ item, d.joinItems[n]? = some item ∧
      checkJoin v.catalog n item (l.sources.scopeAfter n)
        = (.ok join, l.sources.scopeAfter (n + 1)) := by
  obtain ⟨item, earlier, after, hitem, hpasses, hcheck⟩ := h.joins.prefix_of_getElem? hjoin
  -- what the joins before it leave behind, and its own table
  obtain rfl : earlier = l.sources.scopeAfter n := (scope_of_joins hpasses).1
  obtain ⟨-, -, -, -, -, hafter, -⟩ := checkJoin_ok hcheck
  have hscope : after = l.sources.scopeAfter (n + 1) := by
    rw [hafter, Sources.scopeAfter, Sources.scopeAfter, List.take_add_one, hjoin]
    simp
  rw [hscope, Nat.zero_add] at hcheck
  exact ⟨item, hitem, hcheck⟩

/-- A stated condition is over the sources up to its join. -/
theorem condition_resolves (h : v.Passed d l) {n : Nat} {join : Join}
    (hjoin : l.sources.joins[n]? = some join) :
    ∃ item, d.joinItems[n]? = some item ∧ (item.states "on" = true →
      v.catalog.Resolves (l.sources.scopeAfter (n + 1)) join.left ∧
        v.catalog.Resolves (l.sources.scopeAfter (n + 1)) join.right) := by
  obtain ⟨item, hitem, hcheck⟩ := h.check_of_join hjoin
  exact ⟨item, hitem, resolves_of_stated hcheck⟩

/-! ## Aggregations and columns -/

theorem functions_permitted (h : v.Passed d l) : ∀ a ∈ l.aggregations.functions,
    v.catalog.Resolves l.sources.inScope a.field ∧ v.catalog.Permits a.function a.field := by
  intro a ha
  obtain ⟨names, hfunctions⟩ := h.functions
  obtain ⟨n, item, earlier, after, hcheck⟩ := hfunctions.check_of_mem ha
  exact aggregation_permitted hcheck

theorem groups_resolve (h : v.Passed d l) :
    ∀ f ∈ l.aggregations.groupBy, v.catalog.Resolves l.sources.inScope f := by
  intro f hf
  obtain ⟨groups, heq, hgroups⟩ := h.groups
  rw [heq, List.mem_eraseDups] at hf
  obtain ⟨n, item, earlier, after, hcheck⟩ := hgroups.check_of_mem hf
  exact group_resolves hcheck

/-- Groups come with aggregations: the groups of the layout are those of the items, each once. -/
theorem grouping_ne_nil (h : v.Passed d l) (hne : l.aggregations.groupBy ≠ []) :
    l.aggregations.functions ≠ [] := by
  obtain ⟨groups, heq, hgroups⟩ := h.groups
  obtain ⟨names, hfunctions⟩ := h.functions
  have hgroupItems : d.groupItems ≠ [] := by
    intro hnil
    rw [heq, hgroups.items_eq_nil.mp hnil] at hne
    exact hne rfl
  intro hnil
  exact h.grouping hgroupItems (hfunctions.items_eq_nil.mpr hnil)

theorem exprs_ok (h : v.Passed d l) : ∀ col ∈ l.columns,
    col.expr.WellFormed ∧ col.expr.callDepth ≤ maxExprDepth ∧
      ∀ f ∈ col.expr.fields, v.catalog.Resolves l.sources.inScope f := by
  intro col hcol
  obtain ⟨used, hcolumns⟩ := h.columns
  obtain ⟨n, item, earlier, after, hcheck⟩ := hcolumns.check_of_mem hcol
  -- a column may show an aggregation, whose field has been resolved before
  exact expr_of_column hcheck fun a ha => (h.functions_permitted a ha).1

/-- A column with an aggregate is that of an item without an expression, and shows a plain field
that permits it. -/
theorem aggregate_permitted (h : v.Passed d l) {n : Nat} {col : Column}
    (hcol : l.columns[n]? = some col) :
    ∃ item, d.columnItems[n]? = some item ∧ ∀ g, col.aggregate = some g →
      item.states "expression" = false ∧
        ∃ f, col.expr = .field f ∧ v.catalog.Permits g f := by
  obtain ⟨used, hcolumns⟩ := h.columns
  obtain ⟨item, earlier, after, hitem, -, hcheck⟩ := hcolumns.prefix_of_getElem? hcol
  refine ⟨item, hitem, fun g hg => ?_⟩
  exact aggregate_of_column hcheck (fun a ha => (h.functions_permitted a ha).2) hg

/-! ## Filters and sorting -/

theorem filters_permitted (h : v.Passed d l) : ∀ slot ∈ l.filters,
    v.catalog.Resolves l.sources.inScope slot.field ∧
      v.catalog.isFilterable slot.field.source slot.field.field = true := by
  intro slot hslot
  obtain ⟨seen, hfilters⟩ := h.filters
  obtain ⟨n, item, earlier, after, hcheck⟩ := hfilters.check_of_mem hslot
  exact filter_permitted hcheck

/-- Even the full names of the fields with a slot are distinct. -/
theorem filterNames_nodup (h : v.Passed d l) :
    (l.filters.map (·.field.fullName)).Nodup := by
  obtain ⟨seen, hfilters⟩ := h.filters
  exact nodup_of_filters hfilters

theorem filters_nodup (h : v.Passed d l) : (l.filters.map (·.field)).Nodup := by
  have hnames := h.filterNames_nodup
  have hmap : l.filters.map (·.field.fullName)
      = (l.filters.map (·.field)).map FieldRef.fullName := by
    rw [List.map_map]
    rfl
  rw [hmap] at hnames
  exact List.Nodup.of_map _ hnames

theorem sorting_permitted (h : v.Passed d l) : ∀ entry ∈ l.sorting,
    (∃ name ∈ l.outputNames, entry.target = .output name) ∨
      ∃ f, entry.target = .field f ∧ v.catalog.Resolves l.sources.inScope f ∧
        v.catalog.isSortable f.source f.field = true := by
  intro entry hentry
  obtain ⟨n, item, earlier, after, hcheck⟩ := h.sorting.check_of_mem hentry
  exact sort_permitted hcheck

/-! ## All of a layout -/

theorem fields_resolve (h : v.Passed d l) :
    ∀ f ∈ l.fields, v.catalog.Resolves l.sources.inScope f := by
  intro f hf
  rcases Layout.mem_fields.mp hf with ⟨col, hcol, hf⟩ | ⟨slot, hslot, rfl⟩ | hgroup |
    ⟨a, ha, rfl⟩ | ⟨entry, hentry, htarget⟩
  · exact (h.exprs_ok col hcol).2.2 f hf
  · exact (h.filters_permitted slot hslot).1
  · exact h.groups_resolve f hgroup
  · exact (h.functions_permitted a ha).1
  · -- a sort entry, of which an alias is no field
    rcases h.sorting_permitted entry hentry with ⟨name, -, houtput⟩ | ⟨g, hfield, hresolves, -⟩
    · rw [htarget] at houtput
      cases houtput
    · rw [htarget] at hfield
      cases hfield
      exact hresolves

/-- **A layout whose items pass is admissible.** -/
theorem admissible (h : v.Passed d l) : l.Admissible v.catalog v.limits := by
  obtain ⟨names, hfunctions⟩ := h.functions
  obtain ⟨used, hcolumns⟩ := h.columns
  obtain ⟨seen, hfilters⟩ := h.filters
  exact {
    sources_valid := h.sources_valid
    sources_nodup := h.sources_nodup
    joins_le := h.joins.length_eq ▸ h.joins_le
    columns_ne_nil := fun hnil => h.columns_ne_nil (hcolumns.items_eq_nil.mpr hnil)
    columns_le := hcolumns.length_eq ▸ h.columns_le
    functions_le := hfunctions.length_eq ▸ h.functions_le
    filters_le := hfilters.length_eq ▸ h.filters_le
    fields_resolve := h.fields_resolve
    filters_filterable := fun slot hslot => (h.filters_permitted slot hslot).2
    filters_nodup := h.filters_nodup
    sorting_sortable := by
      intro entry hentry f hf
      rcases h.sorting_permitted entry hentry with ⟨name, -, houtput⟩ | ⟨g, hfield, -, hsortable⟩
      · rw [hf] at houtput
        cases houtput
      · rw [hf] at hfield
        cases hfield
        exact hsortable
    sorting_named := by
      intro entry hentry name hname
      rcases h.sorting_permitted entry hentry with ⟨other, hmem, houtput⟩ | ⟨f, hfield, -, -⟩
      · rw [hname] at houtput
        cases houtput
        exact hmem
      · rw [hname] at hfield
        cases hfield
    functions_permitted := fun a ha => (h.functions_permitted a ha).2
    columns_permitted := by
      intro col hcol g hg
      obtain ⟨n, hn⟩ := List.mem_iff_getElem?.mp hcol
      obtain ⟨item, -, haggregate⟩ := h.aggregate_permitted hn
      exact (haggregate g hg).2
    grouping := h.grouping_ne_nil
    exprs_wellFormed := fun col hcol => (h.exprs_ok col hcol).1
    exprs_depth := fun col hcol => (h.exprs_ok col hcol).2.1 }

end Validator.Passed

/-- **A layout that is built stays inside the catalog and the limits.** A condition that the draft
states is over the sources up to its join only, and a column that the draft derives by an
expression is not aggregated. -/
theorem build_within_catalog {v : Validator} {d : Draft} {full : Bool} {l : Layout}
    (h : v.build d full = .ok l) :
    l.Admissible v.catalog v.limits ∧
      (∀ n join, l.sources.joins[n]? = some join → ∃ item, d.joinItems[n]? = some item ∧
        (item.states "on" = true →
          v.catalog.Resolves (l.sources.scopeAfter (n + 1)) join.left ∧
            v.catalog.Resolves (l.sources.scopeAfter (n + 1)) join.right)) ∧
      ∀ (n : Nat) col, l.columns[n]? = some col → ∃ item, d.columnItems[n]? = some item ∧
        (item.states "expression" = true → col.aggregate = none) := by
  have hpassed := Validator.passed_of_build h
  refine ⟨hpassed.admissible, fun n join hjoin => hpassed.condition_resolves hjoin,
    fun n col hcol => ?_⟩
  obtain ⟨item, hitem, haggregate⟩ := hpassed.aggregate_permitted hcol
  refine ⟨item, hitem, fun hexpr => ?_⟩
  cases hg : col.aggregate with
  | none => rfl
  | some g =>
    have hnone := (haggregate g hg).1
    rw [hexpr] at hnone
    cases hnone

theorem salesLayout_within_catalog :
    (⟨shop, {}⟩ : Validator).build salesDraft false = .ok salesLayout ∧
      salesLayout.Admissible shop {} :=
  ⟨build_salesDraft, (build_within_catalog build_salesDraft).1⟩

end TenantReports
