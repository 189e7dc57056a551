import TenantReports.Compile.Filters
import TenantReports.Proofs.Compile.Steps
import TenantReports.Proofs.Validation.Admissible

/-!
# Validated layouts compile

The sources that the validator has in scope, join by join, are those that the compiler has, and
every check of the compiler follows from one of the validator. Joins that state no condition are
left out: a relation supplies theirs, over fields that nothing checks.

## Main results

* `Layout.Admissible.exists_compile`: an admissible layout compiles, if its join conditions are
  over sources in scope
* `Layout.filterSlot?_of_mem`: the slot of a field is found by its name
* `compile_of_build`: a layout that is built of a draft with stated conditions compiles, and each
  of its filter slots has an effect
-/

namespace TenantReports

variable {c : Catalog} {limits : Limits} {l : Layout}

/-- **An admissible layout compiles**, if each of its join conditions is over the sources up to the
join. Its scope is that of the layout. -/
theorem Layout.Admissible.exists_compile (h : l.Admissible c limits)
    (hconditions : ∀ (n : Nat) join, l.sources.joins[n]? = some join →
      c.Resolves (l.sources.scopeAfter (n + 1)) join.left ∧
        c.Resolves (l.sources.scopeAfter (n + 1)) join.right)
    (tenant : Int) : ∃ q, l.compile c tenant = .ok q ∧ q.scope = l.sources.inScope := by
  -- the sources, with the joins
  obtain ⟨primary, hprimary⟩ :=
    Catalog.exists_usableSource (h.sources_valid l.sources.primary List.mem_cons_self)
  have hkey : primary.key = l.sources.primary :=
    Catalog.key_of_source? (Catalog.usableSource_eq_ok.mp hprimary).1
  have hjoins : ∃ joins, c.compileJoins tenant [l.sources.primary] l.sources.joins
      = .ok (joins, l.sources.inScope) := by
    refine Catalog.exists_compileJoins (fun j hj => ?_) hconditions
    exact h.sources_valid j.table (List.mem_cons_of_mem _ (List.mem_map_of_mem hj))
  -- the select list, the groups and the order
  have hselect : ∃ select, l.columns.mapM (c.compileColumn l.sources.inScope) = .ok select := by
    apply Except.exists_mapM_ok
    intro col hcol
    refine Catalog.exists_compileColumn (h.exprs_wellFormed col hcol) fun f hf => ?_
    exact h.fields_resolve f (Layout.mem_fields.mpr (.inl ⟨col, hcol, hf⟩))
  have hgroupBy : ∃ groupBy,
      l.aggregations.groupBy.mapM (c.fieldExpr l.sources.inScope) = .ok groupBy := by
    apply Except.exists_mapM_ok
    intro f hf
    exact Catalog.exists_fieldExpr
      (h.fields_resolve f (Layout.mem_fields.mpr (.inr (.inr (.inl hf)))))
  have horderBy : ∃ orderBy,
      l.sorting.mapM (c.compileSort l.sources.inScope l) = .ok orderBy := by
    apply Except.exists_mapM_ok
    intro entry hentry
    have htarget : ∃ e, c.compileTarget l.sources.inScope l entry.target = .ok e := by
      refine Catalog.exists_compileTarget (fun f hf => ?_) (h.sorting_named entry hentry)
        (fun a ha => ?_)
      · exact h.fields_resolve f
          (Layout.mem_fields.mpr (.inr (.inr (.inr (.inr ⟨entry, hentry, hf⟩)))))
      · exact h.fields_resolve a.field
          (Layout.mem_fields.mpr (.inr (.inr (.inr (.inl ⟨a, ha, rfl⟩)))))
    obtain ⟨e, he⟩ := htarget
    exact ⟨⟨e, entry.direction⟩, by rw [Catalog.compileSort, he]; rfl⟩
  obtain ⟨joins, hjoins⟩ := hjoins
  obtain ⟨select, hselect⟩ := hselect
  obtain ⟨groupBy, hgroupBy⟩ := hgroupBy
  obtain ⟨orderBy, horderBy⟩ := horderBy
  let query : Sql.Query := {
    select
    source := some primary.tableRef
    joins
    condition := some (tenantCondition primary tenant)
    groupBy
    orderBy }
  refine ⟨⟨query, l.columns.map Column.output, tenant, l.sources.inScope⟩, ?_, rfl⟩
  rw [Layout.compile_eq_ok]
  exact ⟨primary, joins, select, groupBy, orderBy, hprimary, by rw [hkey]; exact hjoins,
    hselect, hgroupBy, horderBy, rfl, rfl, rfl⟩

/-! ## Filter slots -/

/-- Where the names of the fields with a slot are distinct, a slot is found by that name. -/
theorem Layout.filterSlot?_of_mem {slot : FilterSlot}
    (hnodup : (l.filters.map (·.field.fullName)).Nodup) (hslot : slot ∈ l.filters) :
    l.filterSlot? slot.field.fullName = some slot := by
  unfold Layout.filterSlot?
  cases hfind : l.filters.find? (·.field.fullName == slot.field.fullName) with
  | none =>
    have hne := List.find?_eq_none.mp hfind slot hslot
    simp at hne
  | some found =>
    have hname : found.field.fullName = slot.field.fullName := by
      simpa using List.find?_some hfind
    have hfound := List.mem_of_find?_eq_some hfind
    rw [List.inj_on_of_nodup_map hnodup hfound hslot hname]

/-- A slot in scope has an effect: the condition on its column for every value that fits it. -/
theorem Layout.filterPredicate?_of_mem {slot : FilterSlot} {field : SourceField}
    {scope : List String} (hnodup : (l.filters.map (·.field.fullName)).Nodup)
    (hslot : slot ∈ l.filters) (hfield : c.refField? slot.field = some field)
    (hscope : slot.field.source ∈ scope) (value : Json) :
    l.filterPredicate? c scope slot.field.fullName value
      = slot.predicate? field.type (sourceColumn slot.field.source field.columnName) value := by
  unfold Layout.filterPredicate?
  rw [Layout.filterSlot?_of_mem hnodup hslot]
  simp [hfield, hscope]

/-- **A layout that is built of a draft compiles**, if every join of the draft states its
condition. Each filter slot of the layout is on a declared field of a source of the query, so that
no value for it is passed over. -/
theorem compile_of_build {v : Validator} {d : Draft} {full : Bool}
    (hbuild : v.build d full = .ok l) (hstated : ∀ item ∈ d.joinItems, item.states "on" = true)
    (tenant : Int) :
    ∃ q, l.compile v.catalog tenant = .ok q ∧
      ∀ slot ∈ l.filters, slot.field.source ∈ q.scope ∧
        ∃ field, v.catalog.refField? slot.field = some field ∧
          ∀ value, l.filterPredicate? v.catalog q.scope slot.field.fullName value
            = slot.predicate? field.type (sourceColumn slot.field.source field.columnName)
                value := by
  have hpassed := Validator.passed_of_build hbuild
  have hconditions : ∀ (n : Nat) join, l.sources.joins[n]? = some join →
      v.catalog.Resolves (l.sources.scopeAfter (n + 1)) join.left ∧
        v.catalog.Resolves (l.sources.scopeAfter (n + 1)) join.right := by
    intro n join hjoin
    -- the validator had this very scope when it resolved the condition
    obtain ⟨item, hitem, hresolves⟩ := hpassed.condition_resolves hjoin
    exact hresolves (hstated item (List.mem_of_getElem? hitem))
  obtain ⟨q, hq, hscope⟩ := hpassed.admissible.exists_compile hconditions tenant
  refine ⟨q, hq, fun slot hslot => ?_⟩
  obtain ⟨⟨hsource, field, hfield⟩, -⟩ := hpassed.filters_permitted slot hslot
  rw [← hscope] at hsource
  exact ⟨hsource, field, hfield,
    Layout.filterPredicate?_of_mem hpassed.filterNames_nodup hslot hfield hsource⟩

theorem salesLayout_compiles :
    (∀ item ∈ salesDraft.joinItems, item.states "on" = true) ∧
      ∃ q, salesLayout.compile shop 1 = .ok q ∧
        ∀ slot ∈ salesLayout.filters, slot.field.source ∈ q.scope := by
  have hstated : ∀ item ∈ salesDraft.joinItems, item.states "on" = true := by decide
  obtain ⟨q, hq, hslots⟩ := compile_of_build build_salesDraft hstated 1
  exact ⟨hstated, q, hq, fun slot hslot => (hslots slot hslot).1⟩

end TenantReports
