import TenantReports.Compile.Filters
import TenantReports.Proofs.Compile.Steps
import TenantReports.Proofs.Sql.Evaluation
import TenantReports.Proofs.Validation.Admissible

/-!
# Tenants do not see each other

A compiled query is confined to the rows of its tenant: its condition demands them of the primary
source, and every join condition of the table that it joins. Runtime filters and limits keep it
confined. The result of a confined query is the same on databases with the same rows of the
tenant.

The condition of the primary source is checked only after all joins, and a left join fills up
where nothing matches; so the argument goes from the inside out. A join that demands the tenant's
rows reads no others, whatever row it extends. Hence all joins together make the same rows of each
row of the primary source, and those of other tenants' rows are all refused at the end.

## Main definitions

* `Sql.Interpretation.owns`: a row of a source belongs to a tenant
* `SameTenantRows`: two databases have the same rows of a tenant
* `Sql.Query.Confined`: a query is confined to the rows of a tenant

## Main results

* `Sql.extendAll_congr`: confined joins make the same of a row
* `confined_of_compile`, `Sql.Query.Confined.filter`: compiled queries are confined, and filters
  keep them so
* `Sql.Query.Confined.passing_congr`: a confined query keeps the same rows
* `run_congr_of_sameTenantRows`: the results of compiled queries with runtime filters are equal
-/

namespace TenantReports

open Sql (Database Env Expr Interpretation JoinClause JoinedRow Row)

/-- A row of a source belongs to a tenant: the cell of its tenant column equals the tenant. -/
def Sql.Interpretation.owns (I : Interpretation) (s : Source) (tenant : Int) (r : Row) : Bool :=
  I.compares (sourceColumn s.key s.tenantColumn) (.param (.int tenant)) (r.cell s.tenantColumn)
    (.integer tenant) Ordering.isEq == some true

/-- Two databases have the same rows of a tenant, in the same order, in the tables of sources. -/
def SameTenantRows (I : Interpretation) (c : Catalog) (sources : List String) (tenant : Int)
    (db₁ db₂ : Database) : Prop :=
  ∀ key ∈ sources, ∀ s, c.source? key = some s →
    (db₁ s.table).filter (I.owns s tenant) = (db₂ s.table).filter (I.owns s tenant)

theorem SameTenantRows.mono {I : Interpretation} {c : Catalog} {sources sources' : List String}
    {tenant : Int} {db₁ db₂ : Database} (h : SameTenantRows I c sources tenant db₁ db₂)
    (hsub : sources' ⊆ sources) : SameTenantRows I c sources' tenant db₁ db₂ :=
  fun key hkey => h key (hsub hkey)

/-! ## The condition of a source -/

@[simp] theorem Source.tableRef_table (s : Source) : s.tableRef.table = s.table := rfl

/-- A table goes by the key of its source. -/
@[simp] theorem Source.tableRef_name (s : Source) : s.tableRef.name = s.key := by
  unfold Source.tableRef Sql.TableRef.name
  by_cases h : s.table = s.key <;> simp [h]

variable {I : Interpretation} {c : Catalog} {tenant : Int} {db₁ db₂ : Database}

/-- The condition of a source is about the row of the source alone. -/
theorem holds_tenantCondition (s : Source) (row : JoinedRow) :
    (tenantCondition s tenant).holds I { row } = I.owns s tenant (row.part s.key) := by
  simp only [tenantCondition, Expr.eq, Expr.holds, sourceColumn, Expr.eval,
    Interpretation.truth_cell, Interpretation.binary, Interpretation.owns, StoredCell.ofLiteral]

namespace Sql

/-! ## Joins -/

/-- **A confined join makes the same of a row** in databases with the same rows of the tenant. -/
theorem extend_congr_of_restricts {j : Join} {clause : JoinClause} {row : JoinedRow}
    (hrestricts : c.Restricts tenant j clause) (hnew : j.table ∉ row.names)
    (hsame : SameTenantRows I c [j.table] tenant db₁ db₂) :
    clause.extend I db₁ row = clause.extend I db₂ row := by
  obtain ⟨s, condition, hsource, rfl⟩ := hrestricts
  have hkey : s.key = j.table := Catalog.key_of_source? hsource
  refine JoinClause.extend_congr (p := I.owns s tenant) (fun r hholds => ?_) ?_
  · -- the name of the table is new, so the condition reads the row that is joined
    rw [Expr.holds_and, Bool.and_eq_true, holds_tenantCondition, Source.tableRef_name] at hholds
    rw [← hkey] at hnew
    rw [JoinedRow.part_append_self hnew] at hholds
    exact hholds.2
  · exact hsame j.table (List.mem_singleton_self _) s hsource

/-- **Confined joins make the same of a row**, however many they are. -/
theorem extendAll_congr {joins : List Join} {clauses : List JoinClause} {row : JoinedRow}
    (hrestricts : List.Forall₂ (c.Restricts tenant) joins clauses)
    (hnodup : (row.names ++ joins.map (·.table)).Nodup)
    (hsame : SameTenantRows I c (joins.map (·.table)) tenant db₁ db₂) :
    extendAll I db₁ clauses row = extendAll I db₂ clauses row := by
  -- over the joins: each adds its name to those of the row
  induction hrestricts generalizing row with
  | nil => rfl
  | @cons j clause joins clauses hclause _ ih =>
    have hnew : j.table ∉ row.names := by
      intro hmem
      rw [List.nodup_append] at hnodup
      exact hnodup.2.2 j.table hmem j.table List.mem_cons_self rfl
    have hfirst : clause.extend I db₁ row = clause.extend I db₂ row := by
      apply extend_congr_of_restricts hclause hnew
      apply hsame.mono
      intro key hkey
      rw [List.mem_singleton.mp hkey]
      exact List.mem_cons_self
    rw [extendAll, extendAll, hfirst]
    -- the rows that it makes all go by one name more
    apply List.flatMap_congr
    intro row' hrow'
    obtain ⟨r, rfl⟩ := JoinClause.exists_row_of_mem_extend hrow'
    apply ih
    · have hname : clause.table.name = j.table := by
        obtain ⟨s, condition, hsource, rfl⟩ := hclause
        rw [Source.tableRef_name, Catalog.key_of_source? hsource]
      have hnames : JoinedRow.names (row ++ [(clause.table.name, r)])
          = row.names ++ [j.table] := by
        simp [JoinedRow.names, hname]
      rw [hnames, List.append_assoc]
      exact hnodup
    · exact hsame.mono (List.subset_cons_self _ _)

/-! ## Queries -/

/-- **A query is confined to the rows of a tenant**: it reads the sources of a layout, its
condition demands the tenant's rows of the primary one, and its joins do of the others. -/
structure Query.Confined (q : Query) (c : Catalog) (tenant : Int) (sources : Sources) : Prop where
  primary : ∃ s, c.source? sources.primary = some s ∧ q.source = some s.tableRef ∧
    ∃ e, q.condition = some e ∧
      ∀ I env, e.holds I env = true → (tenantCondition s tenant).holds I env = true
  joins : List.Forall₂ (c.Restricts tenant) sources.joins q.joins

namespace Query.Confined

variable {q : Query} {sources : Sources}

/-- A further condition keeps a query confined. -/
theorem filter (h : q.Confined c tenant sources) (e : Expr) :
    (q.filter e).Confined c tenant sources := by
  obtain ⟨s, hs, hsource, condition, hcondition, hdemands⟩ := h.primary
  refine ⟨⟨s, hs, hsource, condition.and e, ?_, fun I env hholds => ?_⟩, h.joins⟩
  · rw [Query.filter, hcondition]
  · rw [Expr.holds_and, Bool.and_eq_true] at hholds
    exact hdemands I env hholds.1

theorem withLimit (h : q.Confined c tenant sources) (n : Nat) :
    (q.withLimit n).Confined c tenant sources := ⟨h.primary, h.joins⟩

/-- **A confined query keeps the same joined rows** in databases with the same rows of the
tenant. -/
theorem passing_congr (h : q.Confined c tenant sources) (hnodup : sources.inScope.Nodup)
    (hsame : SameTenantRows I c sources.inScope tenant db₁ db₂) :
    q.passing I db₁ = q.passing I db₂ := by
  obtain ⟨s, hs, hsource, condition, hcondition, hdemands⟩ := h.primary
  have hkey : s.key = sources.primary := Catalog.key_of_source? hs
  -- the joins make the same of each row of the primary source
  have hjoins : ∀ r : Row, extendAll I db₁ q.joins [(s.key, r)]
      = extendAll I db₂ q.joins [(s.key, r)] := by
    intro r
    apply extendAll_congr h.joins
    · simpa [JoinedRow.names, hkey, Sources.inScope] using hnodup
    · exact hsame.mono (List.subset_cons_self _ _)
  -- and of rows of other tenants none that passes
  have howned : ∀ db : Database, q.passing I db
      = (((db s.table).filter (I.owns s tenant)).flatMap fun r =>
          extendAll I db q.joins [(s.key, r)]).filter fun row => condition.holds I { row } := by
    intro db
    rw [filter_flatMap_filter]
    · simp only [passing, joined, start, hsource, hcondition, Option.all_some,
        Source.tableRef_table, Source.tableRef_name, List.flatMap_map]
    · intro r row hrow hholds
      -- joins keep the row of the primary source, and the condition reads it there
      obtain ⟨later, rfl⟩ := exists_later_of_mem_extendAll hrow
      have hcondition := hdemands I _ hholds
      rw [holds_tenantCondition, JoinedRow.part_append_of_mem (by simp [JoinedRow.names])]
        at hcondition
      simpa [JoinedRow.part] using hcondition
  rw [howned db₁, howned db₂, hsame sources.primary List.mem_cons_self s hs]
  simp only [hjoins]

/-- **The result of a confined query is that of the tenant's rows.** -/
theorem run_congr (h : q.Confined c tenant sources) (hnodup : sources.inScope.Nodup)
    (hsame : SameTenantRows I c sources.inScope tenant db₁ db₂) : q.run I db₁ = q.run I db₂ := by
  rw [Query.run, Query.run, h.passing_congr hnodup hsame]

end Query.Confined

end Sql

/-! ## Compiled queries -/

variable {l : Layout} {q : CompiledQuery}

/-- **A compiled query is confined** to the rows of its tenant. -/
theorem confined_of_compile (h : l.compile c tenant = .ok q) :
    q.query.Confined c tenant l.sources := by
  obtain ⟨s, joins, select, groupBy, orderBy, hprimary, hjoins, -, -, -, -, -, hquery⟩ :=
    Layout.compile_eq_ok.mp h
  obtain ⟨hs, -⟩ := Catalog.usableSource_eq_ok.mp hprimary
  obtain ⟨-, hrestricts⟩ := Catalog.compileJoins_ok hjoins
  rw [hquery]
  exact ⟨⟨s, hs, rfl, tenantCondition s tenant, rfl, fun _ _ hholds => hholds⟩, hrestricts⟩

/-- Runtime filters, whatever their values, keep a query confined. -/
theorem confined_of_applyFilters {sources : Sources} (h : q.query.Confined c tenant sources)
    (c' : Catalog) (values : FilterValues) (l : Layout) :
    (q.applyFilters c' values l).query.Confined c tenant sources := by
  unfold CompiledQuery.applyFilters
  generalize l.filterPredicates c' q.scope values = predicates
  induction predicates generalizing q with
  | nil => exact h
  | cons e predicates ih => exact ih (h.filter e)

/-- **Tenants do not see each other.** The query of a layout that is built, with any values for its
filters and any limit, has the same result in any two databases with the same rows of its tenant in
the tables of its sources. -/
theorem run_congr_of_sameTenantRows {v : Validator} {d : Draft} {full : Bool}
    (hbuild : v.build d full = .ok l) (hcompile : l.compile v.catalog tenant = .ok q)
    (hsame : SameTenantRows I v.catalog l.sources.inScope tenant db₁ db₂)
    (values : FilterValues) :
    (q.applyFilters v.catalog values l).query.run I db₁
        = (q.applyFilters v.catalog values l).query.run I db₂ ∧
      ∀ n, ((q.applyFilters v.catalog values l).withLimit n).query.run I db₁
        = ((q.applyFilters v.catalog values l).withLimit n).query.run I db₂ := by
  have hnodup := (Validator.passed_of_build hbuild).sources_nodup
  have hconfined := confined_of_applyFilters (confined_of_compile hcompile) v.catalog values l
  refine ⟨hconfined.run_congr hnodup hsame, fun n => ?_⟩
  exact (hconfined.withLimit n).run_congr hnodup hsame

/-! ## A shop with several tenants -/

/-- What tenant 1 has ordered, with orders of tenant 2 from a customer of its own. -/
def shopData : Database
  | "people" => [
    [("id", .integer 1), ("name", .ofLiteral (.string "Ann")), ("org", .integer 1)],
    [("id", .integer 2), ("name", .ofLiteral (.string "Hans")), ("org", .integer 2)]]
  | "orders" => [
    [("customer", .integer 1), ("total", .integer 20), ("org", .integer 1)],
    [("customer", .integer 2), ("total", .integer 7), ("org", .integer 2)],
    [("customer", .integer 1), ("total", .integer 5), ("org", .integer 1)]]
  | _ => []

/-- The same for tenant 1. Tenant 2 has a customer of the same id, and an order from it. -/
def intrudedData : Database
  | "people" => [
    [("id", .integer 1), ("name", .ofLiteral (.string "Hanna")), ("org", .integer 2)],
    [("id", .integer 1), ("name", .ofLiteral (.string "Ann")), ("org", .integer 1)]]
  | "orders" => [
    [("customer", .integer 1), ("total", .integer 900), ("org", .integer 2)],
    [("customer", .integer 1), ("total", .integer 20), ("org", .integer 1)],
    [("customer", .integer 1), ("total", .integer 5), ("org", .integer 1)]]
  | _ => []

theorem sameTenantRows_intrudedData :
    SameTenantRows .plain shop salesLayout.sources.inScope 1 shopData intrudedData := by
  intro key hkey s hs
  obtain rfl | rfl : key = "orders" ∨ key = "customers" := by
    simpa [Sources.inScope, salesLayout] using hkey
  · cases hs
    rfl
  · cases hs
    rfl

theorem run_intrudedData :
    SameTenantRows .plain shop salesLayout.sources.inScope 1 shopData intrudedData ∧
      ∃ q, salesLayout.compile shop 1 = .ok q ∧
        (q.applyFilters shop [("customers.name", .string "an")] salesLayout).query.run .plain
            shopData
          = (q.applyFilters shop [("customers.name", .string "an")] salesLayout).query.run .plain
            intrudedData :=
  ⟨sameTenantRows_intrudedData, _, rfl,
    (run_congr_of_sameTenantRows build_salesDraft rfl sameTenantRows_intrudedData
      [("customers.name", .string "an")]).1⟩

example : (salesLayout.compile shop 1).toOption.map (fun q =>
      (q.applyFilters shop [("customers.name", .string "an")] salesLayout).query.run .plain
        intrudedData)
    = some [[.text [65, 78, 78], .integer 25]] := by
  decide +kernel

end TenantReports
