import TenantReports.Compile.Query
import TenantReports.Proofs.Outcome
import TenantReports.Proofs.Validation.Columns

/-!
# Layouts that compile

Each step of compiling a layout succeeds under a condition of its own: a source is complete, a
field is declared and in scope, a constant is a scalar, and an alias is one of the output. The
joins of a compiled layout are restricted to the rows of its tenant, one for each join.

## Main definitions

* `Catalog.Restricts`: a join of a query is that of a layout, restricted to a tenant's rows

## Main results

* `Catalog.exists_fieldExpr`, `Catalog.exists_columnExpr`, `Catalog.exists_compileJoins`: steps
  that succeed
* `Catalog.compileJoins_ok`: the joins of a compiled layout
* `Layout.compile_eq_ok`: what a layout compiles to
-/

namespace TenantReports

open Sql (Expr Literal)

/-- Every scalar has a value that can be bound. -/
theorem exists_literal {value : Json} (h : value.isScalar = true) :
    ∃ l, Literal.ofJson? value = some l := by
  cases value <;> simp_all [Literal.ofJson?, Json.isScalar]

namespace Catalog

variable {c : Catalog} {scope : List String} {tenant : Int}

/-! ## Sources and fields -/

theorem usableSource_eq_ok {key : String} {s : Source} :
    c.usableSource key = .ok s ↔ c.source? key = some s ∧ s.isValid = true := by
  unfold usableSource
  cases hsource : c.source? key with
  | none => simp
  | some s' =>
    cases hvalid : s'.isValid with
    | false =>
      -- a source that is not complete is as good as none
      simp only [hvalid, Bool.false_eq_true, if_false, reduceCtorEq, Option.some.injEq, false_iff]
      rintro ⟨rfl, h⟩
      rw [hvalid] at h
      cases h
    | true =>
      simp only [hvalid, if_true, Except.ok.injEq, Option.some.injEq]
      constructor
      · rintro rfl
        exact ⟨rfl, hvalid⟩
      · rintro ⟨rfl, -⟩
        rfl

theorem exists_usableSource {key : String} (h : c.isValidSource key = true) :
    ∃ s, c.usableSource key = .ok s := by
  obtain ⟨s, hsource, hvalid⟩ := Option.any_eq_true .. |>.mp h
  exact ⟨s, usableSource_eq_ok.mpr ⟨hsource, hvalid⟩⟩

/-- A source is found by its key. -/
theorem key_of_source? {key : String} {s : Source} (h : c.source? key = some s) : s.key = key := by
  simpa using List.find?_some h

theorem fieldExpr_eq_ok {f : FieldRef} {e : Expr} :
    c.fieldExpr scope f = .ok e ↔
      f.source ∈ scope ∧
        ∃ field, c.refField? f = some field ∧ e = sourceColumn f.source field.columnName := by
  unfold fieldExpr
  by_cases hscope : f.source ∈ scope
  · cases hfield : c.refField? f <;> simp [hscope, eq_comm]
  · simp [hscope]

theorem exists_fieldExpr {f : FieldRef} (h : c.Resolves scope f) :
    ∃ e, c.fieldExpr scope f = .ok e := by
  obtain ⟨hscope, field, hfield⟩ := h
  exact ⟨_, fieldExpr_eq_ok.mpr ⟨hscope, field, hfield, rfl⟩⟩

/-! ## Columns -/

theorem columnExprs_eq_mapM {name : String} {es : List ColumnExpr} :
    c.columnExprs scope name es = es.mapM (c.columnExpr scope name) := by
  induction es with
  | nil => rfl
  | cons e es ih => rw [columnExprs, List.mapM_cons, ih]

/-- A well formed expression over fields in scope has a value. -/
theorem exists_columnExpr (name : String) {e : ColumnExpr} (hwell : e.WellFormed)
    (hfields : ∀ f ∈ e.fields, c.Resolves scope f) :
    ∃ expr, c.columnExpr scope name e = .ok expr := by
  induction hwell with
  | field f =>
    rw [columnExpr]
    exact exists_fieldExpr (hfields f (by simp [ColumnExpr.fields]))
  | literal hscalar =>
    obtain ⟨l, hl⟩ := exists_literal hscalar
    exact ⟨.param l, by rw [columnExpr, hl]⟩
  | @call f args _ _ ih =>
    -- the fields of an argument are fields of the call
    have hargs : ∃ exprs, c.columnExprs scope name args = .ok exprs := by
      rw [columnExprs_eq_mapM]
      apply Except.exists_mapM_ok
      intro e he
      refine ih e he fun g hg => hfields g ?_
      rw [ColumnExpr.fields]
      exact ColumnExpr.mem_fieldsOfArgs.mpr ⟨e, he, hg⟩
    obtain ⟨exprs, hexprs⟩ := hargs
    exact ⟨.call f.sqlName exprs, by rw [columnExpr, hexprs]; rfl⟩

theorem exists_compileColumn {col : Column} (hwell : col.expr.WellFormed)
    (hfields : ∀ f ∈ col.expr.fields, c.Resolves scope f) :
    ∃ item, c.compileColumn scope col = .ok item := by
  obtain ⟨e, he⟩ := exists_columnExpr col.name hwell hfields
  exact ⟨_, by rw [compileColumn, he]; rfl⟩

/-! ## Joins -/

/-- A join of a query is that of a layout, restricted to the rows of the tenant. -/
def Restricts (c : Catalog) (tenant : Int) (j : Join) (clause : Sql.JoinClause) : Prop :=
  ∃ s, ∃ condition : Expr, c.source? j.table = some s ∧
    clause = ⟨j.kind, s.tableRef, condition.and (tenantCondition s tenant)⟩

theorem compileJoin_eq_ok {j : Join} {clause : Sql.JoinClause} {after : List String} :
    c.compileJoin tenant scope j = .ok (clause, after) ↔
      ∃ s left right, c.usableSource j.table = .ok s ∧ after = scope ++ [s.key] ∧
        c.fieldExpr after j.left = .ok left ∧ c.fieldExpr after j.right = .ok right ∧
        clause = ⟨j.kind, s.tableRef, (left.eq right).and (tenantCondition s tenant)⟩ := by
  simp only [compileJoin, Except.bind_eq_ok, Except.pure_eq_ok, Prod.mk.injEq]
  constructor
  · rintro ⟨s, hs, left, hleft, right, hright, hclause, rfl⟩
    exact ⟨s, left, right, hs, rfl, hleft, hright, hclause.symm⟩
  · rintro ⟨s, left, right, hs, rfl, hleft, hright, hclause⟩
    exact ⟨s, hs, left, hleft, right, hright, hclause.symm, rfl⟩

theorem compileJoins_cons_eq_ok {j : Join} {joins : List Join} {clauses : List Sql.JoinClause}
    {after : List String} :
    c.compileJoins tenant scope (j :: joins) = .ok (clauses, after) ↔
      ∃ clause middle rest, c.compileJoin tenant scope j = .ok (clause, middle) ∧
        c.compileJoins tenant middle joins = .ok (rest, after) ∧ clauses = clause :: rest := by
  simp only [compileJoins, Except.bind_eq_ok, Except.pure_eq_ok, Prod.exists, Prod.mk.injEq]
  constructor
  · rintro ⟨clause, middle, hj, rest, _, hrest, hclauses, rfl⟩
    exact ⟨clause, middle, rest, hj, hrest, hclauses.symm⟩
  · rintro ⟨clause, middle, rest, hj, hrest, hclauses⟩
    exact ⟨clause, middle, hj, rest, after, hrest, hclauses.symm, rfl⟩

/-- **The joins of a compiled layout** are those of the layout, in order, each restricted to the
rows of the tenant; they put their tables in scope. -/
theorem compileJoins_ok {joins : List Join} {clauses : List Sql.JoinClause}
    {after : List String} (h : c.compileJoins tenant scope joins = .ok (clauses, after)) :
    after = scope ++ joins.map (·.table) ∧ List.Forall₂ (c.Restricts tenant) joins clauses := by
  -- over the joins, with the scope that each leaves behind
  induction joins generalizing scope clauses with
  | nil =>
    simp only [compileJoins, Except.ok.injEq, Prod.mk.injEq] at h
    obtain ⟨rfl, rfl⟩ := h
    exact ⟨by simp, .nil⟩
  | cons j joins ih =>
    obtain ⟨clause, middle, rest, hj, hrest, rfl⟩ := compileJoins_cons_eq_ok.mp h
    obtain ⟨s, left, right, hs, rfl, -, -, rfl⟩ := compileJoin_eq_ok.mp hj
    obtain ⟨hsource, -⟩ := usableSource_eq_ok.mp hs
    obtain ⟨hafter, hclauses⟩ := ih hrest
    refine ⟨?_, .cons ⟨s, left.eq right, hsource, rfl⟩ hclauses⟩
    rw [hafter, key_of_source? hsource]
    simp

/-- Joins of complete sources compile, if their conditions are over the sources up to them. -/
theorem exists_compileJoins {joins : List Join}
    (hvalid : ∀ j ∈ joins, c.isValidSource j.table = true)
    (hfields : ∀ n j, joins[n]? = some j →
      c.Resolves (scope ++ (joins.take (n + 1)).map (·.table)) j.left ∧
        c.Resolves (scope ++ (joins.take (n + 1)).map (·.table)) j.right) :
    ∃ clauses, c.compileJoins tenant scope joins = .ok (clauses, scope ++ joins.map (·.table)) := by
  induction joins generalizing scope with
  | nil => exact ⟨[], by simp [compileJoins]⟩
  | cons j joins ih =>
    obtain ⟨s, hs⟩ := exists_usableSource (hvalid j List.mem_cons_self)
    have hkey : s.key = j.table := key_of_source? (usableSource_eq_ok.mp hs).1
    -- the condition of the first join is over the scope with its own table
    have hfirst := hfields 0 j rfl
    obtain ⟨left, hleft⟩ := exists_fieldExpr hfirst.1
    obtain ⟨right, hright⟩ := exists_fieldExpr hfirst.2
    have hj : c.compileJoin tenant scope j = .ok
        (⟨j.kind, s.tableRef, (left.eq right).and (tenantCondition s tenant)⟩,
          scope ++ [s.key]) :=
      compileJoin_eq_ok.mpr ⟨s, left, right, hs, rfl, by rwa [hkey], by rwa [hkey], rfl⟩
    -- and those of the others go on from there
    obtain ⟨clauses, hclauses⟩ := @ih (scope ++ [s.key])
      (fun j' hj' => hvalid j' (List.mem_cons_of_mem j hj'))
      (fun n j' hj' => by
        have hrest := hfields (n + 1) j' hj'
        simpa [hkey] using hrest)
    have hscope : scope ++ [s.key] ++ joins.map (·.table)
        = scope ++ (j :: joins).map (·.table) := by
      rw [hkey]
      simp
    rw [hscope] at hclauses
    exact ⟨_, compileJoins_cons_eq_ok.mpr ⟨_, _, clauses, hj, hclauses, rfl⟩⟩

/-! ## Sort entries -/

/-- A target that is a field in scope, or an alias of the output, compiles, if the aggregations
are of fields in scope. -/
theorem exists_compileTarget {l : Layout} {target : SortTarget}
    (hfield : ∀ f, target = .field f → c.Resolves scope f)
    (hnamed : ∀ name, target = .output name → name ∈ l.columns.map (·.name) ++
      l.aggregations.functions.map (·.name))
    (hfunctions : ∀ a ∈ l.aggregations.functions, c.Resolves scope a.field) :
    ∃ e, c.compileTarget scope l target = .ok e := by
  cases target with
  | field f => exact exists_fieldExpr (hfield f rfl)
  | output name =>
    by_cases hcolumn : l.columns.any (·.name == name) = true
    · exact ⟨.column none name, by rw [compileTarget, if_pos hcolumn]⟩
    · -- an alias that no column has is that of an aggregation
      have hmem : ∃ a ∈ l.aggregations.functions, a.name = name := by
        rcases List.mem_append.mp (hnamed name rfl) with hname | hname
        · obtain ⟨col, hcol, rfl⟩ := List.mem_map.mp hname
          exact absurd (List.any_eq_true.mpr ⟨col, hcol, by simp⟩) hcolumn
        · obtain ⟨a, ha, heq⟩ := List.mem_map.mp hname
          exact ⟨a, ha, heq⟩
      cases hfind : l.aggregations.functions.find? (·.name == name) with
      | none =>
        obtain ⟨a, ha, heq⟩ := hmem
        exact absurd heq (by simpa using List.find?_eq_none.mp hfind a ha)
      | some a =>
        obtain ⟨e, he⟩ := exists_fieldExpr (hfunctions a (List.mem_of_find?_eq_some hfind))
        exact ⟨a.function.call e, by rw [compileTarget, if_neg hcolumn, hfind]; simp [he]⟩

end Catalog

/-! ## Layouts -/

/-- **What a layout compiles to.** -/
theorem Layout.compile_eq_ok {l : Layout} {c : Catalog} {tenant : Int} {q : CompiledQuery} :
    l.compile c tenant = .ok q ↔
      ∃ primary joins select groupBy orderBy,
        c.usableSource l.sources.primary = .ok primary ∧
        c.compileJoins tenant [primary.key] l.sources.joins = .ok (joins, q.scope) ∧
        l.columns.mapM (c.compileColumn q.scope) = .ok select ∧
        l.aggregations.groupBy.mapM (c.fieldExpr q.scope) = .ok groupBy ∧
        l.sorting.mapM (c.compileSort q.scope l) = .ok orderBy ∧
        q.columns = l.columns.map Column.output ∧ q.tenant = tenant ∧
        q.query = {
          select
          source := some primary.tableRef
          joins
          condition := some (tenantCondition primary tenant)
          groupBy
          orderBy } := by
  obtain ⟨query, columns, owner, scope⟩ := q
  simp only [Layout.compile, Except.bind_eq_ok, Except.pure_eq_ok, Prod.exists,
    CompiledQuery.mk.injEq]
  constructor
  · rintro ⟨primary, hprimary, joins, _, hjoins, select, hselect, groupBy, hgroupBy, orderBy,
      horderBy, hquery, hcolumns, howner, rfl⟩
    exact ⟨primary, joins, select, groupBy, orderBy, hprimary, hjoins, hselect, hgroupBy,
      horderBy, hcolumns.symm, howner.symm, hquery.symm⟩
  · rintro ⟨primary, joins, select, groupBy, orderBy, hprimary, hjoins, hselect, hgroupBy,
      horderBy, hcolumns, howner, hquery⟩
    exact ⟨primary, hprimary, joins, scope, hjoins, select, hselect, groupBy, hgroupBy, orderBy,
      horderBy, hquery.symm, hcolumns.symm, howner.symm, rfl⟩

end TenantReports
