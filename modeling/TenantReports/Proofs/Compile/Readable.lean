import TenantReports.Proofs.Compile.Values
import TenantReports.Proofs.Sql.ReadBack
import TenantReports.Proofs.Validation.Admissible

/-!
# Compiled queries are read back

No compiled query needs parentheses: the values of columns are columns, placeholders and calls, the
condition of a join is two equalities, that of the primary source is one, and each filter adds a
comparison on the right. So the tokens of a compiled query, with the conditions of any values of
its filters and with any limit, are read as that query and no other; the AND of a range is never
taken for one between conditions.

## Main results

* `Catalog.fits_of_columnExpr`, `FilterSlot.fits_of_predicate`: what is compiled needs no
  parentheses
* `Layout.fits_of_filtered`: neither does a compiled and filtered query
* `Layout.read?_of_build`: a compiled and filtered query is read back
-/

namespace TenantReports

open Sql (Expr Literal)

/-! ## Columns and joins -/

/-- An operand stands where a condition does. -/
theorem Sql.Expr.Fits.condition {e : Expr} (h : e.Fits .operand) : e.Fits .condition :=
  .ofComparison (.ofOperand h)

namespace Catalog

variable {c : Catalog} {scope : List String}

theorem fits_of_fieldExpr {f : FieldRef} {e : Expr} (h : c.fieldExpr scope f = .ok e) :
    e.Fits .operand := by
  obtain ⟨-, field, -, rfl⟩ := fieldExpr_eq_ok.mp h
  exact .column _ _

mutual

/-- The value of a column is a column, a placeholder or a call. -/
theorem fits_of_columnExpr {name : String} (e : ColumnExpr) {expr : Expr}
    (h : c.columnExpr scope name e = .ok expr) : expr.Fits .operand := by
  cases e with
  | field f => exact fits_of_fieldExpr h
  | literal v =>
    rw [columnExpr] at h
    split at h
    · cases h
      exact .param _
    · cases h
  | call f args =>
    rw [columnExpr, Except.bind_eq_ok] at h
    obtain ⟨exprs, hexprs, hcall⟩ := h
    rw [Except.pure_eq_ok] at hcall
    rw [← hcall]
    exact .call _ fun a ha => (fits_of_columnExprs args hexprs a ha).condition

theorem fits_of_columnExprs {name : String} (es : List ColumnExpr) {exprs : List Expr}
    (h : c.columnExprs scope name es = .ok exprs) : ∀ a ∈ exprs, a.Fits .operand := by
  cases es with
  | nil =>
    cases h
    exact List.forall_mem_nil _
  | cons e es =>
    simp only [columnExprs, Except.bind_eq_ok, Except.pure_eq_ok] at h
    obtain ⟨first, hfirst, later, hlater, rfl⟩ := h
    exact List.forall_mem_cons.mpr ⟨fits_of_columnExpr e hfirst, fits_of_columnExprs es hlater⟩

end

/-- The call of an aggregate is an operand. -/
theorem fits_aggregateCall (f : Aggregate) {e : Expr} (h : e.Fits .operand) :
    (f.call e).Fits .operand :=
  .call _ (List.forall_mem_singleton.mpr h.condition)

theorem fits_of_compileColumn {col : Column} {item : Sql.SelectItem}
    (h : c.compileColumn scope col = .ok item) : item.expr.Fits .condition := by
  simp only [compileColumn, Except.bind_eq_ok, Except.pure_eq_ok] at h
  obtain ⟨e, he, rfl⟩ := h
  have hfits := fits_of_columnExpr col.expr he
  cases col.aggregate with
  | none => exact hfits.condition
  | some f => exact (fits_aggregateCall f hfits).condition

theorem fits_tenantCondition (s : Source) (tenant : Int) :
    (tenantCondition s tenant).Fits .comparison :=
  .compared (by decide) (.column _ _) (.param _)

theorem fits_of_compileJoin {tenant : Int} {j : Join} {clause : Sql.JoinClause}
    {after : List String} (h : c.compileJoin tenant scope j = .ok (clause, after)) :
    clause.on.Fits .condition := by
  obtain ⟨s, left, right, -, -, hleft, hright, rfl⟩ := compileJoin_eq_ok.mp h
  have hcondition : (left.eq right).Fits .comparison :=
    .compared (by decide) (fits_of_fieldExpr hleft) (fits_of_fieldExpr hright)
  exact .and (.ofComparison hcondition) (fits_tenantCondition s tenant)

theorem fits_of_compileJoins {tenant : Int} {joins : List Join}
    {clauses : List Sql.JoinClause} {after : List String}
    (h : c.compileJoins tenant scope joins = .ok (clauses, after)) :
    ∀ clause ∈ clauses, clause.on.Fits .condition := by
  induction joins generalizing scope clauses with
  | nil =>
    cases h
    exact List.forall_mem_nil _
  | cons j joins ih =>
    obtain ⟨clause, middle, later, hj, hlater, rfl⟩ := compileJoins_cons_eq_ok.mp h
    exact List.forall_mem_cons.mpr ⟨fits_of_compileJoin hj, ih hlater⟩

theorem fits_of_compileSort {l : Layout} {s : SortEntry} {item : Sql.OrderItem}
    (h : c.compileSort scope l s = .ok item) : item.expr.Fits .condition := by
  simp only [compileSort, Except.bind_eq_ok, Except.pure_eq_ok] at h
  obtain ⟨e, he, rfl⟩ := h
  unfold compileTarget at he
  split at he
  · exact (fits_of_fieldExpr he).condition
  · split at he
    · cases he
      exact Expr.Fits.condition (.column _ _)
    · split at he
      · cases he
      · simp only [Except.bind_eq_ok, Except.pure_eq_ok] at he
        obtain ⟨field, hfield, rfl⟩ := he
        exact (fits_aggregateCall _ (fits_of_fieldExpr hfield)).condition

end Catalog

/-! ## Filters -/

namespace FilterSlot

variable {s : FilterSlot} {type : FieldType} {column : Expr}

theorem fits_of_rangePredicate (hcolumn : column.Fits .operand) {low high : Option Json}
    {e : Expr} (h : rangePredicate? column type low high = some e) : e.Fits .comparison := by
  unfold rangePredicate? at h
  split at h
  · cases h
    exact .between hcolumn (.param _) (.param _)
  · cases h
    exact .compared (by decide) hcolumn (.param _)
  · cases h
    exact .compared (by decide) hcolumn (.param _)
  · cases h

theorem fits_of_valuePredicate (hcolumn : column.Fits .operand) {value : Json} {e : Expr}
    (h : s.valuePredicate? type column value = some e) : e.Fits .comparison := by
  unfold valuePredicate? at h
  cases hkind : s.kind <;> simp only [hkind] at h
  case text =>
    obtain ⟨needle, -, rfl⟩ := Option.map_eq_some_iff.mp h
    exact .like _ (.call _ (List.forall_mem_singleton.mpr hcolumn.condition))
      (.call _ (List.forall_mem_singleton.mpr (Expr.Fits.condition (.param _))))
  case number | select | date =>
    obtain ⟨l, -, rfl⟩ := Option.map_eq_some_iff.mp h
    exact .compared (by decide) hcolumn (.param _)
  case dateRange =>
    obtain ⟨bounds, -, hrange⟩ := Option.bind_eq_some_iff.mp h
    exact fits_of_rangePredicate hcolumn hrange
  case multiselect =>
    obtain ⟨ls, -, rfl⟩ := Option.map_eq_some_iff.mp h
    exact .isIn hcolumn (List.forall_mem_map.mpr fun l _ => Expr.Fits.condition (.param l))

/-- **The condition of a filter is one comparison.** -/
theorem fits_of_predicate (hcolumn : column.Fits .operand) {value : Json} {e : Expr}
    (h : s.predicate? type column value = some e) : e.Fits .comparison := by
  unfold predicate? at h
  split at h
  · split at h
    · cases h
      exact .isNull hcolumn
    · cases h
  · split at h
    · cases h
    · exact fits_of_valuePredicate hcolumn h
  · exact fits_of_valuePredicate hcolumn h

end FilterSlot

/-- **The condition of a filter** is that of a slot, on the column of a declared field of a source
in scope. -/
theorem Layout.filterPredicate?_eq_some {l : Layout} {c : Catalog} {scope : List String}
    {name : String} {value : Json} {e : Expr} :
    l.filterPredicate? c scope name value = some e ↔
      ∃ slot field, l.filterSlot? name = some slot ∧ c.refField? slot.field = some field ∧
        slot.field.source ∈ scope ∧ slot.predicate? field.type
          (sourceColumn slot.field.source field.columnName) value = some e := by
  unfold Layout.filterPredicate?
  cases hslot : l.filterSlot? name with
  | none => simp
  | some slot =>
    cases hfield : c.refField? slot.field with
    | none => simp [hfield]
    | some field => by_cases hscope : slot.field.source ∈ scope <;> simp [hfield, hscope]

theorem Layout.fits_of_filterPredicate {l : Layout} {c : Catalog} {scope : List String}
    {name : String} {value : Json} {e : Expr}
    (h : l.filterPredicate? c scope name value = some e) : e.Fits .comparison := by
  obtain ⟨slot, field, -, -, -, hpredicate⟩ := Layout.filterPredicate?_eq_some.mp h
  exact FilterSlot.fits_of_predicate (.column _ _) hpredicate

/-! ## Queries -/

/-- A further comparison goes to the right of the condition. -/
theorem Sql.Query.Fits.filter {q : Sql.Query} (h : q.Fits) {e : Expr} (he : e.Fits .comparison) :
    (q.filter e).Fits := by
  refine { h with condition := ?_ }
  intro e' he'
  cases hcondition : q.condition with
  | none =>
    simp only [Sql.Query.filter, hcondition, Option.mem_some_iff] at he'
    rw [← he']
    exact .ofComparison he
  | some condition =>
    simp only [Sql.Query.filter, hcondition, Option.mem_some_iff] at he'
    rw [← he']
    exact .and (h.condition condition hcondition) he

theorem Sql.Query.Fits.limited {q : Sql.Query} (h : q.Fits) (limit : Option Nat) :
    Sql.Query.Fits { q with limit } :=
  ⟨h.select_ne_nil, h.select, h.joins, h.condition, h.groupBy, h.orderBy⟩

namespace Layout

variable {c : Catalog} {l : Layout} {tenant : Int} {q : CompiledQuery}

/-- What a compiled query has, and a further condition of a filter keeps, the filtered query has. -/
theorem filtered_induction {P : Sql.Query → Prop} {R : Expr → Prop} {values : FilterValues}
    (hcompile : ∀ q, l.compile c tenant = .ok q → P q.query ∧
      ∀ name value e, l.filterPredicate? c q.scope name value = some e → R e)
    (hfilter : ∀ q e, P q → R e → P (q.filter e))
    (h : l.filtered c tenant values = .ok q) : P q.query := by
  have hfold : ∀ (es : List Expr) (q : CompiledQuery), P q.query → (∀ e ∈ es, R e) →
      P (es.foldl CompiledQuery.filter q).query := by
    intro es
    induction es with
    | nil => exact fun q hq _ => hq
    | cons e es ih =>
      intro q hq hes
      refine ih (q.filter e) ?_ fun e' he' => hes e' (List.mem_cons_of_mem e he')
      exact hfilter q.query e hq (hes e List.mem_cons_self)
  unfold filtered at h
  cases hcompiled : l.compile c tenant with
  | error e => simp [hcompiled, Except.map] at h
  | ok compiled =>
    rw [hcompiled, Except.map, Except.ok.injEq] at h
    obtain ⟨hquery, hpredicates⟩ := hcompile compiled hcompiled
    rw [← h]
    refine hfold _ compiled hquery fun e he => ?_
    obtain ⟨⟨name, value⟩, -, hpredicate⟩ := List.mem_filterMap.mp he
    exact hpredicates name value e hpredicate

theorem fits_of_compile (hcolumns : l.columns ≠ []) (h : l.compile c tenant = .ok q) :
    q.query.Fits := by
  obtain ⟨primary, joins, select, groupBy, orderBy, -, hjoins, hselect, hgroupBy, horderBy, -, -,
    hquery⟩ := compile_eq_ok.mp h
  rw [hquery]
  exact {
    select_ne_nil := by
      rintro rfl
      cases hlist : l.columns with
      | nil => exact hcolumns hlist
      | cons col cols =>
        have hforall := Except.mapM_eq_ok.mp hselect
        rw [hlist] at hforall
        cases hforall
    select := Except.forall_of_mapM hselect fun _ _ _ => Catalog.fits_of_compileColumn
    joins := Catalog.fits_of_compileJoins hjoins
    condition := by
      rintro _ ⟨⟩
      exact .ofComparison (Catalog.fits_tenantCondition primary tenant)
    groupBy := Except.forall_of_mapM hgroupBy fun _ _ _ hf => (Catalog.fits_of_fieldExpr hf).condition
    orderBy := Except.forall_of_mapM horderBy fun _ _ _ => Catalog.fits_of_compileSort }

/-- **A compiled and filtered query needs no parentheses**, whatever the values. -/
theorem fits_of_filtered (hcolumns : l.columns ≠ []) {values : FilterValues}
    (h : l.filtered c tenant values = .ok q) : q.query.Fits := by
  refine filtered_induction (R := fun e => e.Fits .comparison) (fun q hq => ?_)
    (fun q e hq he => hq.filter he) h
  exact ⟨fits_of_compile hcolumns hq, fun name value e he => fits_of_filterPredicate he⟩

/-- **A compiled and filtered query is read back**: for every layout that is built, every tenant,
all values of its filters and every limit, its tokens are those of this query only, where a choice
from no values is never true and a limit is at most the greatest one. -/
theorem read?_of_build {v : Validator} {d : Draft} {full : Bool}
    (hbuild : v.build d full = .ok l) {values : FilterValues}
    (h : l.filtered v.catalog tenant values = .ok q) (limit : Option Nat) :
    Sql.Query.read? { q.query with limit }.tokens
      = some { q.query.asWritten with limit := limit.map (min · Sql.maxLimit) } := by
  have hcolumns : l.columns ≠ [] := (Validator.passed_of_build hbuild).admissible.columns_ne_nil
  exact Sql.Query.read?_tokens ((fits_of_filtered hcolumns h).limited limit)

theorem read?_of_build_salesLayout :
    ∃ q, salesLayout.filtered shop 1 [("customers.name", .string "an")] = .ok q ∧
      Sql.Query.read? { q.query with limit := some 5 }.tokens
        = some { q.query.asWritten with limit := some 5 } :=
  ⟨_, rfl, read?_of_build build_salesDraft rfl (some 5)⟩

/-- A limit beyond the greatest one is not read back: the query is written like the one with the
greatest limit. -/
theorem read?_ne_beyond_maxLimit :
    ∃ q, salesLayout.filtered shop 1 [] = .ok q ∧
      Sql.Query.read? { q.query with limit := some (Sql.maxLimit + 1) }.tokens
        ≠ some { q.query.asWritten with limit := some (Sql.maxLimit + 1) } := by
  obtain ⟨q, hq⟩ : ∃ q, salesLayout.filtered shop 1 [] = .ok q := ⟨_, rfl⟩
  refine ⟨q, hq, fun hread => ?_⟩
  have hfits := fits_of_filtered (by decide) hq
  rw [Sql.Query.read?_tokens (hfits.limited (some (Sql.maxLimit + 1))), Option.some.injEq] at hread
  have hlimit : some (min (Sql.maxLimit + 1) Sql.maxLimit) = some (Sql.maxLimit + 1) :=
    congrArg Sql.Query.limit hread
  revert hlimit
  decide

end Layout

end TenantReports
