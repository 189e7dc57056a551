import Mathlib.Tactic.FinCases
import TenantReports.Proofs.Compile.Totality

/-!
# Catalogs that grow

A catalog may get further sources, fields and relations. What was there stays under its key: a
source keeps its table, its model and its tenant column, and a field keeps its type and its column.
Labels and what a field may be used for may change, as the compiler does not look at them. Whatever
compiled before compiles to the very same query afterwards, since every step of the compiler looks
things up by their keys alone.

## Main definitions

* `Source.KeptIn`: a source is still what it was, with perhaps more fields
* `Catalog.GrowsTo`: all sources of a catalog are kept

## Main results

* `Layout.compile_of_growsTo`: what compiles still compiles, to the same query
* `Layout.applyFilters_of_growsTo`: filter values put the same conditions on it
* `statements_of_growsTo`: so a layout that was built has the same statements
-/

namespace TenantReports

open Sql (Expr)

/-- A source is kept: all that a query says of it is the same, and so it is for each of its
fields. -/
structure Source.KeptIn (s s' : Source) : Prop where
  table : s'.table = s.table
  model : s'.model = s.model
  tenantColumn : s'.tenantColumn = s.tenantColumn
  field : ∀ key field, s.field? key = some field → ∃ field', s'.field? key = some field' ∧
    field'.type = field.type ∧ field'.columnName = field.columnName

/-- All sources of a catalog are kept under their keys; there may be more. -/
def Catalog.GrowsTo (c c' : Catalog) : Prop :=
  ∀ key s, c.source? key = some s → ∃ s', c'.source? key = some s' ∧ s.KeptIn s'

/-- A source that is kept stays complete. -/
theorem Source.KeptIn.isValid {s s' : Source} (h : s.KeptIn s') (hvalid : s.isValid = true) :
    s'.isValid = true := by
  unfold Source.isValid at hvalid ⊢
  rw [h.table, h.model, h.tenantColumn]
  simp only [Bool.and_eq_true] at hvalid ⊢
  refine ⟨⟨⟨?_, hvalid.1.1.2⟩, hvalid.1.2⟩, hvalid.2⟩
  -- one of its fields is found under its key, and is so in the source that has grown
  cases hfields : s.fields with
  | nil => simp [hfields] at hvalid
  | cons field fields =>
    obtain ⟨field', hfield', -⟩ := h.field field.key field (by simp [Source.field?, hfields])
    have hmem := List.mem_of_find?_eq_some hfield'
    rw [Bool.not_eq_true', List.isEmpty_eq_false_iff]
    exact List.ne_nil_of_mem hmem

namespace Catalog

variable {c c' : Catalog} {scope : List String} {tenant : Int}

namespace GrowsTo

/-! ## Steps of the compiler -/

theorem refField? (h : c.GrowsTo c') {f : FieldRef} {field : SourceField}
    (hfield : c.refField? f = some field) :
    ∃ field', c'.refField? f = some field' ∧ field'.type = field.type ∧
      field'.columnName = field.columnName := by
  obtain ⟨s, hs, hfield⟩ := Option.bind_eq_some_iff.mp hfield
  obtain ⟨s', hs', hkept⟩ := h f.source s hs
  obtain ⟨field', hfield', hsame⟩ := hkept.field f.field field hfield
  exact ⟨field', Option.bind_eq_some_iff.mpr ⟨s', hs', hfield'⟩, hsame⟩

/-- A complete source is found under its key, with the same table and tenant column. -/
theorem usableSource (h : c.GrowsTo c') {key : String} {s : Source}
    (hs : c.usableSource key = .ok s) :
    ∃ s', c'.usableSource key = .ok s' ∧ s'.key = s.key ∧ s'.tableRef = s.tableRef ∧
      ∀ tenant, tenantCondition s' tenant = tenantCondition s tenant := by
  obtain ⟨hsource, hvalid⟩ := usableSource_eq_ok.mp hs
  obtain ⟨s', hs', hkept⟩ := h key s hsource
  have hkey : s'.key = s.key := (key_of_source? hs').trans (key_of_source? hsource).symm
  refine ⟨s', usableSource_eq_ok.mpr ⟨hs', hkept.isValid hvalid⟩, hkey, ?_, fun tenant => ?_⟩
  · rw [Source.tableRef, Source.tableRef, hkept.table, hkey]
  · rw [tenantCondition, tenantCondition, hkept.tenantColumn, hkey]

theorem fieldExpr (h : c.GrowsTo c') {f : FieldRef} {e : Expr}
    (he : c.fieldExpr scope f = .ok e) : c'.fieldExpr scope f = .ok e := by
  obtain ⟨hscope, field, hfield, rfl⟩ := fieldExpr_eq_ok.mp he
  obtain ⟨field', hfield', -, hcolumn⟩ := h.refField? hfield
  exact fieldExpr_eq_ok.mpr ⟨hscope, field', hfield', by rw [hcolumn]⟩

mutual

theorem columnExpr (h : c.GrowsTo c') {name : String} (expr : ColumnExpr) {e : Expr}
    (he : c.columnExpr scope name expr = .ok e) : c'.columnExpr scope name expr = .ok e := by
  cases expr with
  | field f =>
    rw [Catalog.columnExpr] at he ⊢
    exact h.fieldExpr he
  | literal value => rwa [Catalog.columnExpr] at he ⊢
  | call f args =>
    rw [Catalog.columnExpr, Except.bind_eq_ok] at he ⊢
    obtain ⟨exprs, hexprs, heq⟩ := he
    exact ⟨exprs, columnExprs h args hexprs, heq⟩

theorem columnExprs (h : c.GrowsTo c') {name : String} (args : List ColumnExpr)
    {es : List Expr} (hes : c.columnExprs scope name args = .ok es) :
    c'.columnExprs scope name args = .ok es := by
  cases args with
  | nil => exact hes
  | cons arg args =>
    simp only [Catalog.columnExprs, Except.bind_eq_ok] at hes ⊢
    obtain ⟨first, hfirst, later, hlater, heq⟩ := hes
    exact ⟨first, columnExpr h arg hfirst, later, columnExprs h args hlater, heq⟩

end

theorem compileColumn (h : c.GrowsTo c') {col : Column} {item : Sql.SelectItem}
    (hitem : c.compileColumn scope col = .ok item) : c'.compileColumn scope col = .ok item := by
  rw [Catalog.compileColumn, Except.bind_eq_ok] at hitem ⊢
  obtain ⟨e, he, heq⟩ := hitem
  exact ⟨e, h.columnExpr col.expr he, heq⟩

theorem compileJoin (h : c.GrowsTo c') {j : Join} {clause : Sql.JoinClause} {after : List String}
    (hj : c.compileJoin tenant scope j = .ok (clause, after)) :
    c'.compileJoin tenant scope j = .ok (clause, after) := by
  obtain ⟨s, left, right, hs, rfl, hleft, hright, rfl⟩ := compileJoin_eq_ok.mp hj
  obtain ⟨s', hs', hkey, htable, htenant⟩ := h.usableSource hs
  refine compileJoin_eq_ok.mpr
    ⟨s', left, right, hs', by rw [hkey], h.fieldExpr hleft, h.fieldExpr hright, ?_⟩
  rw [htable, htenant]

theorem compileJoins (h : c.GrowsTo c') {joins : List Join} {clauses : List Sql.JoinClause}
    {after : List String} (hjoins : c.compileJoins tenant scope joins = .ok (clauses, after)) :
    c'.compileJoins tenant scope joins = .ok (clauses, after) := by
  -- over the joins, with the scope that each leaves behind
  induction joins generalizing scope clauses with
  | nil => exact hjoins
  | cons j joins ih =>
    obtain ⟨clause, middle, rest, hj, hrest, rfl⟩ := compileJoins_cons_eq_ok.mp hjoins
    exact compileJoins_cons_eq_ok.mpr ⟨clause, middle, rest, h.compileJoin hj, ih hrest, rfl⟩

theorem compileTarget (h : c.GrowsTo c') {l : Layout} {target : SortTarget} {e : Expr}
    (he : c.compileTarget scope l target = .ok e) : c'.compileTarget scope l target = .ok e := by
  cases target with
  | field f => exact h.fieldExpr he
  | output name =>
    by_cases hcolumn : (l.columns.any fun column => column.name == name) = true
    · simp only [Catalog.compileTarget, if_pos hcolumn] at he ⊢
      exact he
    · simp only [Catalog.compileTarget, if_neg hcolumn] at he ⊢
      -- an alias that no column has stands for an aggregate of a field
      cases hfind : l.aggregations.functions.find? (·.name == name) with
      | none =>
        rw [hfind] at he
        cases he
      | some a =>
        simp only [hfind, Except.bind_eq_ok] at he ⊢
        obtain ⟨e', he', heq⟩ := he
        exact ⟨e', h.fieldExpr he', heq⟩

theorem compileSort (h : c.GrowsTo c') {l : Layout} {entry : SortEntry} {item : Sql.OrderItem}
    (hitem : c.compileSort scope l entry = .ok item) :
    c'.compileSort scope l entry = .ok item := by
  rw [Catalog.compileSort, Except.bind_eq_ok] at hitem ⊢
  obtain ⟨e, he, heq⟩ := hitem
  exact ⟨e, h.compileTarget he, heq⟩

end GrowsTo

end Catalog

/-! ## Layouts -/

namespace Layout

variable {c c' : Catalog} {l : Layout} {tenant : Int} {q : CompiledQuery}

/-- **What compiles still compiles, to the same query**, after a catalog has grown. -/
theorem compile_of_growsTo (h : c.GrowsTo c') (hq : l.compile c tenant = .ok q) :
    l.compile c' tenant = .ok q := by
  obtain ⟨primary, joins, select, groupBy, orderBy, hprimary, hjoins, hselect, hgroupBy, horderBy,
    hcolumns, htenant, hquery⟩ := compile_eq_ok.mp hq
  obtain ⟨primary', hprimary', hkey, htable, hcondition⟩ := h.usableSource hprimary
  -- each list is compiled item by item
  have hselect' := Except.mapM_eq_ok.mpr
    ((Except.mapM_eq_ok.mp hselect).imp fun _ _ => h.compileColumn)
  have hgroupBy' := Except.mapM_eq_ok.mpr
    ((Except.mapM_eq_ok.mp hgroupBy).imp fun _ _ => h.fieldExpr)
  have horderBy' := Except.mapM_eq_ok.mpr
    ((Except.mapM_eq_ok.mp horderBy).imp fun _ _ => h.compileSort)
  refine compile_eq_ok.mpr ⟨primary', joins, select, groupBy, orderBy, hprimary', ?_, hselect',
    hgroupBy', horderBy', hcolumns, htenant, ?_⟩
  · rw [hkey]
    exact h.compileJoins hjoins
  · rw [htable, hcondition]
    exact hquery

/-- A value puts the same condition on a slot, if the field of the slot was declared before. -/
theorem filterPredicate?_of_growsTo (h : c.GrowsTo c')
    (hslots : ∀ slot ∈ l.filters, ∃ field, c.refField? slot.field = some field)
    (scope : List String) (name : String) (value : Json) :
    l.filterPredicate? c' scope name value = l.filterPredicate? c scope name value := by
  unfold filterPredicate?
  cases hslot : l.filterSlot? name with
  | none => rfl
  | some slot =>
    obtain ⟨field, hfield⟩ := hslots slot (List.mem_of_find?_eq_some hslot)
    obtain ⟨field', hfield', htype, hcolumn⟩ := h.refField? hfield
    simp only [Option.bind_eq_bind, Option.bind_some, hfield, hfield', htype, hcolumn]

/-- So all values together put the same conditions on a query. -/
theorem applyFilters_of_growsTo (h : c.GrowsTo c')
    (hslots : ∀ slot ∈ l.filters, ∃ field, c.refField? slot.field = some field)
    (q : CompiledQuery) (values : FilterValues) :
    q.applyFilters c' values l = q.applyFilters c values l := by
  unfold CompiledQuery.applyFilters filterPredicates
  simp only [filterPredicate?_of_growsTo h hslots]

end Layout

/-- **A catalog may grow under its reports.** A layout that was built over a catalog and compiles
over it compiles over every catalog that it grows to, for the same tenant, to a query with the same
output columns; and with the same filter values the statements are the same in every dialect. -/
theorem statements_of_growsTo {v : Validator} {d : Draft} {full : Bool} {l : Layout}
    {c' : Catalog} (hbuild : v.build d full = .ok l) (hgrows : v.catalog.GrowsTo c')
    {tenant : Int} {q : CompiledQuery} (hq : l.compile v.catalog tenant = .ok q) :
    ∃ q', l.compile c' tenant = .ok q' ∧ q'.columns = q.columns ∧
      ∀ (values : FilterValues) (dialect : Sql.Dialect),
        (q'.applyFilters c' values l).statement dialect
          = (q.applyFilters v.catalog values l).statement dialect := by
  have hpassed := Validator.passed_of_build hbuild
  have hslots : ∀ slot ∈ l.filters, ∃ field, v.catalog.refField? slot.field = some field := by
    intro slot hslot
    obtain ⟨⟨-, hfield⟩, -⟩ := hpassed.filters_permitted slot hslot
    exact hfield
  refine ⟨q, Layout.compile_of_growsTo hgrows hq, rfl, fun values dialect => ?_⟩
  rw [Layout.applyFilters_of_growsTo hgrows hslots]

/-! ## The shop grows

The shop gets refunds, and customers a city. The label of a field changes, and sums of orders are
no longer wanted in new reports. -/

/-- The shop after a while. -/
def grownShop : Catalog where
  sources := [
    { key := "customers", label := "Clients", category := "sales", table := "people",
      model := "Customer", tenantColumn := "org",
      fields := [
        { key := "city", label := "City", type := .text },
        { key := "id", label := "Number", type := .number, column := some "id" },
        { key := "name", label := "Name", type := .text, filterable := true, sortable := true }],
      relations := [] },
    { key := "orders", label := "Orders", category := "sales", table := "orders",
      model := "Order", tenantColumn := "org",
      fields := [
        { key := "customer", label := "Customer", type := .number },
        { key := "total", label := "Total", type := .number }],
      relations := [
        { key := "by", target := "customers", localField := some "customer",
          foreignField := some "id" }] },
    { key := "refunds", label := "Refunds", category := "sales", table := "refunds",
      model := "Refund", tenantColumn := "org",
      fields := [{ key := "order", label := "Order", type := .number }], relations := [] }]

/-- A catalog grows to another one if each source that it lists is found there, with each of the
fields that it lists. -/
theorem Catalog.growsTo_of_forall {c c' : Catalog}
    (h : ∀ s ∈ c.sources, ∃ s', c'.source? s.key = some s' ∧ s'.table = s.table ∧
      s'.model = s.model ∧ s'.tenantColumn = s.tenantColumn ∧
      ∀ field ∈ s.fields, ∃ field', s'.field? field.key = some field' ∧
        field'.type = field.type ∧ field'.columnName = field.columnName) : c.GrowsTo c' := by
  intro key s hs
  obtain rfl := key_of_source? hs
  obtain ⟨s', hs', htable, hmodel, htenant, hfields⟩ := h s (List.mem_of_find?_eq_some hs)
  refine ⟨s', hs', htable, hmodel, htenant, fun key field hfield => ?_⟩
  obtain rfl : field.key = key := by simpa using List.find?_some hfield
  exact hfields field (List.mem_of_find?_eq_some hfield)

theorem shop_growsTo : shop.GrowsTo grownShop := by
  apply Catalog.growsTo_of_forall
  intro s hs
  fin_cases hs
  all_goals
    refine ⟨_, rfl, rfl, rfl, rfl, fun field hfield => ?_⟩
    fin_cases hfield <;> exact ⟨_, rfl, rfl, rfl⟩

/-- The report of sales reads the same rows in the grown shop. -/
theorem statements_of_growsTo_grownShop :
    (⟨shop, {}⟩ : Validator).build salesDraft false = .ok salesLayout ∧ shop.GrowsTo grownShop ∧
      ∃ q q', salesLayout.compile shop 1 = .ok q ∧ salesLayout.compile grownShop 1 = .ok q' ∧
        ∀ dialect, (q'.applyFilters grownShop [("customers.name", .string "a")]
            salesLayout).statement dialect
          = (q.applyFilters shop [("customers.name", .string "a")] salesLayout).statement
            dialect := by
  obtain ⟨q, hq⟩ : ∃ q, salesLayout.compile shop 1 = .ok q := ⟨_, rfl⟩
  obtain ⟨q', hq', -, hsame⟩ := statements_of_growsTo build_salesDraft shop_growsTo hq
  exact ⟨build_salesDraft, shop_growsTo, q, q', hq, hq', hsame _⟩

end TenantReports
