import TenantReports.Compile.Filters
import TenantReports.Proofs.Compile.Steps
import TenantReports.Proofs.Sql.Placeholders
import TenantReports.Proofs.Validation.Build

/-!
# Values do not shape the text

The text of a filtered query is a matter of the layout and of the kinds of conditions that its
filters put, not of the values: not of the tenant, not of the constants of columns, not of what
users give. All of these are bound, and the statement lists them in the order of their
placeholders, the same in every dialect.

Two runs are compared through what is left of their queries without the bound values. Compiling
keeps the constants of a layout apart: without its scalars a layout compiles to the same query
without bound values, or fails for the same reason.

## Main definitions

* `Layout.blank`: a layout without the scalars that its columns hold
* `ConditionForm`, `Sql.Expr.form?`: the forms of the conditions of filters
* `Layout.AlikeValues`: two values of one filter put conditions of the same form, or none
* `Layout.filtered`: a layout compiled and filtered
* `Sql.Query.BindsInOrder`: the bound values of a query are in the order of their placeholders

## Main results

* `Layout.compile_blank`: compiling keeps the constants of a layout apart
* `FilterSlot.blank_predicate_congr`: conditions of the same form differ only in bound values
* `Layout.blank_filtered_congr`: so do runs whose values are alike
* `Layout.text_of_alike`: the text does not depend on values
-/

namespace TenantReports

open Sql (Dialect Expr Literal Token boundValues renderChars)

/-! ## Layouts without their constants -/

namespace ColumnExpr

mutual

/-- An expression without the scalars that it holds. -/
def blank : ColumnExpr → ColumnExpr
  | .field f => .field f
  | .literal v => .literal (if v.isScalar then .null else v)
  | .call f args => .call f (blankList args)

/-- Each of a list of expressions without the scalars that it holds. -/
def blankList : List ColumnExpr → List ColumnExpr
  | [] => []
  | e :: es => blank e :: blankList es

end

end ColumnExpr

/-- A column without the scalars that it holds. -/
def Column.blank (c : Column) : Column := { c with expr := c.expr.blank }

/-- A layout without the scalars that its columns hold. -/
def Layout.blank (l : Layout) : Layout := { l with columns := l.columns.map Column.blank }

/-- A compiled query without its bound values and its tenant. -/
def CompiledQuery.blank (q : CompiledQuery) : CompiledQuery :=
  { q with query := q.query.blank, tenant := 0 }

/-! ## Compiling -/

namespace Catalog

variable (c : Catalog) (scope : List String)

theorem tenantCondition_blank (s : Source) (tenant : Int) :
    (tenantCondition s tenant).blank = (tenantCondition s 0).blank := rfl

mutual

/-- The value of a column, without bound values, does not depend on constants. -/
theorem columnExpr_blank (name : String) (e : ColumnExpr) :
    (c.columnExpr scope name e.blank).map Expr.blank
      = (c.columnExpr scope name e).map Expr.blank := by
  cases e with
  | field f => rfl
  | literal v => cases v <;> rfl
  | call f args =>
    rw [ColumnExpr.blank, columnExpr, columnExpr]
    refine Except.map_bind_congr (columnExprs_blank name args) fun as bs h => ?_
    simp only [pure, Except.pure, Except.map, Expr.blank, Expr.blankList_eq_map, h]

theorem columnExprs_blank (name : String) (es : List ColumnExpr) :
    (c.columnExprs scope name (ColumnExpr.blankList es)).map (List.map Expr.blank)
      = (c.columnExprs scope name es).map (List.map Expr.blank) := by
  cases es with
  | nil => rfl
  | cons e es =>
    rw [ColumnExpr.blankList, columnExprs, columnExprs]
    refine Except.map_bind_congr (columnExpr_blank name e) fun a b hab => ?_
    refine Except.map_bind_congr (columnExprs_blank name es) fun as bs habs => ?_
    simp only [pure, Except.pure, Except.map, List.map_cons, hab, habs]

end

theorem compileColumn_blank (col : Column) :
    (c.compileColumn scope col.blank).map Sql.SelectItem.blank
      = (c.compileColumn scope col).map Sql.SelectItem.blank := by
  refine Except.map_bind_congr (c.columnExpr_blank scope col.name col.expr) fun a b h => ?_
  simp only [Column.blank]
  cases col.aggregate with
  | none => simp [Except.map, pure, Except.pure, Sql.SelectItem.blank, h]
  | some f => simp [Except.map, pure, Except.pure, Sql.SelectItem.blank, Aggregate.call,
      Expr.blank, Expr.blankList, h]

/-- A join, without bound values, does not depend on the tenant. -/
theorem compileJoin_blank (tenant : Int) (j : Join) :
    (c.compileJoin 0 scope j).map (Prod.map Sql.JoinClause.blank id)
      = (c.compileJoin tenant scope j).map (Prod.map Sql.JoinClause.blank id) := by
  refine Except.map_bind_congr (f := id) rfl fun s _ h => ?_
  cases h
  refine Except.map_bind_congr (f := id) rfl fun left _ h => ?_
  cases h
  refine Except.map_bind_congr (f := id) rfl fun right _ h => ?_
  cases h
  rfl

theorem compileJoins_blank (tenant : Int) (joins : List Join) :
    (c.compileJoins 0 scope joins).map (Prod.map (List.map Sql.JoinClause.blank) id)
      = (c.compileJoins tenant scope joins).map (Prod.map (List.map Sql.JoinClause.blank) id) := by
  induction joins generalizing scope with
  | nil => rfl
  | cons j joins ih =>
    refine Except.map_bind_congr (c.compileJoin_blank scope tenant j) fun a b h => ?_
    obtain ⟨clause₁, scope₁⟩ := a
    obtain ⟨clause₂, scope₂⟩ := b
    obtain ⟨hclause, hscope⟩ := Prod.mk.inj h
    obtain rfl : scope₁ = scope₂ := hscope
    refine Except.map_bind_congr (ih scope₁) fun a b h => ?_
    obtain ⟨clauses₁, after₁⟩ := a
    obtain ⟨clauses₂, after₂⟩ := b
    obtain ⟨hclauses, hafter⟩ := Prod.mk.inj h
    obtain rfl : after₁ = after₂ := hafter
    simp only [pure, Except.pure, Except.map, Prod.map, List.map_cons, hclause, hclauses]

/-- What a sort entry orders by does not depend on the constants of columns. -/
theorem compileSort_blank (l : Layout) (s : SortEntry) :
    c.compileSort scope l.blank s = c.compileSort scope l s := by
  have hnames : ∀ name : String, l.blank.columns.any (·.name == name)
      = l.columns.any (·.name == name) := by
    intro name
    rw [Layout.blank, List.any_map]
    rfl
  unfold compileSort compileTarget
  simp only [hnames]
  rfl

end Catalog

/-- **Compiling keeps the constants of a layout apart**: without them, and for whatever tenant, a
layout compiles to the same query without bound values, or fails for the same reason. -/
theorem Layout.compile_blank (l : Layout) (c : Catalog) (tenant : Int) :
    (l.blank.compile c 0).map CompiledQuery.blank
      = (l.compile c tenant).map CompiledQuery.blank := by
  refine Except.map_bind_congr (f := id) rfl fun primary _ h => ?_
  cases h
  refine Except.map_bind_congr (c.compileJoins_blank _ tenant l.sources.joins) fun a b h => ?_
  obtain ⟨joins₁, scope⟩ := a
  obtain ⟨joins₂, scope'⟩ := b
  obtain ⟨hjoins, hscope⟩ := Prod.mk.inj h
  obtain rfl : scope = scope' := hscope
  have hcolumns : List.Forall₂ (fun a b => (c.compileColumn scope a).map Sql.SelectItem.blank
      = (c.compileColumn scope b).map Sql.SelectItem.blank) l.blank.columns l.columns := by
    rw [Layout.blank, List.forall₂_map_left_iff, List.forall₂_same]
    exact fun col _ => c.compileColumn_blank scope col
  refine Except.map_bind_congr (Except.map_mapM_congr hcolumns) fun select₁ select₂ hselect => ?_
  -- groups and sort entries hold no constants
  refine Except.map_bind_congr (f := id) rfl fun groupBy _ h => ?_
  cases h
  have hsorting : l.blank.sorting.mapM (c.compileSort scope l.blank)
      = l.sorting.mapM (c.compileSort scope l) := by
    rw [funext (c.compileSort_blank scope l)]
    rfl
  refine Except.map_bind_congr (f := id) (by rw [hsorting]) fun orderBy _ h => ?_
  cases h
  have houtput : l.blank.columns.map Column.output = l.columns.map Column.output := by
    rw [Layout.blank, List.map_map]
    rfl
  simp only [pure, Except.pure, Except.map, CompiledQuery.blank, Sql.Query.blank, hjoins, hselect,
    houtput, Option.map_some, Catalog.tenantCondition_blank primary tenant]

/-! ## Filters -/

/-- The forms of the conditions that filters put on a column. -/
inductive ConditionForm where
  | like
  | eq
  | isIn (count : Nat)
  | between
  | atLeast
  | atMost
  | isNull
deriving DecidableEq, Repr

/-- The form of a condition, if it is one of filters. -/
def Sql.Expr.form? : Expr → Option ConditionForm
  | .like .. => some .like
  | .binary .eq _ _ => some .eq
  | .isIn _ values => some (.isIn values.length)
  | .between .. => some .between
  | .binary .gte _ _ => some .atLeast
  | .binary .lte _ _ => some .atMost
  | .isNull _ => some .isNull
  | _ => none

/-- The condition of a form on a column, without bound values. -/
def ConditionForm.blank (column : Expr) : ConditionForm → Expr
  | .like => .like (.call "LOWER" [column]) (.call "LOWER" [.param .null]) likeEscape
  | .eq => column.eq (.param .null)
  | .isIn count => .isIn column (List.replicate count (.param .null))
  | .between => .between column (.param .null) (.param .null)
  | .atLeast => .binary .gte column (.param .null)
  | .atMost => .binary .lte column (.param .null)
  | .isNull => .isNull column

namespace FilterSlot

variable {s : FilterSlot} {type : FieldType} {column : Expr}

/-- The condition of a range is, but for its bound values, the one of its form. -/
theorem blank_rangePredicate {low high : Option Json} {e : Expr}
    (h : rangePredicate? column type low high = some e) :
    ∃ form, e.form? = some form ∧ e.blank = form.blank column.blank := by
  unfold rangePredicate? at h
  split at h
  · cases h
    exact ⟨.between, rfl, rfl⟩
  · cases h
    exact ⟨.atLeast, rfl, rfl⟩
  · cases h
    exact ⟨.atMost, rfl, rfl⟩
  · cases h

/-- The condition of a value is, but for its bound values, the one of its form. -/
theorem blank_valuePredicate {value : Json} {e : Expr}
    (h : s.valuePredicate? type column value = some e) :
    ∃ form, e.form? = some form ∧ e.blank = form.blank column.blank := by
  unfold valuePredicate? at h
  cases hkind : s.kind <;> simp only [hkind] at h
  case text =>
    obtain ⟨needle, -, rfl⟩ := Option.map_eq_some_iff.mp h
    exact ⟨.like, rfl, rfl⟩
  case number | select | date =>
    obtain ⟨l, -, rfl⟩ := Option.map_eq_some_iff.mp h
    exact ⟨.eq, rfl, rfl⟩
  case dateRange =>
    obtain ⟨bounds, -, hrange⟩ := Option.bind_eq_some_iff.mp h
    exact blank_rangePredicate hrange
  case multiselect =>
    obtain ⟨ls, -, rfl⟩ := Option.map_eq_some_iff.mp h
    refine ⟨.isIn (ls.map Expr.param).length, rfl, ?_⟩
    have hvalues : (ls.map Expr.param).map Expr.blank
        = List.replicate (ls.map Expr.param).length (.param .null) := by
      rw [List.map_map, List.length_map]
      exact List.map_eq_replicate_iff.mpr fun l _ => rfl
    rw [Expr.blank, Expr.blankList_eq_map, hvalues]
    rfl

theorem blank_predicate {value : Json} {e : Expr}
    (h : s.predicate? type column value = some e) :
    ∃ form, e.form? = some form ∧ e.blank = form.blank column.blank := by
  unfold predicate? at h
  split at h
  · split at h
    · cases h
      exact ⟨.isNull, rfl, rfl⟩
    · cases h
  · split at h
    · cases h
    · exact blank_valuePredicate h
  · exact blank_valuePredicate h

/-- **Conditions of the same form differ only in bound values.** -/
theorem blank_predicate_congr {value₁ value₂ : Json}
    (h : (s.predicate? type column value₁).map Expr.form?
      = (s.predicate? type column value₂).map Expr.form?) :
    (s.predicate? type column value₁).map Expr.blank
      = (s.predicate? type column value₂).map Expr.blank := by
  cases h₁ : s.predicate? type column value₁ with
  | none =>
    cases h₂ : s.predicate? type column value₂ with
    | none => rfl
    | some e₂ => simp [h₁, h₂] at h
  | some e₁ =>
    cases h₂ : s.predicate? type column value₂ with
    | none => simp [h₁, h₂] at h
    | some e₂ =>
      obtain ⟨form₁, hform₁, hblank₁⟩ := blank_predicate h₁
      obtain ⟨form₂, hform₂, hblank₂⟩ := blank_predicate h₂
      rw [h₁, h₂, Option.map_some, Option.map_some, Option.some.injEq, hform₁, hform₂,
        Option.some.injEq] at h
      rw [Option.map_some, Option.map_some, hblank₁, hblank₂, h]

end FilterSlot

namespace Layout

/-- Two values of one filter put conditions of the same form on its column, or both put none. -/
def AlikeValues (l : Layout) (c : Catalog) (a b : String × Json) : Prop :=
  a.1 = b.1 ∧ ∀ slot ∈ l.filterSlot? a.1, ∀ field ∈ c.refField? slot.field,
    (slot.predicate? field.type (sourceColumn slot.field.source field.columnName) a.2).map
        Expr.form?
      = (slot.predicate? field.type (sourceColumn slot.field.source field.columnName) b.2).map
        Expr.form?

/-- A layout compiled for a tenant, with the conditions of the values of its filters. -/
def filtered (l : Layout) (c : Catalog) (tenant : Int) (values : FilterValues) :
    Except CompileError CompiledQuery :=
  (l.compile c tenant).map fun q => q.applyFilters c values l

variable {c : Catalog} {l l₁ l₂ : Layout} {scope : List String}

/-- Constants are in columns only: the filter slots are the same without them. -/
theorem filterSlot_congr (h : l₁.blank = l₂.blank) (name : String) :
    l₁.filterSlot? name = l₂.filterSlot? name := by
  have hfilters : l₁.filters = l₂.filters := (congrArg Layout.filters h :)
  rw [filterSlot?, filterSlot?, hfilters]

theorem blank_filterPredicate_congr (hlayouts : l₁.blank = l₂.blank) {a b : String × Json}
    (h : l₁.AlikeValues c a b) :
    (l₁.filterPredicate? c scope a.1 a.2).map Expr.blank
      = (l₂.filterPredicate? c scope b.1 b.2).map Expr.blank := by
  obtain ⟨hname, hforms⟩ := h
  unfold filterPredicate?
  rw [← filterSlot_congr hlayouts, ← hname]
  cases hslot : l₁.filterSlot? a.1 with
  | none => rfl
  | some slot =>
    cases hfield : c.refField? slot.field with
    | none => simp [hfield]
    | some field =>
      have hblank := FilterSlot.blank_predicate_congr (hforms slot hslot field hfield)
      by_cases hscope : slot.field.source ∈ scope <;> simp [hfield, hscope, hblank]

theorem blank_filterPredicates_congr (hlayouts : l₁.blank = l₂.blank)
    {values₁ values₂ : FilterValues} (h : List.Forall₂ (l₁.AlikeValues c) values₁ values₂) :
    (l₁.filterPredicates c scope values₁).map Expr.blank
      = (l₂.filterPredicates c scope values₂).map Expr.blank := by
  unfold filterPredicates
  rw [List.map_filterMap, List.map_filterMap]
  induction h with
  | nil => rfl
  | @cons a b values₁ values₂ hab _ ih =>
    have hfirst := @blank_filterPredicate_congr c l₁ l₂ scope hlayouts a b hab
    rw [List.filterMap_cons, List.filterMap_cons]
    simp only [hfirst, ih]

end Layout

/-- Conditions put on a query without its bound values are those without theirs. -/
theorem CompiledQuery.blank_foldl_filter (q : CompiledQuery) (es : List Expr) :
    (es.foldl CompiledQuery.filter q).blank
      = (es.map Expr.blank).foldl CompiledQuery.filter q.blank := by
  induction es generalizing q with
  | nil => rfl
  | cons e es ih =>
    rw [List.foldl_cons, ih, List.map_cons, List.foldl_cons]
    congr 1
    cases hcondition : q.query.condition <;>
      simp [CompiledQuery.filter, CompiledQuery.blank, Sql.Query.filter, Sql.Query.blank,
        hcondition, Expr.and, Expr.blank]

namespace Layout

variable {c : Catalog} {l₁ l₂ : Layout}

/-- **Runs that differ only in values differ only in bound values.** -/
theorem blank_filtered_congr (hlayouts : l₁.blank = l₂.blank) {values₁ values₂ : FilterValues}
    (hvalues : List.Forall₂ (l₁.AlikeValues c) values₁ values₂) (tenant₁ tenant₂ : Int) :
    (l₁.filtered c tenant₁ values₁).map CompiledQuery.blank
      = (l₂.filtered c tenant₂ values₂).map CompiledQuery.blank := by
  have hcompile : (l₁.compile c tenant₁).map CompiledQuery.blank
      = (l₂.compile c tenant₂).map CompiledQuery.blank := by
    rw [← compile_blank, hlayouts, compile_blank]
  -- both runs go on with conditions that differ only in bound values
  refine Except.map_bind_congr hcompile fun q₁ q₂ hq => ?_
  have hscope : q₁.scope = q₂.scope := (congrArg CompiledQuery.scope hq :)
  have hpredicates : (l₁.filterPredicates c q₁.scope values₁).map Expr.blank
      = (l₂.filterPredicates c q₂.scope values₂).map Expr.blank := by
    rw [hscope]
    exact blank_filterPredicates_congr hlayouts hvalues
  simp only [Except.map, CompiledQuery.applyFilters, CompiledQuery.blank_foldl_filter, hq,
    hpredicates]

end Layout

/-- The bound values of a query are in the order of their placeholders: where one is among the
tokens, its placeholder is in the text, numbered by those before it, and under this number the
statement lists it. Every dialect has the same list. -/
structure Sql.Query.BindsInOrder (q : Sql.Query) : Prop where
  placeholders : ∀ before v after, q.tokens = before ++ .param v :: after → ∀ d,
    (q.statement d).sql.toList = renderChars d 1 before
        ++ d.placeholder ((boundValues before).length + 1)
        ++ renderChars d ((boundValues before).length + 2) after ∧
      (q.statement d).params[(boundValues before).length]? = some v
  params : ∀ d, (q.statement d).params = boundValues q.tokens

theorem Sql.Query.bindsInOrder (q : Sql.Query) : q.BindsInOrder where
  placeholders before v after h d := by
    simp only [statement, Sql.Statement.ofTokens, Sql.render, String.toList_ofList, h]
    exact ⟨Sql.renderChars_placeholder d before v after,
      Sql.getElem?_boundValues before v after⟩
  params _ := rfl

/-- **The text does not depend on values.** Two runs of layouts that differ only in the constants
of their columns, for any tenants and with values of filters that put conditions of the same
form, fail for the same reason or give the same text in every dialect; and every run lists its
bound values in the order of their placeholders, the same list in every dialect. -/
theorem Layout.text_of_alike {c : Catalog} {l₁ l₂ : Layout} (hlayouts : l₁.blank = l₂.blank)
    {values₁ values₂ : FilterValues} (hvalues : List.Forall₂ (l₁.AlikeValues c) values₁ values₂)
    (tenant₁ tenant₂ : Int) :
    ((l₁.filtered c tenant₁ values₁).map fun q (d : Dialect) => (q.statement d).sql)
        = ((l₂.filtered c tenant₂ values₂).map fun q (d : Dialect) => (q.statement d).sql) ∧
      ∀ (l : Layout) tenant values q, l.filtered c tenant values = .ok q →
        q.query.BindsInOrder ∧ ∀ d d', (q.statement d).params = (q.statement d').params := by
  refine ⟨?_, fun l tenant values q _ => ⟨q.query.bindsInOrder, fun _ _ => rfl⟩⟩
  have hblank := blank_filtered_congr hlayouts hvalues tenant₁ tenant₂
  cases h₁ : l₁.filtered c tenant₁ values₁ with
  | error e₁ =>
    cases h₂ : l₂.filtered c tenant₂ values₂ with
    | error e₂ =>
      rw [h₁, h₂] at hblank
      cases hblank
      rfl
    | ok q₂ => simp [h₁, h₂, Except.map] at hblank
  | ok q₁ =>
    cases h₂ : l₂.filtered c tenant₂ values₂ with
    | error e₂ => simp [h₁, h₂, Except.map] at hblank
    | ok q₂ =>
      have hquery : q₁.query.blank = q₂.query.blank := by
        rw [h₁, h₂] at hblank
        exact congrArg CompiledQuery.query (Except.ok.inj hblank)
      simp only [Except.map]
      exact congrArg Except.ok (funext fun d => Sql.Query.statement_sql_congr hquery d)

/-- The layout of sales with a constant in a column of its own. -/
def markedLayout (mark : Json) : Layout :=
  { salesLayout with
    columns := salesLayout.columns ++ [⟨.literal mark, "Mark", .text, none, "mark"⟩] }

theorem text_of_alike_markedLayout :
    (markedLayout (.string "a")).blank = (markedLayout (.int 7)).blank ∧
      List.Forall₂ ((markedLayout (.string "a")).AlikeValues shop)
        [("customers.name", .string "an")] [("customers.name", .string "x'; --")] ∧
      (((markedLayout (.string "a")).filtered shop 1 [("customers.name", .string "an")]).map
          fun q (d : Dialect) => (q.statement d).sql)
        = (((markedLayout (.int 7)).filtered shop 2 [("customers.name", .string "x'; --")]).map
          fun q (d : Dialect) => (q.statement d).sql) := by
  have hvalues : List.Forall₂ ((markedLayout (.string "a")).AlikeValues shop)
      [("customers.name", .string "an")] [("customers.name", .string "x'; --")] := by
    refine .cons ⟨rfl, ?_⟩ .nil
    rintro slot ⟨⟩ field ⟨⟩
    rfl
  exact ⟨rfl, hvalues, (Layout.text_of_alike rfl hvalues 1 2).1⟩

end TenantReports
