import TenantReports.Proofs.Compile.Readable
import TenantReports.Proofs.Sql.Vocabulary
import TenantReports.Proofs.Validation.Aliases

/-!
# What compiled queries write

The names in a compiled query are those of its sources, their tables and tenant columns, the
columns of declared fields, and the names of the output; its functions are those that reports know;
its literals are the escape of patterns and numbers that no user gives. Whatever else goes into a
query is bound: the tenant, the constants of columns, the values of filters. What the relations of
the catalog name goes in only as far as it is a declared field, and then as the column of that
field. Over a loaded catalog every name is a plain identifier.

## Main definitions

* `functionNames`: the functions of scalars, the aggregates and the one that filters use
* `Layout.Names`: where a name in a compiled query may come from
* `Layout.vocabularyWith`, `Layout.vocabulary`: what a layout brings into a query, and what a compiled
  and filtered query may write

## Main results

* `Catalog.in_columnExpr`, `FilterSlot.in_predicate`: what is compiled keeps to the vocabulary
* `Layout.in_filtered`: so does a compiled and filtered query
* `Layout.Names.isIdentifier`: the names of a layout that is built are identifiers
* `Layout.tokens_of_build`: the names, functions and literals of a compiled and filtered query
-/

namespace TenantReports

open Sql (Expr Literal Vocabulary)

/-- The functions that a statement may call. -/
def functionNames : List String :=
  (Named.all.map ScalarFunction.sqlName) ++ (Named.all.map Aggregate.sqlName) ++ ["LOWER"]

theorem ScalarFunction.sqlName_mem (f : ScalarFunction) : f.sqlName ∈ functionNames := by
  cases f <;> decide

theorem Aggregate.sqlName_mem (f : Aggregate) : f.sqlName ∈ functionNames := by
  cases f <;> decide

/-- A source of the catalog that a layout has in scope. -/
def Layout.Reads (l : Layout) (c : Catalog) (s : Source) : Prop :=
  c.source? s.key = some s ∧ s.key ∈ l.sources.inScope

/-- The names that a layout may bring into a query: those of a source, its table, its tenant column
and the columns of its fields, and the names of its own columns. -/
inductive Layout.Names (l : Layout) (c : Catalog) : String → Prop where
  | source {s : Source} (hs : l.Reads c s) : l.Names c s.key
  | table {s : Source} (hs : l.Reads c s) : l.Names c s.table
  | tenantColumn {s : Source} (hs : l.Reads c s) : l.Names c s.tenantColumn
  | column {s : Source} {f : SourceField} (hs : l.Reads c s) (hf : f ∈ s.fields) :
    l.Names c f.columnName
  | output {col : Column} (hcol : col ∈ l.columns) : l.Names c col.name

/-- What a layout brings into a query, with the literals that may be there. -/
def Layout.vocabularyWith (l : Layout) (c : Catalog) (literals : Literal → Prop) : Vocabulary where
  names := l.Names c
  functions := (· ∈ functionNames)
  literals

/-- What a compiled and filtered query may write. The literals are the escape of patterns, the numbers of the
comparison that is never true, and the limit. -/
def Layout.vocabulary (l : Layout) (c : Catalog) (limit : Option Nat) : Vocabulary where
  names := l.Names c
  functions := (· ∈ functionNames)
  literals v := v = .string (String.ofList [likeEscape]) ∨ v = .int 1 ∨ v = .int 0 ∨
    ∃ n ∈ limit, v = .int (min n (Nat.pow 2 63 - 1))

variable {c : Catalog} {l : Layout} {scope : List String} {literals : Literal → Prop}

/-! ## Columns and joins -/

namespace Catalog

theorem reads_of_source? {key : String} {s : Source} (hs : c.source? key = some s)
    (hkey : key ∈ l.sources.inScope) : l.Reads c s := by
  obtain rfl : s.key = key := key_of_source? hs
  exact ⟨hs, hkey⟩

/-- The column of a declared field of a source in scope. -/
theorem in_sourceColumn {f : FieldRef} {field : SourceField} (hscope : f.source ∈ l.sources.inScope)
    (hfield : c.refField? f = some field) :
    (sourceColumn f.source field.columnName).In (l.vocabularyWith c literals) := by
  obtain ⟨s, hs, hmem⟩ := Option.bind_eq_some_iff.mp hfield
  have hreads : l.Reads c s := reads_of_source? hs hscope
  refine .column ?_ (.column hreads (List.mem_of_find?_eq_some hmem))
  rintro _ ⟨⟩
  rw [← key_of_source? hs]
  exact .source hreads

theorem in_fieldExpr (hsub : scope ⊆ l.sources.inScope) {f : FieldRef} {e : Expr}
    (h : c.fieldExpr scope f = .ok e) : e.In (l.vocabularyWith c literals) := by
  obtain ⟨hscope, field, hfield, rfl⟩ := fieldExpr_eq_ok.mp h
  exact in_sourceColumn (hsub hscope) hfield

mutual

/-- The value of a column. -/
theorem in_columnExpr (hsub : scope ⊆ l.sources.inScope) {name : String} (e : ColumnExpr)
    {expr : Expr} (h : c.columnExpr scope name e = .ok expr) :
    expr.In (l.vocabularyWith c literals) := by
  cases e with
  | field f => exact in_fieldExpr hsub h
  | literal v =>
    rw [columnExpr] at h
    split at h
    · cases h
      exact .param _
    · cases h
  | call f args =>
    rw [columnExpr, Except.bind_eq_ok] at h
    obtain ⟨exprs, hexprs, hcall⟩ := h
    rw [Except.pure_eq_ok] at hcall
    rw [← hcall]
    exact .call f.sqlName_mem (in_columnExprs hsub args hexprs)

theorem in_columnExprs (hsub : scope ⊆ l.sources.inScope) {name : String} (es : List ColumnExpr)
    {exprs : List Expr} (h : c.columnExprs scope name es = .ok exprs) :
    ∀ a ∈ exprs, a.In (l.vocabularyWith c literals) := by
  cases es with
  | nil =>
    cases h
    exact List.forall_mem_nil _
  | cons e es =>
    simp only [columnExprs, Except.bind_eq_ok, Except.pure_eq_ok] at h
    obtain ⟨first, hfirst, later, hlater, rfl⟩ := h
    exact List.forall_mem_cons.mpr ⟨in_columnExpr hsub e hfirst, in_columnExprs hsub es hlater⟩

end

theorem in_aggregateCall (f : Aggregate) {e : Expr} (h : e.In (l.vocabularyWith c literals)) :
    (f.call e).In (l.vocabularyWith c literals) :=
  .call f.sqlName_mem (List.forall_mem_singleton.mpr h)

theorem in_compileColumn (hsub : scope ⊆ l.sources.inScope) {col : Column} (hcol : col ∈ l.columns)
    {item : Sql.SelectItem} (h : c.compileColumn scope col = .ok item) :
    item.expr.In (l.vocabularyWith c literals) ∧
      ∀ name ∈ item.called, (l.vocabularyWith c literals).names name := by
  simp only [compileColumn, Except.bind_eq_ok, Except.pure_eq_ok] at h
  obtain ⟨e, he, rfl⟩ := h
  have hin : e.In (l.vocabularyWith c literals) := in_columnExpr hsub col.expr he
  refine ⟨?_, ?_⟩
  · cases col.aggregate with
    | none => exact hin
    | some f => exact in_aggregateCall f hin
  · rintro _ ⟨⟩
    exact .output hcol

theorem in_tableRef {s : Source} (hs : l.Reads c s) :
    s.tableRef.In (l.vocabularyWith c literals) where
  table := .table hs
  called := by
    intro name hname
    unfold Source.tableRef at hname
    split at hname
    · cases hname
    · cases hname
      exact .source hs

/-- The tenant is bound. -/
theorem in_tenantCondition {s : Source} (hs : l.Reads c s) (tenant : Int) :
    (tenantCondition s tenant).In (l.vocabularyWith c literals) := by
  refine .binary (.column ?_ (.tenantColumn hs)) (.param _)
  rintro _ ⟨⟩
  exact .source hs

theorem in_compileJoins {tenant : Int} {joins : List Join} {clauses : List Sql.JoinClause}
    {after : List String} (h : c.compileJoins tenant scope joins = .ok (clauses, after))
    (hsub : after ⊆ l.sources.inScope) :
    ∀ clause ∈ clauses, clause.table.In (l.vocabularyWith c literals) ∧
      clause.on.In (l.vocabularyWith c literals) := by
  induction joins generalizing scope clauses with
  | nil =>
    cases h
    exact List.forall_mem_nil _
  | cons j joins ih =>
    obtain ⟨clause, middle, later, hj, hlater, rfl⟩ := compileJoins_cons_eq_ok.mp h
    refine List.forall_mem_cons.mpr ⟨?_, ih hlater⟩
    obtain ⟨s, left, right, hs, rfl, hleft, hright, rfl⟩ := compileJoin_eq_ok.mp hj
    -- the scope of the join is part of that after all joins
    have hmiddle : scope ++ [s.key] ⊆ l.sources.inScope := by
      rw [(compileJoins_ok hlater).1] at hsub
      exact List.Subset.trans (List.subset_append_left _ _) hsub
    have hsource := (usableSource_eq_ok.mp hs).1
    have hkey : s.key = j.table := key_of_source? hsource
    have hreads : l.Reads c s := reads_of_source? hsource (hkey ▸ hmiddle (by simp))
    exact ⟨in_tableRef hreads, .binary (.binary (in_fieldExpr hmiddle hleft)
      (in_fieldExpr hmiddle hright)) (in_tenantCondition hreads tenant)⟩

theorem in_compileSort (hsub : scope ⊆ l.sources.inScope) {s : SortEntry} {item : Sql.OrderItem}
    (h : c.compileSort scope l s = .ok item) : item.expr.In (l.vocabularyWith c literals) := by
  simp only [compileSort, Except.bind_eq_ok, Except.pure_eq_ok] at h
  obtain ⟨e, he, rfl⟩ := h
  unfold compileTarget at he
  split at he
  next => exact in_fieldExpr hsub he
  next name _ =>
    split at he
    · -- the name of a column of the output
      next hany =>
        obtain ⟨col, hcol, hname⟩ := List.any_eq_true.mp hany
        obtain rfl : col.name = name := by simpa using hname
        cases he
        exact .column (by simp) (.output hcol)
    · split at he
      · cases he
      · simp only [Except.bind_eq_ok, Except.pure_eq_ok] at he
        obtain ⟨field, hfield, rfl⟩ := he
        exact in_aggregateCall _ (in_fieldExpr hsub hfield)

end Catalog

/-! ## Filters -/

namespace FilterSlot

variable {s : FilterSlot} {type : FieldType} {column : Expr}

theorem in_rangePredicate (hcolumn : column.In (l.vocabularyWith c literals))
    {low high : Option Json} {e : Expr} (h : rangePredicate? column type low high = some e) :
    e.In (l.vocabularyWith c literals) := by
  unfold rangePredicate? at h
  split at h
  · cases h
    exact .between hcolumn (.param _) (.param _)
  · cases h
    exact .binary hcolumn (.param _)
  · cases h
    exact .binary hcolumn (.param _)
  · cases h

/-- The one literal in the condition of a text is the escape of its pattern. -/
theorem in_valuePredicate (hnever : literals (.int 1) ∧ literals (.int 0))
    (hescape : s.kind = .text → literals (.string (String.ofList [likeEscape])))
    (hcolumn : column.In (l.vocabularyWith c literals)) {value : Json} {e : Expr}
    (h : s.valuePredicate? type column value = some e) : e.In (l.vocabularyWith c literals) := by
  have hlower : (l.vocabularyWith c literals).functions "LOWER" := by
    show "LOWER" ∈ functionNames
    decide
  unfold valuePredicate? at h
  cases hkind : s.kind <;> simp only [hkind] at h
  case text =>
    obtain ⟨needle, -, rfl⟩ := Option.map_eq_some_iff.mp h
    exact .like (hescape hkind) (.call hlower (List.forall_mem_singleton.mpr hcolumn))
      (.call hlower (List.forall_mem_singleton.mpr (.param _)))
  case number | select | date =>
    obtain ⟨v, -, rfl⟩ := Option.map_eq_some_iff.mp h
    exact .binary hcolumn (.param _)
  case dateRange =>
    obtain ⟨bounds, -, hrange⟩ := Option.bind_eq_some_iff.mp h
    exact in_rangePredicate hcolumn hrange
  case multiselect =>
    obtain ⟨vs, -, rfl⟩ := Option.map_eq_some_iff.mp h
    exact .isIn hnever hcolumn
      (List.forall_mem_map.mpr fun v _ => .param v)

/-- **The condition of a filter binds its value.** -/
theorem in_predicate {value : Json} (hnever : literals (.int 1) ∧ literals (.int 0))
    (hescape : s.kind = .text → value ≠ .null → literals (.string (String.ofList [likeEscape])))
    (hcolumn : column.In (l.vocabularyWith c literals)) {e : Expr}
    (h : s.predicate? type column value = some e) : e.In (l.vocabularyWith c literals) := by
  unfold predicate? at h
  split at h
  · split at h
    · cases h
      exact .isNull hcolumn
    · cases h
  · split at h
    · cases h
    · exact in_valuePredicate hnever (fun hkind => hescape hkind (by simp)) hcolumn h
  · next hnull _ => exact in_valuePredicate hnever (fun hkind => hescape hkind hnull) hcolumn h

end FilterSlot

namespace Layout

theorem in_filterPredicate (hsub : scope ⊆ l.sources.inScope) {name : String} {value : Json}
    {e : Expr} (h : l.filterPredicate? c scope name value = some e) (limit : Option Nat) :
    e.In (l.vocabulary c limit) := by
  obtain ⟨slot, field, -, hfield, hscope, hpredicate⟩ := filterPredicate?_eq_some.mp h
  exact FilterSlot.in_predicate ⟨.inr (.inl rfl), .inr (.inr (.inl rfl))⟩ (fun _ _ => .inl rfl)
    (Catalog.in_sourceColumn (hsub hscope) hfield) hpredicate

/-! ## Queries -/

variable {tenant : Int} {q : CompiledQuery}

/-- The sources of a compiled query are those of its layout. -/
theorem scope_of_compile (h : l.compile c tenant = .ok q) : q.scope = l.sources.inScope := by
  obtain ⟨primary, joins, -, -, -, hprimary, hjoins, -⟩ := compile_eq_ok.mp h
  have hkey : primary.key = l.sources.primary :=
    Catalog.key_of_source? (Catalog.usableSource_eq_ok.mp hprimary).1
  rw [(Catalog.compileJoins_ok hjoins).1, hkey]
  rfl

/-- A compiled query keeps to the vocabulary of its layout, and has no literals. -/
theorem in_compile (h : l.compile c tenant = .ok q) : q.query.In (l.vocabularyWith c literals) := by
  have hscope := scope_of_compile h
  obtain ⟨primary, joins, select, groupBy, orderBy, hprimary, hjoins, hselect, hgroupBy, horderBy,
    -, -, hquery⟩ := compile_eq_ok.mp h
  rw [hscope] at hjoins hselect hgroupBy horderBy
  have hsub : l.sources.inScope ⊆ l.sources.inScope := List.Subset.refl _
  have hsource := (Catalog.usableSource_eq_ok.mp hprimary).1
  have hkey : primary.key = l.sources.primary := Catalog.key_of_source? hsource
  have hreads : l.Reads c primary := Catalog.reads_of_source? hsource List.mem_cons_self
  rw [hquery]
  exact {
    select := Except.forall_of_mapM hselect fun _ hcol _ => Catalog.in_compileColumn hsub hcol
    source := by
      rintro _ ⟨⟩
      exact Catalog.in_tableRef hreads
    joins := Catalog.in_compileJoins hjoins hsub
    condition := by
      rintro _ ⟨⟩
      exact Catalog.in_tenantCondition hreads tenant
    groupBy := Except.forall_of_mapM hgroupBy fun _ _ _ => Catalog.in_fieldExpr hsub
    orderBy := Except.forall_of_mapM horderBy fun _ _ _ => Catalog.in_compileSort hsub
    limit := by rintro _ ⟨⟩ }

/-- **So does a compiled and filtered query**, with any limit. -/
theorem in_filtered {values : FilterValues} (h : l.filtered c tenant values = .ok q)
    (limit : Option Nat) : Sql.Query.In (l.vocabulary c limit) { q.query with limit } := by
  have hquery : q.query.In (l.vocabulary c limit) := by
    refine filtered_induction (R := Expr.In (l.vocabulary c limit)) (fun q hq => ?_)
      (fun q e hq he => hq.filter he) h
    refine ⟨in_compile hq, fun name value e he => in_filterPredicate ?_ he limit⟩
    rw [scope_of_compile hq]
    exact List.Subset.refl _
  refine hquery.limited fun n hn => ?_
  simp only [Sql.limitTokens, Sql.within_cons, Sql.within_nil, Sql.Token.In, true_and, and_true]
  exact .inr (.inr (.inr ⟨n, hn, rfl⟩))

/-! ## Layouts that are built -/

/-- **The names of a layout over complete sources are identifiers**, if those of the catalog and of
its columns are. -/
theorem Names.isIdentifier {name : String} (h : l.Names c name) (hc : c.Plain)
    (hvalid : ∀ key ∈ l.sources.inScope, c.isValidSource key = true)
    (houtput : ∀ col ∈ l.columns, isIdentifier col.name = true) : isIdentifier name = true := by
  -- a complete source has neither an empty table nor an empty tenant column
  have hsource : ∀ s, l.Reads c s → s.Plain ∧ s.table ≠ "" ∧ s.tenantColumn ≠ "" := by
    rintro s ⟨hs, hkey⟩
    obtain ⟨s', hs', hcomplete⟩ := Option.any_eq_true .. |>.mp (hvalid s.key hkey)
    obtain rfl : s' = s := Option.some.inj (hs'.symm.trans hs)
    simp only [Source.isValid, Bool.and_eq_true, bne_iff_ne] at hcomplete
    exact ⟨hc s' (List.mem_of_find?_eq_some hs), hcomplete.1.1.2, hcomplete.2⟩
  cases h with
  | source hs => exact (hsource _ hs).1.key
  | table hs =>
    obtain ⟨hplain, htable, -⟩ := hsource _ hs
    exact hplain.table.resolve_left htable
  | tenantColumn hs =>
    obtain ⟨hplain, -, htenant⟩ := hsource _ hs
    exact hplain.tenantColumn.resolve_left htenant
  | column hs hf => exact ((hsource _ hs).1.fields _ hf).columnName
  | output hcol => exact houtput _ hcol

/-- **What a compiled and filtered query writes**: for every layout that is built over a loaded
catalog, every tenant, all values of its filters and every limit. Each name is a plain identifier,
that of a source in scope, of its table, its tenant column or the column of one of its fields, or of
a column of the output; each function is one that reports know; and each literal is the escape of
patterns, a number of the comparison that is never true, or the limit. All other values are
bound. -/
theorem tokens_of_build {v : Validator} {d : Draft} {full : Bool} (hload : v.catalog.Loaded)
    (hbuild : v.build d full = .ok l) {values : FilterValues}
    (h : l.filtered v.catalog tenant values = .ok q) (limit : Option Nat) {t : Sql.Token}
    (ht : t ∈ { q.query with limit }.tokens) :
    (∀ name, t = .ident name → isIdentifier name = true ∧ l.Names v.catalog name) ∧
      (∀ f, t = .function f → f ∈ functionNames) ∧
      ∀ value, t = .literal value →
        value = .string (String.ofList [likeEscape]) ∨ value = .int 1 ∨ value = .int 0 ∨
          ∃ n ∈ limit, value = .int (min n (Nat.pow 2 63 - 1)) := by
  have hpassed := Validator.passed_of_build hbuild
  have hin := (in_filtered h limit).tokens t ht
  refine ⟨?_, ?_, ?_⟩
  · rintro name rfl
    have hname : l.Names v.catalog name := hin
    exact ⟨hname.isIdentifier hload.plain hpassed.sources_valid
      (hpassed.isIdentifier_column hload.plain), hname⟩
  · rintro f rfl
    exact hin
  · rintro value rfl
    exact hin

end Layout

/-! ## Bills

What every customer was billed, over the built-in catalog. A relation supplies the condition of the
join, and both a constant and a value of the filter would end a string of a statement. -/

/-- Customers and their invoices, with a constant for who has no name. -/
def billsDraft : Draft where
  sources := .object [
    ("joins", .array [.object [("table", .string "customers")]]),
    ("primary", .string "invoices")]
  columns := .array [
    .object [
      ("expression", .object [
        ("args", .array [
          .object [("field", .string "customers.name")],
          .object [("value", .string "nobody'; --")]]),
        ("function", .string "coalesce")]),
      ("label", .string "Customer")],
    .object [("field", .string "invoices.total_amount"), ("label", .string "Total")]]
  filters := .array [.object [("field", .string "customers.name"), ("type", .string "text")]]

/-- The layout of `billsDraft`. -/
def billsLayout : Layout where
  sources := ⟨"invoices", [⟨"customers", .inner, ⟨"invoices", "customer_id"⟩, ⟨"customers", "id"⟩⟩]⟩
  columns := [
    ⟨.call .coalesce [.field ⟨"customers", "name"⟩, .literal (.string "nobody'; --")], "Customer",
      .text, none, "column_0"⟩,
    ⟨.field ⟨"invoices", "total_amount"⟩, "Total", .number, none, "invoices_total_amount"⟩]
  filters := [⟨⟨"customers", "name"⟩, "Name", .text, false, []⟩]
  aggregations := ⟨[], []⟩
  sorting := []

theorem build_billsDraft :
    (⟨.builtin, {}⟩ : Validator).build billsDraft false = .ok billsLayout := rfl

theorem billsLayout_writes_identifiers :
    ∃ q, billsLayout.filtered .builtin 7 [("customers.name", .string "x'; --")] = .ok q ∧
      .ident "customers" ∈ { q.query with limit := some 5 }.tokens ∧
      ∀ t ∈ { q.query with limit := some 5 }.tokens, ∀ name, t = .ident name →
        isIdentifier name = true := by
  obtain ⟨q, hq, hmem⟩ : ∃ q,
      billsLayout.filtered .builtin 7 [("customers.name", .string "x'; --")] = .ok q ∧
        .ident "customers" ∈ { q.query with limit := some 5 }.tokens :=
    ⟨_, rfl, by decide⟩
  refine ⟨q, hq, hmem, fun t ht name hname => ?_⟩
  exact ((Layout.tokens_of_build (.inl rfl) build_billsDraft hq (some 5) ht).1 name hname).1

end TenantReports
