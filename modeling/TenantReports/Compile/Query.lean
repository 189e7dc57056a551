import TenantReports.Catalog.Source
import TenantReports.Report.Layout
import TenantReports.Sql.Query

/-!
# Compiling layouts

A layout becomes a query for one tenant. The primary source is restricted to the tenant's rows by
the first condition of the query; each joined source is by its own join condition, so that an
outer join keeps its meaning. Constants of a layout are bound values.

## Main definitions

* `CompileError`: why a layout does not compile
* `CompiledQuery`: a query with its output columns and sources
* `Layout.compile`: a layout compiled against a catalog for a tenant
-/

namespace TenantReports

open Sql (Expr Literal)

/-- Why a layout does not compile. -/
inductive CompileError where
  | unknownSource (key : String)
  | unknownField (name : String)
  | sourceNotJoined (key field : String)
  | invalidLiteral (name : String)
  | unknownAlias (name : String)
deriving DecidableEq, Repr

/-- The name of the kind of error. -/
def CompileError.code : CompileError → String
  | .unknownSource _ => "UnknownSource"
  | .unknownField _ => "UnknownField"
  | .sourceNotJoined _ _ => "SourceNotJoined"
  | .invalidLiteral _ => "InvalidLiteral"
  | .unknownAlias _ => "UnknownAlias"

/-- How an error is told. -/
def CompileError.message : CompileError → String
  | .unknownSource key => s!"Unknown data source: {key}"
  | .unknownField name => s!"Unknown field: {name}"
  | .sourceNotJoined key field =>
    s!"Data source '{key}' is not part of the report (field {field})"
  | .invalidLiteral name => s!"Column '{name}' holds a literal that cannot be bound"
  | .unknownAlias name => s!"Sort alias '{name}' is not an output column"

/-- A column of the result. -/
structure OutputColumn where
  name : String
  label : String
  format : ColumnFormat
deriving DecidableEq, Repr

/-- A query for a tenant, with its output columns and the sources it reads. -/
structure CompiledQuery where
  query : Sql.Query
  columns : List OutputColumn
  tenant : Int
  scope : List String

namespace CompiledQuery

/-- The statement in a dialect. -/
def statement (c : CompiledQuery) (d : Sql.Dialect) : Sql.Statement := c.query.statement d

/-- The text in the default dialect. -/
def text (c : CompiledQuery) : String := c.query.text .sqlite

/-- At most that many rows. -/
def withLimit (c : CompiledQuery) (n : Nat) : CompiledQuery :=
  { c with query := c.query.withLimit n }

/-- A further condition. -/
def filter (c : CompiledQuery) (e : Expr) : CompiledQuery := { c with query := c.query.filter e }

end CompiledQuery

/-- A column of a source. -/
def sourceColumn (source column : String) : Expr := .column (some source) column

/-- The rows of a source are those of a tenant. -/
def tenantCondition (s : Source) (tenant : Int) : Expr :=
  (sourceColumn s.key s.tenantColumn).eq (.param (.int tenant))

/-- The table of a source, named by the source's key. -/
def Source.tableRef (s : Source) : Sql.TableRef :=
  ⟨s.table, if s.table = s.key then none else some s.key⟩

/-- The call of an aggregate. -/
def Aggregate.call (f : Aggregate) (e : Expr) : Expr := .call f.sqlName [e]

namespace Catalog

/-- A source that is complete. -/
def usableSource (c : Catalog) (key : String) : Except CompileError Source :=
  match c.source? key with
  | some s => if s.isValid then .ok s else .error (.unknownSource key)
  | none => .error (.unknownSource key)

/-- The column of a field of one of the sources in scope. -/
def fieldExpr (c : Catalog) (scope : List String) (f : FieldRef) : Except CompileError Expr :=
  if !scope.contains f.source then .error (.sourceNotJoined f.source f.fullName)
  else match c.refField? f with
    | some field => .ok (sourceColumn f.source field.columnName)
    | none => .error (.unknownField f.fullName)

mutual

/-- The value of a column. -/
def columnExpr (c : Catalog) (scope : List String) (name : String) :
    ColumnExpr → Except CompileError Expr
  | .field f => c.fieldExpr scope f
  | .literal v =>
    match Literal.ofJson? v with
    | some l => .ok (.param l)
    | none => .error (.invalidLiteral name)
  | .call f args => do
    let args ← c.columnExprs scope name args
    return .call f.sqlName args

/-- The values of a list of arguments. -/
def columnExprs (c : Catalog) (scope : List String) (name : String) :
    List ColumnExpr → Except CompileError (List Expr)
  | [] => .ok []
  | e :: es => do
    let e ← c.columnExpr scope name e
    let es ← c.columnExprs scope name es
    return e :: es

end

/-- A join, restricted to the tenant's rows, and the sources in scope after it. -/
def compileJoin (c : Catalog) (tenant : Int) (scope : List String) (j : Join) :
    Except CompileError (Sql.JoinClause × List String) := do
  let target ← c.usableSource j.table
  let scope := scope ++ [target.key]
  let left ← c.fieldExpr scope j.left
  let right ← c.fieldExpr scope j.right
  return (⟨j.kind, target.tableRef, (left.eq right).and (tenantCondition target tenant)⟩, scope)

/-- Joins one after the other, and the sources in scope after them. -/
def compileJoins (c : Catalog) (tenant : Int) (scope : List String) :
    List Join → Except CompileError (List Sql.JoinClause × List String)
  | [] => .ok ([], scope)
  | j :: js => do
    let (clause, scope) ← c.compileJoin tenant scope j
    let (clauses, scope) ← c.compileJoins tenant scope js
    return (clause :: clauses, scope)

/-- An item of the select list. -/
def compileColumn (c : Catalog) (scope : List String) (col : Column) :
    Except CompileError Sql.SelectItem := do
  let e ← c.columnExpr scope col.name col.expr
  let e := match col.aggregate with
    | some f => f.call e
    | none => e
  return ⟨e, some col.name⟩

/-- What a sort entry orders by. An alias of a column stands for itself; one of an aggregation
that no column shows stands for the aggregate. -/
def compileTarget (c : Catalog) (scope : List String) (l : Layout) :
    SortTarget → Except CompileError Expr
  | .field f => c.fieldExpr scope f
  | .output name =>
    if l.columns.any (·.name == name) then .ok (.column none name)
    else match l.aggregations.functions.find? (·.name == name) with
      | none => .error (.unknownAlias name)
      | some a => do
        let e ← c.fieldExpr scope a.field
        return a.function.call e

/-- An item to order by. -/
def compileSort (c : Catalog) (scope : List String) (l : Layout) (s : SortEntry) :
    Except CompileError Sql.OrderItem := do
  let e ← c.compileTarget scope l s.target
  return ⟨e, s.direction⟩

end Catalog

/-- A column of the result. -/
def Column.output (c : Column) : OutputColumn := ⟨c.name, c.label, c.format⟩

/-- A layout compiled for a tenant. -/
def Layout.compile (l : Layout) (c : Catalog) (tenant : Int) :
    Except CompileError CompiledQuery := do
  let primary ← c.usableSource l.sources.primary
  let (joins, scope) ← c.compileJoins tenant [primary.key] l.sources.joins
  let select ← l.columns.mapM (c.compileColumn scope)
  let groupBy ← l.aggregations.groupBy.mapM (c.fieldExpr scope)
  let orderBy ← l.sorting.mapM (c.compileSort scope l)
  return {
    query := {
      select
      source := some primary.tableRef
      joins
      condition := some (tenantCondition primary tenant)
      groupBy
      orderBy }
    columns := l.columns.map Column.output
    tenant
    scope }

end TenantReports
