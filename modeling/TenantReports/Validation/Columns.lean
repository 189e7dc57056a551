import TenantReports.Validation.Aggregations

/-!
# Checking columns

A column shows a field, a declared aggregation, or an expression. A field may be aggregated where
it permits it. Every column has an alias of its own; only a column that shows a declared
aggregation shares that aggregation's alias.

## Main definitions

* `checkExpr`: an expression, up to a depth
* `freshAlias`: the first name with a number that is not taken
* `defaultColumnAlias`: the alias of a column that gives none
* `checkColumn`, `checkColumns`: a column and the section
-/

namespace TenantReports

/-- How deep the calls of an expression may nest. -/
def maxExprDepth : Nat := 8

/-- An expression: an object with a field, a constant or a function call. Each level of calls
uses up one unit of fuel. -/
def checkExpr (scope : Scope) (place : Place) : Nat → Json → Checked ColumnExpr
  | 0, _ => .fail (.invalidExpression place .tooDeep)
  | fuel + 1, .object entries =>
    match entries.lookup "field", entries.lookup "value", entries.lookup "function" with
    | some (.string name), _, _ => (fun r => .field r.ref) <$> scope.resolve place name
    | some _, _, _ => .fail (.invalidExpression place .fieldNotText)
    | none, some value, _ =>
      if value.isScalar then .ok (.literal value)
      else .fail (.invalidExpression place .literalNotScalar)
    | none, none, some name =>
      match name.asString?.bind Named.parse?, entries.lookup "args" with
      | none, _ => .fail (.invalidExpression place (.unknownFunction name))
      | some f, some (.array args) =>
        if !ScalarFunction.accepts f args.length then
          .fail (.invalidExpression place (.wrongArity f args.length))
        else (fun args => .call f args) <$> Checked.all (args.map (checkExpr scope place fuel))
      | some _, _ => .fail (.invalidExpression place .argsNotList)
    | none, none, none => .fail (.invalidExpression place .noExpression)
  | _ + 1, _ => .fail (.invalidExpression place .noExpression)

/-- The name itself if it is not taken, else the first of `name_2`, `name_3`, … that is not. -/
def freshAlias (taken : List String) (name : String) : String :=
  if taken.contains name then
    let numbered := fun n => name ++ "_" ++ Json.intText (n + 2 : Nat)
    (((List.range taken.length).map numbered).find? fun a => !taken.contains a).getD
      (numbered taken.length)
  else name

/-- The alias of a column that gives none: after its aggregate and field, or after its index, and
numbered until it is fresh. A column that repeats a declared aggregation with its default alias
shares that alias, once. -/
def defaultColumnAlias (index : Nat) (expr : Option ColumnExpr) (aggregate : Option Aggregate)
    (declared : List Aggregation) (used : List String) : String :=
  let taken := used ++ declared.map (·.name)
  match expr.bind ColumnExpr.asField?, aggregate with
  | some field, some function =>
    let name := defaultAggregateAlias function field
    if declared.contains ⟨field, function, name⟩ && !used.contains name then name
    else freshAlias taken name
  | some field, none => freshAlias taken field.defaultAlias
  | none, _ => freshAlias taken ("column_" ++ Json.intText index)

/-- What a column shows: an expression, or a field with what the catalog says about it, perhaps
as a declared aggregation. -/
structure Subject where
  expr : ColumnExpr
  field : Option SourceField
  projected : Option Aggregation

/-- What a column shows. A name is that of a declared aggregation, or else of a field. -/
def checkSubject (scope : Scope) (place : Place) (declared : List Aggregation)
    (aggregate : Option Aggregate) (entries : List (String × Json)) : Checked Subject :=
  match given? entries "expression" with
  | some j =>
    (fun () e => ⟨e, none, none⟩)
      <$> Checked.require aggregate.isNone (.invalidExpression place .aggregated)
      <*> checkExpr scope place (maxExprDepth + 1) j
  | none => (requiredText place entries "field").andThen fun name =>
    match declared.find? (·.name == name) with
    | some a => .ok ⟨.field a.field, scope.catalog.refField? a.field, some a⟩
    | none => (fun r => ⟨.field r.ref, some r.field, none⟩) <$> scope.resolve place name

/-- A field that a column aggregates by itself permits it. -/
def permitColumn (place : Place) (aggregate : Option Aggregate) : Option Subject → Checked Unit
  | some ⟨.field ref, some field, none⟩ =>
    match aggregate with
    | some f => permitAggregate place f ⟨ref, field⟩
    | none => .ok ()
  | _ => .ok ()

/-- The format of a column that gives none: counts are numbers, fields go by their type. -/
def defaultFormat (field : Option SourceField) (aggregate : Option Aggregate) : ColumnFormat :=
  if aggregate = some .count then .number
  else match field.map SourceField.type with
    | some .number => .number
    | some .date => .date
    | some .datetime => .datetime
    | _ => .text

/-- The alias of a column, given those of earlier columns. -/
def columnAlias (place : Place) (index : Nat) (declared : List Aggregation) (used : List String)
    (subject : Option Subject) (aggregate : Option Aggregate) (given : Option Json) :
    Checked String :=
  match subject.bind (·.projected), given with
  | some a, _ =>
    (fun () => a.name) <$> Checked.require (!used.contains a.name) (.duplicateAlias place a.name)
  | none, none => .ok (defaultColumnAlias index (subject.map (·.expr)) aggregate declared used)
  | none, some j =>
    (Checked.ofOption (identifier? j) (.invalidValue place "alias" j)).andThen fun name =>
      (fun () => name) <$> Checked.require
        (!used.contains name && declared.all (·.name != name)) (.duplicateAlias place name)

/-- A column, and the aliases that columns have so far. -/
def checkColumn (scope : Scope) (declared : List Aggregation) (index : Nat) (item : Json)
    (used : List String) : Checked Column × List String :=
  let place := Place.column index
  match item with
  | .object entries =>
    let label := Text.trim <$> requiredText place entries "label"
    let stated : Checked (Option Aggregate) := match given? entries "aggregation" with
      | none => .ok none
      | some j =>
        some <$> .ofOption (j.asString?.bind Named.parse?) (.invalidValue place "aggregation" j)
    let ownAggregate := stated.value?.join
    let subject := checkSubject scope place declared ownAggregate entries
    let aggregate := match subject.value?.bind (·.projected) with
      | some a => some a.function
      | none => ownAggregate
    let permitted := permitColumn place aggregate subject.value?
    let format := wordOr place "format"
      (defaultFormat (subject.value?.bind (·.field)) aggregate) (given? entries "format")
    let name := columnAlias place index declared used subject.value? aggregate
      (given? entries "alias")
    let checked := (fun label _ (subject : Subject) () format name =>
        (⟨subject.expr, label, format, aggregate, name⟩ : Column))
      <$> label <*> stated <*> subject <*> permitted <*> format <*> name
    match checked with
    | .ok column => (.ok column, used ++ [column.name])
    | .bad p ps => (.bad p ps, used)
  | _ => (.fail (.malformed place "a column object"), used)

/-- The columns, of which there is at least one, or the problem that the section has the wrong
shape. -/
def checkColumns (scope : Scope) (limits : Limits) (declared : List Aggregation) (j : Json) :
    Except Problem (Section Column) := do
  let items ← listSection? .columns "a list of columns" j
  if items.isEmpty then return ⟨[.noColumns], []⟩
  let (columns, _) := Checked.checkAll (checkColumn scope declared) 0 items []
  return .ofItems (atMost .columns items.length limits.maxColumns) columns []

end TenantReports
