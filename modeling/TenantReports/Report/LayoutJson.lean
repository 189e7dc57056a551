import TenantReports.Report.Layout
import TenantReports.Json.Record
import TenantReports.Json.Printer
import TenantReports.Bytes.Sha256

/-!
# Layouts as JSON

A layout is stored as a record of records. Parts are written in the order of their declaration,
so that equal layouts have equal texts; no options and no aggregate are left out. In reading,
parts with a default may be missing.

## Main definitions

* `Layout.toJson`, `Layout.ofJson?`: writing and reading
* `Layout.hash`: the digest of the compact text
-/

namespace TenantReports

namespace Join

/-- A join as a record. -/
def toJson (j : Join) : Json :=
  .object [("table", .string j.table), ("type", Named.toJson j.kind),
    ("on", .array [j.left.toJson, j.right.toJson])]

/-- The two fields of a join condition. -/
def condition? : Json → Option (FieldRef × FieldRef)
  | .array [l, r] => do return (← FieldRef.ofJson? l, ← FieldRef.ofJson? r)
  | _ => none

/-- A join that a record is. -/
def ofJson? (j : Json) : Option Join := do
  let r ← j.asRecord? ["table", "type", "on"]
  let table ← r.required? "table" Json.asString?
  let kind ← r.required? "type" Named.ofJson?
  let (left, right) ← r.required? "on" condition?
  return ⟨table, kind, left, right⟩

end Join

namespace Sources

/-- The sources as a record. -/
def toJson (s : Sources) : Json :=
  .object [("primary", .string s.primary), ("joins", .array (s.joins.map Join.toJson))]

/-- The sources that a record lists. -/
def ofJson? (j : Json) : Option Sources := do
  let r ← j.asRecord? ["primary", "joins"]
  return ⟨← r.required? "primary" Json.asString?,
    ← r.withDefault? "joins" [] (Json.listOf? Join.ofJson?)⟩

end Sources

namespace ColumnExpr

mutual

/-- One key says what an expression is. -/
def toJson : ColumnExpr → Json
  | .field f => .object [("field", f.toJson)]
  | .literal v => .object [("literal", v)]
  | .call f args =>
    .object [("call", .object [("function", Named.toJson f), ("args", .array (argsToJson args))])]

/-- A list of arguments. -/
def argsToJson : List ColumnExpr → List Json
  | [] => []
  | e :: es => toJson e :: argsToJson es

end

mutual

/-- Reads an expression: an object with one of the three keys and no other. -/
def ofJson? : Json → Option ColumnExpr
  | .object [("field", v)] => (FieldRef.ofJson? v).map .field
  | .object [("literal", v)] => some (.literal v)
  | .object [("call", .object entries)] => do
    let f ← (entries.lookup "function").bind Named.ofJson?
    let args ← argsOfEntries? entries
    return .call f args
  | _ => none

/-- The arguments among the entries of a call. -/
def argsOfEntries? : List (String × Json) → Option (List ColumnExpr)
  | [] => none
  | (key, j) :: rest =>
    if key = "args" then
      match j with
      | .array args => argsOfJson? args
      | _ => none
    else argsOfEntries? rest

/-- Reads a list of arguments. -/
def argsOfJson? : List Json → Option (List ColumnExpr)
  | [] => some []
  | j :: js => do return (← ofJson? j) :: (← argsOfJson? js)

end

end ColumnExpr

namespace Column

/-- A column as a record, without an aggregate it does not have. -/
def toJson (c : Column) : Json :=
  .object ([("expr", c.expr.toJson), ("label", .string c.label), ("format", Named.toJson c.format)]
    ++ (match c.aggregate with
      | some a => [("aggregation", Named.toJson a)]
      | none => [])
    ++ [("alias", .string c.name)])

/-- A column that a record is. -/
def ofJson? (j : Json) : Option Column := do
  let r ← j.asRecord? ["expr", "label", "format", "aggregation", "alias"]
  return ⟨← r.required? "expr" ColumnExpr.ofJson?, ← r.required? "label" Json.asString?,
    ← r.withDefault? "format" .text Named.ofJson?, ← r.nullable? "aggregation" Named.ofJson?,
    ← r.required? "alias" Json.asString?⟩

end Column

namespace FilterSlot

/-- A filter slot as a record, without options if there are none. -/
def toJson (s : FilterSlot) : Json :=
  .object ([("field", s.field.toJson), ("label", .string s.label), ("type", Named.toJson s.kind),
      ("required", .bool s.required)]
    ++ (if s.options.isEmpty then [] else [("options", .array s.options)]))

/-- A filter slot that a record is. -/
def ofJson? (j : Json) : Option FilterSlot := do
  let r ← j.asRecord? ["field", "label", "type", "required", "options"]
  return ⟨← r.required? "field" FieldRef.ofJson?, ← r.required? "label" Json.asString?,
    ← r.required? "type" Named.ofJson?, ← r.withDefault? "required" false Json.asBool?,
    ← r.withDefault? "options" [] Json.asArray?⟩

end FilterSlot

namespace Aggregation

/-- An aggregation as a record. -/
def toJson (a : Aggregation) : Json :=
  .object [("field", a.field.toJson), ("function", Named.toJson a.function),
    ("alias", .string a.name)]

/-- An aggregation that a record is. -/
def ofJson? (j : Json) : Option Aggregation := do
  let r ← j.asRecord? ["field", "function", "alias"]
  return ⟨← r.required? "field" FieldRef.ofJson?, ← r.required? "function" Named.ofJson?,
    ← r.required? "alias" Json.asString?⟩

end Aggregation

namespace Aggregations

/-- The aggregations as a record. -/
def toJson (a : Aggregations) : Json :=
  .object [("group_by", .array (a.groupBy.map FieldRef.toJson)),
    ("functions", .array (a.functions.map Aggregation.toJson))]

/-- The aggregations that a record lists. -/
def ofJson? (j : Json) : Option Aggregations := do
  let r ← j.asRecord? ["group_by", "functions"]
  return ⟨← r.withDefault? "group_by" [] (Json.listOf? FieldRef.ofJson?),
    ← r.withDefault? "functions" [] (Json.listOf? Aggregation.ofJson?)⟩

end Aggregations

namespace SortTarget

/-- One key says what is ordered by. -/
def toJson : SortTarget → Json
  | .field f => .object [("field", f.toJson)]
  | .output name => .object [("alias", .string name)]

/-- Reads what is ordered by: an object with one of the two keys and no other. -/
def ofJson? : Json → Option SortTarget
  | .object [("field", v)] => (FieldRef.ofJson? v).map .field
  | .object [("alias", .string name)] => some (.output name)
  | _ => none

end SortTarget

namespace SortEntry

/-- A sort entry as a record. -/
def toJson (s : SortEntry) : Json :=
  .object [("target", s.target.toJson), ("direction", Named.toJson s.direction)]

/-- A sort entry that a record is. -/
def ofJson? (j : Json) : Option SortEntry := do
  let r ← j.asRecord? ["target", "direction"]
  return ⟨← r.required? "target" SortTarget.ofJson?,
    ← r.withDefault? "direction" .asc Named.ofJson?⟩

end SortEntry

namespace Layout

/-- A layout as a record. -/
def toJson (l : Layout) : Json :=
  .object [("data_sources", l.sources.toJson), ("columns", .array (l.columns.map Column.toJson)),
    ("filters", .array (l.filters.map FilterSlot.toJson)),
    ("aggregations", l.aggregations.toJson),
    ("sorting", .array (l.sorting.map SortEntry.toJson))]

/-- A layout that a record is. -/
def ofJson? (j : Json) : Option Layout := do
  let r ← j.asRecord? ["data_sources", "columns", "filters", "aggregations", "sorting"]
  return ⟨← r.required? "data_sources" Sources.ofJson?,
    ← r.required? "columns" (Json.listOf? Column.ofJson?),
    ← r.withDefault? "filters" [] (Json.listOf? FilterSlot.ofJson?),
    ← r.withDefault? "aggregations" {} Aggregations.ofJson?,
    ← r.withDefault? "sorting" [] (Json.listOf? SortEntry.ofJson?)⟩

/-- The text in which a layout is stored. -/
def text (l : Layout) : String := l.toJson.compact

/-- The digest of a layout's text. It tells whether a layout changed. -/
def hash (l : Layout) : String := Sha256.ofText l.text

end Layout

end TenantReports
