import TenantReports.Catalog.Identifier
import TenantReports.Report.Field
import TenantReports.Named

/-!
# Catalogs of data sources

A catalog is the closed set of sources that reports may query. Each source is a table whose rows
belong to tenants, with typed fields and relations to other sources. Sources, fields and
relations are kept in ascending order of their keys.

## Main definitions

* `Source`, `SourceField`, `Relation`: what a catalog declares
* `Catalog`: the sources
* `Catalog.source?`, `Catalog.field?`, `Catalog.resolve?`: looking things up
* `Catalog.isValidSource`, `Catalog.isValidRelation`: what is complete enough to be used
-/

namespace TenantReports

/-- The type of a field's values. -/
inductive FieldType where
  | text
  | number
  | date
  | datetime
  | boolean
deriving DecidableEq, Repr

instance : Named FieldType where
  all := [.text, .number, .date, .datetime, .boolean]
  name
    | .text => "text"
    | .number => "number"
    | .date => "date"
    | .datetime => "datetime"
    | .boolean => "boolean"

/-- Dates, with or without a time of day. -/
def FieldType.isTemporal : FieldType → Bool
  | .date | .datetime => true
  | _ => false

/-- How many rows of two related sources belong together. -/
inductive Cardinality where
  | oneToOne
  | oneToMany
  | manyToOne
  | manyToMany
deriving DecidableEq, Repr

instance : Named Cardinality where
  all := [.oneToOne, .oneToMany, .manyToOne, .manyToMany]
  name
    | .oneToOne => "one_to_one"
    | .oneToMany => "one_to_many"
    | .manyToOne => "many_to_one"
    | .manyToMany => "many_to_many"

/-- A field of a source, and what reports may do with it. -/
structure SourceField where
  key : String
  label : String
  type : FieldType
  filterable : Bool := false
  sortable : Bool := false
  aggregatable : Bool := false
  column : Option String := none
deriving DecidableEq, Repr

/-- The column of the table that holds the field: the one given, else the key. -/
def SourceField.columnName (f : SourceField) : String := f.column.getD f.key

/-- A relation of a source to another one. -/
structure Relation where
  key : String
  target : String
  cardinality : Cardinality := .manyToOne
  localField : Option String := none
  foreignField : Option String := none
deriving DecidableEq, Repr

/-- A source: a table whose rows belong to the tenant in its tenant column. -/
structure Source where
  key : String
  label : String
  category : String
  table : String
  model : String
  tenantColumn : String
  fields : List SourceField
  relations : List Relation
deriving DecidableEq, Repr

/-- The tenant column of a source that names none. -/
def defaultTenantColumn : String := "organization_id"

/-- Things in ascending order of their keys. Of two with one key the later is kept. -/
def orderBy {α : Type} (key : α → String) (things : List α) : List α :=
  (orderKeys (things.map fun a => (key a, a))).map (·.2)

namespace Source

/-- A field by its key. -/
def field? (s : Source) (key : String) : Option SourceField := s.fields.find? (·.key == key)

/-- A relation by its key. -/
def relation? (s : Source) (key : String) : Option Relation := s.relations.find? (·.key == key)

/-- Complete enough to be queried: it has fields, a table, a model and a tenant column. -/
def isValid (s : Source) : Bool :=
  !s.fields.isEmpty && s.table != "" && s.model != "" && s.tenantColumn != ""

/-- The same source with its fields and relations in order. -/
def normalize (s : Source) : Source :=
  { s with fields := orderBy (·.key) s.fields, relations := orderBy (·.key) s.relations }

end Source

/-- A catalog: its sources in ascending order of their keys. -/
structure Catalog where
  sources : List Source
deriving DecidableEq, Repr

namespace Catalog

/-- The catalog of these sources. Of two with one key the later is kept. -/
def ofSources (sources : List Source) : Catalog :=
  ⟨orderBy (·.key) (sources.map Source.normalize)⟩

/-- A source by its key. -/
def source? (c : Catalog) (key : String) : Option Source := c.sources.find? (·.key == key)

/-- A field by the keys of its source and its own. -/
def field? (c : Catalog) (source field : String) : Option SourceField :=
  (c.source? source).bind (·.field? field)

/-- The field that a reference means. -/
def refField? (c : Catalog) (f : FieldRef) : Option SourceField := c.field? f.source f.field

/-- The source and field of a full name, split at its first dot. -/
def resolve? (c : Catalog) (fullName : String) : Option (Source × SourceField) := do
  let _dot :: field := fullName.toList.dropWhile (· != '.') | none
  let s ← c.source? (String.ofList (fullName.toList.takeWhile (· != '.')))
  let f ← s.field? (String.ofList field)
  return (s, f)

/-- The source exists and is complete. -/
def isValidSource (c : Catalog) (key : String) : Bool := (c.source? key).any Source.isValid

/-- Both ends of the relation are valid sources, and the fields it names exist. -/
def isValidRelation (c : Catalog) (source relation : String) : Bool :=
  match (c.source? source).bind (·.relation? relation) with
  | none => false
  | some r =>
    c.isValidSource source && c.isValidSource r.target
      && r.localField.all (fun f => (c.field? source f).isSome)
      && r.foreignField.all (fun f => (c.field? r.target f).isSome)

/-- The field may be filtered by. -/
def isFilterable (c : Catalog) (source field : String) : Bool :=
  (c.field? source field).any (·.filterable)

/-- The field may be sorted by. -/
def isSortable (c : Catalog) (source field : String) : Bool :=
  (c.field? source field).any (·.sortable)

/-- The field may be aggregated. -/
def isAggregatable (c : Catalog) (source field : String) : Bool :=
  (c.field? source field).any (·.aggregatable)

end Catalog

end TenantReports
