import TenantReports.Catalog.Source

/-!
# Sources as JSON

## Main definitions

* `SourceField.toJson`, `Relation.toJson`, `Source.toJson`: records of what a catalog declares
-/

namespace TenantReports

/-- A field as a record. -/
def SourceField.toJson (f : SourceField) : Json :=
  .object [("key", .string f.key), ("label", .string f.label), ("data_type", Named.toJson f.type),
    ("filterable", .bool f.filterable), ("sortable", .bool f.sortable),
    ("aggregatable", .bool f.aggregatable), ("column", .ofString? f.column)]

/-- A relation as a record. -/
def Relation.toJson (r : Relation) : Json :=
  .object [("key", .string r.key), ("target", .string r.target),
    ("cardinality", Named.toJson r.cardinality), ("local_field", .ofString? r.localField),
    ("foreign_field", .ofString? r.foreignField)]

namespace Source

/-- The fields by their keys. -/
def fieldsJson (s : Source) : Json := .object (s.fields.map fun f => (f.key, f.toJson))

/-- The relations by their keys. -/
def relationsJson (s : Source) : Json := .object (s.relations.map fun r => (r.key, r.toJson))

/-- A source as a record. -/
def toJson (s : Source) : Json :=
  .object [("key", .string s.key), ("label", .string s.label), ("category", .string s.category),
    ("table", .string s.table), ("model", .string s.model),
    ("tenant_column", .string s.tenantColumn), ("fields", s.fieldsJson),
    ("relations", s.relationsJson)]

end Source

end TenantReports
