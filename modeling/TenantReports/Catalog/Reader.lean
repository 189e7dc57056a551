import TenantReports.Catalog.Source
import TenantReports.Toml.Document
import TenantReports.Toml.Record

/-!
# Reading catalogs

A catalog is a TOML document with a table of sources. No keys other than the declared ones are
allowed. Every name that can reach a query must be a plain identifier; a table and a tenant
column may be empty, which makes the source unusable but not the catalog.

## Main definitions

* `CatalogError`: why a catalog does not load
* `Catalog.ofToml`: the catalog that a document denotes
-/

namespace TenantReports

/-- Why a catalog does not load. -/
inductive CatalogError where
  | unreadable
  | malformed
  | invalidIdentifier (kind name : String)
deriving DecidableEq, Repr

/-- What is told about a name that is no identifier. -/
def CatalogError.message : CatalogError → String
  | .unreadable => "Failed to read catalog"
  | .malformed => "Failed to parse catalog"
  | .invalidIdentifier kind name => s!"{kind} '{name}' is not a plain SQL identifier"

namespace SourceField

/-- A field as a catalog declares it under a key. -/
def ofJson? (key : String) (j : Json) : Option SourceField := do
  let r ← Toml.asClosedRecord?
    ["label", "type", "filterable", "sortable", "aggregatable", "column"] j
  return {
    key
    label := (← r.optional? "label" Json.asString?).getD key
    type := ← r.required? "type" Toml.named?
    filterable := ← r.withDefault? "filterable" false Json.asBool?
    sortable := ← r.withDefault? "sortable" false Json.asBool?
    aggregatable := ← r.withDefault? "aggregatable" false Json.asBool?
    column := ← r.optional? "column" Json.asString? }

/-- The names of a field are identifiers. -/
def check (f : SourceField) : Except CatalogError Unit := do
  if !isIdentifier f.key then throw (.invalidIdentifier "Field" f.key)
  match f.column with
  | some column => if !isIdentifier column then throw (.invalidIdentifier "Column" column)
  | none => pure ()

end SourceField

namespace Relation

/-- A relation as a catalog declares it under a key. -/
def ofJson? (key : String) (j : Json) : Option Relation := do
  let r ← Toml.asClosedRecord? ["target", "cardinality", "local_field", "foreign_field"] j
  return {
    key
    target := ← r.required? "target" Json.asString?
    cardinality := ← r.withDefault? "cardinality" .manyToOne Toml.named?
    localField := ← r.optional? "local_field" Json.asString?
    foreignField := ← r.optional? "foreign_field" Json.asString? }

/-- The key of a relation is an identifier. -/
def check (r : Relation) : Except CatalogError Unit :=
  if isIdentifier r.key then pure () else throw (.invalidIdentifier "Relation" r.key)

end Relation

namespace Source

/-- A source as a catalog declares it under a key. -/
def ofJson? (key : String) (j : Json) : Option Source := do
  let r ← Toml.asClosedRecord?
    ["label", "category", "table", "model", "tenant_column", "fields", "relations"] j
  let members {α : Type} (field : String) (read : String → Json → Option α) :
      Option (List α) := r.withDefault? field [] fun j => do
      (← j.asObject?).mapM fun (k, v) => read k v
  return {
    key
    label := (← r.optional? "label" Json.asString?).getD key
    category := ← r.withDefault? "category" "" Json.asString?
    table := ← r.withDefault? "table" "" Json.asString?
    model := ← r.withDefault? "model" "" Json.asString?
    tenantColumn := (← r.optional? "tenant_column" Json.asString?).getD defaultTenantColumn
    fields := ← members "fields" SourceField.ofJson?
    relations := ← members "relations" Relation.ofJson? }

/-- A name that may be empty and is an identifier otherwise. -/
def checkName (kind name : String) : Except CatalogError Unit :=
  if name = "" ∨ isIdentifier name then pure () else throw (.invalidIdentifier kind name)

/-- The names of a source, its fields and its relations are identifiers. -/
def check (s : Source) : Except CatalogError Unit := do
  if !isIdentifier s.key then throw (.invalidIdentifier "Source" s.key)
  checkName "Table" s.table
  checkName "Tenant column" s.tenantColumn
  s.fields.forM SourceField.check
  s.relations.forM Relation.check

end Source

namespace Catalog

/-- The sources that a document declares. -/
def sourcesOfJson? (j : Json) : Option (List Source) := do
  let r ← Toml.asClosedRecord? ["sources"] j
  r.withDefault? "sources" [] fun j => do
    (← j.asObject?).mapM fun (k, v) => Source.ofJson? k v

/-- The catalog that a TOML document denotes. -/
def ofToml (text : String) : Except CatalogError Catalog := do
  let some sources := (Toml.parse? text).bind sourcesOfJson? | throw .malformed
  sources.forM Source.check
  return ⟨sources⟩

end Catalog

end TenantReports
