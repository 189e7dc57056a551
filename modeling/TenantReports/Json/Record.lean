import TenantReports.Json.Value

/-!
# Records in JSON

A record is an object with its fields as keys, or an array with its fields in order. Keys that
are no fields are ignored.

## Main definitions

* `Record`: the values of the fields that are given
* `Json.asRecord?`: the record that a value is
* `Record.required?`, `Record.optional?`, `Record.withDefault?`: a field read by its type
* `Json.listOf?`, `Json.mapOf?`: lists and maps read by the type of their members
-/

namespace TenantReports

/-- The values of the fields that are given, and whether they were given by name. -/
structure Record where
  byName : Bool
  values : List (String × Json)

namespace Record

/-- The value of a field, if given. -/
def get? (r : Record) (field : String) : Option Json := r.values.lookup field

/-- A field that must be given. -/
def required? {α : Type} (r : Record) (field : String) (read : Json → Option α) : Option α :=
  (r.get? field).bind read

/-- A field that has a default. -/
def withDefault? {α : Type} (r : Record) (field : String) (default : α) (read : Json → Option α) :
    Option α :=
  match r.get? field with
  | none => some default
  | some j => read j

/-- A field that may be left out where fields are given by name. -/
def optional? {α : Type} (r : Record) (field : String) (read : Json → Option α) :
    Option (Option α) :=
  match r.get? field with
  | none => if r.byName then some none else none
  | some j => (read j).map some

/-- A field that may be `null` or left out. -/
def nullable? {α : Type} (r : Record) (field : String) (read : Json → Option α) :
    Option (Option α) :=
  match r.get? field with
  | none => some none
  | some .null => some none
  | some j => (read j).map some

end Record

namespace Json

/-- A value as a record with these fields. -/
def asRecord? (fields : List String) : Json → Option Record
  | .object entries => some ⟨true, entries⟩
  | .array items => if items.length ≤ fields.length then some ⟨false, fields.zip items⟩ else none
  | _ => none

/-- A list whose items are all of a type. -/
def listOf? {α : Type} (read : Json → Option α) : Json → Option (List α)
  | .array items => items.mapM read
  | _ => none

/-- An object whose values are all of a type. -/
def mapOf? {α : Type} (read : Json → Option α) : Json → Option (List (String × α))
  | .object entries => entries.mapM fun (k, j) => (read j).map (k, ·)
  | _ => none

end Json

end TenantReports
