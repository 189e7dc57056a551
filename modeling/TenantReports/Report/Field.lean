import TenantReports.Json.Value

/-!
# Field references

A field is named by its source and its own key, written `source.field`.

## Main definitions

* `FieldRef`: a source and a field
* `FieldRef.parse?`: reading the full name; exactly one dot, with something on both sides
* `FieldRef.fullName`: writing it
-/

namespace TenantReports

/-- A field of a source. -/
structure FieldRef where
  source : String
  field : String
deriving DecidableEq, Repr, Inhabited

namespace FieldRef

/-- The full name, `source.field`. -/
def fullName (f : FieldRef) : String := f.source ++ "." ++ f.field

/-- The name a field has in the output unless another is given. -/
def defaultAlias (f : FieldRef) : String := f.source ++ "_" ++ f.field

/-- Reads a full name: exactly one dot, with something on both sides. -/
def parse? (s : String) : Option FieldRef :=
  let source := s.toList.takeWhile (· != '.')
  match s.toList.dropWhile (· != '.') with
  | _dot :: field =>
    if source.isEmpty || field.isEmpty || field.contains '.' then none
    else some ⟨String.ofList source, String.ofList field⟩
  | [] => none

/-- A field as records hold it: its full name. -/
def toJson (f : FieldRef) : Json := .string f.fullName

/-- A field that a record holds. -/
def ofJson? : Json → Option FieldRef
  | .string s => parse? s
  | _ => none

end FieldRef

end TenantReports
