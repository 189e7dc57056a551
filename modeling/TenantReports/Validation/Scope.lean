import TenantReports.Catalog.Source
import TenantReports.Text.Blank
import TenantReports.Settings.Limits
import TenantReports.Validation.Checked

/-!
# Scope

Fields are resolved against a catalog and the sources that the report has so far.

## Main definitions

* `Scope`: a catalog and the sources in scope
* `Scope.resolve`: the field of a name
* `listSection?`: the items of a section
* `atMost`: the problem of a section that is too long
-/

namespace TenantReports

/-- A catalog and the sources that the report has so far. -/
structure Scope where
  catalog : Catalog
  sources : List String

/-- A field that was resolved, with what the catalog says about it. -/
structure Resolved where
  ref : FieldRef
  field : SourceField

/-- The field of a name: one that the catalog knows, of a source in scope. -/
def Scope.resolve (s : Scope) (place : Place) (name : String) : Checked Resolved :=
  match (FieldRef.parse? name).bind fun ref => (s.catalog.refField? ref).map (Resolved.mk ref) with
  | none => .fail (.unknownField place name)
  | some r => if s.sources.contains r.ref.source then .ok r else .fail (.outOfScope place name)

/-- The items of a section that is a list, or is missing. -/
def listSection? (place : Place) (expected : String) : Json → Except Problem (List Json)
  | .null => .ok []
  | .array items => .ok items
  | _ => .error (.malformed place expected)

/-- The problem of a section that is longer than its limit. -/
def atMost (s : Counted) (count max : Nat) : List Problem :=
  if max < count then [.tooMany s count max] else []

/-- A text with more than blanks under a key. -/
def nonBlank? (entries : List (String × Json)) (key : String) : Option String :=
  match entries.lookup key with
  | some (.string s) => if Text.isBlankText s then none else some s
  | _ => none

/-- The text under a key, which must have more than blanks. -/
def requiredText (place : Place) (entries : List (String × Json)) (key : String) :
    Checked String :=
  .ofOption (nonBlank? entries key) (.missingValue place key)

/-- The value under a key, unless there is none or it is `null`. -/
def given? (entries : List (String × Json)) (key : String) : Option Json :=
  match entries.lookup key with
  | none => none
  | some .null => none
  | some j => some j

/-- The word of a vocabulary under a key, or a default. -/
def wordOr {α : Type} [Named α] (place : Place) (what : String) (default : α) :
    Option Json → Checked α
  | none => .ok default
  | some j => .ofOption (j.asString?.bind Named.parse?) (.invalidValue place what j)

/-- A text that is an identifier. -/
def identifier? : Json → Option String
  | .string s => if isIdentifier s then some s else none
  | _ => none

end TenantReports
