import TenantReports.Json.Value

/-!
# Closed vocabularies

A type whose finitely many values each have a name. Names are read exactly, as records do, or in
any case of ASCII letters, as drafts do.

## Main definitions

* `Named`: the values and their names
* `Named.ofName?`: the value of exactly this name
* `Named.parse?`: the value of this name in any case
* `Named.ofJson?`: the value that a record holds
-/

namespace TenantReports

/-- A text with its ASCII letters in lower case. -/
def lowerAscii (s : String) : String := String.ofList (s.toList.map Char.toLower)

/-- A type whose values are listed and named. -/
class Named (α : Type) where
  all : List α
  name : α → String

namespace Named

variable {α : Type} [Named α]

/-- The value of exactly this name. -/
def ofName? (s : String) : Option α := all.find? fun a => name a == s

/-- The value of this name in any case of ASCII letters. -/
def parse? (s : String) : Option α := ofName? (lowerAscii s)

/-- The value that a record holds: its name, or an object with the name as only key and no
content. -/
def ofJson? : Json → Option α
  | .string s => ofName? s
  | .object [(s, .null)] => ofName? s
  | _ => none

/-- The value as records hold it. -/
def toJson (a : α) : Json := .string (name a)

end Named

end TenantReports
