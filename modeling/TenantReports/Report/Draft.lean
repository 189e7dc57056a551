import TenantReports.Json.Record
import TenantReports.Json.Skip

/-!
# Report drafts

A draft is a report as someone writes it down. Its sections are any JSON, so that validation can
tell everything that is wrong with them.

## Main definitions

* `Draft`: metadata and the five sections
* `Draft.ofJson?`: the draft that a value is
* `Draft.ofText?`: the draft that a text is; no field may occur twice
-/

namespace TenantReports

/-- A report as someone writes it down. -/
structure Draft where
  name : Option String := none
  description : Option String := none
  category : Option String := none
  sources : Json := .null
  columns : Json := .null
  filters : Json := .null
  aggregations : Json := .null
  sorting : Json := .null
  shared : Bool := false
  favorite : Bool := false

namespace Draft

/-- The names of the parts of a draft, in order. -/
def fieldNames : List String :=
  ["name", "description", "category", "data_sources", "columns", "filters", "aggregations",
    "sorting", "is_shared", "is_favorite"]

/-- The draft that a value is. Keys that name no part are ignored. -/
def ofJson? (j : Json) : Option Draft := do
  let r ← j.asRecord? fieldNames
  let section? (field : String) : Json := (r.get? field).getD .null
  return {
    name := ← r.nullable? "name" Json.asString?
    description := ← r.nullable? "description" Json.asString?
    category := ← r.nullable? "category" Json.asString?
    sources := section? "data_sources"
    columns := section? "columns"
    filters := section? "filters"
    aggregations := section? "aggregations"
    sorting := section? "sorting"
    shared := ← r.withDefault? "is_shared" false Json.asBool?
    favorite := ← r.withDefault? "is_favorite" false Json.asBool? }

/-- One entry of a draft's text: a part is read, anything else passed over. -/
def entryOfText? (cs : List Char) : Option (Option (String × Json) × List Char) :=
  match Json.skipBlanks cs with
  | '"' :: r =>
    match Json.stringBody? [] r with
    | none => none
    | some (key, r) =>
      match Json.skipBlanks r with
      | ':' :: r =>
        if fieldNames.contains key then
          (Json.value? (Json.depthLimit - 1) r).map fun (j, r) => (some (key, j), r)
        else (Json.skipValue? r).map fun r => (none, r)
      | _ => none
  | _ => none

/-- The entries of a draft's text up to its closing brace. No part may occur twice. -/
def entriesOfText? : Nat → List (String × Json) → List Char →
    Option (List (String × Json) × List Char)
  | 0, _, _ => none
  | fuel + 1, acc, cs =>
    match entryOfText? cs with
    | none => none
    | some (e, r) =>
      if e.any fun e => acc.any (·.1 == e.1) then none
      else
        let acc := e.toList ++ acc
        match Json.skipBlanks r with
        | '}' :: r => some (acc, r)
        | ',' :: r => entriesOfText? fuel acc r
        | _ => none

/-- The draft that a text is. -/
def ofText? (text : String) : Option Draft :=
  match Json.skipBlanks text.toList with
  | '{' :: r => do
    let (entries, r) ← match Json.skipBlanks r with
      | '}' :: r => some ([], r)
      | r => entriesOfText? (r.length + 1) [] r
    if (Json.skipBlanks r).isEmpty then ofJson? (.object entries) else none
  | _ => (Json.parse? text).bind ofJson?

end Draft

end TenantReports
