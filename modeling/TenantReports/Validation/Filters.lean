import TenantReports.Report.Layout
import TenantReports.Validation.Scope

/-!
# Checking filter slots and sort entries

A filter slot is on a field that is filterable, and there is at most one on each field. A sort
entry names an output alias, or else a field that is sortable.

## Main definitions

* `checkFilter`, `checkFilters`: a slot and the section
* `checkSort`, `checkSorting`: a sort entry and the section
-/

namespace TenantReports

/-- The field of a slot is filterable and has no slot yet. -/
def permitFilter (place : Place) (seen : List String) (r : Resolved) : Checked Unit :=
  if !r.field.filterable then .fail (.notPermitted place r.ref.fullName .filterable)
  else .require (!seen.contains r.ref.fullName) (.duplicateFilter place r.ref.fullName)

/-- The kind of a slot. -/
def filterKind (place : Place) (entries : List (String × Json)) : Checked FilterKind :=
  match given? entries "type" with
  | none => .fail (.missingValue place "type")
  | some j => .ofOption (j.asString?.bind Named.parse?) (.invalidValue place "filter type" j)

/-- Whether a slot must be filled. -/
def filterRequired (place : Place) (entries : List (String × Json)) : Checked Bool :=
  match given? entries "required" with
  | none => .ok false
  | some j => .ofOption j.asBool? (.invalidValue place "required flag" j)

/-- The options of a slot. -/
def filterOptions (place : Place) (entries : List (String × Json)) : Checked (List Json) :=
  match given? entries "options" with
  | none => .ok []
  | some j => .ofOption j.asArray? (.invalidValue place "options" j)

/-- A slot, and the fields that have one so far. -/
def checkFilter (scope : Scope) (index : Nat) (item : Json) (seen : List String) :
    Checked FilterSlot × List String :=
  let place := Place.filter index
  match item with
  | .object entries =>
    let field := (requiredText place entries "field").andThen (scope.resolve place)
    let permitted := match field.value? with
      | some r => permitFilter place seen r
      | none => .ok ()
    let checked := (fun (r : Resolved) () kind required options =>
        (⟨r.ref, (nonBlank? entries "label").getD r.field.label, kind, required, options⟩ :
          FilterSlot))
      <$> field <*> permitted <*> filterKind place entries <*> filterRequired place entries
      <*> filterOptions place entries
    let seen := match field.value? with
      | some r =>
        if r.field.filterable && !seen.contains r.ref.fullName then seen ++ [r.ref.fullName]
        else seen
      | none => seen
    (checked, seen)
  | _ => (.fail (.malformed place "a filter object"), seen)

/-- The slots, or the problem that the section has the wrong shape. -/
def checkFilters (scope : Scope) (limits : Limits) (j : Json) :
    Except Problem (Section FilterSlot) := do
  let items ← listSection? .filters "a list of filters" j
  let (slots, _) := Checked.checkAll (checkFilter scope) 0 items []
  return .ofItems (atMost .filters items.length limits.maxFilters) slots []

/-- What a sort entry orders by: an output alias of that name, else a field. -/
def sortTarget (scope : Scope) (place : Place) (aliases : List String) (name : String) :
    Checked SortTarget :=
  if aliases.contains name then .ok (.output name)
  else (scope.resolve place name).andThen fun r =>
    if r.field.sortable then .ok (.field r.ref)
    else .fail (.notPermitted place r.ref.fullName .sortable)

/-- A sort entry. -/
def checkSort (scope : Scope) (aliases : List String) (index : Nat) (item : Json) (_ : Unit) :
    Checked SortEntry × Unit :=
  let place := Place.sort index
  (match item with
    | .object entries =>
      let direction := wordOr place "direction" Direction.asc (given? entries "direction")
      let target := (requiredText place entries "field").andThen (sortTarget scope place aliases)
      (fun direction target => (⟨target, direction⟩ : SortEntry)) <$> direction <*> target
    | _ => .fail (.malformed place "a sort object"), ())

/-- The sort entries: a list, or a single one by itself. -/
def sortItems? : Json → Except Problem (List Json)
  | .object entries => .ok [.object entries]
  | j => listSection? .sorting "a list of sort entries" j

/-- The sort entries, or the problem that the section has the wrong shape. -/
def checkSorting (scope : Scope) (aliases : List String) (j : Json) :
    Except Problem (Section SortEntry) := do
  let items ← sortItems? j
  let (entries, _) := Checked.checkAll (checkSort scope aliases) 0 items ()
  return .ofItems [] entries []

end TenantReports
