import TenantReports.Json.Value

/-!
# Values of runtime filters

Whoever runs a report gives values for its filters, by the full names of their fields.

## Main definitions

* `FilterValues`: the values
* `filterValues`: the values that a JSON value holds
-/

namespace TenantReports

/-- The values of runtime filters by the full names of their fields, in ascending order. -/
abbrev FilterValues := List (String × Json)

/-- The values of runtime filters in a JSON value: the entries of an object. -/
def filterValues : Json → FilterValues
  | .object entries => entries
  | _ => []

end TenantReports
