import TenantReports.Json.Value

/-!
# SQL values

The values that a statement holds inline or bound to a placeholder.

## Main definitions

* `Literal`: the values
* `Literal.ofJson?`: the value of a JSON scalar
-/

namespace TenantReports.Sql

/-- A value of a statement. -/
inductive Literal where
  | int (n : Int)
  | float (x : Binary64)
  | string (s : String)
  | bool (b : Bool)
  | null
deriving DecidableEq, Repr

/-- Integers of 64 bits with a sign. -/
def isInt64 (n : Int) : Bool := -(Int.pow 2 63) ≤ n && n < Int.pow 2 63

namespace Literal

/-- The value of a JSON scalar. Integers beyond 64 bits with a sign become floats; arrays and
objects have no value. -/
def ofJson? : Json → Option Literal
  | .null => some .null
  | .bool b => some (.bool b)
  | .int n => some (if isInt64 n then .int n else .float (.ofInt n))
  | .double x => some (.float x)
  | .string s => some (.string s)
  | .array _ => none
  | .object _ => none

end Literal

end TenantReports.Sql
