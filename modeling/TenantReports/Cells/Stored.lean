import TenantReports.Bytes.Base64
import TenantReports.Bytes.Utf8
import TenantReports.Json.Value
import TenantReports.Sql.Literal

/-!
# Stored cells

What a database holds in a cell, and the JSON value that it is read as.

## Main definitions

* `StoredCell`: what a cell holds
* `StoredCell.ofLiteral`: what a bound value becomes
* `StoredCell.toJson`: what a cell is read as
* `StoredCell.areRow`: the cells can be a row
-/

namespace TenantReports

/-- What a cell of a database holds. -/
inductive StoredCell where
  | null
  | integer (n : Int)
  | real (x : Binary64)
  | text (bytes : List UInt8)
  | blob (bytes : List UInt8)
deriving DecidableEq, Repr

namespace StoredCell

/-- What a bound value becomes. Booleans are one and zero; not-a-number is null. -/
def ofLiteral : Sql.Literal → StoredCell
  | .int n => .integer n
  | .float x => .real x
  | .string s => .text s.toUTF8.data.toList
  | .bool b => .integer (if b then 1 else 0)
  | .null => .null

/-- What a cell is read as. A real that is not finite is null, a text that is not UTF-8 is
mended, and a blob is base 64. -/
def toJson : StoredCell → Json
  | .null => .null
  | .integer n => .int n
  | .real x => if x.isFinite then .double x else .null
  | .text bytes => .string (Utf8.decodeLossy bytes)
  | .blob bytes => .string (Base64.encode bytes)

/-- The greatest number of cells in a row. -/
def maxInRow : Nat := 2000

/-- A row has at least one cell, and not too many. -/
def areRow (cells : List StoredCell) : Bool := !cells.isEmpty && cells.length ≤ maxInRow

end StoredCell

end TenantReports
