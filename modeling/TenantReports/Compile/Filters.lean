import TenantReports.Compile.Query
import TenantReports.Json.Printer
import TenantReports.Report.FilterValues
import TenantReports.Time.Pattern

/-!
# Runtime filters

Whoever runs a report gives values for its filter slots. The slot fixes the comparison; the value
is always bound. A value for a field without a slot, or one that does not fit its slot, has no
effect.

## Main definitions

* `escapeLike`: a text that a pattern matches literally
* `FilterSlot.predicate?`: the condition that a value puts on a column
* `CompiledQuery.applyFilters`: a query with the conditions of all values
-/

namespace TenantReports

open Sql (Expr Literal)

/-- The character that makes the next one of a pattern literal. -/
def likeEscape : Char := '\\'

/-- The characters of a text, with those that mean something in a pattern made literal. -/
def escapeLike (cs : List Char) : List Char :=
  cs.flatMap fun c => if c = '%' ∨ c = '_' ∨ c = likeEscape then [likeEscape, c] else [c]

/-- The pattern of the texts that contain a text. -/
def containsPattern (needle : String) : String :=
  String.ofList ('%' :: escapeLike needle.toList ++ ['%'])

/-- The text of a scalar that is searched for. -/
def scalarText? : Json → Option String
  | .string s => some s
  | .bool b => some (if b then "true" else "false")
  | .int n => some (Json.intText n)
  | .double x => some (Json.doubleText x)
  | _ => none

/-- A scalar other than `null`, as a bound value. -/
def scalarLiteral? : Json → Option Literal
  | .null => none
  | j => Literal.ofJson? j

/-- The integer of 64 bits that a text denotes: digits after at most one sign. -/
def int64OfText? (s : String) : Option Int :=
  let (neg, ds) := match s.toList with
    | '-' :: r => (true, r)
    | '+' :: r => (false, r)
    | r => (false, r)
  if ds.isEmpty ∨ ¬ ds.all Char.isDigit then none
  else
    let n : Int := Binary64.digitsValue 0 ds
    let n := if neg then -n else n
    if Sql.isInt64 n then some n else none

/-- The number that a value means. A text means the number it denotes, if that is finite. -/
def numericLiteral? : Json → Option Literal
  | .string s =>
    let s := Text.trim s
    match int64OfText? s with
    | some n => some (.int n)
    | none => match Binary64.ofText? s with
      | some x => if x.isFinite then some (.float x) else none
      | none => none
  | j => scalarLiteral? j

/-- A bound of a range: a text with more than blanks, without those at its ends. -/
def dateBound? : Option Json → Option String
  | some (.string s) => if Text.isBlankText s then none else some (Text.trim s)
  | _ => none

/-- A text of ten bytes that denotes a date. -/
def isDateOnly (s : String) : Bool := s.utf8ByteSize == 10 && (Time.parseDate? s.toList).isSome

/-- The last bound of a range over timestamps: a date alone covers its whole day. -/
def upperBound (type : FieldType) (s : String) : String :=
  if type = .datetime ∧ isDateOnly s then s ++ " 23:59:59" else s

/-- The condition of a range, either side of which may be open. -/
def rangePredicate? (column : Expr) (type : FieldType) (low high : Option Json) : Option Expr :=
  let bound := fun s : String => Expr.param (.string s)
  match dateBound? low, (dateBound? high).map (upperBound type) with
  | some low, some high => some (.between column (bound low) (bound high))
  | some low, none => some (.binary .gte column (bound low))
  | none, some high => some (.binary .lte column (bound high))
  | none, none => none

/-- The two bounds of a range: an object with `from` and `to`, or a list of two. -/
def rangeBounds? : Json → Option (Option Json × Option Json)
  | .object entries => some (entries.lookup "from", entries.lookup "to")
  | .array [low, high] => some (some low, some high)
  | _ => none

/-- The values of a choice of several: a list, or one by itself. -/
def choices : Json → List Json
  | .array items => items
  | j => [j]

namespace FilterSlot

/-- The condition that a given value puts on a column. -/
def valuePredicate? (s : FilterSlot) (type : FieldType) (column : Expr) (value : Json) :
    Option Expr :=
  match s.kind with
  | .text => (scalarText? value).map fun needle =>
    .like (.call "LOWER" [column]) (.call "LOWER" [.param (.string (containsPattern needle))])
      likeEscape
  | .number => (numericLiteral? value).map fun l => column.eq (.param l)
  | .select => (scalarLiteral? value).map fun l => column.eq (.param l)
  | .date => (scalarLiteral? value).map fun l => column.eq (.param l)
  | .dateRange => (rangeBounds? value).bind fun (low, high) => rangePredicate? column type low high
  | .multiselect => ((choices value).mapM scalarLiteral?).map fun ls => .isIn column (ls.map .param)

/-- The condition that a value puts on a column. A required slot takes `null` for what has no
value; a blank text counts as no value. -/
def predicate? (s : FilterSlot) (type : FieldType) (column : Expr) (value : Json) : Option Expr :=
  match value with
  | .null => if s.required then some (.isNull column) else none
  | .string t => if Text.isBlankText t then none else s.valuePredicate? type column value
  | _ => s.valuePredicate? type column value

end FilterSlot

/-- The condition of the value of one field: the field has a slot, the catalog knows it, its
source is in scope, and the value fits. -/
def Layout.filterPredicate? (l : Layout) (c : Catalog) (scope : List String) (name : String)
    (value : Json) : Option Expr := do
  let slot ← l.filterSlot? name
  let field ← c.refField? slot.field
  if !scope.contains slot.field.source then none
  slot.predicate? field.type (sourceColumn slot.field.source field.columnName) value

/-- The conditions of all values, in the order of the values. -/
def Layout.filterPredicates (l : Layout) (c : Catalog) (scope : List String)
    (values : FilterValues) : List Expr :=
  values.filterMap fun (name, value) => l.filterPredicate? c scope name value

/-- A query with the conditions of all values after its own. -/
def CompiledQuery.applyFilters (q : CompiledQuery) (c : Catalog) (values : FilterValues)
    (l : Layout) : CompiledQuery :=
  (l.filterPredicates c q.scope values).foldl CompiledQuery.filter q

end TenantReports
