import TenantReports.Named

/-!
# The vocabulary of reports

The closed sets of words that a report may use: kinds of join, formats of cells, aggregates,
scalar functions, kinds of filter and sort directions.

## Main definitions

* `JoinKind`, `ColumnFormat`, `Aggregate`, `ScalarFunction`, `FilterKind`, `Direction`
* `ScalarFunction.arity`: how many arguments a scalar function takes
-/

namespace TenantReports

/-- How a joined source contributes rows. -/
inductive JoinKind where
  | inner
  | left
deriving DecidableEq, Repr

instance : Named JoinKind where
  all := [.inner, .left]
  name
    | .inner => "inner"
    | .left => "left"

/-- How the cells of a column are shown. -/
inductive ColumnFormat where
  | text
  | number
  | currency
  | percent
  | date
  | datetime
deriving DecidableEq, Repr

instance : Named ColumnFormat where
  all := [.text, .number, .currency, .percent, .date, .datetime]
  name
    | .text => "text"
    | .number => "number"
    | .currency => "currency"
    | .percent => "percent"
    | .date => "date"
    | .datetime => "datetime"

/-- The aggregate functions of reports. -/
inductive Aggregate where
  | sum
  | count
  | avg
  | min
  | max
deriving DecidableEq, Repr

instance : Named Aggregate where
  all := [.sum, .count, .avg, .min, .max]
  name
    | .sum => "sum"
    | .count => "count"
    | .avg => "avg"
    | .min => "min"
    | .max => "max"

/-- The name of an aggregate in SQL. -/
def Aggregate.sqlName : Aggregate → String
  | .sum => "SUM"
  | .count => "COUNT"
  | .avg => "AVG"
  | .min => "MIN"
  | .max => "MAX"

/-- The scalar functions that derived columns may call. -/
inductive ScalarFunction where
  | upper
  | lower
  | coalesce
  | round
  | abs
  | length
  | trim
  | substr
deriving DecidableEq, Repr

instance : Named ScalarFunction where
  all := [.upper, .lower, .coalesce, .round, .abs, .length, .trim, .substr]
  name
    | .upper => "upper"
    | .lower => "lower"
    | .coalesce => "coalesce"
    | .round => "round"
    | .abs => "abs"
    | .length => "length"
    | .trim => "trim"
    | .substr => "substr"

namespace ScalarFunction

/-- The name of a scalar function in SQL. -/
def sqlName : ScalarFunction → String
  | .upper => "UPPER"
  | .lower => "LOWER"
  | .coalesce => "COALESCE"
  | .round => "ROUND"
  | .abs => "ABS"
  | .length => "LENGTH"
  | .trim => "TRIM"
  | .substr => "SUBSTR"

/-- The fewest and the most arguments that a scalar function takes. -/
def arity : ScalarFunction → Nat × Nat
  | .upper | .lower | .abs | .length | .trim => (1, 1)
  | .round => (1, 2)
  | .substr => (2, 3)
  | .coalesce => (2, 8)

/-- The function takes that many arguments. -/
def accepts (f : ScalarFunction) (n : Nat) : Bool := f.arity.1 ≤ n && n ≤ f.arity.2

end ScalarFunction

/-- How the value of a runtime filter is compared. -/
inductive FilterKind where
  | text
  | select
  | number
  | date
  | dateRange
  | multiselect
deriving DecidableEq, Repr

instance : Named FilterKind where
  all := [.text, .select, .number, .date, .dateRange, .multiselect]
  name
    | .text => "text"
    | .select => "select"
    | .number => "number"
    | .date => "date"
    | .dateRange => "date_range"
    | .multiselect => "multiselect"

/-- The direction of a sort entry. -/
inductive Direction where
  | asc
  | desc
deriving DecidableEq, Repr

instance : Named Direction where
  all := [.asc, .desc]
  name
    | .asc => "asc"
    | .desc => "desc"

end TenantReports
