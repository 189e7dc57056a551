import Mathlib.Data.List.Sort
import TenantReports.Cells.Stored
import TenantReports.Sql.Query

/-!
# What queries mean

A query is run on a database: its tables are joined by nested loops, the rows that its condition
holds of are kept, grouped if the query aggregates, projected, ordered and cut. Conditions have
three truth values, and only rows of which a condition is true pass it. What a database does with
the cells it has - how they compare, what functions and aggregates compute - is a parameter.

## Main definitions

* `Row`, `JoinedRow`, `Database`: the data of a query
* `Interpretation`: what a database does with cells
* `Expr.eval`, `Expr.holds`: the value of an expression, and when a condition is true
* `Query.joined`, `Query.passing`: the joined rows, and those that the condition keeps
* `Query.run`: the result
* `Interpretation.plain`: integers and texts

## Main results

* `Expr.holds_and`: a conjunction is true exactly if both its sides are
* `filter_flatMap_filter`: rows that a condition refuses may be left out before it is checked
* `JoinClause.extend_congr`: a join reads only the rows that its condition admits
-/

namespace TenantReports.Sql

/-! ## Data -/

/-- A row of a table: the cells of its columns. -/
abbrev Row := List (String × StoredCell)

/-- The cell of a column, `null` where the row has none. -/
def Row.cell (r : Row) (column : String) : StoredCell := (r.lookup column).getD .null

/-- A row of joined tables: a row of each, by the name of the table in the query. The row of a
table that an outer join found no match in is empty. -/
abbrev JoinedRow := List (String × Row)

/-- The rows of the tables of a database, in order. -/
abbrev Database := String → List Row

namespace JoinedRow

/-- The row of a table. -/
def part (row : JoinedRow) (table : String) : Row := (row.lookup table).getD []

/-- The names of the tables. -/
def names (row : JoinedRow) : List String := row.map (·.1)

/-- The cell of a column of whichever table has it first. -/
def anyCell (row : JoinedRow) (column : String) : StoredCell :=
  (row.findSome? fun (_, r) => r.lookup column).getD .null

theorem lookup_eq_none {row : JoinedRow} {table : String} (h : table ∉ row.names) :
    row.lookup table = none := by
  rw [List.lookup_eq_none_iff]
  intro entry hentry
  rw [bne_iff_ne]
  rintro rfl
  exact h (List.mem_map_of_mem hentry)

/-- A table that is joined is found if its name is new. -/
theorem part_append_self {row : JoinedRow} {table : String} (h : table ∉ row.names) (r : Row) :
    JoinedRow.part (row ++ [(table, r)]) table = r := by
  rw [part, List.lookup_append, lookup_eq_none h]
  simp

/-- What is joined later changes no table that is there. -/
theorem part_append_of_mem {row : JoinedRow} {table : String} (h : table ∈ row.names)
    (later : JoinedRow) : JoinedRow.part (row ++ later) table = row.part table := by
  obtain ⟨entry, hentry, rfl⟩ := List.mem_map.mp h
  cases hlookup : row.lookup entry.1 with
  | none =>
    rw [List.lookup_eq_none_iff] at hlookup
    simpa using hlookup entry hentry
  | some r => simp [part, List.lookup_append, hlookup]

end JoinedRow

/-! ## Truth -/

/-- The truth values of conditions; `none` is unknown. -/
abbrev Truth := Option Bool

namespace Truth

/-- Both are true. -/
def and : Truth → Truth → Truth
  | some false, _ => some false
  | _, some false => some false
  | some true, some true => some true
  | _, _ => none

/-- One is true. -/
def or : Truth → Truth → Truth
  | some true, _ => some true
  | _, some true => some true
  | some false, some false => some false
  | _, _ => none

theorem and_eq_true {a b : Truth} : a.and b = some true ↔ a = some true ∧ b = some true := by
  rcases a with _ | (_ | _) <;> rcases b with _ | (_ | _) <;> simp [and]

/-- The cell of a truth value. -/
def cell : Truth → StoredCell
  | some true => .integer 1
  | some false => .integer 0
  | none => .null

end Truth

/-! ## Expressions -/

/-- The function of this name is an aggregate. -/
def isAggregate (name : String) : Bool :=
  (Named.all : List Aggregate).any fun f => f.sqlName == name

/-- What a database does with cells that are not `null`, and with groups. How cells compare may
depend on the expressions they are values of, as columns have types and collations. -/
structure Interpretation where
  compare : Expr → Expr → StoredCell → StoredCell → Ordering
  isTrue : StoredCell → Bool
  isLike : StoredCell → StoredCell → Char → Bool
  function : String → List StoredCell → StoredCell
  aggregate : String → List (List StoredCell) → StoredCell
  precedes : Expr → StoredCell → StoredCell → Ordering
  sameGroup : Expr → StoredCell → StoredCell → Bool
  representative : Query → List JoinedRow → JoinedRow

namespace Interpretation

variable (I : Interpretation)

/-- The truth value of a cell. -/
def truth : StoredCell → Truth
  | .null => none
  | .integer n => some (n != 0)
  | cell => some (I.isTrue cell)

@[simp] theorem truth_cell (t : Truth) : I.truth t.cell = t := by
  rcases t with _ | (_ | _) <;> rfl

/-- A comparison, unknown if either cell is `null`. -/
def compares (l r : Expr) (a b : StoredCell) (holds : Ordering → Bool) : Truth :=
  if a = .null ∨ b = .null then none else some (holds (I.compare l r a b))

/-- The truth value of a binary operator. -/
def binary : BinaryOp → Expr → Expr → StoredCell → StoredCell → Truth
  | .eq, l, r, a, b => I.compares l r a b Ordering.isEq
  | .lte, l, r, a, b => I.compares l r a b Ordering.isLE
  | .gte, l, r, a, b => I.compares l r a b Ordering.isGE
  | .and, _, _, a, b => (I.truth a).and (I.truth b)

end Interpretation

/-- What an expression is evaluated in: a joined row, the rows of its group if rows are grouped,
and the cells of the output by their names once there are any. -/
structure Env where
  row : JoinedRow
  group : List JoinedRow := []
  outputs : List (String × StoredCell) := []

namespace Expr

mutual

/-- The value of an expression. An aggregate is one of the values that its arguments have in the
rows of the group. -/
def eval (I : Interpretation) : Expr → Env → StoredCell
  | .column (some table) name, env => (env.row.part table).cell name
  | .column none name, env => (env.outputs.lookup name).getD (env.row.anyCell name)
  | .literal v, _ => .ofLiteral v
  | .param v, _ => .ofLiteral v
  | .binary op l r, env => (I.binary op l r (eval I l env) (eval I r env)).cell
  | .call f args, env =>
    if isAggregate f then I.aggregate f (env.group.map fun row => evalList I args { row })
    else I.function f (evalList I args env)
  | .isIn e values, env => (evalIn I e values (eval I e env) env).cell
  | .between e low high, env =>
    ((I.binary .gte e low (eval I e env) (eval I low env)).and
      (I.binary .lte e high (eval I e env) (eval I high env))).cell
  | .isNull e, env => Truth.cell (some (eval I e env == .null))
  | .like e pattern escape, env =>
    let text := eval I e env
    let pattern := eval I pattern env
    Truth.cell (if text = .null ∨ pattern = .null then none else
      some (I.isLike text pattern escape))
  | .star _, _ => .integer 1

/-- The values of a list of expressions. -/
def evalList (I : Interpretation) : List Expr → Env → List StoredCell
  | [], _ => []
  | e :: es, env => eval I e env :: evalList I es env

/-- Whether the value of an expression is among those of a list, of which there may be none. -/
def evalIn (I : Interpretation) (e : Expr) : List Expr → StoredCell → Env → Truth
  | [], _, _ => some false
  | v :: vs, cell, env =>
    (I.binary .eq e v cell (eval I v env)).or (evalIn I e vs cell env)

end

/-- A condition is true. -/
def holds (I : Interpretation) (e : Expr) (env : Env) : Bool :=
  I.truth (e.eval I env) == some true

/-- **A conjunction is true exactly if both its sides are.** -/
theorem holds_and (I : Interpretation) (l r : Expr) (env : Env) :
    (l.and r).holds I env = (l.holds I env && r.holds I env) := by
  rw [Bool.eq_iff_iff]
  simp only [holds, Expr.and, eval, Interpretation.truth_cell, Interpretation.binary,
    beq_iff_eq, Bool.and_eq_true]
  exact Truth.and_eq_true

mutual

/-- The expression has an aggregate. -/
def aggregates : Expr → Bool
  | .call f args => isAggregate f || aggregatesAny args
  | .binary _ l r => aggregates l || aggregates r
  | .isIn e values => aggregates e || aggregatesAny values
  | .between e low high => aggregates e || aggregates low || aggregates high
  | .isNull e => aggregates e
  | .like e pattern _ => aggregates e || aggregates pattern
  | .column _ _ | .literal _ | .param _ | .star _ => false

/-- One of the expressions has an aggregate. -/
def aggregatesAny : List Expr → Bool
  | [] => false
  | e :: es => aggregates e || aggregatesAny es

end

end Expr

/-! ## Joins -/

/-- The rows that a join makes of a joined row: one for each row of its table that its condition
is true of. A left join makes one row without a match if there is none. -/
def JoinClause.extend (I : Interpretation) (db : Database) (j : JoinClause) (row : JoinedRow) :
    List JoinedRow :=
  let extended := (db j.table.table).map fun r => row ++ [(j.table.name, r)]
  let matching := extended.filter fun row => j.on.holds I { row }
  match j.kind with
  | .inner => matching
  | .left => if matching.isEmpty then [row ++ [(j.table.name, [])]] else matching

theorem JoinClause.exists_row_of_mem_extend {I : Interpretation} {db : Database} {j : JoinClause}
    {row row' : JoinedRow} (h : row' ∈ j.extend I db row) :
    ∃ r, row' = row ++ [(j.table.name, r)] := by
  have hmatching : ∀ row' ∈ ((db j.table.table).map fun r => row ++ [(j.table.name, r)]).filter
      (fun row => j.on.holds I { row }), ∃ r, row' = row ++ [(j.table.name, r)] := by
    intro row' hrow'
    obtain ⟨r, -, heq⟩ := List.mem_map.mp (List.mem_filter.mp hrow').1
    exact ⟨r, heq.symm⟩
  unfold extend at h
  cases hkind : j.kind with
  | inner =>
    rw [hkind] at h
    exact hmatching row' h
  | left =>
    rw [hkind] at h
    simp only at h
    split at h
    -- no match: the row without one
    next => exact ⟨[], List.mem_singleton.mp h⟩
    next => exact hmatching row' h

/-- Rows that a condition refuses may be left out before it is checked. -/
theorem filter_flatMap_filter {α β : Type} {f : α → List β} {p : α → Bool} {q : β → Bool}
    (rows : List α) (h : ∀ r, ∀ x ∈ f r, q x = true → p r = true) :
    ((rows.filter p).flatMap f).filter q = (rows.flatMap f).filter q := by
  induction rows with
  | nil => rfl
  | cons r rows ih =>
    by_cases hr : p r = true
    -- a row that stays has its part on both sides
    · rw [List.filter_cons_of_pos hr, List.flatMap_cons, List.flatMap_cons, List.filter_append,
        List.filter_append, ih]
    -- one that goes has none that the condition admits
    · have hnone : (f r).filter q = [] := by
        rw [List.filter_eq_nil_iff]
        intro x hx hq
        exact hr (h r x hx hq)
      rw [List.filter_cons_of_neg hr, List.flatMap_cons, List.filter_append, hnone,
        List.nil_append, ih]

/-- **A join reads only rows that its condition admits**: if all of those satisfy a predicate, two
databases with the same rows that satisfy it are the same to the join. -/
theorem JoinClause.extend_congr {I : Interpretation} {db₁ db₂ : Database} {j : JoinClause}
    {row : JoinedRow} {p : Row → Bool}
    (hadmits : ∀ r, j.on.holds I { row := row ++ [(j.table.name, r)] } = true → p r = true)
    (hsame : (db₁ j.table.table).filter p = (db₂ j.table.table).filter p) :
    j.extend I db₁ row = j.extend I db₂ row := by
  have hmatching : ∀ db : Database,
      ((db j.table.table).map fun r => row ++ [(j.table.name, r)]).filter
          (fun row => j.on.holds I { row })
        = (((db j.table.table).filter p).map fun r => row ++ [(j.table.name, r)]).filter
          (fun row => j.on.holds I { row }) := by
    intro db
    rw [List.map_eq_flatMap, List.map_eq_flatMap]
    refine (filter_flatMap_filter _ fun r x hx hholds => ?_).symm
    obtain rfl := List.mem_singleton.mp hx
    exact hadmits r hholds
  -- inner or left, a join is made of the rows that match
  unfold extend
  simp only
  rw [hmatching db₁, hmatching db₂, hsame]

/-- The rows that joins, one inside the other, make of a joined row. -/
def extendAll (I : Interpretation) (db : Database) : List JoinClause → JoinedRow → List JoinedRow
  | [], row => [row]
  | j :: js, row => (j.extend I db row).flatMap (extendAll I db js)

/-- Joins add to a row; they keep what is there. -/
theorem exists_later_of_mem_extendAll {I : Interpretation} {db : Database} {js : List JoinClause}
    {row row' : JoinedRow} (h : row' ∈ extendAll I db js row) :
    ∃ later, row' = row ++ later := by
  induction js generalizing row with
  | nil =>
    obtain rfl := List.mem_singleton.mp h
    exact ⟨[], (List.append_nil _).symm⟩
  | cons j js ih =>
    obtain ⟨middle, hmiddle, hrest⟩ := List.mem_flatMap.mp h
    obtain ⟨r, rfl⟩ := JoinClause.exists_row_of_mem_extend hmiddle
    obtain ⟨later, rfl⟩ := ih hrest
    exact ⟨[(j.table.name, r)] ++ later, List.append_assoc ..⟩

namespace Query

/-- The rows of the first table. A query without tables has a single row. -/
def start (q : Query) (db : Database) : List JoinedRow :=
  match q.source with
  | some t => (db t.table).map fun r => [(t.name, r)]
  | none => [[]]

/-- All joined rows. -/
def joined (I : Interpretation) (q : Query) (db : Database) : List JoinedRow :=
  (q.start db).flatMap (extendAll I db q.joins)

/-- The joined rows that the condition is true of. -/
def passing (I : Interpretation) (q : Query) (db : Database) : List JoinedRow :=
  (q.joined I db).filter fun row => q.condition.all fun e => e.holds I { row }

/-! ## Groups and results -/

/-- Rows are grouped: by expressions, or because something aggregates. -/
def isAggregated (q : Query) : Bool :=
  !q.groupBy.isEmpty || q.select.any (·.expr.aggregates) || q.orderBy.any (·.expr.aggregates)

/-- Two rows are in one group. -/
def together (I : Interpretation) (q : Query) (row row' : JoinedRow) : Bool :=
  q.groupBy.all fun e => I.sameGroup e (e.eval I { row }) (e.eval I { row := row' })

/-- A row put into the first group it belongs to, or into one of its own. -/
def insertGroup (I : Interpretation) (q : Query) (row : JoinedRow) :
    List (List JoinedRow) → List (List JoinedRow)
  | [] => [[row]]
  | g :: gs =>
    if g.head?.any (q.together I row) then (g ++ [row]) :: gs else g :: insertGroup I q row gs

/-- The groups of rows. Without expressions to group by all rows are one group. -/
def groups (I : Interpretation) (q : Query) (rows : List JoinedRow) : List (List JoinedRow) :=
  if q.groupBy.isEmpty then [rows] else rows.foldl (fun gs row => q.insertGroup I row gs) []

/-- What each row of the result is computed in. -/
def envs (I : Interpretation) (q : Query) (rows : List JoinedRow) : List Env :=
  if q.isAggregated then
    (q.groups I rows).map fun group => { row := I.representative q group, group }
  else rows.map fun row => { row }

/-- The cells of a row of the result. -/
def project (I : Interpretation) (q : Query) (env : Env) : List StoredCell :=
  q.select.map (·.expr.eval I env)

/-- The cells that a row of the result is ordered by. They may be named cells of that row. -/
def orderCells (I : Interpretation) (q : Query) (env : Env) : List StoredCell :=
  let named := (q.select.zip (q.project I env)).filterMap fun (item, cell) =>
    item.called.map fun name => (name, cell)
  q.orderBy.map fun o => o.expr.eval I { env with outputs := named }

/-- The order of two rows of the result, by the first entry that tells them apart. -/
def precedes (I : Interpretation) :
    List OrderItem → List StoredCell → List StoredCell → Ordering
  | o :: os, a :: as, b :: bs =>
    let first := match o.direction with
      | .asc => I.precedes o.expr a b
      | .desc => I.precedes o.expr b a
    first.then (precedes I os as bs)
  | _, _, _ => .eq

/-- The result that the rows passing the condition make. -/
def result (I : Interpretation) (q : Query) (rows : List JoinedRow) : List (List StoredCell) :=
  let found := (q.envs I rows).map fun env => (q.orderCells I env, q.project I env)
  let ordered := found.insertionSort fun a b => (precedes I q.orderBy a.1 b.1).isLE = true
  let cells := ordered.map (·.2)
  match q.limit with
  | some n => cells.take n
  | none => cells

/-- The result of a query. -/
def run (I : Interpretation) (q : Query) (db : Database) : List (List StoredCell) :=
  q.result I (q.passing I db)

end Query

/-! ## A plain interpretation

Integers and texts as the default dialect has them, as far as the functions of a small report go:
texts compare by their bytes, after all integers, and nothing has a type or a collation. -/

namespace Interpretation

/-- `null` comes first, then integers, then texts. -/
def plainCompare : StoredCell → StoredCell → Ordering
  | .null, .null => .eq
  | .null, _ => .lt
  | _, .null => .gt
  | .integer a, .integer b => Ord.compare a b
  | .integer _, _ => .lt
  | _, .integer _ => .gt
  | .text a, .text b => Ord.compare (a.map UInt8.toNat) (b.map UInt8.toNat)
  | _, _ => .eq

/-- A text matches a pattern, in which `%` stands for any text and `_` for any byte unless the
escape is before them. -/
def matchesPattern (escape : UInt8) : List UInt8 → List UInt8 → Bool
  | [], text => text.isEmpty
  | p :: ps, text =>
    if p = 37 then text.tails.any (matchesPattern escape ps)
    else match text with
      | [] => false
      | t :: ts =>
        if p = escape then match ps with
          | [] => false
          | p :: ps => p == t && matchesPattern escape ps ts
        else (p == 95 || p == t) && matchesPattern escape ps ts

/-- The sum of the integers among cells, `null` for none. -/
def plainSum : List StoredCell → StoredCell
  | [] => .null
  | .integer n :: cells => match plainSum cells with
    | .integer m => .integer (n + m)
    | _ => .integer n
  | _ :: cells => plainSum cells

/-- A letter of a text in the other case, if it is one of 26 from a first one on. -/
def shiftLetter (first shift byte : UInt8) : UInt8 :=
  if first ≤ byte && byte < first + 26 then byte + shift else byte

/-- The plain interpretation. -/
def plain : Interpretation where
  compare := fun _ _ a b => plainCompare a b
  isTrue := fun _ => false
  isLike := fun text pattern escape => match text, pattern with
    | .text text, .text pattern => matchesPattern escape.toNat.toUInt8 pattern text
    | _, _ => false
  function := fun name args => match name, args with
    | "UPPER", [.text bytes] => .text (bytes.map (shiftLetter 97 224))
    | "LOWER", [.text bytes] => .text (bytes.map (shiftLetter 65 32))
    | _, _ => .null
  aggregate := fun name rows => match name with
    | "SUM" => plainSum (rows.flatMap fun args => args)
    | _ => .null
  precedes := fun _ a b => plainCompare a b
  sameGroup := fun _ a b => a == b
  representative := fun _ group => group.headD []

end Interpretation

end TenantReports.Sql
