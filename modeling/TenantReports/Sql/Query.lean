import TenantReports.Report.Vocabulary
import TenantReports.Sql.Expr
import TenantReports.Sql.Statement

/-!
# SQL queries

A query selects expressions from tables joined one after the other.

## Main definitions

* `Query` and its parts: `SelectItem`, `TableRef`, `JoinClause`, `OrderItem`
* `Query.filter`: a further condition
* `Query.tokens`: the tokens of a query, a clause a line
* `Query.statement`: the statement in a dialect
-/

namespace TenantReports.Sql

/-- An expression of the select list, and its name in the output. -/
structure SelectItem where
  expr : Expr
  called : Option String

/-- A table, and its name in the query. -/
structure TableRef where
  table : String
  called : Option String
deriving DecidableEq, Repr

/-- A joined table and its condition. -/
structure JoinClause where
  kind : JoinKind
  table : TableRef
  on : Expr

/-- An expression to order by. -/
structure OrderItem where
  expr : Expr
  direction : Direction

/-- A query. -/
structure Query where
  select : List SelectItem := []
  source : Option TableRef := none
  joins : List JoinClause := []
  condition : Option Expr := none
  groupBy : List Expr := []
  orderBy : List OrderItem := []
  limit : Option Nat := none

/-- The tokens that name something in the output or the query. -/
def aliasTokens : Option String → List Token
  | some name => spaced .as ++ [.ident name]
  | none => []

namespace SelectItem

/-- The tokens of an output column. -/
def tokens (s : SelectItem) : List Token := s.expr.tokens ++ aliasTokens s.called

end SelectItem

namespace TableRef

/-- The tokens of a table. -/
def tokens (t : TableRef) : List Token := .ident t.table :: aliasTokens t.called

/-- The name of the table's rows in the query. -/
def name (t : TableRef) : String := t.called.getD t.table

end TableRef

/-- The keyword of a kind of join. -/
def joinKeyword : JoinKind → Keyword
  | .inner => .inner
  | .left => .left

namespace JoinClause

/-- The tokens of a join. -/
def tokens (j : JoinClause) : List Token :=
  [.keyword (joinKeyword j.kind), .space, .keyword .join, .space] ++ j.table.tokens ++ spaced .on
    ++ j.on.tokens

end JoinClause

/-- The keyword of a direction, which is always written. -/
def directionKeyword : Direction → Keyword
  | .asc => .asc
  | .desc => .desc

namespace OrderItem

/-- The tokens of an entry of the order. -/
def tokens (o : OrderItem) : List Token :=
  o.expr.tokens ++ [.space, .keyword (directionKeyword o.direction)]

end OrderItem

namespace Query

/-- A further condition, after those the query has. -/
def filter (q : Query) (e : Expr) : Query :=
  { q with condition := some (match q.condition with
      | some c => c.and e
      | none => e) }

/-- At most that many rows, instead of any earlier limit. -/
def withLimit (q : Query) (n : Nat) : Query := { q with limit := some n }

/-- The select list, one item a line. -/
def selectTokens : List SelectItem → List Token
  | [] => []
  | [s] => .newline :: .indent 1 :: s.tokens
  | s :: rest => .newline :: .indent 1 :: s.tokens ++ .symbol .comma :: selectTokens rest

/-- A clause on its own line, unless it is empty. -/
def listClause (k : Keyword) (items : List (List Token)) : List Token :=
  if items.isEmpty then [] else .newline :: .keyword k :: .space :: joined items

/-- The tokens of a query, a clause a line. -/
def tokens (q : Query) : List Token :=
  .keyword .select :: selectTokens q.select
    ++ (match q.source with
      | some t => .newline :: .keyword .from :: .space :: t.tokens
      | none => [])
    ++ q.joins.flatMap (fun j => .newline :: j.tokens)
    ++ (match q.condition with
      | some e => .newline :: .keyword .where_ :: .space :: e.tokens
      | none => [])
    ++ listClause .groupBy (q.groupBy.map Expr.tokens)
    ++ listClause .orderBy (q.orderBy.map OrderItem.tokens)
    ++ (match q.limit with
      | some n => .newline :: limitTokens n
      | none => [])

/-- The statement of a query in a dialect. -/
def statement (q : Query) (d : Dialect) : Statement := .ofTokens d q.tokens

/-- The text of a query in a dialect. -/
def text (q : Query) (d : Dialect) : String := render d q.tokens

/-- The number of bound values. -/
def paramCount (q : Query) : Nat := (boundValues q.tokens).length

end Query

end TenantReports.Sql
