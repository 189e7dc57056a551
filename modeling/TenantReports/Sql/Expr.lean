import TenantReports.Sql.Token

/-!
# SQL expressions

Expressions and predicates. Their tokens have no parentheses other than those of calls and lists.

## Main definitions

* `Expr`: the expressions
* `Expr.tokens`: their tokens
* `conjunction`: predicates joined by AND, to the left
-/

namespace TenantReports.Sql

/-- The binary operators. -/
inductive BinaryOp where
  | eq
  | lte
  | gte
  | and
deriving DecidableEq, Repr

/-- The token of an operator. -/
def BinaryOp.token : BinaryOp → Token
  | .eq => .symbol .eq
  | .lte => .symbol .lte
  | .gte => .symbol .gte
  | .and => .keyword .and

/-- An expression or predicate. Values given by users are always parameters. -/
inductive Expr where
  | column (table : Option String) (name : String)
  | literal (value : Literal)
  | param (value : Literal)
  | binary (op : BinaryOp) (left right : Expr)
  | call (function : String) (args : List Expr)
  | isIn (e : Expr) (values : List Expr)
  | between (e low high : Expr)
  | isNull (e : Expr)
  | like (e pattern : Expr) (escape : Char)
  | star (table : Option String)
deriving Inhabited

namespace Expr

/-- The tokens of a predicate that is never true. -/
def neverTokens : List Token :=
  [.literal (.int 1), .space, .symbol .eq, .space, .literal (.int 0)]

mutual

/-- The tokens of an expression. A choice from no values is never true. -/
def tokens : Expr → List Token
  | .column table name => qualified table (.ident name)
  | .literal v => [.literal v]
  | .param v => [.param v]
  | .binary op l r => tokens l ++ [.space, op.token, .space] ++ tokens r
  | .call f args => .function f :: parenthesized (tokensOfList args)
  | .isIn e values =>
    if values.isEmpty then neverTokens
    else tokens e ++ spaced .in ++ parenthesized (tokensOfList values)
  | .between e low high => tokens e ++ spaced .between ++ tokens low ++ spaced .and ++ tokens high
  | .isNull e => tokens e ++ [.space, .keyword .isNull]
  | .like e pattern c =>
    tokens e ++ spaced .like ++ tokens pattern ++ spaced .escape
      ++ [.literal (.string (String.ofList [c]))]
  | .star table => qualified table (.symbol .star)

/-- The tokens of each of a list of expressions. -/
def tokensOfList : List Expr → List (List Token)
  | [] => []
  | e :: es => tokens e :: tokensOfList es

end

/-- The conjunction of two predicates. -/
def and (l r : Expr) : Expr := .binary .and l r

/-- The equality of two expressions. -/
def eq (l r : Expr) : Expr := .binary .eq l r

/-- The number of bound values. -/
def paramCount (e : Expr) : Nat :=
  (e.tokens.filter fun
    | .param _ => true
    | _ => false).length

end Expr

/-- Predicates joined by AND, to the left; nothing for no predicates. -/
def conjunction : List Expr → Option Expr
  | [] => none
  | e :: es => some (es.foldl Expr.and e)

end TenantReports.Sql
