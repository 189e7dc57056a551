import TenantReports.Sql.Dialect

/-!
# SQL statements

A statement is a text with placeholders and the values bound to them, in the order of the
placeholders.

## Main definitions

* `Statement`: text and bound values
* `renderChars`: the text of tokens, with placeholders numbered in order
* `boundValues`: the bound values of tokens, in order
* `Statement.ofTokens`: both
* `createIndex`: the statement that creates an index
-/

namespace TenantReports.Sql

/-- A text with placeholders, and the values bound to them. -/
structure Statement where
  sql : String
  params : List Literal
deriving DecidableEq, Repr

/-- The bound values among tokens, in order. -/
def boundValues (ts : List Token) : List Literal :=
  ts.filterMap fun
    | .param v => some v
    | _ => none

/-- The text of tokens. The next placeholder is number `n`. -/
def renderChars (d : Dialect) : Nat → List Token → List Char
  | _, [] => []
  | n, .param _ :: ts => d.placeholder n ++ renderChars d (n + 1) ts
  | n, t :: ts => t.chars d ++ renderChars d n ts

/-- The text of tokens, with placeholders numbered from one. -/
def render (d : Dialect) (ts : List Token) : String := String.ofList (renderChars d 1 ts)

/-- The statement of tokens in a dialect. -/
def Statement.ofTokens (d : Dialect) (ts : List Token) : Statement := ⟨render d ts, boundValues ts⟩

/-- The limit of a clause is at most the greatest signed integer of 64 bits. -/
def limitTokens (limit : Nat) : List Token :=
  [.keyword .limit, .space, .literal (.int (min limit (Nat.pow 2 63 - 1)))]

/-- The tokens that create an index on columns of a table. -/
def createIndexTokens (d : Dialect) (name table : String) (columns : List String) : List Token :=
  [.keyword .create, .space, .keyword .index, .space]
    ++ (if d.hasIfNotExists then
        [.keyword .if, .space, .keyword .not, .space, .keyword .exists, .space]
      else [])
    ++ [.ident name, .space, .keyword .on, .space, .ident table, .space]
    ++ parenthesized (columns.map fun c => [.ident c])

/-- The text that creates an index on columns of a table. -/
def createIndex (d : Dialect) (name table : String) (columns : List String) : String :=
  render d (createIndexTokens d name table columns)

end TenantReports.Sql
