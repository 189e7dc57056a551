import TenantReports.Sql.Literal

/-!
# SQL tokens

The atomic units of statements: keywords, symbols, layout, names and values. There is no token
for raw text, and a bound value never becomes part of the text.

## Main definitions

* `Keyword`, `Symbol`: the fixed tokens and their texts
* `Token`: the tokens
* `joined`: lists of tokens with a comma between them
-/

namespace TenantReports.Sql

/-- The keywords. -/
inductive Keyword where
  | select
  | «from»
  | where_
  | and
  | not
  | as
  | on
  | join
  | inner
  | left
  | groupBy
  | orderBy
  | asc
  | desc
  | limit
  | «in»
  | between
  | like
  | escape
  | isNull
  | create
  | index
  | «if»
  | exists
deriving DecidableEq, Repr

/-- The text of a keyword, the same in every dialect. -/
def Keyword.text : Keyword → String
  | .select => "SELECT"
  | .from => "FROM"
  | .where_ => "WHERE"
  | .and => "AND"
  | .not => "NOT"
  | .as => "AS"
  | .on => "ON"
  | .join => "JOIN"
  | .inner => "INNER"
  | .left => "LEFT"
  | .groupBy => "GROUP BY"
  | .orderBy => "ORDER BY"
  | .asc => "ASC"
  | .desc => "DESC"
  | .limit => "LIMIT"
  | .in => "IN"
  | .between => "BETWEEN"
  | .like => "LIKE"
  | .escape => "ESCAPE"
  | .isNull => "IS NULL"
  | .create => "CREATE"
  | .index => "INDEX"
  | .if => "IF"
  | .exists => "EXISTS"

/-- The symbols. -/
inductive Symbol where
  | comma
  | dot
  | star
  | lparen
  | rparen
  | eq
  | lte
  | gte
deriving DecidableEq, Repr

/-- The text of a symbol, the same in every dialect. -/
def Symbol.text : Symbol → String
  | .comma => ","
  | .dot => "."
  | .star => "*"
  | .lparen => "("
  | .rparen => ")"
  | .eq => "="
  | .lte => "<="
  | .gte => ">="

/-- A token. -/
inductive Token where
  | keyword (k : Keyword)
  | symbol (s : Symbol)
  | space
  | newline
  | indent (depth : Nat)
  | ident (name : String)
  | literal (value : Literal)
  | param (value : Literal)
  | function (name : String)
deriving DecidableEq, Repr

/-- A keyword between two spaces. -/
def spaced (k : Keyword) : List Token := [.space, .keyword k, .space]

/-- A symbol between two spaces. -/
def spacedSymbol (s : Symbol) : List Token := [.space, .symbol s, .space]

/-- Lists of tokens with a comma and a space between them. -/
def joined : List (List Token) → List Token
  | [] => []
  | [ts] => ts
  | ts :: rest => ts ++ .symbol .comma :: .space :: joined rest

/-- Lists of tokens in parentheses, with a comma and a space between them. -/
def parenthesized (items : List (List Token)) : List Token :=
  .symbol .lparen :: joined items ++ [.symbol .rparen]

/-- A name, qualified by a table if there is one. -/
def qualified (table : Option String) (t : Token) : List Token :=
  match table with
  | some name => [.ident name, .symbol .dot, t]
  | none => [t]

end TenantReports.Sql
