import TenantReports.Named
import TenantReports.Binary64.Text
import TenantReports.Json.Number
import TenantReports.Sql.Token
import TenantReports.Text.Uppercase

/-!
# SQL dialects

What differs between dialects: the quotes of names, the texts of booleans, placeholders, names of
functions, and whether an index can be created unless it exists.

## Main definitions

* `Dialect`: the dialects
* `Dialect.parse`: a dialect by one of its names
* `Dialect.quoteIdent`, `Dialect.quoteString`, `Dialect.placeholder`, `Dialect.remap?`
* `Token.chars`: the text of a token in a dialect
-/

namespace TenantReports.Sql

/-- The dialects. -/
inductive Dialect where
  | sqlite
  | postgres
  | mysql
deriving DecidableEq, Repr

namespace Dialect

/-- The dialects, in order. -/
def all : List Dialect := [.sqlite, .postgres, .mysql]

/-- The name of a dialect. -/
def name : Dialect → String
  | .sqlite => "sqlite"
  | .postgres => "postgres"
  | .mysql => "mysql"

/-- The names under which a dialect is known. -/
def names : Dialect → List String
  | .sqlite => ["sqlite"]
  | .postgres => ["postgres", "postgresql", "pg"]
  | .mysql => ["mysql"]

/-- A dialect by one of its names, in any case. The error is the name in lower case. -/
def parse (s : String) : Except String Dialect :=
  let lowered := lowerAscii s
  match all.find? fun d => d.names.contains lowered with
  | some d => .ok d
  | none => .error lowered

/-- What is told of a name that no dialect has. -/
def unknownMessage (name : String) : String := s!"unknown dialect '{name}'"

/-- The characters with each occurrence of one of them doubled, between two of it. -/
def quoteChars (q : Char) (cs : List Char) : List Char :=
  q :: cs.flatMap (fun c => if c = q then [q, q] else [c]) ++ [q]

/-- The quote around names. -/
def identQuote : Dialect → Char
  | .sqlite => '"'
  | .postgres => '"'
  | .mysql => '\x60'

/-- A name in quotes. -/
def quoteIdent (d : Dialect) (s : String) : List Char := quoteChars d.identQuote s.toList

/-- A string in single quotes. -/
def quoteString (_ : Dialect) (s : String) : List Char := quoteChars '\'' s.toList

/-- The text of a boolean. -/
def boolText (d : Dialect) (b : Bool) : String :=
  match d, b with
  | .postgres, true => "true"
  | .postgres, false => "false"
  | _, true => "1"
  | _, false => "0"

/-- The placeholder of the bound value with a number, counted from one. -/
def placeholder (d : Dialect) (number : Nat) : List Char :=
  match d with
  | .sqlite => '?' :: Nat.toDigits 10 number
  | .postgres => '$' :: Nat.toDigits 10 number
  | .mysql => ['?']

/-- The dialect's own name of a function, in place of a name it does not have. -/
def remap? (d : Dialect) (function : String) : Option String :=
  match d, Text.upper function with
  | .sqlite, "NVL" => some "IFNULL"
  | .sqlite, "ISNULL" => some "IFNULL"
  | .sqlite, "SUBSTRING" => some "SUBSTR"
  | .postgres, "NVL" => some "COALESCE"
  | .postgres, "IFNULL" => some "COALESCE"
  | .postgres, "ISNULL" => some "COALESCE"
  | .mysql, "NVL" => some "IFNULL"
  | .mysql, "ISNULL" => some "IFNULL"
  | .mysql, "SUBSTR" => some "SUBSTRING"
  | .mysql, "LENGTH" => some "CHAR_LENGTH"
  | _, _ => none

/-- The name of a function as it is written: remapped, else in upper case. -/
def functionText (d : Dialect) (function : String) : String :=
  (d.remap? function).getD (Text.upper function)

/-- An index can be created unless it exists. -/
def hasIfNotExists : Dialect → Bool
  | .mysql => false
  | _ => true

end Dialect

/-- The text of a value in a statement. Floats that are not finite have none and are null. -/
def Literal.chars (d : Dialect) : Literal → List Char
  | .int n => (Json.intText n).toList
  | .float x => if x.isFinite then (x.toText .sql).toList else "NULL".toList
  | .string s => d.quoteString s
  | .bool b => (d.boolText b).toList
  | .null => "NULL".toList

/-- The greatest number of bytes of a text. -/
def maxTextBytes : Nat := Nat.pow 2 63 - 1

/-- The text of a token is not too long to be there at all. -/
def Token.fits : Token → Bool
  | .indent depth => 2 * depth ≤ maxTextBytes
  | _ => true

/-- The text of a token. A parameter alone is the first placeholder. -/
def Token.chars (d : Dialect) : Token → List Char
  | .keyword k => k.text.toList
  | .symbol s => s.text.toList
  | .space => [' ']
  | .newline => ['\n']
  | .indent depth => List.replicate (2 * depth) ' '
  | .ident name => d.quoteIdent name
  | .literal v => v.chars d
  | .param _ => d.placeholder 1
  | .function name => (d.functionText name).toList

/-- The text of a token. -/
def Token.text (d : Dialect) (t : Token) : String := String.ofList (t.chars d)

end TenantReports.Sql
