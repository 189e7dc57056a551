import TenantReports.Json.Number

/-!
# Writing JSON

The compact form has no blanks. The indented form puts each item and entry on its own line, two
spaces deeper, and writes empty arrays and objects compactly. In strings the quote, the backslash
and control characters are escaped and nothing else.

## Main definitions

* `Json.quote`: a string with its quotes
* `Json.compact`: the compact text
* `Json.indented`: the indented text
-/

namespace TenantReports.Json

/-- A digit in lower-case hexadecimal. -/
def hexDigit (n : Nat) : Char := (Nat.digitChar (n % 16))

/-- A character of a string, escaped if it has to be. -/
def escape (c : Char) : List Char :=
  match c with
  | '"' => ['\\', '"']
  | '\\' => ['\\', '\\']
  | '\x08' => ['\\', 'b']
  | '\t' => ['\\', 't']
  | '\n' => ['\\', 'n']
  | '\x0c' => ['\\', 'f']
  | '\r' => ['\\', 'r']
  | c =>
    if c.toNat < 32 then ['\\', 'u', '0', '0', hexDigit (c.toNat / 16), hexDigit c.toNat]
    else [c]

/-- A string with its quotes. -/
def quoteChars (s : String) : List Char := '"' :: s.toList.flatMap escape ++ ['"']

/-- A string with its quotes, as a text. -/
def quote (s : String) : String := String.ofList (quoteChars s)

/-- The text of a double, `null` where it is not finite. -/
def doubleText (x : Binary64) : String := if x.isFinite then x.toText .json else "null"

mutual

/-- The compact text, as characters. -/
def compactChars : Json → List Char
  | .null => ['n', 'u', 'l', 'l']
  | .bool true => ['t', 'r', 'u', 'e']
  | .bool false => ['f', 'a', 'l', 's', 'e']
  | .int n => (intText n).toList
  | .double x => (doubleText x).toList
  | .string s => quoteChars s
  | .array [] => ['[', ']']
  | .array (j :: js) => '[' :: (compactChars j ++ compactItems js ++ [']'])
  | .object [] => ['{', '}']
  | .object ((k, j) :: es) =>
    '{' :: (quoteChars k ++ ':' :: compactChars j ++ compactEntries es ++ ['}'])

/-- Further items, each after a comma. -/
def compactItems : List Json → List Char
  | [] => []
  | j :: js => ',' :: (compactChars j ++ compactItems js)

/-- Further entries, each after a comma. -/
def compactEntries : List (String × Json) → List Char
  | [] => []
  | (k, j) :: es => ',' :: (quoteChars k ++ ':' :: compactChars j ++ compactEntries es)

end

/-- The compact text. -/
def compact (j : Json) : String := String.ofList j.compactChars

/-- A line break and the blanks that begin a line. -/
def lineBreak (depth : Nat) : List Char := '\n' :: List.replicate (2 * depth) ' '

mutual

/-- The indented text, as characters. -/
def indentedChars (depth : Nat) : Json → List Char
  | .array (j :: js) =>
    '[' :: (lineBreak (depth + 1) ++ indentedChars (depth + 1) j ++ indentedItems (depth + 1) js
      ++ lineBreak depth ++ [']'])
  | .object ((k, j) :: es) =>
    '{' :: (lineBreak (depth + 1) ++ quoteChars k ++ ':' :: ' ' :: indentedChars (depth + 1) j
      ++ indentedEntries (depth + 1) es ++ lineBreak depth ++ ['}'])
  | j => compactChars j

/-- Further items, each after a comma and on its own line. -/
def indentedItems (depth : Nat) : List Json → List Char
  | [] => []
  | j :: js => ',' :: (lineBreak depth ++ indentedChars depth j ++ indentedItems depth js)

/-- Further entries, each after a comma and on its own line. -/
def indentedEntries (depth : Nat) : List (String × Json) → List Char
  | [] => []
  | (k, j) :: es =>
    ',' :: (lineBreak depth ++ quoteChars k ++ ':' :: ' ' :: indentedChars depth j
      ++ indentedEntries depth es)

end

/-- The text with one item or entry a line. -/
def indented (j : Json) : String := String.ofList (j.indentedChars 0)

end TenantReports.Json
