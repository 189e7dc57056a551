import TenantReports.Export.Csv
import TenantReports.Json.Parser

/-!
# Spreadsheets

A sheet is the list of its cells, row by row. The labels are in bold in the first row; an empty
label leaves a blank cell in bold. Cells of `null` and of an empty text are not there at all.

## Main definitions

* `SheetValue`, `SheetCell`: the cells of a sheet
* `SheetError`: the limits of the format
* `Sheet.storedText`, `Sheet.areStorable`: a text as a sheet stores it, and the texts that it can
  store
* `Sheet.write`: labels and rows
* `SheetCell.name`: the name of a cell, as in `A1`
-/

namespace TenantReports

/-- What a cell of a sheet holds. -/
inductive SheetValue where
  | blank
  | bool (b : Bool)
  | number (x : Binary64)
  | text (s : String)
deriving DecidableEq, Repr

/-- A cell of a sheet, by row and column counted from zero. -/
structure SheetCell where
  row : Nat
  column : Nat
  value : SheetValue
  bold : Bool
deriving DecidableEq, Repr

/-- What a sheet cannot hold. -/
inductive SheetError where
  | textTooLong
  | outOfBounds
deriving DecidableEq, Repr

/-- How an error is told. -/
def SheetError.message : SheetError → String
  | .textTooLong =>
    "XLSX export failed: String exceeds Excel's limit of 32,767 characters."
  | .outOfBounds =>
    "XLSX export failed: Row or column exceeds Excel's allowed limits (1,048,576 x 16,384)."

/-- The letters of a column counted from zero, with the least letter first; at most `fuel`. -/
def columnLetters : Nat → Nat → List Char
  | 0, _ => []
  | fuel + 1, n =>
    Char.ofNat (65 + n % 26) :: (if n < 26 then [] else columnLetters fuel (n / 26 - 1))

/-- The name of a cell, as in `A1`. -/
def SheetCell.name (c : SheetCell) : String :=
  String.ofList ((columnLetters (c.column + 1) c.column).reverse ++ Nat.toDigits 10 (c.row + 1))

namespace Sheet

/-- The number of rows of a sheet. -/
def maxRows : Nat := 1048576

/-- The number of columns of a sheet. -/
def maxColumns : Nat := 16384

/-- The greatest number of characters of a text. -/
def maxText : Nat := 32767

/-- The code of a character: its code point in four hexadecimal digits, marked as such. -/
def charCode (c : Char) : List Char :=
  let digits := (Nat.toDigits 16 c.toNat).map Char.toUpper
  '_' :: 'x' :: (List.replicate (4 - digits.length) '0' ++ digits ++ ['_'])

/-- What follows an underscore looks like a code: `x`, four hexadecimal digits and any character,
not just another underscore. -/
def isCodeTail : List Char → Bool
  | 'x' :: a :: b :: c :: d :: _ :: _ => (Json.hex4? a b c d).isSome
  | _ => false

/-- A text as a sheet stores it. Control characters, tab and line feed apart, are written as their
codes, and so is an underscore that seems to begin a code. -/
def storedText : List Char → List Char
  | [] => []
  | c :: cs =>
    let coded := if c = '_' then isCodeTail cs else c.toNat < 32 && c != '\t' && c != '\n'
    (if coded then charCode c else [c]) ++ storedText cs

/-- A character of a text goes on beyond its first `n` bytes. -/
def cutsCharacter : Nat → List Char → Bool
  | 0, _ => false
  | _, [] => false
  | n, c :: cs => n < c.utf8Size || cutsCharacter (n - c.utf8Size) cs

/-- In all places where a code may begin, the four bytes of its digits end with a character. -/
def isStorable : List Char → Bool
  | [] => true
  | '_' :: 'x' :: cs => !cutsCharacter 4 cs && isStorable cs
  | _ :: cs => isStorable cs

/-- A cell with a text. An empty one is there only if it is in bold. -/
def textCell (row column : Nat) (s : String) (bold : Bool) : Except SheetError (List SheetCell) :=
  if maxRows ≤ row ∨ maxColumns ≤ column then .error .outOfBounds
  else if s = "" then .ok (if bold then [⟨row, column, .blank, true⟩] else [])
  else if maxText < s.length then .error .textTooLong
  else .ok [⟨row, column, .text (String.ofList (storedText s.toList)), bold⟩]

/-- A cell with a value other than a text. -/
def valueCell (row column : Nat) (v : SheetValue) : Except SheetError (List SheetCell) :=
  if maxRows ≤ row ∨ maxColumns ≤ column then .error .outOfBounds
  else .ok [⟨row, column, v, false⟩]

/-- The cell of a value. -/
def cell (row column : Nat) : Json → Except SheetError (List SheetCell)
  | .null => .ok []
  | .bool b => valueCell row column (.bool b)
  | .int n => valueCell row column (.number (.ofInt n))
  | .double x => valueCell row column (.number x)
  | j => textCell row column (cellText j) false

/-- The cells of a row, from a column on. -/
def cells {α : Type} (write : Nat → Nat → α → Except SheetError (List SheetCell))
    (row column : Nat) : List α → Except SheetError (List SheetCell)
  | [] => .ok []
  | v :: vs => do
    let c ← write row column v
    let rest ← cells write row (column + 1) vs
    return c ++ rest

/-- The cells of rows, from a row on. -/
def rowsFrom (row : Nat) : List (List Json) → Except SheetError (List SheetCell)
  | [] => .ok []
  | r :: rs => do
    let first ← cells cell row 0 r
    let rest ← rowsFrom (row + 1) rs
    return first ++ rest

/-- The cells of labels and rows. -/
def write (labels : List String) (rows : List (List Json)) :
    Except SheetError (List SheetCell) := do
  let header ← cells (fun row column s => textCell row column s true) 0 0 labels
  let body ← rowsFrom 1 rows
  return header ++ body

/-- All texts of a sheet can be stored. -/
def areStorable (labels : List String) (rows : List (List Json)) : Bool :=
  (labels ++ rows.flatten.map cellText).all fun s => isStorable s.toList

end Sheet

end TenantReports
