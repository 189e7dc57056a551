import TenantReports.Json.Parser

/-!
# TOML scalars

Strings in their four forms, integers in four bases, floats, booleans, dates and times. A date or
time is kept as an object with one key, as it is no text. A number out of range is kept as `null`,
which stands for nothing else here: it does no harm where nobody looks at it.

## Main definitions

* `Toml.string?`: a string at the start of a text
* `Toml.word?`: the number, boolean, date or time that a word denotes
* `Toml.scalar?`: any scalar at the start of a text
-/

namespace TenantReports.Toml

open Binary64 (digitsValue exponentOf? unsignedOf?)

/-- Space and tab. -/
def isTomlBlank (c : Char) : Bool := c == ' ' || c == '\t'

/-- The characters from the first one that is no blank. -/
def skipBlanks (cs : List Char) : List Char := cs.dropWhile isTomlBlank

/-- The characters of comments and of strings on one line: no control character but the tab. -/
def isInline (c : Char) : Bool := c == '\t' || (32 ≤ c.toNat && c.toNat != 127)

/-- The characters after a line break, if the text begins with one. -/
def newline? : List Char → Option (List Char)
  | '\n' :: cs => some cs
  | '\r' :: '\n' :: cs => some cs
  | _ => none

/-- Blanks and line breaks left out, at most `fuel` characters. -/
def skipBlankLines : Nat → List Char → List Char
  | 0, cs => cs
  | fuel + 1, cs =>
    match cs with
    | ' ' :: r => skipBlankLines fuel r
    | '\t' :: r => skipBlankLines fuel r
    | '\n' :: r => skipBlankLines fuel r
    | '\r' :: '\n' :: r => skipBlankLines fuel r
    | r => r

/-! ### Strings -/

/-- The character of a two-character escape. -/
def simpleEscape? : Char → Option Char
  | '"' => some '"'
  | '\\' => some '\\'
  | 'b' => some '\x08'
  | 't' => some '\t'
  | 'n' => some '\n'
  | 'f' => some '\x0c'
  | 'r' => some '\r'
  | 'e' => some '\x1b'
  | _ => none

/-- The character of a code point, if it is one. -/
def scalarValue? (n : Nat) : Option Char := if n.isValidChar then some (Char.ofNat n) else none

/-- The code point that hexadecimal digits denote. -/
def hexPoint? (ds : List Char) : Option Char := do
  let vs ← ds.mapM Json.hexValue?
  scalarValue? (vs.foldl (fun n v => 16 * n + v) 0)

/-- An escape after its backslash: the character and the characters left. -/
def escape? : List Char → Option (Char × List Char)
  | 'x' :: a :: b :: cs => (hexPoint? [a, b]).map (·, cs)
  | 'u' :: a :: b :: c :: d :: cs => (hexPoint? [a, b, c, d]).map (·, cs)
  | 'U' :: a :: b :: c :: d :: e :: f :: g :: h :: cs =>
    (hexPoint? [a, b, c, d, e, f, g, h]).map (·, cs)
  | e :: cs => (simpleEscape? e).map (·, cs)
  | [] => none

/-- The rest of a string in double quotes on one line. -/
def basicBody? : Nat → List Char → List Char → Option (String × List Char)
  | 0, _, _ => none
  | fuel + 1, acc, cs =>
    match cs with
    | '"' :: r => some (String.ofList acc.reverse, r)
    | '\\' :: r =>
      match escape? r with
      | some (c, r') => basicBody? fuel (c :: acc) r'
      | none => none
    | c :: r => if isInline c then basicBody? fuel (c :: acc) r else none
    | [] => none

/-- The rest of a string in triple double quotes. Up to two quotes may stand before the closing
three, and a backslash at the end of a line leaves out the blanks and line breaks after it. -/
def multilineBody? : Nat → List Char → List Char → Option (String × List Char)
  | 0, _, _ => none
  | fuel + 1, acc, cs =>
    match cs with
    | '"' :: '"' :: '"' :: '"' :: '"' :: r => some (String.ofList ('"' :: '"' :: acc).reverse, r)
    | '"' :: '"' :: '"' :: '"' :: r => some (String.ofList ('"' :: acc).reverse, r)
    | '"' :: '"' :: '"' :: r => some (String.ofList acc.reverse, r)
    | '\\' :: r =>
      match newline? (skipBlanks r) with
      | some r' => multilineBody? fuel acc (skipBlankLines r'.length r')
      | none =>
        match escape? r with
        | some (c, r') => multilineBody? fuel (c :: acc) r'
        | none => none
    | '\n' :: r => multilineBody? fuel ('\n' :: acc) r
    | '\r' :: '\n' :: r => multilineBody? fuel ('\n' :: '\r' :: acc) r
    | c :: r => if isInline c then multilineBody? fuel (c :: acc) r else none
    | [] => none

/-- The rest of a string in triple single quotes. -/
def multilineLiteralBody? : Nat → List Char → List Char → Option (String × List Char)
  | 0, _, _ => none
  | fuel + 1, acc, cs =>
    match cs with
    | '\'' :: '\'' :: '\'' :: '\'' :: '\'' :: r =>
      some (String.ofList ('\'' :: '\'' :: acc).reverse, r)
    | '\'' :: '\'' :: '\'' :: '\'' :: r => some (String.ofList ('\'' :: acc).reverse, r)
    | '\'' :: '\'' :: '\'' :: r => some (String.ofList acc.reverse, r)
    | '\n' :: r => multilineLiteralBody? fuel ('\n' :: acc) r
    | '\r' :: '\n' :: r => multilineLiteralBody? fuel ('\n' :: '\r' :: acc) r
    | c :: r => if isInline c then multilineLiteralBody? fuel (c :: acc) r else none
    | [] => none

/-- The rest of a string in single quotes on one line. -/
def literalBody? (cs : List Char) : Option (String × List Char) :=
  let body := cs.takeWhile fun c => isInline c && c != '\''
  match cs.dropWhile fun c => isInline c && c != '\'' with
  | '\'' :: r => some (String.ofList body, r)
  | _ => none

/-- A string on one line, as keys may be. -/
def lineString? : List Char → Option (String × List Char)
  | '"' :: r => basicBody? (r.length + 1) [] r
  | '\'' :: r => literalBody? r
  | _ => none

/-- A line break right after an opening is not part of the string. -/
def dropNewline (cs : List Char) : List Char := (newline? cs).getD cs

/-- A string at the start of a text. -/
def string? : List Char → Option (String × List Char)
  | '"' :: '"' :: '"' :: r => multilineBody? (r.length + 1) [] (dropNewline r)
  | '\'' :: '\'' :: '\'' :: r => multilineLiteralBody? (r.length + 1) [] (dropNewline r)
  | cs => lineString? cs

/-! ### Numbers -/

/-- Digits with single underscores between them: the digits. -/
def grouped? (isDigit : Char → Bool) : List Char → Option (List Char)
  | [] => none
  | [c] => if isDigit c then some [c] else none
  | c :: '_' :: cs => if isDigit c then (grouped? isDigit cs).map (c :: ·) else none
  | c :: cs => if isDigit c then (grouped? isDigit cs).map (c :: ·) else none

/-- The number of digits in a base. -/
def valueInBase? (base : Nat) (ds : List Char) : Option Nat := do
  let vs ← ds.mapM Json.hexValue?
  if vs.all (· < base) then some (vs.foldl (fun n v => base * n + v) 0) else none

/-- No digit follows a leading zero. -/
def plainWhole (ds : List Char) : Bool := ds.head? != some '0' || ds.length == 1

/-- Integers of 128 bits. -/
def inRange (n : Int) : Bool := -(Int.pow 2 127) ≤ n && n < Int.pow 2 128

/-- An integer without a sign. -/
def unsignedInteger? (cs : List Char) : Option Nat :=
  match cs with
  | '0' :: 'x' :: r => (grouped? Char.isAlphanum r).bind (valueInBase? 16)
  | '0' :: 'o' :: r => (grouped? Char.isAlphanum r).bind (valueInBase? 8)
  | '0' :: 'b' :: r => (grouped? Char.isAlphanum r).bind (valueInBase? 2)
  | r => decimal? r
where
  decimal? (r : List Char) : Option Nat := do
    let ds ← grouped? Char.isDigit r
    if plainWhole ds then some (digitsValue 0 ds) else none

/-- An integer, or `null` in the place of one that is out of range. Only decimal ones have a
sign. -/
def integer? (cs : List Char) : Option Json := do
  let n : Int ← match cs with
    | '+' :: r => (unsignedInteger?.decimal? r).map Int.ofNat
    | '-' :: r => (unsignedInteger?.decimal? r).map fun n => -(n : Int)
    | r => (unsignedInteger? r).map Int.ofNat
  return if inRange n then .int n else .null

/-- The exponent of a float: nothing, or a sign and digits after an `e`. -/
def floatExponent? : List Char → Option (List Char)
  | [] => some []
  | e :: cs =>
    if e != 'e' && e != 'E' then none
    else match cs with
      | '+' :: r => (grouped? Char.isDigit r).map fun ds => 'e' :: ds
      | '-' :: r => (grouped? Char.isDigit r).map fun ds => 'e' :: '-' :: ds
      | r => (grouped? Char.isDigit r).map fun ds => 'e' :: ds

/-- A float without its sign: whole digits, then a point and digits, an exponent, or both. -/
def unsignedFloat? (neg : Bool) (cs : List Char) : Option Binary64 := do
  let isPart := fun c : Char => c.isDigit || c == '_'
  let whole ← grouped? Char.isDigit (cs.takeWhile isPart)
  if !plainWhole whole then none
  match cs.dropWhile isPart with
  | '.' :: r =>
    let fraction ← grouped? Char.isDigit (r.takeWhile isPart)
    let exponent ← floatExponent? (r.dropWhile isPart)
    unsignedOf? neg (whole ++ '.' :: (fraction ++ exponent))
  | [] => none
  | r =>
    let exponent ← floatExponent? r
    unsignedOf? neg (whole ++ exponent)

/-- A float, an infinity or not a number, or `null` in the place of a float beyond the largest
double. -/
def float? (cs : List Char) : Option Json :=
  let (neg, r) := match cs with
    | '+' :: r => (false, r)
    | '-' :: r => (true, r)
    | r => (false, r)
  match r with
  | ['i', 'n', 'f'] => some (.double (.infinity neg))
  | ['n', 'a', 'n'] => some (.double .nan)
  | r => (unsignedFloat? neg r).map fun x => if x.isFinite then .double x else .null

/-! ### Dates and times -/

/-- The days of a month. -/
def daysInMonth (year month : Nat) : Nat :=
  if month = 2 then
    if year % 4 = 0 ∧ (year % 100 ≠ 0 ∨ year % 400 = 0) then 29 else 28
  else if month = 4 ∨ month = 6 ∨ month = 9 ∨ month = 11 then 30 else 31

/-- A number of exactly `n` digits, and the characters left. -/
def fixedDigits? (n : Nat) (cs : List Char) : Option (Nat × List Char) :=
  let ds := cs.take n
  if ds.length = n ∧ ds.all Char.isDigit then some (digitsValue 0 ds, cs.drop n) else none

/-- The characters after a date that exists. -/
def afterDate? (cs : List Char) : Option (List Char) := do
  let (year, r) ← fixedDigits? 4 cs
  let '-' :: r := r | none
  let (month, r) ← fixedDigits? 2 r
  let '-' :: r := r | none
  let (day, r) ← fixedDigits? 2 r
  if 1 ≤ month ∧ month ≤ 12 ∧ 1 ≤ day ∧ day ≤ daysInMonth year month then some r else none

/-- The characters after a time of day. Seconds may be left out. -/
def afterTime? (cs : List Char) : Option (List Char) := do
  let (hour, r) ← fixedDigits? 2 cs
  let ':' :: r := r | none
  let (minute, r) ← fixedDigits? 2 r
  if 23 < hour ∨ 59 < minute then none
  match r with
  | ':' :: r =>
    let (second, r) ← fixedDigits? 2 r
    if 60 < second then none
    match r with
    | '.' :: r =>
      if (r.takeWhile Char.isDigit).isEmpty then none else some (r.dropWhile Char.isDigit)
    | r => some r
  | r => some r

/-- An offset from universal time, or nothing. -/
def isOffset : List Char → Bool
  | [] => true
  | ['Z'] => true
  | ['z'] => true
  | s :: r =>
    (s == '+' || s == '-') && match fixedDigits? 2 r with
      | some (hour, ':' :: r) =>
        match fixedDigits? 2 r with
        | some (minute, []) => hour ≤ 23 && minute ≤ 59
        | _ => false
      | _ => false

/-- A date, a time, or both with or without an offset. -/
def isDateTime (cs : List Char) : Bool :=
  match afterDate? cs with
  | some [] => true
  | some (t :: r) =>
    (t == 'T' || t == 't' || t == ' ') && match afterTime? r with
      | some r => isOffset r
      | none => false
  | none => afterTime? cs == some []

/-- The key of the object that stands for a date or time. -/
def dateTimeKey : String := "$__toml_private_datetime"

/-! ### Words -/

/-- The characters of words other than strings. -/
def isWordPart (c : Char) : Bool :=
  c.isAlphanum || c == '_' || c == '+' || c == '-' || c == '.' || c == ':'

/-- The value of a word: a boolean, a number, a date or a time. -/
def word? (cs : List Char) : Option Json :=
  match cs with
  | ['t', 'r', 'u', 'e'] => some (.bool true)
  | ['f', 'a', 'l', 's', 'e'] => some (.bool false)
  | cs =>
    if isDateTime cs then some (.object [(dateTimeKey, .string (String.ofList cs))])
    else match integer? cs with
      | some j => some j
      | none => float? cs

/-- A word at the start of a text. A blank between a date and a time belongs to it. -/
def splitWord (cs : List Char) : List Char × List Char :=
  let word := cs.takeWhile isWordPart
  let rest := cs.dropWhile isWordPart
  match rest with
  | ' ' :: d :: _ =>
    if afterDate? word == some [] && d.isDigit then
      let tail := rest.drop 1
      (word ++ ' ' :: tail.takeWhile isWordPart, tail.dropWhile isWordPart)
    else (word, rest)
  | _ => (word, rest)

/-- A scalar at the start of a text. -/
def scalar? (cs : List Char) : Option (Json × List Char) :=
  match cs with
  | '"' :: _ => (string? cs).map fun (s, r) => (.string s, r)
  | '\'' :: _ => (string? cs).map fun (s, r) => (.string s, r)
  | cs =>
    let (word, rest) := splitWord cs
    (word? word).map (·, rest)

end TenantReports.Toml
