import TenantReports.Json.Number

/-!
# Reading JSON

A value is read from a list of characters, with the characters left. Blanks are the four of the
format; arrays and objects nest at most 127 deep; a text has exactly one value.

## Main definitions

* `Json.skipBlanks`, `Json.stringBody?`: the tokens
* `Json.value?`: a value of bounded depth at the start of a text
* `Json.parse?`: the value that a text denotes
-/

namespace TenantReports.Json

/-- Space, tab, line feed and carriage return. -/
def isJsonBlank (c : Char) : Bool := c = ' ' || c = '\t' || c = '\n' || c = '\r'

/-- The characters from the first one that is not a blank. -/
def skipBlanks (cs : List Char) : List Char := cs.dropWhile isJsonBlank

/-- The value of a hexadecimal digit. -/
def hexValue? (c : Char) : Option Nat :=
  if c.isDigit then some (c.toNat - 48)
  else if 'a' ≤ c ∧ c ≤ 'f' then some (c.toNat - 87)
  else if 'A' ≤ c ∧ c ≤ 'F' then some (c.toNat - 55)
  else none

/-- The value of four hexadecimal digits. -/
def hex4? (a b c d : Char) : Option Nat := do
  let a ← hexValue? a
  let b ← hexValue? b
  let c ← hexValue? c
  let d ← hexValue? d
  return a * 4096 + b * 256 + c * 16 + d

/-- The character of a two-character escape, `u` apart. -/
def simpleEscape? : Char → Option Char
  | '"' => some '"'
  | '\\' => some '\\'
  | '/' => some '/'
  | 'b' => some '\x08'
  | 'f' => some '\x0c'
  | 'n' => some '\n'
  | 'r' => some '\r'
  | 't' => some '\t'
  | _ => none

/-- The rest of a string after its opening quote, and the characters after the closing one. A
control character must be escaped; a surrogate must be one of a pair. The characters read so far
are in `acc`, last first. -/
def stringBody? (acc : List Char) : List Char → Option (String × List Char)
  | [] => none
  | '"' :: cs => some (String.ofList acc.reverse, cs)
  | '\\' :: 'u' :: a :: b :: c :: d :: cs =>
    match hex4? a b c d with
    | none => none
    | some n =>
      if 0xDC00 ≤ n ∧ n ≤ 0xDFFF then none
      else if 0xD800 ≤ n ∧ n ≤ 0xDBFF then
        match cs with
        | '\\' :: 'u' :: a' :: b' :: c' :: d' :: cs' =>
          match hex4? a' b' c' d' with
          | none => none
          | some m =>
            if 0xDC00 ≤ m ∧ m ≤ 0xDFFF then
              stringBody? (Char.ofNat (0x10000 + (n - 0xD800) * 0x400 + (m - 0xDC00)) :: acc) cs'
            else none
        | _ => none
      else stringBody? (Char.ofNat n :: acc) cs
  | '\\' :: e :: cs =>
    match simpleEscape? e with
    | none => none
    | some c => stringBody? (c :: acc) cs
  | c :: cs => if c = '\\' ∨ c.toNat < 32 then none else stringBody? (c :: acc) cs

/-- The rest of an array after an item, given how to read an item. Each round uses up one unit
of fuel. -/
def itemsTail? (item : List Char → Option (Json × List Char)) :
    Nat → List Json → List Char → Option (List Json × List Char)
  | 0, _, _ => none
  | fuel + 1, acc, cs =>
    match skipBlanks cs with
    | ']' :: rest => some (acc.reverse, rest)
    | ',' :: rest =>
      match item rest with
      | none => none
      | some (j, rest') => itemsTail? item fuel (j :: acc) rest'
    | _ => none

/-- The items of an array after its opening bracket. -/
def items? (item : List Char → Option (Json × List Char)) (cs : List Char) :
    Option (List Json × List Char) :=
  match skipBlanks cs with
  | ']' :: rest => some ([], rest)
  | rest =>
    match item rest with
    | none => none
    | some (j, rest') => itemsTail? item (rest'.length + 1) [j] rest'

/-- An entry of an object: a string, a colon and a value. -/
def entry? (item : List Char → Option (Json × List Char)) (cs : List Char) :
    Option ((String × Json) × List Char) :=
  match skipBlanks cs with
  | '"' :: rest =>
    match stringBody? [] rest with
    | none => none
    | some (key, rest) =>
      match skipBlanks rest with
      | ':' :: rest =>
        match item rest with
        | none => none
        | some (j, rest) => some ((key, j), rest)
      | _ => none
  | _ => none

/-- The rest of an object after an entry. -/
def entriesTail? (item : List Char → Option (Json × List Char)) :
    Nat → List (String × Json) → List Char → Option (List (String × Json) × List Char)
  | 0, _, _ => none
  | fuel + 1, acc, cs =>
    match skipBlanks cs with
    | '}' :: rest => some (acc.reverse, rest)
    | ',' :: rest =>
      match entry? item rest with
      | none => none
      | some (e, rest') => entriesTail? item fuel (e :: acc) rest'
    | _ => none

/-- The entries of an object after its opening brace, in the order they are written. -/
def entries? (item : List Char → Option (Json × List Char)) (cs : List Char) :
    Option (List (String × Json) × List Char) :=
  match skipBlanks cs with
  | '}' :: rest => some ([], rest)
  | rest =>
    match entry? item rest with
    | none => none
    | some (e, rest') => entriesTail? item (rest'.length + 1) [e] rest'

/-- A value at the start of a text, whose arrays and objects nest at most `depth` deep, and the
characters left. -/
def value? : Nat → List Char → Option (Json × List Char)
  | depth, cs =>
    match skipBlanks cs with
    | 'n' :: 'u' :: 'l' :: 'l' :: rest => some (.null, rest)
    | 't' :: 'r' :: 'u' :: 'e' :: rest => some (.bool true, rest)
    | 'f' :: 'a' :: 'l' :: 's' :: 'e' :: rest => some (.bool false, rest)
    | '"' :: rest => (stringBody? [] rest).map fun (s, r) => (.string s, r)
    | '[' :: rest =>
      match depth with
      | 0 => none
      | d + 1 => (items? (value? d) rest).map fun (js, r) => (.array js, r)
    | '{' :: rest =>
      match depth with
      | 0 => none
      | d + 1 => (entries? (value? d) rest).map fun (es, r) => (.ofEntries es, r)
    | rest => number? rest

/-- The greatest depth of arrays and objects. -/
def depthLimit : Nat := 127

/-- The value that a text denotes. -/
def parse? (text : String) : Option Json :=
  match value? depthLimit text.toList with
  | some (j, rest) => if (skipBlanks rest).isEmpty then some j else none
  | none => none

end TenantReports.Json
