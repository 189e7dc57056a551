import TenantReports.Toml.Scalar
import TenantReports.Toml.Table

/-!
# TOML documents

A document is a sequence of lines: headers, keys with their values, comments. It is read into a
JSON object.

## Main definitions

* `Toml.key?`: a key, perhaps dotted
* `Toml.value?`: a scalar, an array or an inline table
* `Toml.parse?`: the object that a document denotes
-/

namespace TenantReports.Toml

/-- Bare keys have ASCII letters, digits, underscores and hyphens. -/
def isBareKeyPart (c : Char) : Bool := c.isAlphanum || c == '_' || c == '-'

/-- One part of a key. -/
def keyPart? (cs : List Char) : Option (String × List Char) :=
  match lineString? cs with
  | some r => some r
  | none =>
    let bare := cs.takeWhile isBareKeyPart
    if bare.isEmpty then none else some (String.ofList bare, cs.dropWhile isBareKeyPart)

/-- The greatest number of parts of a key. -/
def maxKeyParts : Nat := 80

/-- The parts of a key, at most `fuel` of them, with dots between them and blanks around the
dots. -/
def keyParts? : Nat → List Char → Option (List String × List Char)
  | 0, _ => none
  | fuel + 1, cs => do
    let (part, r) ← keyPart? (skipBlanks cs)
    match skipBlanks r with
    | '.' :: r =>
      let (parts, r) ← keyParts? fuel r
      return (part :: parts, r)
    | r => return ([part], r)

/-- A key, perhaps dotted, and the characters left after it and its blanks. -/
def key? (cs : List Char) : Option (List String × List Char) := keyParts? maxKeyParts cs

/-- The rest of a line that holds nothing more: blanks, perhaps a comment, and a line break or
the end. -/
def lineEnd? (cs : List Char) : Option (List Char) :=
  let r := match skipBlanks cs with
    | '#' :: r => r.dropWhile isInline
    | r => r
  if r.isEmpty then some [] else newline? r

/-- Blanks, line breaks and comments left out, at most `fuel` of them. -/
def skipSpace? : Nat → List Char → Option (List Char)
  | 0, cs => some cs
  | fuel + 1, cs =>
    match skipBlanks cs with
    | '#' :: r =>
      match r.dropWhile isInline with
      | [] => some []
      | r => (newline? r).bind (skipSpace? fuel)
    | r =>
      match newline? r with
      | some r => skipSpace? fuel r
      | none => some r

/-- The items of an array after its opening bracket, or after a comma. -/
def arrayItems? (value : List Char → Option (Json × List Char)) :
    Nat → List Json → List Char → Option (List Json × List Char)
  | 0, _, _ => none
  | fuel + 1, acc, cs => do
    match ← skipSpace? cs.length cs with
    | ']' :: r => return (acc.reverse, r)
    | r =>
      let (j, r) ← value r
      match ← skipSpace? r.length r with
      | ']' :: r => return ((j :: acc).reverse, r)
      | ',' :: r => arrayItems? value fuel (j :: acc) r
      | _ => none

/-- The entries of an inline table after its opening brace, or after a comma. Line breaks and
comments may stand wherever blanks may, but not within a key. -/
def inlineEntries? (value : List Char → Option (Json × List Char)) :
    Nat → Entries → List Char → Option (Entries × List Char)
  | 0, _, _ => none
  | fuel + 1, acc, cs => do
    match ← skipSpace? cs.length cs with
    | '}' :: r => return (acc, r)
    | r =>
      let (path, r) ← key? r
      let '=' :: r ← skipSpace? r.length r | none
      let (j, r) ← value (← skipSpace? r.length r)
      let acc ← setKey? path (.value j) acc
      match ← skipSpace? r.length r with
      | '}' :: r => return (acc, r)
      | ',' :: r => inlineEntries? value fuel acc r
      | _ => none

/-- A value at the start of a text, whose arrays and inline tables nest at most `depth` deep. -/
def value? : Nat → List Char → Option (Json × List Char)
  | depth, '[' :: r =>
    match depth with
    | 0 => none
    | d + 1 => (arrayItems? (value? d) (r.length + 1) [] r).map fun (js, r) => (.array js, r)
  | depth, '{' :: r =>
    match depth with
    | 0 => none
    | d + 1 => (inlineEntries? (value? d) (r.length + 1) [] r).map fun (es, r) =>
        ((Node.table .header es).toJson, r)
  | _, cs => scalar? cs

/-- The greatest depth of arrays and inline tables. -/
def depthLimit : Nat := 80

/-- A document read so far: its tables, and the path of the table that keys go to. -/
structure Reading where
  root : Entries
  current : List String

/-- One line that is not blank, and the characters left. -/
def line? (s : Reading) (cs : List Char) : Option (Reading × List Char) :=
  match cs with
  | '[' :: '[' :: r => do
    let (path, r) ← key? r
    let ']' :: ']' :: r := r | none
    let root ← openElement? path s.root
    return (⟨root, path⟩, ← lineEnd? r)
  | '[' :: r => do
    let (path, r) ← key? r
    let ']' :: r := r | none
    let root ← openTable? path s.root
    return (⟨root, path⟩, ← lineEnd? r)
  | cs => do
    let (path, r) ← key? cs
    let '=' :: r := r | none
    let (j, r) ← value? depthLimit (skipBlanks r)
    let root ← within? (setKey? path (.value j)) s.current s.root
    return (⟨root, s.current⟩, ← lineEnd? r)

/-- The lines of a document, at most `fuel` of them. -/
def lines? : Nat → Reading → List Char → Option Reading
  | 0, _, _ => none
  | fuel + 1, s, cs => do
    match ← skipSpace? cs.length cs with
    | [] => return s
    | r =>
      let (s, r) ← line? s r
      lines? fuel s r

/-- A byte order mark at the start is no part of a document. -/
def dropMark : List Char → List Char
  | '\uFEFF' :: cs => cs
  | cs => cs

/-- The object that a document denotes. -/
def parse? (text : String) : Option Json :=
  let cs := dropMark text.toList
  (lines? (cs.length + 1) ⟨[], []⟩ cs).map fun s => (Node.table .header s.root).toJson

end TenantReports.Toml
