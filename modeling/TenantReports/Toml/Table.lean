import TenantReports.Json.Value

/-!
# TOML tables under construction

A table is opened by a header, or comes about on the way to one, or from a dotted key. Each table
is opened at most once and each key is set at most once; which tables may still be extended
depends on how they came about.

## Main definitions

* `Toml.Node`: a value, a table or an array of tables
* `Toml.openTable?`, `Toml.openElement?`: the two kinds of header
* `Toml.setKey?`: a key, perhaps dotted, set in a table
* `Toml.Node.toJson`: the finished value
-/

namespace TenantReports.Toml

/-- How a table came about: on the way to a header, by its own header, or from a dotted key. -/
inductive Origin where
  | implicit
  | header
  | dotted
deriving DecidableEq, Repr

/-- A finished value, an open table, or an array of tables whose newest element is open and comes
first. -/
inductive Node where
  | value (j : Json)
  | table (origin : Origin) (entries : List (String × Node))
  | tables (elements : List (List (String × Node)))

/-- The keys of a table and what they stand for, in the order they were set. -/
abbrev Entries := List (String × Node)

namespace Node

mutual

/-- The finished value. -/
def toJson : Node → Json
  | .value j => j
  | .table _ entries => .ofEntries (entriesToJson entries)
  | .tables elements => .array (elementsToJson elements).reverse

/-- The finished entries. -/
def entriesToJson : List (String × Node) → List (String × Json)
  | [] => []
  | (k, n) :: rest => (k, toJson n) :: entriesToJson rest

/-- The finished elements, newest first. -/
def elementsToJson : List (List (String × Node)) → List Json
  | [] => []
  | e :: es => .ofEntries (entriesToJson e) :: elementsToJson es

end

end Node

/-- The entries with one key set anew, at its place or at the end. -/
def put (key : String) (node : Node) : Entries → Entries
  | [] => [(key, node)]
  | (k, n) :: rest => if k = key then (key, node) :: rest else (k, n) :: put key node rest

/-- A change at the end of a path of keys, which makes the tables that are missing on the way.
Dotted keys do not enter tables that have a header. `change` is told whether the table it changes
came from a dotted key. -/
def descend (dotted : Bool) (change : Bool → Entries → Option Entries) :
    List String → Bool → Entries → Option Entries
  | [], own, entries => change own entries
  | k :: ks, _, entries =>
    match entries.lookup k with
    | none =>
      let origin : Origin := if dotted then .dotted else .implicit
      (descend dotted change ks dotted []).map fun es => put k (.table origin es) entries
    | some (.table origin es) =>
      if dotted ∧ origin = .header then none
      else (descend dotted change ks (origin = .dotted) es).map fun es =>
        put k (.table origin es) entries
    | some (.tables (e :: older)) =>
      (descend dotted change ks false e).map fun e => put k (.tables (e :: older)) entries
    | some _ => none

/-- The path of a key less its last part, and that part. -/
def splitLast : List String → Option (List String × String)
  | [] => none
  | [k] => some ([], k)
  | k :: ks => (splitLast ks).map fun (path, last) => (k :: path, last)

/-- The table of a header, opened: it is new, or came about on the way to another header. -/
def openTable? (path : List String) (root : Entries) : Option Entries := do
  let (parents, key) ← splitLast path
  descend false (fun _ entries => match entries.lookup key with
    | none => some (put key (.table .header []) entries)
    | some (.table .implicit es) => some (put key (.table .header es) entries)
    | some _ => none) parents false root

/-- A new element of the array of tables of a header. -/
def openElement? (path : List String) (root : Entries) : Option Entries := do
  let (parents, key) ← splitLast path
  descend false (fun _ entries => match entries.lookup key with
    | none => some (put key (.tables [[]]) entries)
    | some (.tables es) => some (put key (.tables ([] :: es)) entries)
    | some _ => none) parents false root

/-- A key, perhaps dotted, set in a table. It must be new, and the table of a dotted key must
have come from dotted keys. -/
def setKey? (path : List String) (node : Node) (entries : Entries) : Option Entries := do
  let (parents, key) ← splitLast path
  descend true (fun own entries =>
    if own = parents.isEmpty then none
    else match entries.lookup key with
      | none => some (put key node entries)
      | some _ => none) parents false entries

/-- A change to the table at a path that exists. -/
def within? (change : Entries → Option Entries) : List String → Entries → Option Entries
  | [], entries => change entries
  | k :: ks, entries =>
    match entries.lookup k with
    | some (.table origin es) =>
      (within? change ks es).map fun es => put k (.table origin es) entries
    | some (.tables (e :: older)) =>
      (within? change ks e).map fun e => put k (.tables (e :: older)) entries
    | _ => none

end TenantReports.Toml
