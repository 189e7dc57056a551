import TenantReports.Binary64.Basic

/-!
# JSON values

Numbers keep the difference between integers and doubles. The entries of an object have no order
of their own: they are kept in ascending order of their keys, each key once.

## Main definitions

* `Json`: the values
* `Json.insert`: an entry put into an ordered list of entries
* `Json.ofEntries`: the object with these entries, of which later ones win
* `Json.get?`, `Json.asString?`, …: what a value holds
-/

namespace TenantReports

/-- A JSON value. -/
inductive Json where
  | null
  | bool (b : Bool)
  | int (n : Int)
  | double (x : Binary64)
  | string (s : String)
  | array (items : List Json)
  | object (entries : List (String × Json))
deriving Inhabited

/-- An ordered list of entries with one entry more, which replaces one of the same key. -/
def insertKey {α : Type} (key : String) (value : α) : List (String × α) → List (String × α)
  | [] => [(key, value)]
  | (k, v) :: rest =>
    if key < k then (key, value) :: (k, v) :: rest
    else if key = k then (key, value) :: rest
    else (k, v) :: insertKey key value rest

/-- Entries in ascending order of their keys. Of two with one key the later is kept. -/
def orderKeys {α : Type} (entries : List (String × α)) : List (String × α) :=
  entries.foldl (fun acc e => insertKey e.1 e.2 acc) []

namespace Json

/-- The object with these entries; of two with one key the later is kept. -/
def ofEntries (entries : List (String × Json)) : Json := .object (orderKeys entries)

/-- The array of these texts. -/
def ofStrings (texts : List String) : Json := .array (texts.map .string)

/-- A text, or `null`. -/
def ofString? : Option String → Json
  | none => .null
  | some s => .string s

/-- An integer, or `null`. -/
def ofInt? : Option Int → Json
  | none => .null
  | some n => .int n

/-- The value of a key of an object. -/
def get? : Json → String → Option Json
  | .object entries, key => entries.lookup key
  | _, _ => none

/-- The value of a key of an object, `null` if there is none. -/
def get (j : Json) (key : String) : Json := (j.get? key).getD .null

/-- The value is `null`. -/
def isNull : Json → Bool
  | .null => true
  | _ => false

/-- The text that a value is. -/
def asString? : Json → Option String
  | .string s => some s
  | _ => none

/-- The integer that a value is. -/
def asInt? : Json → Option Int
  | .int n => some n
  | _ => none

/-- The truth value that a value is. -/
def asBool? : Json → Option Bool
  | .bool b => some b
  | _ => none

/-- The items of an array. -/
def asArray? : Json → Option (List Json)
  | .array items => some items
  | _ => none

/-- The entries of an object. -/
def asObject? : Json → Option (List (String × Json))
  | .object entries => some entries
  | _ => none

/-- Not an array and not an object. -/
def isScalar : Json → Bool
  | .array _ => false
  | .object _ => false
  | _ => true

end Json

end TenantReports
