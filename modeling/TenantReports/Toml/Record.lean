import TenantReports.Json.Record
import TenantReports.Named

/-!
# Records in TOML

A record is a table with its fields as keys, or an array with its fields in order. What an array
holds beyond the fields is not looked at. Other keys are ignored unless the record is closed, but
no number in them may be out of range.

## Main definitions

* `Toml.isReadable`: no number in a value is out of range
* `Toml.asRecord?`, `Toml.asClosedRecord?`: the record that a value is
* `Toml.named?`: the value of a closed vocabulary
-/

namespace TenantReports.Toml

mutual

/-- No number in a value is out of range. -/
def isReadable : Json → Bool
  | .null => false
  | .array items => areReadable items
  | .object entries => entriesReadable entries
  | _ => true

/-- No number in one of these values is out of range. -/
def areReadable : List Json → Bool
  | [] => true
  | j :: js => isReadable j && areReadable js

/-- No number under one of these keys is out of range. -/
def entriesReadable : List (String × Json) → Bool
  | [] => true
  | (_, j) :: rest => isReadable j && entriesReadable rest

end

/-- A value without the items of an array beyond the first `n`. -/
def firstItems (n : Nat) : Json → Json
  | .array items => .array (items.take n)
  | j => j

/-- A value as a record with these fields. -/
def asRecord? (fields : List String) (j : Json) : Option Record := do
  let r ← (firstItems fields.length j).asRecord? fields
  let unknown := r.values.filter fun e => !fields.contains e.1
  if entriesReadable unknown then some r else none

/-- A value as a record that has these fields and no other keys. -/
def asClosedRecord? (fields : List String) (j : Json) : Option Record := do
  let r ← (firstItems fields.length j).asRecord? fields
  if r.values.all fun e => fields.contains e.1 then some r else none

/-- The value of a closed vocabulary: its name, or a table with the name as only key and an empty
table or an empty array there. -/
def named? {α : Type} [Named α] : Json → Option α
  | .string s => Named.ofName? s
  | .object [(s, .object [])] => Named.ofName? s
  | .object [(s, .array [])] => Named.ofName? s
  | _ => none

end TenantReports.Toml
