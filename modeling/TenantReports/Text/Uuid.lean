import TenantReports.Json.Parser

/-!
# Universally unique identifiers

An identifier is thirty-two hexadecimal digits. Its canonical form is in lower case, with hyphens
after 8, 12, 16 and 20 digits.

## Main definitions

* `uuid?`: the canonical form of an identifier that is written plainly, or with hyphens and perhaps
  in braces or as a URN
-/

namespace TenantReports.Text

/-- The lengths of the parts between hyphens. -/
def uuidParts : List Nat := [8, 4, 4, 4, 12]

/-- Characters cut into parts of given lengths. -/
def cutInto : List Nat → List Char → List (List Char)
  | [], _ => []
  | n :: ns, cs => cs.take n :: cutInto ns (cs.drop n)

/-- A text without what it begins and ends with. -/
def between? (left right : List Char) (cs : List Char) : Option (List Char) :=
  if left.isPrefixOf cs && right.isSuffixOf (cs.drop left.length) then
    some ((cs.drop left.length).take (cs.length - left.length - right.length))
  else none

/-- The digits of an identifier with hyphens. -/
def hyphenated? (cs : List Char) : Option (List Char) :=
  let digits := cs.filter (· != '-')
  if "-".toList.intercalate (cutInto uuidParts digits) = cs then some digits else none

/-- What follows the namespace of a URN, which is written in any case. -/
def afterUrn? (cs : List Char) : Option (List Char) :=
  let scheme := "urn:uuid:".toList
  if (cs.take scheme.length).map Char.toLower = scheme then some (cs.drop scheme.length) else none

/-- The digits of an identifier in any of its forms. -/
def uuidDigits? (cs : List Char) : Option (List Char) :=
  if cs.length = 32 then some cs
  else hyphenated? cs
    <|> (between? ['\x7b'] ['\x7d'] cs).bind hyphenated?
    <|> (afterUrn? cs).bind hyphenated?

/-- The canonical form of an identifier. -/
def uuid? (text : String) : Option String := do
  let digits ← uuidDigits? text.toList
  if digits.length = 32 ∧ digits.all fun c => (Json.hexValue? c).isSome then
    some (String.ofList ("-".toList.intercalate (cutInto uuidParts (digits.map Char.toLower))))
  else none

end TenantReports.Text
