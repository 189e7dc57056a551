import TenantReports.Report.Lifecycle
import TenantReports.Text.Alphanumeric
import TenantReports.Text.Lowercase
import TenantReports.Time.Rfc3339

/-!
# Names of exported files

A file is named after its report and the second at which it was made. The name of the report is
brought into a slug: words of letters and digits in lower case with underscores between them,
where a capital beside a lower-case letter begins a word too.

## Main definitions

* `slugChars`: the slug of a name
* `exportFilename`: the name of a file
-/

namespace TenantReports

open Text (isAlphanumeric isLowercase)

/-- A character without its trailing run of others than letters and digits. -/
def dropTail (cs : List Char) : List Char :=
  (cs.reverse.dropWhile fun c => !isAlphanumeric c).reverse

/-- The character at an index is a lower-case letter. -/
def isLowerAt (name : Array Char) (index : Nat) : Bool := (name[index]?.getD 'A') |> isLowercase

/-- A character that no lower-case ASCII letter begins a word where a lower-case letter stands
beside its place. The place is counted in bytes, that of the neighbours in characters. -/
def startsWord (name : Array Char) (place : Nat) (c : Char) : Bool :=
  c == c.toUpper && (isLowerAt name (place + 1) || isLowerAt name (place - 1))

/-- The slug of the characters from a place on. `atStart` tells that nothing of a word has been
written since the start or the last underscore. -/
def slugFrom (name : Array Char) : Nat → Bool → List Char → List Char
  | _, _, [] => []
  | place, atStart, c :: cs =>
    let next := place + c.utf8Size
    if !isAlphanumeric c then
      if atStart then slugFrom name next true cs else '_' :: slugFrom name next true cs
    else if !atStart && startsWord name place c then
      '_' :: c.toLower :: slugFrom name next false cs
    else c.toLower :: slugFrom name next false cs

/-- The slug of a name. -/
def slugChars (name : String) : List Char :=
  let cs := name.toList
  slugFrom cs.toArray 0 true (dropTail cs)

/-- The second of a file: eight digits, an underscore and six digits. -/
def stampChars (t : Time.Instant) : List Char :=
  let d := t.date
  Time.yearChars d.year ++ Time.padded 2 d.month ++ Time.padded 2 d.day ++ '_' ::
    (Time.clockChars t.clock).filter (· != ':')

/-- The name of a file: slug, second and extension. -/
def exportFilename (name : String) (format : ExportFormat) (t : Time.Instant) : String :=
  let slug := slugChars name
  let slug := if slug.isEmpty then "report".toList else slug
  String.ofList (slug ++ '_' :: stampChars t ++ '.' :: format.extension.toList)

end TenantReports
