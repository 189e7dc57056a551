/-!
# Plain identifiers

A plain identifier is a letter or underscore followed by letters, digits and underscores, all
ASCII. Such a name means the same in every SQL dialect.

## Main definitions

* `isIdentifier s`: the text is a plain identifier
-/

namespace TenantReports

/-- A character that may begin a plain identifier. -/
def isIdentifierStart (c : Char) : Bool := c.isAlpha || c == '_'

/-- A character that may follow in a plain identifier. -/
def isIdentifierPart (c : Char) : Bool := c.isAlphanum || c == '_'

/-- A plain identifier, as characters. -/
def isIdentifierChars : List Char → Bool
  | [] => false
  | c :: cs => isIdentifierStart c && cs.all isIdentifierPart

/-- The text is a plain identifier. -/
def isIdentifier (s : String) : Bool := isIdentifierChars s.toList

end TenantReports
