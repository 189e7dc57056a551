/-!
# Blanks

The Unicode property `White_Space`: what is trimmed from the ends of a text and what separates
words.

## Main definitions

* `isBlank c`: the class
* `trim s`: a text without the blanks at its two ends
* `words s`: the maximal runs of other characters
-/

namespace TenantReports.Text

/-- White space: tab to carriage return, space, next line, and the space separators and line
breaks outside ASCII. -/
def isBlank (c : Char) : Bool :=
  let n := c.toNat
  (9 ≤ n && n ≤ 13) || n == 0x20 || n == 0x85 || n == 0xA0 || n == 0x1680
    || (0x2000 ≤ n && n ≤ 0x200A) || n == 0x2028 || n == 0x2029 || n == 0x202F || n == 0x205F
    || n == 0x3000

/-- A list of characters without the blanks it begins with. -/
def dropBlanks (cs : List Char) : List Char := cs.dropWhile isBlank

/-- A list of characters without the blanks at its two ends. -/
def trimChars (cs : List Char) : List Char := (dropBlanks (dropBlanks cs).reverse).reverse

/-- A text without the blanks at its two ends. -/
def trim (s : String) : String := String.ofList (trimChars s.toList)

/-- Only blanks, or nothing. -/
def isBlankText (s : String) : Bool := s.toList.all isBlank

/-- The words of a text: its maximal runs of characters other than blanks. -/
def wordsOf : List Char → List (List Char)
  | [] => []
  | c :: cs =>
    if isBlank c then wordsOf cs
    else match cs, wordsOf cs with
      | d :: _, w :: ws => if isBlank d then [c] :: w :: ws else (c :: w) :: ws
      | _, ws => [c] :: ws

/-- The number of words of a text. -/
def wordCount (s : String) : Nat := (wordsOf s.toList).length

theorem isBlank_of_isWhitespace (c : Char) (h : c.isWhitespace = true) : isBlank c = true := by
  simp only [Char.isWhitespace, Bool.or_eq_true, decide_eq_true_eq] at h
  rcases h with ((rfl | rfl) | rfl) | rfl <;> decide

end TenantReports.Text
