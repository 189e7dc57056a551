import TenantReports.Json.Parser

/-!
# Passing over JSON values

A value that nobody looks at is passed over without being read: it may nest to any depth, its
numbers may be of any size and its escapes may denote single surrogates.

## Main definitions

* `Json.skipValue?`: the characters after a value
-/

namespace TenantReports.Json

/-- The characters after a string, given those after its opening quote. -/
def skipString? : List Char → Option (List Char)
  | [] => none
  | '"' :: cs => some cs
  | '\\' :: 'u' :: a :: b :: c :: d :: cs => if (hex4? a b c d).isSome then skipString? cs else none
  | '\\' :: e :: cs => if (simpleEscape? e).isSome then skipString? cs else none
  | c :: cs => if c = '\\' ∨ c.toNat < 32 then none else skipString? cs

/-- The characters after at least one digit. -/
def skipDigits? (cs : List Char) : Option (List Char) :=
  if (cs.takeWhile Char.isDigit).isEmpty then none else some (cs.dropWhile Char.isDigit)

/-- The characters after a number without a sign. -/
def skipNumber? (cs : List Char) : Option (List Char) := do
  let r ← skipDigits? cs
  if cs.head? = some '0' ∧ r.length + 1 ≠ cs.length then none
  let r ← match r with
    | '.' :: r => skipDigits? r
    | r => some r
  match r with
  | 'e' :: r => skipExponent? r
  | 'E' :: r => skipExponent? r
  | r => some r
where
  skipExponent? : List Char → Option (List Char)
    | '+' :: r => skipDigits? r
    | '-' :: r => skipDigits? r
    | r => skipDigits? r

/-- The characters after the key of an entry and its colon. -/
def skipKey? (cs : List Char) : Option (List Char) :=
  match skipBlanks cs with
  | '"' :: r =>
    match (skipString? r).map skipBlanks with
    | some (':' :: r) => some r
    | _ => none
  | _ => none

/-- What is expected next: a value, or what follows one. -/
inductive Expect where
  | value
  | follow

/-- The characters after a value, given the closing brackets that are due, innermost first. -/
def skipOpen? : Nat → Expect → List Char → List Char → Option (List Char)
  | 0, _, _, _ => none
  | _ + 1, .follow, [], cs => some cs
  | fuel + 1, .follow, close :: due, cs =>
    match skipBlanks cs with
    | c :: r =>
      if c = close then skipOpen? fuel .follow due r
      else if c = ',' then
        if close = '}' then (skipKey? r).bind (skipOpen? fuel .value (close :: due))
        else skipOpen? fuel .value (close :: due) r
      else none
    | [] => none
  | fuel + 1, .value, due, cs =>
    match skipBlanks cs with
    | 'n' :: 'u' :: 'l' :: 'l' :: r => skipOpen? fuel .follow due r
    | 't' :: 'r' :: 'u' :: 'e' :: r => skipOpen? fuel .follow due r
    | 'f' :: 'a' :: 'l' :: 's' :: 'e' :: r => skipOpen? fuel .follow due r
    | '"' :: r => (skipString? r).bind (skipOpen? fuel .follow due)
    | '[' :: r =>
      match skipBlanks r with
      | ']' :: r => skipOpen? fuel .follow due r
      | r => skipOpen? fuel .value (']' :: due) r
    | '{' :: r =>
      match skipBlanks r with
      | '}' :: r => skipOpen? fuel .follow due r
      | r => (skipKey? r).bind (skipOpen? fuel .value ('}' :: due))
    | '-' :: r => (skipNumber? r).bind (skipOpen? fuel .follow due)
    | r => (skipNumber? r).bind (skipOpen? fuel .follow due)

/-- The characters after a value. -/
def skipValue? (cs : List Char) : Option (List Char) := skipOpen? (2 * cs.length + 1) .value [] cs

end TenantReports.Json
