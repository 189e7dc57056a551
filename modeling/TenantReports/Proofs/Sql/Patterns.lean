import Mathlib.Data.List.Infix
import TenantReports.Named
import TenantReports.Proofs.Sql.Evaluation

/-!
# Patterns of texts

The patterns of SQL as the standard has them. `%` stands for any text and `_` for any one
character; after the escape these two and the escape itself stand for themselves, and no other
character may follow it. A pattern that ends in an escape, or escapes anything else, is none.

## Main definitions

* `Wildcard`, `wildcards?`: the parts of a pattern
* `Matches`: a text matches the parts of a pattern
* `Interpretation.ReadsTexts`: a database that lowers ASCII letters and matches as the standard says
* `Interpretation.characters`: one that does

## Main results

* `matches_contains`: the pattern of the texts that contain a text
-/

namespace TenantReports.Sql

/-- A part of a pattern: any text, any one character, or a certain one. -/
inductive Wildcard where
  | any
  | one
  | char (c : Char)
deriving DecidableEq, Repr

/-- The parts of a pattern with an escape, if each escape stands before a character that it may. -/
def wildcards? (escape : Char) : List Char → Option (List Wildcard)
  | [] => some []
  | c :: cs =>
    if c = escape then
      match cs with
      | [] => none
      | d :: cs =>
        if d = '%' ∨ d = '_' ∨ d = escape then (wildcards? escape cs).map (.char d :: ·) else none
    else if c = '%' then (wildcards? escape cs).map (.any :: ·)
    else if c = '_' then (wildcards? escape cs).map (.one :: ·)
    else (wildcards? escape cs).map (.char c :: ·)

section Wildcards

variable {escape c : Char} (cs : List Char)

/-- A character after the escape stands for itself. -/
theorem wildcards?_escaped (h : c = '%' ∨ c = '_' ∨ c = escape) :
    wildcards? escape (escape :: c :: cs) = (wildcards? escape cs).map (.char c :: ·) := by
  rw [wildcards?, if_pos rfl]
  exact if_pos h

theorem wildcards?_percent (h : '%' ≠ escape) :
    wildcards? escape ('%' :: cs) = (wildcards? escape cs).map (.any :: ·) := by
  rw [wildcards?.eq_def]
  exact (if_neg h).trans (if_pos rfl)

/-- So does a character that means nothing else. -/
theorem wildcards?_literal (h : ¬ (c = '%' ∨ c = '_' ∨ c = escape)) :
    wildcards? escape (c :: cs) = (wildcards? escape cs).map (.char c :: ·) := by
  rw [not_or, not_or] at h
  rw [wildcards?.eq_def]
  exact (if_neg h.2.2).trans ((if_neg h.1).trans (if_neg h.2.1))

end Wildcards

/-- A text matches the parts of a pattern, from left to right. -/
inductive Matches : List Wildcard → List Char → Prop
  | nil : Matches [] []
  | any {ws : List Wildcard} {cs : List Char} (front : List Char) (h : Matches ws cs) :
    Matches (.any :: ws) (front ++ cs)
  | one {ws : List Wildcard} {cs : List Char} (c : Char) (h : Matches ws cs) :
    Matches (.one :: ws) (c :: cs)
  | char {ws : List Wildcard} {cs : List Char} (c : Char) (h : Matches ws cs) :
    Matches (.char c :: ws) (c :: cs)

theorem matches_nil {cs : List Char} : Matches [] cs ↔ cs = [] := by
  constructor
  · rintro ⟨⟩
    rfl
  · rintro rfl
    exact .nil

theorem matches_any {ws : List Wildcard} {cs : List Char} :
    Matches (.any :: ws) cs ↔ ∃ front rest, cs = front ++ rest ∧ Matches ws rest := by
  constructor
  · rintro (_ | ⟨front, h⟩)
    exact ⟨front, _, rfl, h⟩
  · rintro ⟨front, rest, rfl, h⟩
    exact .any front h

/-- Certain characters match themselves only. -/
theorem matches_chars {needle : List Char} {ws : List Wildcard} {cs : List Char} :
    Matches (needle.map .char ++ ws) cs ↔ ∃ rest, cs = needle ++ rest ∧ Matches ws rest := by
  induction needle generalizing cs with
  | nil => simp
  | cons c needle ih =>
    rw [List.map_cons, List.cons_append]
    constructor
    · rintro (_ | _ | _ | ⟨_, h⟩)
      obtain ⟨rest, rfl, hrest⟩ := ih.mp h
      exact ⟨rest, rfl, hrest⟩
    · rintro ⟨rest, rfl, hrest⟩
      exact .char c (ih.mpr ⟨rest, rfl, hrest⟩)

/-- **Any text, then a text, then any text**: what matches contains it. -/
theorem matches_contains {needle cs : List Char} :
    Matches (.any :: (needle.map .char ++ [.any])) cs ↔ needle <:+: cs := by
  simp only [matches_any, matches_chars, matches_nil]
  constructor
  · rintro ⟨front, _, rfl, _, rfl, back, _, rfl, rfl⟩
    exact ⟨front, back, by simp⟩
  · rintro ⟨front, back, rfl⟩
    exact ⟨front, needle ++ back, by simp, back, rfl, back, [], by simp, rfl⟩

/-! ## Databases that read texts -/

/-- `matchesParts` decides whether a text matches the parts of a pattern. -/
def matchesParts : List Wildcard → List Char → Bool
  | [], cs => cs.isEmpty
  | .any :: ws, cs => cs.tails.any (matchesParts ws)
  | .one :: _, [] => false
  | .one :: ws, _ :: cs => matchesParts ws cs
  | .char _ :: _, [] => false
  | .char c :: ws, d :: cs => c == d && matchesParts ws cs

theorem matchesParts_iff {ws : List Wildcard} {cs : List Char} :
    matchesParts ws cs = true ↔ Matches ws cs := by
  induction ws generalizing cs with
  | nil => rw [matchesParts, matches_nil, List.isEmpty_iff]
  | cons w ws ih =>
    cases w with
    | any =>
      simp only [matchesParts, List.any_eq_true, List.mem_tails, ih, matches_any]
      constructor
      · rintro ⟨rest, ⟨front, rfl⟩, h⟩
        exact ⟨front, rest, rfl, h⟩
      · rintro ⟨front, rest, rfl, h⟩
        exact ⟨rest, ⟨front, rfl⟩, h⟩
    | one =>
      rcases cs with _ | ⟨c, cs⟩
      · exact ⟨by rintro ⟨⟩, by rintro ⟨⟩⟩
      · rw [matchesParts, ih]
        exact ⟨.one c, by rintro ⟨⟩; assumption⟩
    | char c =>
      rcases cs with _ | ⟨d, cs⟩
      · exact ⟨by rintro ⟨⟩, by rintro ⟨⟩⟩
      · rw [matchesParts, Bool.and_eq_true, beq_iff_eq, ih]
        constructor
        · rintro ⟨rfl, h⟩
          exact .char c h
        · rintro (_ | _ | _ | ⟨_, h⟩)
          exact ⟨rfl, h⟩

namespace Interpretation

/-- The cell of a text. -/
def textCell (s : String) : StoredCell := .ofLiteral (.string s)

/-- A database whose `LOWER` lowers the ASCII letters of a text, and which matches texts with
patterns as the standard says, as far as they are patterns. -/
structure ReadsTexts (I : Interpretation) : Prop where
  lower : ∀ s : String, I.function "LOWER" [textCell s] = textCell (lowerAscii s)
  isLike : ∀ (s p : String) (escape : Char) (ws : List Wildcard),
    wildcards? escape p.toList = some ws →
      (I.isLike (textCell s) (textCell p) escape = true ↔ Matches ws s.toList)

/-- The text of a cell, if it is one. -/
def cellText? : StoredCell → Option String
  | .text bytes => String.fromUTF8? ⟨bytes.toArray⟩
  | _ => none

theorem cellText?_textCell (s : String) : cellText? (textCell s) = some s := by
  unfold cellText? textCell StoredCell.ofLiteral String.fromUTF8?
  exact dif_pos s.isValidUTF8

/-- The plain interpretation, with texts character by character. -/
def characters : Interpretation :=
  { plain with
    isLike := fun text pattern escape =>
      match cellText? text, (cellText? pattern).bind fun p => wildcards? escape p.toList with
      | some s, some ws => matchesParts ws s.toList
      | _, _ => false
    function := fun name args =>
      match args.head?.bind cellText? with
      | some s => if name = "LOWER" then textCell (lowerAscii s) else plain.function name args
      | none => plain.function name args }

theorem characters_readsTexts : characters.ReadsTexts where
  lower s := by
    unfold characters
    dsimp only
    rw [List.head?_cons, Option.bind_some, cellText?_textCell]
    rfl
  isLike s p escape ws h := by
    unfold characters
    dsimp only
    rw [cellText?_textCell, cellText?_textCell, Option.bind_some, h]
    exact matchesParts_iff

end Interpretation

end TenantReports.Sql
