import TenantReports.Compile.Filters
import TenantReports.Proofs.Sql.Patterns

/-!
# Searching for a text

A text that is searched for is taken literally. Its characters are escaped where they mean something
in a pattern, and nothing else is, so every escape stands before a character that it may. Lowering
the letters leaves escapes and wildcards alone, and so may be done before or after escaping.

## Main definitions

* `IsSpecial`: the characters that mean something in a pattern

## Main results

* `wildcards?_containsPattern`: the parts of the pattern
* `lowerAscii_containsPattern`: lowering commutes with escaping
* `FilterSlot.exists_predicate_contains`: the condition is true of the texts that contain the one
  searched for, both with lowered letters
-/

namespace TenantReports

open Sql (Env Expr Interpretation matches_contains wildcards? wildcards?_escaped
  wildcards?_literal wildcards?_percent)
open Sql.Interpretation (characters characters_readsTexts textCell)

/-! ## Patterns -/

/-- The characters that mean something in a pattern. -/
def IsSpecial (c : Char) : Prop := c = '%' ∨ c = '_' ∨ c = likeEscape

/-- Lowering a character makes none that is not a letter. -/
theorem toLower_eq_iff {c d : Char} (h : d.isAlpha = false) : c.toLower = d ↔ c = d := by
  unfold Char.toLower
  split
  next hupper =>
    -- a letter before and after, so `d` is neither
    have hletter : d.isAlpha = (decide ('A'.val ≤ d.val ∧ d.val ≤ 'Z'.val) ||
        (decide ('a'.val ≤ d.val) && decide (d.val ≤ 'z'.val))) := rfl
    rw [ge_iff_le, UInt32.le_iff_toNat_le, UInt32.le_iff_toNat_le] at hupper
    rw [hletter] at h
    refine iff_of_false ?_ ?_ <;>
    · rintro rfl
      simp [UInt32.le_iff_toNat_le] at h hupper
      omega
  · rfl

/-- No letter means something in a pattern, so lowering a character changes nothing of that. -/
theorem isSpecial_toLower {c : Char} : IsSpecial c.toLower ↔ IsSpecial c := by
  have hpercent : '%'.isAlpha = false := by decide
  have hunderscore : '_'.isAlpha = false := by decide
  have hescape : likeEscape.isAlpha = false := by decide
  rw [IsSpecial, toLower_eq_iff hpercent, toLower_eq_iff hunderscore, toLower_eq_iff hescape,
    IsSpecial]

theorem escapeLike_cons (c : Char) (cs : List Char) : escapeLike (c :: cs)
    = (if c = '%' ∨ c = '_' ∨ c = likeEscape then [likeEscape, c] else [c]) ++ escapeLike cs := by
  rw [escapeLike, List.flatMap_cons, ← escapeLike]

/-- An escaped text is a pattern of its own characters, whatever comes after it. -/
theorem wildcards?_escapeLike (needle rest : List Char) :
    wildcards? likeEscape (escapeLike needle ++ rest)
      = (wildcards? likeEscape rest).map (needle.map .char ++ ·) := by
  induction needle with
  | nil =>
    rw [escapeLike, List.flatMap_nil, List.nil_append]
    exact Option.map_id'.symm
  | cons c needle ih =>
    rw [escapeLike_cons]
    by_cases hspecial : c = '%' ∨ c = '_' ∨ c = likeEscape
    -- a special character stands after an escape
    · rw [if_pos hspecial, List.cons_append, List.cons_append, List.cons_append,
        List.cons_append, List.nil_append,
        wildcards?_escaped _ hspecial, ih, Option.map_map]
      rfl
    -- any other one for itself
    · rw [if_neg hspecial, List.cons_append, List.cons_append, List.nil_append,
        wildcards?_literal _ hspecial, ih, Option.map_map]
      rfl

/-- **The pattern is well formed**: any text, the characters of the needle, any text. -/
theorem wildcards?_containsPattern (needle : String) :
    wildcards? likeEscape (containsPattern needle).toList
      = some (.any :: (needle.toList.map .char ++ [.any])) := by
  have hescape : '%' ≠ likeEscape := by decide
  have hlast : wildcards? likeEscape ['%'] = some [.any] := rfl
  rw [containsPattern, String.toList_ofList, List.cons_append, wildcards?_percent _ hescape,
    wildcards?_escapeLike, hlast]
  rfl

/-- Lowering the letters of a text does not touch what is escaped of it. -/
theorem escapeLike_map_toLower (cs : List Char) :
    (escapeLike cs).map Char.toLower = escapeLike (cs.map Char.toLower) := by
  induction cs with
  | nil => rfl
  | cons c cs ih =>
    have hspecial := isSpecial_toLower (c := c)
    unfold IsSpecial at hspecial
    rw [escapeLike_cons, List.map_append, ih, List.map_cons, escapeLike_cons]
    by_cases h : c = '%' ∨ c = '_' ∨ c = likeEscape
    · rw [if_pos h, if_pos (hspecial.mpr h)]
      rfl
    · rw [if_neg h, if_neg (mt hspecial.mp h)]
      rfl

theorem lowerAscii_containsPattern (needle : String) :
    lowerAscii (containsPattern needle) = containsPattern (lowerAscii needle) := by
  simp only [lowerAscii, containsPattern, String.toList_ofList, List.map_append, List.map_cons,
    List.map_nil, escapeLike_map_toLower]
  rfl

/-! ## Conditions -/

section Condition

variable {I : Interpretation} (hI : I.ReadsTexts) {env : Env}

include hI

/-- The lowered letters of a text. -/
theorem eval_lower {e : Expr} {s : String} (h : e.eval I env = textCell s) :
    (Expr.call "LOWER" [e]).eval I env = textCell (lowerAscii s) := by
  have hfunction : Sql.isAggregate "LOWER" = false := by decide
  rw [Expr.eval, hfunction, if_neg Bool.false_ne_true, Expr.evalList, Expr.evalList, h, hI.lower]

end Condition

/-- **A text filter is true of what contains the text searched for.** For every text with more than
blanks there is a condition. Its pattern is well formed, with no escape at its end and none before a
character that needs none, and so it is with lowered letters. Where the column holds a text, the
condition is true exactly if the needle with lowered letters occurs in that text with lowered
letters. -/
theorem FilterSlot.exists_predicate_contains {I : Interpretation} (hI : I.ReadsTexts)
    {slot : FilterSlot} (hkind : slot.kind = .text) (type : FieldType) (column : Expr)
    {needle : String} (hneedle : Text.isBlankText needle = false) :
    ∃ pattern : String,
      slot.predicate? type column (.string needle) = some (.like (.call "LOWER" [column])
        (.call "LOWER" [.param (.string pattern)]) likeEscape) ∧
      wildcards? likeEscape pattern.toList
        = some (.any :: (needle.toList.map .char ++ [.any])) ∧
      wildcards? likeEscape (lowerAscii pattern).toList
        = some (.any :: ((lowerAscii needle).toList.map .char ++ [.any])) ∧
      ∀ (env : Env) (s : String), column.eval I env = textCell s →
        (((Expr.like (.call "LOWER" [column]) (.call "LOWER" [.param (.string pattern)])
            likeEscape).holds I env = true ↔
          (lowerAscii needle).toList <:+: (lowerAscii s).toList)) := by
  have hlowered : wildcards? likeEscape (lowerAscii (containsPattern needle)).toList
      = some (.any :: ((lowerAscii needle).toList.map .char ++ [.any])) := by
    rw [lowerAscii_containsPattern, wildcards?_containsPattern]
  refine ⟨containsPattern needle, ?_, wildcards?_containsPattern needle, hlowered, ?_⟩
  · rw [predicate?, hneedle, if_neg Bool.false_ne_true, valuePredicate?, hkind]
    rfl
  · intro env s hs
    have hpattern : (Expr.param (.string (containsPattern needle))).eval I env
        = textCell (containsPattern needle) := rfl
    rw [Expr.holds, Expr.eval, eval_lower hI hs, eval_lower hI hpattern,
      if_neg (by simp [textCell, StoredCell.ofLiteral]), Interpretation.truth_cell, beq_iff_eq,
      Option.some.injEq, hI.isLike _ _ _ _ hlowered, matches_contains]

/-- The slot of a note. -/
def noteSlot : FilterSlot := ⟨⟨"orders", "note"⟩, "Note", .text, false, []⟩

/-- A row with a note. -/
def noteEnv (note : String) : Env := { row := [("orders", [("note", textCell note)])] }

/-- A needle with every character that means something, found in one note and not in another. -/
theorem exists_predicate_contains_note :
    noteSlot.kind = .text ∧ Text.isBlankText "50%_\\Off" = false ∧
    ∃ e : Expr,
      noteSlot.predicate? .text (sourceColumn "orders" "note") (.string "50%_\\Off") = some e ∧
      e.holds characters (noteEnv "now 50%_\\OFF!") = true ∧
      e.holds characters (noteEnv "now 50 xx off!") = false := by
  have hkind : noteSlot.kind = .text := rfl
  have hneedle : Text.isBlankText "50%_\\Off" = false := by decide
  obtain ⟨pattern, hpredicate, -, -, hholds⟩ :=
    FilterSlot.exists_predicate_contains characters_readsTexts hkind .text
      (sourceColumn "orders" "note") hneedle
  refine ⟨hkind, hneedle, _, hpredicate, (hholds _ _ rfl).mpr (by decide), ?_⟩
  rw [← Bool.not_eq_true, hholds _ _ rfl]
  decide

end TenantReports
