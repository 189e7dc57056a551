import Mathlib.Data.Set.Function
import TenantReports.Cells.Format
import TenantReports.Proofs.Json.Doubles

/-!
# Amounts in groups of three digits

An amount is a plain decimal: a sign, digits, and perhaps a point and digits. Its commas cut the
whole part into groups of three digits, of which the first may have fewer. They take nothing from
the amount, so it is what is left when they are deleted, and no two amounts look alike.

The commas are put one digit after the other, each where a multiple of three digits follows. So a
digit either begins a group of its own, before groups of which the first has three digits, or it
comes before a first group of one or two.

## Main definitions

* `PlainDecimal`: a plain decimal by its parts
* `Grouped`: digits in groups of three

## Main results

* `exists_grouped`: digits with commas are groups of three
* `filter_groupDigits`: without their commas they are what they were
* `groupThousands_text`: a plain decimal in groups
* `exists_plainDecimal`: a finite number with fixed places is a plain decimal
* `exists_amountText`: so an amount that is shown is in groups
-/

namespace TenantReports

/-! ## Digits -/

/-- Digits in groups of three, of which the first may have fewer. -/
structure Grouped (ds first : List Char) (groups : List (List Char)) : Prop where
  digits : first ++ groups.flatten = ds
  first_pos : 1 ≤ first.length
  first_le : first.length ≤ 3
  threes : ∀ g ∈ groups, g.length = 3

namespace Grouped

variable {d : Char} {ds first : List Char} {groups : List (List Char)}

theorem length_eq (h : Grouped ds first groups) :
    ds.length = first.length + 3 * groups.length := by
  have hthrees : groups.flatten.length = groups.length * 3 := by
    rw [List.length_flatten, List.map_congr_left h.threes, List.map_const', List.sum_replicate_nat]
  rw [← h.digits, List.length_append, hthrees, Nat.mul_comm]

/-- A digit before whole groups is a group of its own. -/
theorem cons_group (h : Grouped ds first groups) (hlength : ds.length % 3 = 0) :
    Grouped (d :: ds) [d] (first :: groups) where
  digits := by rw [← h.digits]; rfl
  first_pos := Nat.le_refl 1
  first_le := by simp
  threes := by
    have hds := h.length_eq
    have hpos := h.first_pos
    have hle := h.first_le
    exact List.forall_mem_cons.mpr ⟨by omega, h.threes⟩

/-- Any other digit belongs to the first group. -/
theorem cons_digit (h : Grouped ds first groups) (hlength : ds.length % 3 ≠ 0) :
    Grouped (d :: ds) (d :: first) groups where
  digits := by rw [← h.digits]; rfl
  first_pos := Nat.succ_pos _
  first_le := by
    have hds := h.length_eq
    have hle := h.first_le
    rw [List.length_cons]
    omega
  threes := h.threes

end Grouped

theorem groupDigits_cons (d : Char) {ds : List Char} (hne : ds ≠ []) :
    groupDigits (d :: ds)
      = if ds.length % 3 = 0 then d :: ',' :: groupDigits ds else d :: groupDigits ds := by
  obtain ⟨d', ds, rfl⟩ := List.exists_cons_of_ne_nil hne
  rfl

/-- **Digits with commas are groups of three**, of which the first may have fewer. -/
theorem exists_grouped {ds : List Char} (hne : ds ≠ []) :
    ∃ first groups, Grouped ds first groups ∧
      groupDigits ds = [','].intercalate (first :: groups) := by
  induction ds with
  | nil => exact absurd rfl hne
  | cons d ds ih =>
    by_cases hds : ds = []
    · rw [hds]
      exact ⟨[d], [], ⟨rfl, Nat.le_refl 1, by simp, nofun⟩, rfl⟩
    -- whether a comma comes after the digit decides whether it is in the group that follows
    obtain ⟨first, groups, hgrouped, hcommas⟩ := ih hds
    rw [groupDigits_cons d hds, hcommas]
    by_cases hlength : ds.length % 3 = 0
    · refine ⟨[d], first :: groups, hgrouped.cons_group hlength, ?_⟩
      rw [if_pos hlength, List.intercalate_cons_cons]
      rfl
    · refine ⟨d :: first, groups, hgrouped.cons_digit hlength, ?_⟩
      rw [if_neg hlength]
      cases groups with
      | nil => simp only [List.intercalate_singleton]
      | cons g groups => simp only [List.intercalate_cons_cons, List.cons_append]

/-- Without its commas, what is written of digits are the digits. -/
theorem filter_groupDigits {ds : List Char} (hds : ',' ∉ ds) :
    (groupDigits ds).filter (· != ',') = ds := by
  induction ds with
  | nil => rfl
  | cons d ds ih =>
    rw [List.mem_cons, not_or] at hds
    have hd : d ≠ ',' := Ne.symm hds.1
    by_cases hempty : ds = []
    · simp [hempty, groupDigits, hd]
    rw [groupDigits_cons d hempty]
    split <;> simp [hd, ih hds.2]

/-! ## Plain decimals -/

/-- A plain decimal: a minus sign or none, digits, and perhaps a point and digits. -/
structure PlainDecimal where
  negative : Bool
  whole : List Char
  fraction : Option (List Char)
  whole_ne : whole ≠ []
  whole_digits : ∀ c ∈ whole, c.isDigit = true
  fraction_digits : ∀ ds ∈ fraction, ∀ c ∈ ds, c.isDigit = true

namespace PlainDecimal

/-- The sign of a plain decimal. -/
def signChars (d : PlainDecimal) : List Char := if d.negative then ['-'] else []

/-- The point of a plain decimal and the digits after it. -/
def fractionChars (d : PlainDecimal) : List Char :=
  match d.fraction with
  | some ds => '.' :: ds
  | none => []

/-- The text of a plain decimal. -/
def text (d : PlainDecimal) : List Char := d.signChars ++ d.whole ++ d.fractionChars

variable (d : PlainDecimal)

/-- A character that is no digit is not in the whole part. -/
theorem ne_of_mem_whole {c c' : Char} (hc' : c'.isDigit = false) (hc : c ∈ d.whole) : c ≠ c' := by
  rintro rfl
  rw [d.whole_digits c hc] at hc'
  cases hc'

/-- The whole part of a plain decimal ends at its point. -/
theorem cut_whole :
    (d.whole ++ d.fractionChars).takeWhile (· != '.') = d.whole ∧
      (d.whole ++ d.fractionChars).dropWhile (· != '.') = d.fractionChars := by
  refine Json.takeWhile_dropWhile_append (fun c hc => ?_) fun c hc => ?_
  · exact bne_iff_ne.mpr (d.ne_of_mem_whole (by decide) hc)
  · unfold fractionChars at hc
    split at hc <;> cases hc
    rfl

/-- The commas of a plain decimal are those of its whole part. -/
theorem groupThousands_eq :
    groupThousands d.text = d.signChars ++ groupDigits d.whole ++ d.fractionChars := by
  obtain ⟨htake, hdrop⟩ := d.cut_whole
  cases hsign : d.negative with
  | true => simp [text, signChars, hsign, groupThousands, htake, hdrop]
  | false =>
    -- the first character is a digit, and not taken for a sign
    obtain ⟨c, cs, hwhole⟩ := List.exists_cons_of_ne_nil d.whole_ne
    have hc : c ≠ '-' := d.ne_of_mem_whole (by decide) (hwhole ▸ List.mem_cons_self)
    have htext : d.text = d.whole ++ d.fractionChars := by simp [text, signChars, hsign]
    have hplain : groupThousands d.text = groupDigits (d.text.takeWhile (· != '.'))
        ++ d.text.dropWhile (· != '.') := by
      rw [htext, hwhole, List.cons_append, groupThousands, List.nil_append]
      rintro r ⟨⟩
      exact hc rfl
    rw [hplain, htext, htake, hdrop]
    simp [signChars, hsign]

/-- There are no commas in a plain decimal. -/
theorem comma_not_mem :
    ',' ∉ d.signChars ∧ ',' ∉ d.whole ∧ ',' ∉ d.fractionChars := by
  refine ⟨?_, fun hmem => d.ne_of_mem_whole (by decide) hmem rfl, ?_⟩
  · cases hsign : d.negative <;> simp [signChars, hsign]
  · cases hfraction : d.fraction with
    | none => simp [fractionChars, hfraction]
    | some ds =>
      rw [fractionChars, hfraction, List.mem_cons, not_or]
      refine ⟨by decide, fun hmem => ?_⟩
      have hdigit := d.fraction_digits ds hfraction ',' hmem
      exact absurd hdigit (by decide)

/-- Without its commas, what is written of a plain decimal is the decimal. -/
theorem filter_groupThousands : (groupThousands d.text).filter (· != ',') = d.text := by
  obtain ⟨hsign, hwhole, hfraction⟩ := d.comma_not_mem
  have hkept : ∀ {cs : List Char}, ',' ∉ cs → cs.filter (· != ',') = cs := by
    intro cs hcs
    rw [List.filter_eq_self]
    intro c hc
    rw [bne_iff_ne]
    rintro rfl
    exact hcs hc
  rw [groupThousands_eq, List.filter_append, List.filter_append, hkept hsign,
    filter_groupDigits hwhole, hkept hfraction]
  rfl

end PlainDecimal

/-- **A plain decimal in groups.** Without its commas it is what it was. Its sign, its point and the
digits after it stay as they are; commas cut the whole part into groups of three digits, of which the
first may have fewer. No two plain decimals look alike in groups. -/
theorem groupThousands_text :
    (∀ d : PlainDecimal, (groupThousands d.text).filter (· != ',') = d.text ∧
      ∃ grouped first groups,
        groupThousands d.text = d.signChars ++ grouped ++ d.fractionChars ∧
        grouped.splitOn ',' = first :: groups ∧ Grouped d.whole first groups) ∧
      Set.InjOn groupThousands (Set.range PlainDecimal.text) := by
  refine ⟨fun d => ⟨d.filter_groupThousands, ?_⟩, ?_⟩
  · obtain ⟨first, groups, hgrouped, hcommas⟩ := exists_grouped d.whole_ne
    -- the groups are made of digits, so there are no further commas in them
    have hinside : ∀ g ∈ first :: groups, ',' ∉ g := by
      intro g hg hmem
      have hwhole : ',' ∈ d.whole := by
        rw [← hgrouped.digits, ← List.flatten_cons]
        exact List.mem_flatten_of_mem hg hmem
      exact d.comma_not_mem.2.1 hwhole
    refine ⟨groupDigits d.whole, first, groups, d.groupThousands_eq, ?_, hgrouped⟩
    rw [hcommas]
    exact List.splitOn_intercalate ',' hinside (List.cons_ne_nil first groups)
  · rintro _ ⟨d, rfl⟩ _ ⟨d', rfl⟩ heq
    rw [← d.filter_groupThousands, heq, d'.filter_groupThousands]

/-- A negative amount with three groups. -/
def minusMillion : PlainDecimal where
  negative := true
  whole := ['1', '2', '3', '4', '5', '6', '7']
  fraction := some ['8', '9']
  whole_ne := by decide
  whole_digits := List.all_eq_true.mp rfl
  fraction_digits := by
    rintro ds ⟨⟩
    exact List.all_eq_true.mp rfl

theorem groupThousands_minusMillion :
    groupThousands minusMillion.text = "-1,234,567.89".toList ∧
      (groupThousands minusMillion.text).filter (· != ',') = "-1234567.89".toList :=
  ⟨by decide, (groupThousands_text.1 minusMillion).1⟩

/-! ## Amounts that are shown -/

/-- A natural number of units with fixed places is written as digits, a point and digits. -/
theorem exists_fixedText (places n : Nat) :
    ∃ whole fraction, Binary64.fixedText places n = whole ++ '.' :: fraction ∧ whole ≠ [] ∧
      (∀ c ∈ whole ++ fraction, c.isDigit = true) ∧ fraction.length = places := by
  let padded := List.replicate (places + 1 - (Nat.toDigits 10 n).length) '0' ++ Nat.toDigits 10 n
  have hlength : places + 1 ≤ padded.length := by
    simp only [padded, List.length_append, List.length_replicate]
    omega
  have hdigits : ∀ c ∈ padded, c.isDigit = true := by
    intro c hc
    rcases List.mem_append.mp hc with hzero | hdigit
    · rw [List.eq_of_mem_replicate hzero]
      rfl
    · exact Nat.isDigit_of_mem_toDigits (by decide) (by decide) hdigit
  refine ⟨padded.take (padded.length - places), padded.drop (padded.length - places), rfl, ?_, ?_,
    ?_⟩
  · rw [← List.length_pos_iff, List.length_take]
    omega
  · rwa [List.take_append_drop]
  · rw [List.length_drop]
    omega

/-- **A finite number with fixed places is a plain decimal.** -/
theorem exists_plainDecimal {x : Binary64} (hx : x.isFinite = true) (places : Nat) :
    ∃ d : PlainDecimal, x.toFixed places = String.ofList d.text ∧
      ∃ ds, d.fraction = some ds ∧ ds.length = places := by
  obtain ⟨neg, m, q, hview, -, -⟩ := Json.view_of_isFinite hx
  obtain ⟨whole, fraction, htext, hne, hdigits, hlength⟩ :=
    exists_fixedText places (Binary64.roundScaled m q (Nat.pow 10 places))
  rw [List.forall_mem_append] at hdigits
  refine ⟨⟨neg, whole, some fraction, hne, hdigits.1, ?_⟩, ?_, fraction, rfl, hlength⟩
  · rintro ds ⟨⟩
    exact hdigits.2
  · simp only [Binary64.toFixed, hview, htext]
    cases neg <;> rfl

/-- **An amount that is shown** has its number with two places, in groups. -/
theorem exists_amountText {x : Binary64} (hx : x.isFinite = true) :
    ∃ d : PlainDecimal, x.toFixed 2 = String.ofList d.text ∧
      (∃ ds, d.fraction = some ds ∧ ds.length = 2) ∧
      amountText x = String.ofList (d.signChars ++ groupDigits d.whole ++ d.fractionChars) := by
  obtain ⟨d, htext, hplaces⟩ := exists_plainDecimal hx 2
  refine ⟨d, htext, hplaces, ?_⟩
  rw [amountText, htext, String.toList_ofList, d.groupThousands_eq]

end TenantReports
