import Mathlib.Algebra.Ring.Nat
import Mathlib.Data.List.Forall2
import Mathlib.Data.String.Basic
import TenantReports.Text.Blank
import TenantReports.Time.Rfc3339

/-!
# Fields of digits

A time is written as fields of fixed widths, each followed by a character of its own. Such texts
are ordered as the numbers in their fields, the first ones first, and the numbers can be read back.

## Main definitions

* `digits`: the last digits of a number
* `fieldChars`: numbers in fields, each with a width and a character that follows

## Main results

* `padded_eq_digits`: padding gives all digits
* `fieldChars_lt`: texts of fields are ordered as their numbers
* `fixedDigits?_digits`: a field reads back
-/

namespace TenantReports.Time

open Binary64 (digitValue digitsValue)

/-- The last `width` digits of a number. -/
def digits : Nat → Nat → List Char
  | 0, _ => []
  | width + 1, n => digits width (n / 10) ++ [Nat.digitChar (n % 10)]

@[simp] theorem length_digits (width n : Nat) : (digits width n).length = width := by
  induction width generalizing n with
  | zero => rfl
  | succ width ih => simp [digits, ih]

/-- Digits take one byte each. -/
theorem utf8Len_digits (width n : Nat) : String.utf8Len (digits width n) = width := by
  have hchar : ∀ k : Fin 10, (Nat.digitChar k).utf8Size = 1 := by decide
  induction width generalizing n with
  | zero => rfl
  | succ width ih =>
    have hlast := hchar ⟨n % 10, Nat.mod_lt n (by decide)⟩
    rw [digits, String.utf8Len_append, ih, String.utf8Len_cons, String.utf8Len_nil]
    dsimp only at hlast
    omega

theorem digits_zero (width : Nat) : digits width 0 = List.replicate width '0' := by
  induction width with
  | zero => rfl
  | succ width ih =>
    rw [digits, Nat.zero_div, ih, List.replicate_succ']
    rfl

/-- A number that is not too long is padded to its last digits. -/
theorem padded_eq_digits {width n : Nat} (hwidth : 0 < width) (h : n < 10 ^ width) :
    padded width n = digits width n := by
  induction width generalizing n with
  | zero => exact absurd hwidth (Nat.lt_irrefl 0)
  | succ width ih =>
    unfold padded
    dsimp only
    by_cases hn : n < 10
    · rw [Nat.toDigits_of_lt_base hn, digits, Nat.div_eq_of_lt hn, digits_zero,
        Nat.mod_eq_of_lt hn]
      rfl
    · -- the digits before the last one are those of a tenth
      have hbase : 10 ≤ n := Nat.le_of_not_lt hn
      have hrest : n / 10 < 10 ^ width := by
        rw [Nat.pow_succ] at h
        omega
      have hpos : 0 < width := by
        apply Nat.pos_of_ne_zero
        rintro rfl
        omega
      have htenth := ih hpos hrest
      unfold padded at htenth
      dsimp only at htenth
      rw [Nat.toDigits_of_base_le (by decide) hbase, digits, ← htenth, List.length_append,
        List.length_singleton, ← List.append_assoc, Nat.add_sub_add_right]

/-- Texts of the same length before others: the first difference counts. -/
theorem append_lt_append_iff {xs ys us vs : List Char} (h : xs.length = ys.length) :
    xs ++ us < ys ++ vs ↔ xs < ys ∨ xs = ys ∧ us < vs := by
  induction xs generalizing ys with
  | nil =>
    obtain rfl := List.length_eq_zero_iff.mp h.symm
    simp
  | cons x xs ih =>
    cases ys with
    | nil => cases h
    | cons y ys =>
      rw [List.cons_append, List.cons_append, List.cons_lt_cons_iff, List.cons_lt_cons_iff,
        ih (Nat.succ.inj h), List.cons.injEq]
      constructor
      · rintro (hlt | ⟨heq, hlt | ⟨heqs, hlt⟩⟩)
        · exact .inl (.inl hlt)
        · exact .inl (.inr ⟨heq, hlt⟩)
        · exact .inr ⟨⟨heq, heqs⟩, hlt⟩
      · rintro ((hlt | ⟨heq, hlt⟩) | ⟨⟨heq, heqs⟩, hlt⟩)
        · exact .inl hlt
        · exact .inr ⟨heq, .inl hlt⟩
        · exact .inr ⟨heq, .inr ⟨heqs, hlt⟩⟩

theorem digitChar_lt {a b : Nat} (hb : b < 10) (h : a < b) : Nat.digitChar a < Nat.digitChar b := by
  have hall : ∀ b : Fin 10, ∀ a : Fin b, Nat.digitChar a < Nat.digitChar b := by decide
  exact hall ⟨b, hb⟩ ⟨a, h⟩

/-- Digits are ordered as their numbers. -/
theorem digits_lt {width m n : Nat} (hn : n < 10 ^ width) (h : m < n) :
    digits width m < digits width n := by
  induction width generalizing m n with
  | zero => omega
  | succ width ih =>
    rw [digits, digits, append_lt_append_iff (by simp)]
    rw [Nat.pow_succ] at hn
    by_cases hrest : m / 10 < n / 10
    · left
      apply ih _ hrest
      omega
    · right
      have hsame : m / 10 = n / 10 := by omega
      refine ⟨by rw [hsame], ?_⟩
      rw [List.cons_lt_cons_iff]
      left
      apply digitChar_lt <;> omega

/-! ## Fields -/

/-- Numbers in fields. Each field has a width and a character that follows. -/
def fieldChars : List (Nat × Char) → List Nat → List Char
  | (width, follow) :: shape, n :: ns => digits width n ++ follow :: fieldChars shape ns
  | _, _ => []

/-- **Texts of fields are ordered as their numbers.** -/
theorem fieldChars_lt {shape : List (Nat × Char)} {ms ns : List Nat}
    (hms : List.Forall₂ (fun field m => m < 10 ^ field.1) shape ms)
    (hns : List.Forall₂ (fun field n => n < 10 ^ field.1) shape ns) (h : ms < ns) :
    fieldChars shape ms < fieldChars shape ns := by
  induction hms generalizing ns with
  | nil =>
    cases hns
    exact absurd h (List.lt_irrefl _)
  | @cons field m shape ms hm _ ih =>
    cases hns with
    | @cons _ n _ ns hn hns =>
      rw [fieldChars, fieldChars, append_lt_append_iff (by simp), List.cons_lt_cons_iff]
      rcases List.cons_lt_cons_iff.mp h with hlt | ⟨rfl, hlt⟩
      · left
        exact digits_lt hn hlt
      · right
        exact ⟨rfl, .inr ⟨rfl, ih hns hlt⟩⟩

/-! ## Reading -/

/-- No digit is blank. -/
theorem isBlank_eq_false_of_isDigit {c : Char} (h : c.isDigit = true) :
    Text.isBlank c = false := by
  simp only [Char.isDigit, Bool.and_eq_true, decide_eq_true_eq, ge_iff_le, UInt32.le_iff_toNat_le]
    at h
  have hbounds : 48 ≤ c.toNat ∧ c.toNat ≤ 57 := h
  rw [Bool.eq_false_iff]
  intro hblank
  unfold Text.isBlank at hblank
  simp at hblank
  omega

theorem digitsValue_concat (start : Nat) (ds : List Char) (c : Char) :
    digitsValue start (ds ++ [c]) = 10 * digitsValue start ds + digitValue c := by
  rw [digitsValue, List.foldl_append]
  rfl

theorem isDigit_of_mem_digits {width n : Nat} {c : Char} (h : c ∈ digits width n) :
    c.isDigit = true := by
  induction width generalizing n with
  | zero => cases h
  | succ width ih =>
    rcases List.mem_append.mp h with h | h
    · exact ih h
    · rw [List.mem_singleton.mp h]
      have hall : ∀ d : Fin 10, (Nat.digitChar d).isDigit = true := by decide
      exact hall ⟨n % 10, Nat.mod_lt n (by decide)⟩

/-- Digits denote their number. -/
theorem digitsValue_digits {width n : Nat} (h : n < 10 ^ width) :
    digitsValue 0 (digits width n) = n := by
  induction width generalizing n with
  | zero =>
    obtain rfl : n = 0 := by omega
    rfl
  | succ width ih =>
    have hall : ∀ d : Fin 10, digitValue (Nat.digitChar d) = d := by decide
    have hlast := hall ⟨n % 10, Nat.mod_lt n (by decide)⟩
    dsimp only at hlast
    rw [Nat.pow_succ] at h
    rw [digits, digitsValue_concat, ih (by omega), hlast]
    omega

/-- **A field reads back.** -/
theorem fixedDigits?_digits {width n : Nat} (h : n < 10 ^ width) (rest : List Char) :
    fixedDigits? width (digits width n ++ rest) = some (n, rest) := by
  have hall : (digits width n).all Char.isDigit = true :=
    List.all_eq_true.mpr fun c hc => isDigit_of_mem_digits hc
  unfold fixedDigits?
  dsimp only
  rw [List.take_left' (length_digits width n), List.drop_left' (length_digits width n),
    length_digits, if_pos ⟨rfl, hall⟩, digitsValue_digits h]

end TenantReports.Time
