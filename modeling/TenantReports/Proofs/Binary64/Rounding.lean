import Mathlib.Algebra.Order.Field.Basic
import Mathlib.Algebra.Order.Field.Power
import Mathlib.Data.Rat.Floor
import Mathlib.Tactic.FieldSimp
import Mathlib.Tactic.Linarith
import Mathlib.Tactic.NormNum
import Mathlib.Tactic.Positivity
import TenantReports.Binary64.Basic

/-!
# Bounds of rounded doubles

A quotient below the midpoint above the largest double is rounded to a finite one, and rounding
adds at most one part in `2^53` to a number that is not very small.

## Main definitions

* `Binary64.valueOf`: the number `m · 2^q`
* `Binary64.overflow`: where rounding begins to give an infinity

## Main results

* `Binary64.ofRatio_of_lt_overflow`: the double of a quotient is finite, and how large it is
* `Binary64.mul_ofNat_finite`: so is the product of the doubles of two natural numbers
-/

namespace TenantReports.Binary64

/-- The number `m · 2^q`. -/
def valueOf (m : Nat) (q : Int) : Rat := m * (2 : Rat) ^ q

/-- The midpoint between the largest double and the power of two above it. -/
def overflow : Rat := (2 ^ 54 - 1) * (2 : Rat) ^ (970 : Int)

theorem overflow_lt : overflow < (2 : Rat) ^ (1024 : Int) := by
  rw [overflow, show (1024 : Int) = 54 + 970 by rfl, zpow_add₀ two_ne_zero]
  exact mul_lt_mul_of_pos_right (by norm_num) (by positivity)

/-! ## The quotient that is rounded -/

section Quotient

theorem scaleDown_pos (num : Nat) {den : Nat} (hden : 0 < den) (q : Int) :
    0 < (scaleDown num den q).2 := by
  unfold scaleDown
  split
  · exact Nat.mul_pos hden (Nat.pow_pos (by decide))
  · exact hden

/-- Scaling divides by the power of two. -/
theorem scaleDown_div (num : Nat) {den : Nat} (hden : 0 < den) (q : Int) :
    ((scaleDown num den q).1 : Rat) / (scaleDown num den q).2 = num / den / (2 : Rat) ^ q := by
  have hden' : (den : Rat) ≠ 0 := Nat.cast_ne_zero.mpr hden.ne'
  unfold scaleDown
  split
  · rename_i hq
    obtain ⟨n, rfl⟩ := Int.eq_ofNat_of_zero_le hq
    simp [div_div]
  · rename_i hq
    obtain ⟨n, rfl⟩ : ∃ n : Nat, q = -(n : Int) := ⟨(-q).toNat, by omega⟩
    simp
    field_simp

theorem two_mul_roundQuotient_le (n d : Nat) : 2 * (d * roundQuotient n d) ≤ 2 * n + d := by
  have hsplit := Nat.div_add_mod n d
  have hbit := Nat.mod_lt (n / d) (show 2 > 0 by decide)
  unfold roundQuotient
  dsimp only
  split
  · omega
  · split
    · rw [Nat.mul_add, Nat.mul_one]
      omega
    · have hle : d * (n / d % 2) ≤ d * 1 := Nat.mul_le_mul_left d (by omega)
      rw [Nat.mul_add]
      omega

/-- Rounding to a natural number adds at most one half. -/
theorem roundQuotient_le {n d : Nat} (hd : 0 < d) :
    (roundQuotient n d : Rat) ≤ n / d + 1 / 2 := by
  have hd' : (0 : Rat) < d := Nat.cast_pos.mpr hd
  have hle : (2 * (d * roundQuotient n d) : Rat) ≤ 2 * n + d := by
    exact_mod_cast two_mul_roundQuotient_le n d
  rw [div_add_div _ _ hd'.ne' two_ne_zero, le_div_iff₀ (by positivity)]
  linarith

/-- What is less than a power of two is rounded to no more than it. -/
theorem roundQuotient_le_of_lt {n d b : Nat} (hlt : n < d * b) : roundQuotient n d ≤ b := by
  have hle := two_mul_roundQuotient_le n d
  by_contra hgt
  have hmul : d * (b + 1) ≤ d * roundQuotient n d := Nat.mul_le_mul_left d (by omega)
  rw [Nat.mul_add] at hmul
  omega

theorem le_roundQuotient {n d b : Nat} (hd : 0 < d) (hle : d * b ≤ n) : b ≤ roundQuotient n d := by
  have hquot : b ≤ n / d := (Nat.le_div_iff_mul_le hd).mpr (by rwa [Nat.mul_comm])
  unfold roundQuotient
  dsimp only
  split
  · exact hquot
  · split <;> omega

/-- A quotient lies between the powers of two that the lengths of its parts give. -/
theorem between_log2 {num den : Nat} (hnum : 0 < num) (hden : 0 < den) :
    (2 : Rat) ^ ((num.log2 : Int) - den.log2 - 1) ≤ num / den ∧
      (num : Rat) / den < (2 : Rat) ^ ((num.log2 : Int) - den.log2 + 1) := by
  have hnumLow : (2 : Rat) ^ num.log2 ≤ num := by exact_mod_cast Nat.log2_self_le hnum.ne'
  have hnumHigh : (num : Rat) < 2 ^ (num.log2 + 1) := by exact_mod_cast Nat.lt_log2_self
  have hdenLow : (2 : Rat) ^ den.log2 ≤ den := by exact_mod_cast Nat.log2_self_le hden.ne'
  have hdenHigh : (den : Rat) < 2 ^ (den.log2 + 1) := by exact_mod_cast Nat.lt_log2_self
  have hlow : ((num.log2 : Int) - den.log2 - 1) = (num.log2 : Int) - (den.log2 + 1 : Nat) := by
    omega
  have hhigh : ((num.log2 : Int) - den.log2 + 1) = (num.log2 + 1 : Nat) - (den.log2 : Int) := by
    omega
  rw [hlow, hhigh, zpow_sub₀ two_ne_zero, zpow_sub₀ two_ne_zero]
  simp only [zpow_natCast]
  constructor
  · exact div_le_div₀ (by positivity) hnumLow (by positivity) hdenHigh.le
  · exact div_lt_div₀ hnumHigh hdenLow (by positivity) (by positivity)

/-- The last exponent leaves at most 53 bits, and 53 bits unless it is the least one. -/
theorem lastExponent_spec {num den : Nat} (hnum : 0 < num) (hden : 0 < den) :
    -1074 ≤ lastExponent num den ∧
      (num : Rat) / den < (2 : Rat) ^ (lastExponent num den + 53) ∧
      (-1074 < lastExponent num den →
        (2 : Rat) ^ (lastExponent num den + 52) ≤ num / den) := by
  obtain ⟨hlow, hhigh⟩ := between_log2 hnum hden
  unfold lastExponent
  generalize hguess : max ((num.log2 : Int) - den.log2 - 53) (-1074) = guess
  have hpos := scaleDown_pos num hden guess
  have hdiv := scaleDown_div num hden guess
  have hpow : (0 : Rat) < 2 ^ guess := by positivity
  dsimp only
  split
  · rename_i hfloor
    refine ⟨by omega, ?_, fun hleast => ?_⟩
    · rw [Nat.div_lt_iff_lt_mul hpos] at hfloor
      have hlt : (num : Rat) / den / 2 ^ guess < 2 ^ 53 := by
        rw [← hdiv, div_lt_iff₀ (by exact_mod_cast hpos)]
        exact_mod_cast hfloor
      rw [div_lt_iff₀ hpow] at hlt
      rwa [zpow_add₀ two_ne_zero, mul_comm]
    · refine le_trans (zpow_le_zpow_right₀ one_le_two ?_) hlow
      omega
  · rename_i hfloor
    refine ⟨by omega, ?_, fun _ => ?_⟩
    · refine hhigh.trans_le (zpow_le_zpow_right₀ one_le_two ?_)
      omega
    · rw [Nat.not_lt, Nat.le_div_iff_mul_le hpos] at hfloor
      have hle : (2 : Rat) ^ 53 ≤ num / den / 2 ^ guess := by
        rw [← hdiv, le_div_iff₀ (by exact_mod_cast hpos)]
        exact_mod_cast hfloor
      rw [le_div_iff₀ hpow] at hle
      rw [show guess + 1 + 52 = guess + 53 by ring, zpow_add₀ two_ne_zero, mul_comm]
      exact hle

end Quotient

/-! ## The double that is made -/

theorem magnitudeBits_ofMagnitudeBits {n : Nat} (hn : n < 2 ^ 63) :
    (ofMagnitudeBits false n).magnitudeBits = n := by
  have hpow : Nat.pow 2 63 = 2 ^ 63 := rfl
  have hsize : UInt64.size = 2 ^ 64 := rfl
  simp only [magnitudeBits, ofMagnitudeBits, Bool.false_eq_true, if_false, Nat.zero_add, hpow,
    UInt64.toNat_ofNat']
  omega

theorem isNegative_ofMagnitudeBits {n : Nat} (hn : n < 2 ^ 63) :
    (ofMagnitudeBits false n).isNegative = false := by
  have hpow : Nat.pow 2 63 = 2 ^ 63 := rfl
  have hsize : UInt64.size = 2 ^ 64 := rfl
  simp only [isNegative, ofMagnitudeBits, Bool.false_eq_true, if_false, Nat.zero_add, hpow,
    UInt64.toNat_ofNat', decide_eq_false_iff_not]
  omega

/-- A rounded significand is carried into the exponent where it has become a power of two. -/
theorem view_ofMagnitudeBits {e r : Nat} (hr : r ≤ 2 ^ 53) (hnormal : 0 < e → 2 ^ 52 ≤ r)
    (hfits : e * 2 ^ 52 + r < 2047 * 2 ^ 52) :
    ∃ m q, (ofMagnitudeBits false (e * 2 ^ 52 + r)).view = .finite false m q ∧
      valueOf m q = valueOf r (e - 1074) := by
  have hpow : Nat.pow 2 52 = 2 ^ 52 := rfl
  have hbits := magnitudeBits_ofMagnitudeBits (n := e * 2 ^ 52 + r) (by omega)
  have hsign := isNegative_ofMagnitudeBits (n := e * 2 ^ 52 + r) (by omega)
  simp only [view, hbits, hsign, hpow]
  rcases Nat.lt_or_ge r (2 ^ 52) with hsmall | hlarge
  · have he : e = 0 := by omega
    subst he
    rw [if_neg (by omega), if_pos (by omega)]
    refine ⟨_, _, rfl, ?_⟩
    rw [show (0 * 2 ^ 52 + r) % 2 ^ 52 = r by omega]
    rfl
  rw [if_neg (by omega), if_neg (by omega)]
  refine ⟨_, _, rfl, ?_⟩
  rcases Nat.lt_or_ge r (2 ^ 53) with hlt | hge
  · rw [show (e * 2 ^ 52 + r) / 2 ^ 52 = e + 1 by omega,
      show 2 ^ 52 + (e * 2 ^ 52 + r) % 2 ^ 52 = r by omega]
    congr 1
    omega
  · have hrr : r = 2 ^ 53 := by omega
    subst hrr
    rw [show (e * 2 ^ 52 + 2 ^ 53) / 2 ^ 52 = e + 2 by omega,
      show 2 ^ 52 + (e * 2 ^ 52 + 2 ^ 53) % 2 ^ 52 = 2 ^ 52 by omega,
      show ((e + 2 : Nat) : Int) - 1075 = 1 + (e - 1074) by omega]
    simp only [valueOf, zpow_add₀ (two_ne_zero' Rat)]
    push_cast
    ring

/-- Below the midpoint the exponent is not above that of the largest double. -/
theorem lastExponent_le {num den : Nat} (hnum : 0 < num) (hden : 0 < den)
    (hlt : (num : Rat) / den < overflow) : lastExponent num den ≤ 971 := by
  by_contra hgt
  have hover : overflow < (2 : Rat) ^ (lastExponent num den + 52) :=
    overflow_lt.trans_le (zpow_le_zpow_right₀ one_le_two (by omega))
  have habove := (lastExponent_spec hnum hden).2.2 (by omega)
  exact absurd (hover.trans_le habove) hlt.asymm

/-- What is rounded is a significand: it has at most 53 bits, 53 bits unless the exponent is the
least one, and it stays below the first power of two that is too large. -/
theorem roundQuotient_significand {num den : Nat} (hnum : 0 < num) (hden : 0 < den)
    (hlt : (num : Rat) / den < overflow) {q : Int} (hq : q = lastExponent num den) {n d : Nat}
    (hscale : scaleDown num den q = (n, d)) :
    roundQuotient n d ≤ 2 ^ 53 ∧ (-1074 < q → 2 ^ 52 ≤ roundQuotient n d) ∧
      (q + 1074).toNat * 2 ^ 52 + roundQuotient n d < 2047 * 2 ^ 52 := by
  obtain ⟨hleast, hbelow, habove⟩ := lastExponent_spec hnum hden
  have hpos := scaleDown_pos num hden q
  have hdiv := scaleDown_div num hden q
  rw [← hq] at hleast hbelow habove
  rw [hscale] at hpos hdiv
  dsimp only at hpos hdiv
  have hpos' : (0 : Rat) < d := by exact_mod_cast hpos
  have hpow : (0 : Rat) < 2 ^ q := by positivity
  have hbits : roundQuotient n d ≤ 2 ^ 53 := by
    refine roundQuotient_le_of_lt ?_
    have hquot : (n : Rat) / d < 2 ^ 53 := by
      rw [hdiv, div_lt_iff₀ hpow]
      rwa [zpow_add₀ two_ne_zero, mul_comm] at hbelow
    rw [div_lt_iff₀ hpos', mul_comm] at hquot
    exact_mod_cast hquot
  refine ⟨hbits, fun h => ?_, ?_⟩
  · refine le_roundQuotient hpos ?_
    have hquot : (2 : Rat) ^ 52 ≤ n / d := by
      rw [hdiv, le_div_iff₀ hpow]
      have hle := habove h
      rwa [zpow_add₀ two_ne_zero, mul_comm] at hle
    rw [le_div_iff₀ hpos', mul_comm] at hquot
    exact_mod_cast hquot
  -- the greatest exponent is reached with less than the midpoint only
  have hgreatest : q ≤ 971 := hq ▸ lastExponent_le hnum hden hlt
  rcases hgreatest.lt_or_eq with hless | rfl
  · omega
  · have hhalf : (n : Rat) / d < 2 ^ 53 - 1 / 2 := by
      rw [hdiv, div_lt_iff₀ hpow]
      refine hlt.trans_eq ?_
      rw [overflow, show (971 : Int) = 1 + 970 by rfl, zpow_add₀ two_ne_zero, zpow_one]
      ring
    have hround := roundQuotient_le (n := n) hpos
    have hcast : (roundQuotient n d : Rat) < (2 ^ 53 : Nat) := by
      push_cast
      linarith
    rw [Nat.cast_lt] at hcast
    omega

/-- **A quotient below the midpoint above the largest double is rounded to a finite one**, and a
quotient of at least one becomes larger by one part in `2^53` at most. -/
theorem ofRatio_of_lt_overflow (num den : Nat) (hnum : 0 < num) (hden : 0 < den)
    (hlt : (num : Rat) / den < overflow) :
    ∃ m q, (ofRatio false num den).view = .finite false m q ∧
      (1 ≤ (num : Rat) / den → valueOf m q ≤ num / den * (1 + 1 / 2 ^ 53)) := by
  obtain ⟨hleast, hbelow, habove⟩ := lastExponent_spec hnum hden
  have hpos := scaleDown_pos num hden (lastExponent num den)
  have hdiv := scaleDown_div num hden (lastExponent num den)
  generalize hq : lastExponent num den = q at *
  generalize hscale : scaleDown num den q = nd at *
  obtain ⟨n, d⟩ := nd
  dsimp only at hpos hdiv
  obtain ⟨hbits, hnormal, hfits⟩ := roundQuotient_significand hnum hden hlt hq.symm hscale
  obtain ⟨m, p, hview, hvalue⟩ := view_ofMagnitudeBits hbits (fun h => hnormal (by omega)) hfits
  refine ⟨m, p, ?_, fun hone => ?_⟩
  · have hpow : Nat.pow 2 52 = 2 ^ 52 := rfl
    simp only [ofRatio, if_neg hnum.ne', hq, hscale, hpow]
    rw [if_neg (by omega)]
    exact hview
  have hpow : (0 : Rat) < 2 ^ q := by positivity
  have hexp : ((q + 1074).toNat : Int) - 1074 = q := by omega
  have hq53 : 0 < q + 53 := by
    by_contra hle
    have hsmall : (2 : Rat) ^ (q + 53) ≤ 2 ^ (0 : Int) :=
      zpow_le_zpow_right₀ one_le_two (by omega)
    rw [zpow_zero] at hsmall
    linarith
  have hulp : (2 : Rat) ^ q ≤ num / den / 2 ^ 52 := by
    have hle := habove (by omega)
    rw [zpow_add₀ two_ne_zero] at hle
    rwa [le_div_iff₀ (by positivity)]
  rw [hvalue, hexp, valueOf]
  calc (roundQuotient n d : Rat) * 2 ^ q
      ≤ (num / den / 2 ^ q + 1 / 2) * 2 ^ q := by
        rw [← hdiv]
        exact mul_le_mul_of_nonneg_right (roundQuotient_le hpos) hpow.le
    _ = num / den + 2 ^ q / 2 := by
        field_simp
    _ ≤ num / den * (1 + 1 / 2 ^ 53) := by
        linarith

/-! ## Products -/

theorem isInfinite_of_view {x : Binary64} {neg : Bool} {m : Nat} {q : Int}
    (h : x.view = .finite neg m q) : x.isInfinite = false := by
  rw [isInfinite, beq_eq_false_iff_ne]
  intro hbits
  rw [view, hbits] at h
  cases h

theorem ofScaled_of_lt_overflow {m : Nat} {q : Int} (hlt : valueOf m q < overflow) :
    (ofScaled false m q).isInfinite = false := by
  rcases Nat.eq_zero_or_pos m with rfl | hm
  · unfold ofScaled
    split
    · rw [Nat.zero_mul]
      rfl
    · rfl
  unfold ofScaled
  split
  · rename_i hq
    have hpow : Nat.pow 2 q.toNat = 2 ^ q.toNat := rfl
    obtain ⟨_, _, hview, -⟩ := ofRatio_of_lt_overflow (m * 2 ^ q.toNat) 1
      (by positivity) (by decide) (by
        rw [Nat.cast_one, div_one]
        push_cast
        rwa [← zpow_natCast, Int.toNat_of_nonneg hq])
    exact isInfinite_of_view hview
  · rename_i hq
    obtain ⟨_, _, hview, -⟩ := ofRatio_of_lt_overflow m (2 ^ (-q).toNat)
      hm (by positivity) (by
        push_cast
        rwa [← zpow_natCast, Int.toNat_of_nonneg (by omega), zpow_neg, div_inv_eq_mul])
    exact isInfinite_of_view hview

/-- **The product of the doubles of two natural numbers is finite** where the numbers are far
enough from where rounding gives an infinity. -/
theorem mul_ofNat_finite {s n : Nat} (hs : 0 < s) (hn : 0 < n)
    (hlt : (s : Rat) * n * (1 + 1 / 2 ^ 53) ^ 2 < overflow) :
    ((ofNat s).mul (ofNat n)).isInfinite = false := by
  have hs' : (1 : Rat) ≤ s := by exact_mod_cast hs
  have hn' : (1 : Rat) ≤ n := by exact_mod_cast hn
  have hprod : (s : Rat) * n < overflow := by
    refine lt_of_le_of_lt ?_ hlt
    refine le_mul_of_one_le_right (by positivity) ?_
    norm_num
  obtain ⟨m, p, hviewS, hvalueS⟩ := ofRatio_of_lt_overflow s 1 hs (by decide)
    (by
      rw [Nat.cast_one, div_one]
      exact (le_mul_of_one_le_right (by positivity) hn').trans_lt hprod)
  obtain ⟨k, q, hviewN, hvalueN⟩ := ofRatio_of_lt_overflow n 1 hn (by decide)
    (by
      rw [Nat.cast_one, div_one]
      exact (le_mul_of_one_le_left (by positivity) hs').trans_lt hprod)
  rw [Nat.cast_one, div_one] at hvalueS hvalueN
  rw [mul, ofNat, ofNat, hviewS, hviewN]
  refine ofScaled_of_lt_overflow (lt_of_le_of_lt ?_ hlt)
  calc valueOf (m * k) (p + q) = valueOf m p * valueOf k q := by
        simp only [valueOf, zpow_add₀ (two_ne_zero' Rat)]
        push_cast
        ring
    _ ≤ (s * (1 + 1 / 2 ^ 53)) * (n * (1 + 1 / 2 ^ 53)) :=
        mul_le_mul (hvalueS hs') (hvalueN hn') (by rw [valueOf]; positivity) (by positivity)
    _ = s * n * (1 + 1 / 2 ^ 53) ^ 2 := by ring

end TenantReports.Binary64
