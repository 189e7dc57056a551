import TenantReports.Binary64.Shortest
import TenantReports.Proofs.Binary64.Rounding

/-!
# How large the shortest decimal is

The shortest decimal of a positive double is positive and lies no further than the midpoint to the
next double, so that it may be rounded twice more unless the double is one of the three largest.

## Main definitions

* `Decimal.value`: the number that a decimal denotes

## Main results

* `Binary64.shortest_bounds`: the shortest decimal is positive and not too large
* `Binary64.shortest_lt_overflow`: it may be rounded twice more
-/

namespace TenantReports

/-- The number that a decimal denotes. -/
def Decimal.value (d : Decimal) : Rat := d.coeff * (10 : Rat) ^ d.exp

theorem Decimal.value_stripZeros (fuel : Nat) (d : Decimal) :
    (d.stripZeros fuel).value = d.value := by
  induction fuel generalizing d with
  | zero => rfl
  | succ fuel ih =>
    rw [stripZeros]
    split
    · rename_i hzero
      have hcoeff : (d.coeff : Rat) = 10 * (d.coeff / 10 : Nat) := by
        exact_mod_cast show d.coeff = 10 * (d.coeff / 10) by omega
      rw [ih, value, value, hcoeff, zpow_add₀ (by norm_num), zpow_one]
      ring
    · rfl

theorem Decimal.stripZeros_pos (fuel : Nat) {d : Decimal} (hd : 0 < d.coeff) :
    0 < (d.stripZeros fuel).coeff := by
  induction fuel generalizing d with
  | zero => exact hd
  | succ fuel ih =>
    rw [stripZeros]
    split
    · exact ih (show 0 < d.coeff / 10 by omega)
    · exact hd

namespace Binary64

/-- A decimal that is picked rounds to the double. -/
theorem Rounding.covers_of_onGrid {r : Rounding} {exp : Int} {d : Decimal}
    (h : r.onGrid exp = some d) : r.covers d = true := by
  unfold Rounding.onGrid at h
  dsimp only at h
  split at h
  · rename_i hbelow habove
    split at h
    · cases h
      exact hbelow
    · split at h
      · cases h
        exact habove
      · split at h
        · cases h
          exact hbelow
        · cases h
          exact habove
  · rename_i hbelow _
    cases h
    exact hbelow
  · rename_i _ habove
    cases h
    exact habove
  · cases h

theorem Rounding.covers_of_firstGrid {r : Rounding} {lead : Int} {fuel n : Nat} {d : Decimal}
    (h : r.firstGrid lead fuel n = some d) : r.covers d = true := by
  induction fuel generalizing n with
  | zero => cases h
  | succ fuel ih =>
    rw [firstGrid] at h
    split at h
    · rename_i hgrid
      cases h
      exact covers_of_onGrid hgrid
    · exact ih h

/-- What rounds to a double is between the two ends. -/
theorem Rounding.between_of_covers {r : Rounding} {d : Decimal} (h : r.covers d = true) :
    r.low * 10 ^ (-d.exp).toNat ≤ d.coeff * 10 ^ d.exp.toNat * r.den ∧
      d.coeff * 10 ^ d.exp.toNat * r.den ≤ r.high * 10 ^ (-d.exp).toNat := by
  unfold covers at h
  dsimp only [Nat.pow_eq] at h
  split at h
  · simpa using h
  · simp only [Bool.and_eq_true, decide_eq_true_eq] at h
    exact ⟨h.1.le, h.2.le⟩

/-- A power of ten or of two as a quotient of natural ones. -/
theorem zpow_eq_div {b : Nat} (hb : 0 < b) (e : Int) :
    (b : Rat) ^ e = b ^ e.toNat / b ^ (-e).toNat := by
  have hb' : (b : Rat) ≠ 0 := Nat.cast_ne_zero.mpr hb.ne'
  rw [← zpow_natCast, ← zpow_natCast, ← zpow_sub₀ hb']
  congr 1
  omega

/-- A decimal that rounds to a positive double is positive, and no further than the midpoint to
the next double. -/
theorem Rounding.bounds_of_covers {m : Nat} {q : Int} (hm : 0 < m) {d : Decimal}
    (h : (Rounding.of m q).covers d = true) :
    0 < d.coeff ∧ d.value ≤ (m + 1 / 2) * (2 : Rat) ^ q := by
  obtain ⟨hlow, hhigh⟩ := between_of_covers h
  constructor
  · have hpos : 0 < (Rounding.of m q).low := by
      refine Nat.mul_pos ?_ (Nat.pow_pos (by decide))
      split <;> omega
    by_contra hzero
    have hcoeff : d.coeff = 0 := by omega
    rw [hcoeff, Nat.zero_mul, Nat.zero_mul] at hlow
    have hmul := Nat.mul_pos hpos (show 0 < 10 ^ (-d.exp).toNat by positivity)
    omega
  · have hcast : (d.coeff * 10 ^ d.exp.toNat * 2 ^ (-(q - 2)).toNat : Rat)
        ≤ (4 * m + 2) * 2 ^ (q - 2).toNat * 10 ^ (-d.exp).toNat := by
      have hneg : -(q - 2) = 2 - q := by omega
      rw [hneg]
      exact_mod_cast hhigh
    have hten := zpow_eq_div (b := 10) (by decide) d.exp
    have htwo := zpow_eq_div (b := 2) (by decide) (q - 2)
    push_cast at hten htwo
    have hquarter : (m + 1 / 2) * (2 : Rat) ^ q = (4 * m + 2) * 2 ^ (q - 2) := by
      rw [zpow_sub₀ two_ne_zero]
      norm_num
      ring
    rw [hquarter, Decimal.value, hten, htwo, ← mul_div_assoc, ← mul_div_assoc,
      div_le_div_iff₀ (by positivity) (by positivity)]
    exact hcast

/-- **The shortest decimal of a positive double is positive**, and no further than the midpoint to
the next double, or it is the significand itself. -/
theorem shortest_bounds {m : Nat} (hm : 0 < m) (q : Int) :
    0 < (shortest m q).coeff ∧
      ((shortest m q).value ≤ (m + 1 / 2) * (2 : Rat) ^ q ∨ (shortest m q).value = m) := by
  unfold shortest
  rw [if_neg hm.ne']
  dsimp only
  split
  · rename_i hgrid
    obtain ⟨hpos, hle⟩ := Rounding.bounds_of_covers hm (Rounding.covers_of_firstGrid hgrid)
    exact ⟨Decimal.stripZeros_pos 20 hpos, .inl (by rwa [Decimal.value_stripZeros])⟩
  · refine ⟨hm, .inr ?_⟩
    rw [Decimal.value, zpow_zero, mul_one]

/-- **The shortest decimal may be rounded twice more** and stays finite, unless the double is one
of the three largest. -/
theorem shortest_lt_overflow {m : Nat} {q : Int} (hm : 0 < m) (hbits : m < 2 ^ 53)
    (hq : q ≤ 971) (htop : q = 971 → m < 2 ^ 53 - 3) :
    (shortest m q).value * (1 + 1 / 2 ^ 53) ^ 2 < overflow := by
  have hbits' : (m : Rat) ≤ 2 ^ 53 - 1 := by
    have hle : (m + 1 : Nat) ≤ (2 ^ 53 : Rat) := by exact_mod_cast hbits
    push_cast at hle
    linarith
  -- in units of the last place of the second largest exponent
  have hone : (1 : Rat) ≤ 2 ^ (970 : Int) := one_le_zpow₀ one_le_two (by decide)
  have hless : q ≤ 970 → (2 : Rat) ^ q ≤ 2 ^ (970 : Int) := zpow_le_zpow_right₀ one_le_two
  have hdouble : (2 : Rat) ^ (971 : Int) = 2 * 2 ^ (970 : Int) := by
    rw [show (971 : Int) = 1 + 970 by rfl, zpow_add₀ two_ne_zero, zpow_one]
  rw [overflow]
  generalize (2 : Rat) ^ (970 : Int) = unit at *
  have hle : (shortest m q).value ≤ (2 ^ 54 - 7) * unit := by
    obtain ⟨-, hle | heq⟩ := shortest_bounds hm q
    · refine hle.trans ?_
      rcases hq.lt_or_eq with hlt | rfl
      · have hpow := hless (by omega)
        calc (m + 1 / 2) * (2 : Rat) ^ q ≤ (2 ^ 54 - 7) * 2 ^ q :=
              mul_le_mul_of_nonneg_right (by linarith only [hbits']) (by positivity)
          _ ≤ (2 ^ 54 - 7) * unit := mul_le_mul_of_nonneg_left hpow (by norm_num)
      · have hle3 : (m : Rat) ≤ 2 ^ 53 - 4 := by
          have hle : (m + 4 : Nat) ≤ (2 ^ 53 : Rat) := by
            have hlt := htop rfl
            exact_mod_cast show m + 4 ≤ 2 ^ 53 by omega
          push_cast at hle
          linarith
        rw [hdouble, ← mul_assoc]
        exact mul_le_mul_of_nonneg_right (by linarith only [hle3]) (by linarith only [hone])
    · rw [heq]
      nlinarith only [hbits', hone]
  calc (shortest m q).value * (1 + 1 / 2 ^ 53) ^ 2
      ≤ (2 ^ 54 - 7) * unit * (1 + 1 / 2 ^ 53) ^ 2 :=
        mul_le_mul_of_nonneg_right hle (by positivity)
    _ = (2 ^ 54 - 7) * (1 + 1 / 2 ^ 53) ^ 2 * unit := by ring
    _ < (2 ^ 54 - 1) * unit := mul_lt_mul_of_pos_right (by norm_num) (by linarith only [hone])

end Binary64

end TenantReports
