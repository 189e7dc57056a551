import TenantReports.Proofs.Binary64.Shortest

/-!
# The shortest decimals tell doubles apart

Seventeen digits are enough for a decimal that rounds to a double, so the shortest decimal of a
double rounds to it. The reals that round to a double lie between those that round to its two
neighbours, and a midpoint rounds to one of them only. So a greater double has a greater shortest
decimal.

## Main definitions

* `Binary64.Canonical`: the significands and exponents of the positive doubles

## Main results

* `Binary64.Rounding.covers_iff`: the decimals that round to a double
* `Binary64.exists_covers_shortest`: the shortest decimal is one of them
* `Binary64.shortest_value_injective`: no other double has the same shortest decimal
* `Binary64.view_injective`: a finite double is its sign, significand and exponent
-/

namespace TenantReports.Binary64

/-- The significands and exponents of the positive doubles: significands have 53 bits, but for
those of the least exponent, which may have fewer. -/
structure Canonical (m : Nat) (q : Int) : Prop where
  pos : 0 < m
  bits : m < 2 ^ 53
  least : -1074 ≤ q
  normal : -1074 < q → 2 ^ 52 ≤ m

/-! ## Decimals that round to a double -/

namespace Rounding

/-- The distance from a double down to the midpoint to the next one, in quarters of its last
place. -/
def below (m : Nat) (q : Int) : Nat := if m = 2 ^ 52 ∧ -1074 < q then 1 else 2

theorem below_le_two (m : Nat) (q : Int) : below m q ≤ 2 := by
  unfold below
  split <;> decide

/-- Numbers of two different units, compared as natural numbers. -/
theorem units_le_iff (n : Nat) (p : Int) (d : Decimal) :
    n * 2 ^ p.toNat * 10 ^ (-d.exp).toNat ≤ d.coeff * 10 ^ d.exp.toNat * 2 ^ (-p).toNat ↔
      n * (2 : Rat) ^ p ≤ d.value := by
  have htwo := zpow_eq_div (b := 2) (by decide) p
  have hten := zpow_eq_div (b := 10) (by decide) d.exp
  push_cast at htwo hten
  rw [Decimal.value, htwo, hten, ← mul_div_assoc, ← mul_div_assoc,
    div_le_div_iff₀ (by positivity) (by positivity)]
  exact_mod_cast Iff.rfl

theorem le_units_iff (n : Nat) (p : Int) (d : Decimal) :
    d.coeff * 10 ^ d.exp.toNat * 2 ^ (-p).toNat ≤ n * 2 ^ p.toNat * 10 ^ (-d.exp).toNat ↔
      d.value ≤ n * (2 : Rat) ^ p := by
  have htwo := zpow_eq_div (b := 2) (by decide) p
  have hten := zpow_eq_div (b := 10) (by decide) d.exp
  push_cast at htwo hten
  rw [Decimal.value, htwo, hten, ← mul_div_assoc, ← mul_div_assoc,
    div_le_div_iff₀ (by positivity) (by positivity)]
  exact_mod_cast Iff.rfl

variable {m : Nat} {q : Int} {d : Decimal}

/-- **A decimal rounds to a double if it lies between the two midpoints**, or on one of them where
the significand is even. -/
theorem covers_iff : (Rounding.of m q).covers d = true ↔
    if m % 2 = 0 then
      (4 * m - below m q : Nat) * (2 : Rat) ^ (q - 2) ≤ d.value ∧
        d.value ≤ (4 * m + 2 : Nat) * (2 : Rat) ^ (q - 2)
    else
      (4 * m - below m q : Nat) * (2 : Rat) ^ (q - 2) < d.value ∧
        d.value < (4 * m + 2 : Nat) * (2 : Rat) ^ (q - 2) := by
  have hneg : 2 - q = -(q - 2) := by omega
  have hlow := units_le_iff (4 * m - below m q) (q - 2) d
  have hhigh := le_units_iff (4 * m + 2) (q - 2) d
  have hlow' := le_units_iff (4 * m - below m q) (q - 2) d
  have hhigh' := units_le_iff (4 * m + 2) (q - 2) d
  unfold covers Rounding.of
  simp only [Nat.pow_eq, hneg, decide_eq_true_eq]
  by_cases heven : m % 2 = 0
  · simp only [if_pos heven, Bool.and_eq_true, decide_eq_true_eq]
    exact and_congr hlow hhigh
  · simp only [if_neg heven, Bool.and_eq_true, decide_eq_true_eq]
    exact and_congr (lt_iff_lt_of_le_iff_le hlow') (lt_iff_lt_of_le_iff_le hhigh')

/-- Strictly between the midpoints everything rounds to the double. -/
theorem covers_of_lt (hlow : (4 * m - below m q : Nat) * (2 : Rat) ^ (q - 2) < d.value)
    (hhigh : d.value < (4 * m + 2 : Nat) * (2 : Rat) ^ (q - 2)) :
    (Rounding.of m q).covers d = true := by
  rw [covers_iff]
  split
  · exact ⟨hlow.le, hhigh.le⟩
  · exact ⟨hlow, hhigh⟩

/-- An odd significand leaves the midpoints to its neighbours. -/
theorem midpoints_of_covers (h : (Rounding.of m q).covers d = true) :
    (4 * m - below m q : Nat) * (2 : Rat) ^ (q - 2) ≤ d.value ∧
      d.value ≤ (4 * m + 2 : Nat) * (2 : Rat) ^ (q - 2) ∧
      (m % 2 = 1 → (4 * m - below m q : Nat) * (2 : Rat) ^ (q - 2) < d.value ∧
        d.value < (4 * m + 2 : Nat) * (2 : Rat) ^ (q - 2)) := by
  rw [covers_iff] at h
  split at h
  · exact ⟨h.1, h.2, fun hodd => by omega⟩
  · exact ⟨h.1.le, h.2.le, fun _ => h⟩

end Rounding

/-! ## One decimal, one double -/

/-- The positive doubles in their order. -/
def Precedes (m : Nat) (q : Int) (m' : Nat) (q' : Int) : Prop := q < q' ∨ q = q' ∧ m < m'

namespace Canonical

variable {m m' : Nat} {q q' : Int}

/-- The midpoint above a double is no further than the midpoint below a greater one, and nearer if
both significands are even. -/
theorem midpoint_le (h : Canonical m q) (h' : Canonical m' q') (hlt : Precedes m q m' q') :
    ((4 * m + 2 : Nat) : Rat) * 2 ^ (q - 2)
        ≤ (4 * m' - Rounding.below m' q' : Nat) * 2 ^ (q' - 2) ∧
      (m % 2 = 0 → m' % 2 = 0 → ((4 * m + 2 : Nat) : Rat) * 2 ^ (q - 2)
        < (4 * m' - Rounding.below m' q' : Nat) * 2 ^ (q' - 2)) := by
  have hunit : (0 : Rat) < 2 ^ (q - 2) := by positivity
  have hbelow := Rounding.below_le_two m' q'
  rcases hlt with hless | ⟨rfl, hless⟩
  -- with a greater exponent the unit is at least twice as large, for a significand of 53 bits
  · have hleast := h.least
    have hbits := h.bits
    have hnormal := h'.normal (by omega)
    have hlow : 2 ^ 54 - 1 ≤ 4 * m' - Rounding.below m' q' := by
      unfold Rounding.below
      split <;> omega
    obtain ⟨k, hk⟩ : ∃ k : Nat, q' = q + 1 + k := ⟨(q' - q - 1).toNat, by omega⟩
    have hscale : (2 : Rat) ^ (q' - 2) = (2 * 2 ^ k : Nat) * 2 ^ (q - 2) := by
      rw [hk, show q + 1 + k - 2 = 1 + k + (q - 2) by ring, zpow_add₀ two_ne_zero,
        zpow_one_add₀ two_ne_zero, zpow_natCast]
      push_cast
      ring
    have htwice : (2 ^ 54 - 1) * 2 ≤ (4 * m' - Rounding.below m' q') * (2 * 2 ^ k) :=
      Nat.mul_le_mul hlow (Nat.le_mul_of_pos_right 2 (by positivity))
    rw [hscale, ← mul_assoc, ← Nat.cast_mul]
    constructor
    · exact mul_le_mul_of_nonneg_right (Nat.cast_le.mpr (by omega)) hunit.le
    · intro heven _
      exact mul_lt_mul_of_pos_right (Nat.cast_lt.mpr (by omega)) hunit
  · constructor
    · exact mul_le_mul_of_nonneg_right (Nat.cast_le.mpr (by omega)) hunit.le
    · intro heven heven'
      exact mul_lt_mul_of_pos_right (Nat.cast_lt.mpr (by omega)) hunit

/-- **What rounds to a double is less than what rounds to a greater one.** -/
theorem value_lt (h : Canonical m q) (h' : Canonical m' q') (hlt : Precedes m q m' q')
    {d d' : Decimal} (hd : (Rounding.of m q).covers d = true)
    (hd' : (Rounding.of m' q').covers d' = true) : d.value < d'.value := by
  obtain ⟨hmid, hnear⟩ := h.midpoint_le h' hlt
  obtain ⟨-, hhigh, hodd⟩ := Rounding.midpoints_of_covers hd
  obtain ⟨hlow, -, hodd'⟩ := Rounding.midpoints_of_covers hd'
  -- a midpoint is left to the even one of its two neighbours
  rcases Nat.mod_two_eq_zero_or_one m with heven | hm
  · rcases Nat.mod_two_eq_zero_or_one m' with heven' | hm'
    · exact hhigh.trans_lt ((hnear heven heven').trans_le hlow)
    · exact hhigh.trans_lt (hmid.trans_lt (hodd' hm').1)
  · exact (hodd hm).2.trans_le (hmid.trans hlow)

theorem eq_of_value_eq (h : Canonical m q) (h' : Canonical m' q') {d d' : Decimal}
    (hd : (Rounding.of m q).covers d = true) (hd' : (Rounding.of m' q').covers d' = true)
    (hvalue : d.value = d'.value) : m = m' ∧ q = q' := by
  have hcases : Precedes m q m' q' ∨ (m = m' ∧ q = q') ∨ Precedes m' q' m q := by
    unfold Precedes
    omega
  rcases hcases with hlt | heq | hgt
  · exact absurd hvalue (h.value_lt h' hlt hd hd').ne
  · exact heq
  · exact absurd hvalue (h'.value_lt h hgt hd' hd).ne'

end Canonical

/-! ## Seventeen digits -/

theorem digitCount_bounds {n : Nat} (hn : 0 < n) :
    10 ^ (digitCount n - 1) ≤ n ∧ n < 10 ^ digitCount n ∧ 0 < digitCount n := by
  have hpos : 0 < (Nat.toDigits 10 n).length := Nat.length_toDigits_pos
  rw [digitCount, if_neg hn.ne']
  refine ⟨?_, (Nat.length_toDigits_le_iff (by decide) hpos).mp le_rfl, hpos⟩
  rcases Nat.eq_zero_or_pos ((Nat.toDigits 10 n).length - 1) with hzero | hmore
  · rw [hzero]
    exact hn
  · by_contra hlt
    have hle := (Nat.length_toDigits_le_iff (by decide) hmore).mpr (Nat.lt_of_not_le hlt)
    omega

/-- The power of ten of the first digit is no more than the number. -/
theorem leadingPower_le {num den : Nat} (hnum : 0 < num) (hden : 0 < den) :
    (10 : Rat) ^ leadingPower num den ≤ num / den := by
  obtain ⟨hlow, -, hpos⟩ := digitCount_bounds hnum
  obtain ⟨-, hhigh, -⟩ := digitCount_bounds hden
  have hden' : (0 : Rat) < den := by exact_mod_cast hden
  have hten := zpow_eq_div (b := 10) (by decide) ((digitCount num : Int) - digitCount den)
  push_cast at hten
  unfold leadingPower
  dsimp only [Nat.pow_eq]
  split
  · rename_i hle
    rw [hten, div_le_div_iff₀ (by positivity) hden', mul_comm]
    exact_mod_cast hle
  · have hexp : (digitCount num : Int) - digitCount den - 1
        = (digitCount num - 1 : Nat) - (digitCount den : Nat) := by omega
    rw [hexp, zpow_sub₀ (by norm_num), zpow_natCast, zpow_natCast]
    refine div_le_div₀ (by positivity) ?_ hden' ?_
    · exact_mod_cast hlow
    · exact_mod_cast hhigh.le

namespace Rounding

theorem isSome_onGrid {r : Rounding} {exp : Int} {k : Nat}
    (hk : k = (r.mid * 10 ^ (-exp).toNat) / (r.den * 10 ^ exp.toNat))
    (h : r.covers ⟨k, exp⟩ = true ∨ r.covers ⟨k + 1, exp⟩ = true) :
    (r.onGrid exp).isSome = true := by
  subst hk
  unfold onGrid
  dsimp only [Nat.pow_eq] at h ⊢
  split
  · split
    · rfl
    · split
      · rfl
      · split <;> rfl
  · rfl
  · rfl
  · simp_all

theorem isSome_firstGrid {r : Rounding} {lead : Int} {fuel n most : Nat}
    (h : (r.onGrid (lead - most + 1)).isSome = true) (hn : n ≤ most) (hfuel : most < n + fuel) :
    (r.firstGrid lead fuel n).isSome = true := by
  induction fuel generalizing n with
  | zero => omega
  | succ fuel ih =>
    rw [firstGrid]
    split
    · rfl
    · rename_i hnone
      have hne : n ≠ most := by
        rintro rfl
        simp [hnone] at h
      exact ih (by omega) (by omega)

/-- **A grid that is fine enough has a decimal that rounds to the double**: one of its two
neighbours on the grid is nearer than the midpoint. -/
theorem isSome_onGrid_of_fine {m : Nat} {q exp : Int}
    (hfine : (10 : Rat) ^ exp < (below m q + 2 : Nat) * (2 : Rat) ^ (q - 2)) (hm : 0 < m) :
    ((Rounding.of m q).onGrid exp).isSome = true := by
  have hneg : 2 - q = -(q - 2) := by omega
  have hbelow := below_le_two m q
  generalize hk : (4 * m * 2 ^ (q - 2).toNat * 10 ^ (-exp).toNat) /
    (2 ^ (2 - q).toNat * 10 ^ exp.toNat) = k
  refine isSome_onGrid (k := k) (by rw [← hk]; rfl) ?_
  have hpos : 0 < 2 ^ (2 - q).toNat * 10 ^ exp.toNat := by positivity
  -- the double lies between the two
  have hfloor : (⟨k, exp⟩ : Decimal).value ≤ (4 * m : Nat) * (2 : Rat) ^ (q - 2) := by
    rw [← le_units_iff, ← hneg]
    have hle := Nat.div_mul_le_self (4 * m * 2 ^ (q - 2).toNat * 10 ^ (-exp).toNat)
      (2 ^ (2 - q).toNat * 10 ^ exp.toNat)
    rw [hk] at hle
    calc k * 10 ^ exp.toNat * 2 ^ (2 - q).toNat
        = k * (2 ^ (2 - q).toNat * 10 ^ exp.toNat) := by ring
      _ ≤ _ := hle
  have hceil : (4 * m : Nat) * (2 : Rat) ^ (q - 2) < (⟨k + 1, exp⟩ : Decimal).value := by
    rw [← lt_iff_lt_of_le_iff_le (le_units_iff _ _ _), ← hneg]
    have hlt := Nat.lt_mul_div_succ (4 * m * 2 ^ (q - 2).toNat * 10 ^ (-exp).toNat) hpos
    rw [hk] at hlt
    calc _ < 2 ^ (2 - q).toNat * 10 ^ exp.toNat * (k + 1) := hlt
      _ = (k + 1) * 10 ^ exp.toNat * 2 ^ (2 - q).toNat := by ring
  have hstep : (⟨k + 1, exp⟩ : Decimal).value = (⟨k, exp⟩ : Decimal).value + 10 ^ exp := by
    simp only [Decimal.value]
    push_cast
    ring
  have hunit : (0 : Rat) < 2 ^ (q - 2) := by positivity
  have hlow : ((4 * m - below m q : Nat) : Rat) = 4 * m - below m q := by
    rw [Nat.cast_sub (by omega)]
    push_cast
    rfl
  by_cases hnear : (4 * m - below m q : Nat) * (2 : Rat) ^ (q - 2) < (⟨k, exp⟩ : Decimal).value
  · refine .inl (covers_of_lt hnear (hfloor.trans_lt ?_))
    exact mul_lt_mul_of_pos_right (Nat.cast_lt.mpr (by omega)) hunit
  · refine .inr (covers_of_lt (lt_of_le_of_lt ?_ hceil) ?_)
    · exact mul_le_mul_of_nonneg_right (Nat.cast_le.mpr (by omega)) hunit.le
    · rw [not_lt, hlow] at hnear
      rw [hstep]
      push_cast at hfine ⊢
      linarith only [hnear, hfine]

end Rounding

/-- With seventeen digits the grid is fine enough. -/
theorem Canonical.fine {m : Nat} {q lead : Int} (h : Canonical m q)
    (hlead : (10 : Rat) ^ lead ≤ (4 * m : Nat) * (2 : Rat) ^ (q - 2)) :
    (10 : Rat) ^ (lead - (17 : Nat) + 1)
      < (Rounding.below m q + 2 : Nat) * (2 : Rat) ^ (q - 2) := by
  have hunit : (0 : Rat) < 2 ^ (q - 2) := by positivity
  have hdigits : 4 * m < (Rounding.below m q + 2) * 10 ^ 16 := by
    have hbits := h.bits
    unfold Rounding.below
    split
    · rename_i htwo
      rw [htwo.1]
      decide
    · omega
  rw [show lead - (17 : Nat) + 1 = lead - (16 : Nat) by push_cast; ring, zpow_sub₀ (by norm_num),
    zpow_natCast, div_lt_iff₀ (by positivity)]
  calc (10 : Rat) ^ lead ≤ (4 * m : Nat) * (2 : Rat) ^ (q - 2) := hlead
    _ < ((Rounding.below m q + 2) * 10 ^ 16 : Nat) * (2 : Rat) ^ (q - 2) :=
      mul_lt_mul_of_pos_right (Nat.cast_lt.mpr hdigits) hunit
    _ = (Rounding.below m q + 2 : Nat) * (2 : Rat) ^ (q - 2) * 10 ^ 16 := by
      push_cast
      ring

/-- **The shortest decimal of a double rounds to it.** -/
theorem exists_covers_shortest {m : Nat} {q : Int} (h : Canonical m q) :
    ∃ d, (Rounding.of m q).covers d = true ∧ (shortest m q).value = d.value := by
  have hmid : ((Rounding.of m q).mid : Rat) / (Rounding.of m q).den
      = (4 * m : Nat) * (2 : Rat) ^ (q - 2) := by
    have htwo := zpow_eq_div (b := 2) (by decide) (q - 2)
    push_cast at htwo
    rw [htwo, ← mul_div_assoc, show -(q - 2) = 2 - q by ring]
    simp [Rounding.of]
  have hmidpos : 0 < (Rounding.of m q).mid :=
    Nat.mul_pos (Nat.mul_pos (by decide) h.pos) (Nat.pow_pos (by decide))
  have hdenpos : 0 < (Rounding.of m q).den := Nat.pow_pos (by decide)
  have hlead := leadingPower_le hmidpos hdenpos
  rw [hmid] at hlead
  have hgrid : ((Rounding.of m q).firstGrid (leadingPower (Rounding.of m q).mid
      (Rounding.of m q).den) 17 1).isSome = true :=
    Rounding.isSome_firstGrid (Rounding.isSome_onGrid_of_fine (h.fine hlead) h.pos) (by decide)
      (by decide)
  obtain ⟨d, hd⟩ := Option.isSome_iff_exists.mp hgrid
  refine ⟨d, Rounding.covers_of_firstGrid hd, ?_⟩
  rw [shortest, if_neg h.pos.ne']
  dsimp only
  rw [hd, Decimal.value_stripZeros]

/-- **Doubles with the same shortest decimal are the same.** -/
theorem shortest_value_injective {m m' : Nat} {q q' : Int} (h : Canonical m q)
    (h' : Canonical m' q') (hvalue : (shortest m q).value = (shortest m' q').value) :
    m = m' ∧ q = q' := by
  obtain ⟨d, hd, heq⟩ := exists_covers_shortest h
  obtain ⟨d', hd', heq'⟩ := exists_covers_shortest h'
  exact h.eq_of_value_eq h' hd hd' (by rw [← heq, ← heq', hvalue])

/-! ## Doubles -/

/-- A finite double is a zero or has a canonical significand and exponent. -/
theorem canonical_of_view {x : Binary64} {neg : Bool} {m : Nat} {q : Int}
    (h : x.view = .finite neg m q) : (m = 0 ∧ q = -1074) ∨ Canonical m q := by
  unfold view at h
  dsimp only [Nat.pow_eq] at h
  split at h
  · split at h <;> cases h
  · split at h
    · cases h
      rcases Nat.eq_zero_or_pos (x.magnitudeBits % 2 ^ 52) with hzero | hpos
      · exact .inl ⟨hzero, rfl⟩
      · exact .inr ⟨hpos, by omega, by omega, by omega⟩
    · cases h
      exact .inr ⟨by omega, by omega, by omega, by omega⟩

theorem shortest_value_pos {m : Nat} (hm : 0 < m) (q : Int) : 0 < (shortest m q).value := by
  have hpos : (0 : Rat) < (shortest m q).coeff := by exact_mod_cast (shortest_bounds hm q).1
  unfold Decimal.value
  positivity

/-- **A finite double is its sign, its significand and its exponent.** -/
theorem view_injective {x y : Binary64} (hx : x.isFinite = true) (hy : y.isFinite = true)
    (h : x.view = y.view) : x = y := by
  have hpow : Nat.pow 2 63 = 2 ^ 63 := rfl
  have hsize : x.bits.toNat < 2 ^ 64 := x.bits.toNat_lt
  have hsize' : y.bits.toNat < 2 ^ 64 := y.bits.toNat_lt
  simp only [isFinite, Nat.pow_eq, bne_iff_ne, ne_eq] at hx hy
  simp only [view, Nat.pow_eq, if_neg hx, if_neg hy] at h
  -- in either case the significand and the exponent are those of the bits below the sign
  have hview : x.isNegative = y.isNegative ∧ x.magnitudeBits = y.magnitudeBits := by
    split at h <;> split at h
    all_goals
      rw [View.finite.injEq] at h
      exact ⟨h.1, by omega⟩
  simp only [isNegative, magnitudeBits, hpow, decide_eq_decide] at hview
  have hbits : x.bits.toNat = y.bits.toNat := by omega
  cases x
  cases y
  exact congrArg mk (UInt64.toNat_inj.mp hbits)

end TenantReports.Binary64
