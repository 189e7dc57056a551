import TenantReports.Proofs.Binary64.Shortest
import TenantReports.Proofs.Json.RoundTrip

/-!
# The texts of doubles are read

A reader finds a number in the text of every double, whatever comes after it. With a negative power
of ten nothing can fail. With another one the number must not be rounded to an infinity, which the
shortest decimal is not, though the reader rounds three times.

## Main definitions

* `Json.NumberReadOff`: a text at the start of any characters that is read as one number

## Main results

* `Json.numberReadOff_positional`, `Json.numberReadOff_scientific`: the two notations
* `Json.exists_readOff_double`: the text of a double is read
-/

namespace TenantReports.Json

open Binary64 (digitValue digitsValue)

/-! ## Digits -/

theorem digitValue_le {c : Char} (hc : c.isDigit = true) : digitValue c ≤ 9 := by
  have hnine : '9'.toNat = 57 := rfl
  have hzero : '0'.toNat = 48 := rfl
  simp only [Char.isDigit, Bool.and_eq_true, decide_eq_true_eq] at hc
  have hle : c.toNat ≤ '9'.toNat := hc.2
  unfold digitValue
  omega

/-- Digits after a point end where the digits end. -/
theorem scanFraction_append {ds rest : List Char} (hds : ∀ c ∈ ds, c.isDigit = true)
    (hrest : EndsDigits rest) (s : Nat) (p : Int) :
    scanFraction s p (ds ++ rest)
      = ⟨(scanFraction s p ds).significand, (scanFraction s p ds).power, rest⟩ := by
  induction ds generalizing s p with
  | nil =>
    cases rest with
    | nil => rfl
    | cons c rest => simp [scanFraction, hrest c rfl]
  | cons c ds ih =>
    rw [List.forall_mem_cons] at hds
    rw [List.cons_append, scanFraction, scanFraction, if_pos hds.1, if_pos hds.1]
    dsimp only
    split
    · rw [List.dropWhile_append_of_pos (by simpa using hds.2)]
      cases rest with
      | nil => rfl
      | cons c rest => rw [List.dropWhile_cons_of_neg (by simp [hrest c rfl])]
    · exact ih hds.2 _ _

theorem scanFraction_power_le (ds : List Char) (s : Nat) (p : Int) :
    (scanFraction s p ds).power ≤ p := by
  induction ds generalizing s p with
  | nil => exact le_refl p
  | cons c ds ih =>
    rw [scanFraction]
    dsimp only
    split
    · split
      · exact le_refl p
      · exact (ih _ _).trans (by omega)
    · exact le_refl p

/-- A digit that fits lowers the power. -/
theorem scanFraction_power_lt {c : Char} (hc : c.isDigit = true) (ds : List Char) {s : Nat}
    (hs : s < 10 ^ 16) (p : Int) : (scanFraction s p (c :: ds)).power < p := by
  have hle := digitValue_le hc
  have hlimit : significandLimit = 2 ^ 64 - 1 := rfl
  rw [scanFraction, if_pos hc]
  dsimp only
  rw [if_neg (by omega)]
  exact (scanFraction_power_le ds _ _).trans_lt (by omega)

theorem le_scanFraction_significand (ds : List Char) (s : Nat) (p : Int) :
    s ≤ (scanFraction s p ds).significand := by
  induction ds generalizing s p with
  | nil => exact le_refl s
  | cons c ds ih =>
    rw [scanFraction]
    dsimp only
    split
    · split
      · exact le_refl s
      · exact le_trans (by omega) (ih _ _)
    · exact le_refl s

theorem ofDigitChars_le_mul_pow (ds : List Char) (n : Nat) :
    n * 10 ^ ds.length ≤ Nat.ofDigitChars 10 ds n := by
  induction ds generalizing n with
  | nil => simp
  | cons c ds ih =>
    rw [Nat.ofDigitChars_cons, List.length_cons]
    refine le_trans ?_ (ih _)
    calc n * 10 ^ (ds.length + 1) = 10 * n * 10 ^ ds.length := by ring
      _ ≤ (10 * n + (c.toNat - '0'.toNat)) * 10 ^ ds.length :=
        Nat.mul_le_mul_right _ (Nat.le_add_right _ _)

theorem ofDigitChars_lt_pow {ds : List Char} (hds : ∀ c ∈ ds, c.isDigit = true) (n : Nat) :
    Nat.ofDigitChars 10 ds n < (n + 1) * 10 ^ ds.length := by
  induction ds generalizing n with
  | nil => simp
  | cons c ds ih =>
    rw [List.forall_mem_cons] at hds
    have hle : c.toNat - '0'.toNat ≤ 9 := digitValue_le hds.1
    rw [Nat.ofDigitChars_cons, List.length_cons]
    refine (ih hds.2 _).trans_le ?_
    calc (10 * n + (c.toNat - '0'.toNat) + 1) * 10 ^ ds.length
        ≤ (10 * n + 10) * 10 ^ ds.length := Nat.mul_le_mul_right _ (by omega)
      _ = (n + 1) * 10 ^ (ds.length + 1) := by ring

/-- What is scanned of digits is no more than they denote. -/
theorem scanFraction_le (ds : List Char) (hds : ∀ c ∈ ds, c.isDigit = true) (s : Nat) (p : Int) :
    ((scanFraction s p ds).significand : Rat) * (10 : Rat) ^ (scanFraction s p ds).power
      ≤ Nat.ofDigitChars 10 ds s * (10 : Rat) ^ (p - ds.length) := by
  induction ds generalizing s p with
  | nil => simp [scanFraction]
  | cons c ds ih =>
    rw [List.forall_mem_cons] at hds
    rw [scanFraction, if_pos hds.1]
    dsimp only
    split
    · have hle : ((s * 10 ^ (c :: ds).length : Nat) : Rat) ≤ Nat.ofDigitChars 10 (c :: ds) s := by
        exact_mod_cast ofDigitChars_le_mul_pow (c :: ds) s
      push_cast at hle
      rw [zpow_sub₀ (by norm_num), zpow_natCast, ← mul_div_assoc, le_div_iff₀ (by positivity),
        mul_right_comm]
      exact mul_le_mul_of_nonneg_right hle (by positivity)
    · refine (ih hds.2 _ _).trans_eq ?_
      rw [Nat.ofDigitChars_cons, List.length_cons, digitValue]
      push_cast
      congr 2
      ring

/-! ## Powers of ten -/

/-- A negative power of ten loses what it has to, and never fails. -/
theorem isSome_scaleByTen?_of_neg (x : Binary64) {p : Int} (hp : p < 0) :
    (scaleByTen? x p).isSome = true := by
  obtain ⟨n, rfl⟩ : ∃ n : Nat, p = -(n : Int) := ⟨(-p).toNat, by omega⟩
  induction n using Nat.strongRecOn generalizing x with
  | _ n ih =>
    rw [scaleByTen?, if_neg (by omega)]
    split
    · rfl
    · split
      · rfl
      · rw [show -(n : Int) + 308 = -((n - 308 : Nat) : Int) by omega]
        exact ih (n - 308) (by omega) _ (by omega)

/-- Below where rounding gives an infinity there are no more than 309 digits. -/
theorem lt_of_pow_lt_overflow {n : Nat} (h : (10 : Rat) ^ n < Binary64.overflow) : n < 309 := by
  have hten : (2 : Rat) ^ (1024 : Int) ≤ 10 ^ 309 := by
    calc (2 : Rat) ^ (1024 : Int) = (2 ^ 128) ^ 8 := by rw [← pow_mul]; rfl
      _ ≤ (4 * 10 ^ 38) ^ 8 := by gcongr; norm_num
      _ = 4 ^ 8 * 10 ^ 304 := by rw [mul_pow, ← pow_mul]
      _ ≤ 10 ^ 5 * 10 ^ 304 := by gcongr; norm_num
      _ = 10 ^ 309 := by rw [← pow_add]
  exact (pow_lt_pow_iff_right₀ (by norm_num)).mp ((h.trans Binary64.overflow_lt).trans_le hten)

/-- Another one does not fail below where rounding gives an infinity. -/
theorem isSome_scaleByTen? {s : Nat} (hs : 0 < s) {p : Int}
    (hlt : (s : Rat) * (10 : Rat) ^ p * (1 + 1 / 2 ^ 53) ^ 2 < Binary64.overflow) :
    (scaleByTen? (.ofNat s) p).isSome = true := by
  rcases Int.lt_or_le p 0 with hneg | hnonneg
  · exact isSome_scaleByTen?_of_neg _ hneg
  obtain ⟨n, rfl⟩ := Int.eq_ofNat_of_zero_le hnonneg
  rw [zpow_natCast] at hlt
  have hs' : (1 : Rat) ≤ s := by exact_mod_cast hs
  have hn : n < 309 := by
    refine lt_of_pow_lt_overflow (lt_of_le_of_lt ?_ hlt)
    rw [mul_assoc, mul_left_comm]
    refine le_mul_of_one_le_right (by positivity) (one_le_mul_of_one_le_of_one_le hs' ?_)
    norm_num
  have hfinite := Binary64.mul_ofNat_finite (n := 10 ^ n) hs (by positivity) (by
    push_cast
    exact hlt)
  rw [scaleByTen?, if_pos hnonneg, if_neg (by omega)]
  dsimp only [Int.toNat_natCast, Nat.pow_eq]
  rw [hfinite]
  rfl

/-! ## The two notations -/

/-- A text at the start of any characters that is read as one number. -/
def NumberReadOff (neg : Bool) (cs : List Char) : Prop :=
  ∃ j, ∀ rest, EndsNumber rest → unsignedNumber? neg (cs ++ rest) = some (j, rest)

theorem isSome_doubleOf? (neg : Bool) {s : Nat} {p : Int}
    (h : (scaleByTen? (.ofNat s) p).isSome = true) : (doubleOf? neg s p).isSome = true := by
  rwa [doubleOf?, Option.isSome_map]

/-- What begins with digits is read by them first. -/
theorem unsignedNumber?_digits (neg : Bool) {whole rest : List Char}
    (hwhole : whole = ['0'] ∨ whole ≠ [] ∧ whole.head? ≠ some '0')
    (hdigits : ∀ c ∈ whole, c.isDigit = true) (hrest : EndsDigits rest)
    (hlength : whole.length ≤ 16) :
    unsignedNumber? neg (whole ++ rest)
      = unsignedNumber?.afterWhole neg ⟨Nat.ofDigitChars 10 whole 0, 0, rest⟩ := by
  obtain rfl | ⟨hne, hhead⟩ := hwhole
  · cases rest with
    | nil => rfl
    | cons c rest =>
      rw [List.singleton_append, unsignedNumber?, hrest c rfl]
      rfl
  have hlt := ofDigitChars_lt_pow hdigits 0
  have hpow : 10 ^ whole.length ≤ 10 ^ 16 := Nat.pow_le_pow_right (by decide) hlength
  have hlimit : significandLimit = 2 ^ 64 - 1 := rfl
  have hscan := scanWhole_digits hdigits hrest (s := 0) (by omega)
  obtain ⟨c, cs, rfl⟩ := List.exists_cons_of_ne_nil hne
  rw [List.cons_append] at hscan ⊢
  rw [unsignedNumber?, if_pos (hdigits c List.mem_cons_self), hscan]
  rintro _ _ rfl
  exact absurd rfl hhead

/-- **Digits on both sides of a point** are read as a number. -/
theorem numberReadOff_positional (neg : Bool) {whole fraction : List Char}
    (hwhole : whole = ['0'] ∨ whole ≠ [] ∧ whole.head? ≠ some '0')
    (hdigits : ∀ c ∈ whole, c.isDigit = true) (hlength : whole.length ≤ 16)
    (hne : fraction ≠ []) (hfraction : ∀ c ∈ fraction, c.isDigit = true) :
    NumberReadOff neg (whole ++ '.' :: fraction) := by
  obtain ⟨c, cs, rfl⟩ := List.exists_cons_of_ne_nil hne
  have hc := hfraction c List.mem_cons_self
  have hvalue : Nat.ofDigitChars 10 whole 0 < 10 ^ 16 := by
    have hlt := ofDigitChars_lt_pow hdigits 0
    have hpow : 10 ^ whole.length ≤ 10 ^ 16 := Nat.pow_le_pow_right (by decide) hlength
    omega
  have hneg := scanFraction_power_lt hc cs hvalue 0
  obtain ⟨j, hj⟩ := Option.isSome_iff_exists.mp
    (isSome_doubleOf? neg (isSome_scaleByTen?_of_neg
      (.ofNat (scanFraction (Nat.ofDigitChars 10 whole 0) 0 (c :: cs)).significand) hneg))
  refine ⟨j, fun rest hrest => ?_⟩
  have hscan := scanFraction_append hfraction hrest.endsDigits (Nat.ofDigitChars 10 whole 0) 0
  rw [List.append_assoc, unsignedNumber?_digits neg hwhole hdigits
    (by rintro _ ⟨⟩; decide) hlength, List.cons_append, List.cons_append,
    unsignedNumber?.afterWhole]
  simp only
  rw [if_pos hc, ← List.cons_append, hscan, scanTail?]
  cases rest with
  | nil => simp only [hj, Option.map_some]
  | cons r rest =>
    obtain ⟨-, -, he, hE⟩ := hrest r rfl
    split <;> simp_all

/-- Characters of a class end where the next one is not of it. -/
theorem takeWhile_dropWhile_append {p : Char → Bool} {cs rest : List Char}
    (hcs : ∀ c ∈ cs, p c = true) (hrest : ∀ c ∈ rest.head?, p c = false) :
    (cs ++ rest).takeWhile p = cs ∧ (cs ++ rest).dropWhile p = rest := by
  rw [List.takeWhile_append_of_pos hcs, List.dropWhile_append_of_pos hcs]
  cases rest with
  | nil => simp
  | cons c rest => simp [hrest c rfl]

/-- An exponent is read where it shifts the power of ten to one that can be applied. -/
theorem exists_scanExponent? (neg down : Bool) (e : Nat) {s : Nat} {p : Int}
    (hread : if down then p < e
      else e ≤ exponentLimit ∧ (scaleByTen? (.ofNat s) (p + e)).isSome = true) :
    ∃ j, ∀ tail rest, EndsDigits rest → scanExponent? neg ⟨s, p, tail⟩
      ((if down then '-' else '+') :: (Nat.toDigits 10 e ++ rest)) = some (j, rest) := by
  have hdigits : ∀ c ∈ Nat.toDigits 10 e, c.isDigit = true := fun c hc =>
    Nat.isDigit_of_mem_toDigits (by decide) (by decide) hc
  have hvalue : digitsValue 0 (Nat.toDigits 10 e) = e := Nat.ofDigitChars_ten_toDigits
  have hnonempty : (Nat.toDigits 10 e).isEmpty = false := by simp
  have hsome : exponentLimit < e ∧ down = true ∨ e ≤ exponentLimit ∧
      (scaleByTen? (.ofNat s) (p + if down then -(e : Int) else e)).isSome = true := by
    cases down with
    | true =>
      rcases Nat.lt_or_ge exponentLimit e with hlarge | hsmall
      · exact .inl ⟨hlarge, rfl⟩
      · refine .inr ⟨hsmall, isSome_scaleByTen?_of_neg _ ?_⟩
        simp only [if_true] at hread ⊢
        omega
    | false => exact .inr hread
  obtain ⟨hlarge, rfl⟩ | ⟨hsmall, hsome⟩ := hsome
  · refine ⟨.double (.zero neg), fun tail rest hrest => ?_⟩
    obtain ⟨htake, hdrop⟩ := takeWhile_dropWhile_append hdigits hrest
    simp [scanExponent?, htake, hdrop, hnonempty, hvalue, hlarge]
  · obtain ⟨j, hj⟩ := Option.isSome_iff_exists.mp (isSome_doubleOf? neg hsome)
    refine ⟨j, fun tail rest hrest => ?_⟩
    obtain ⟨htake, hdrop⟩ := takeWhile_dropWhile_append hdigits hrest
    cases down
    all_goals
      simp only [Bool.false_eq_true, if_false, if_true] at hj ⊢
      simp [scanExponent?, htake, hdrop, hnonempty, hvalue, hsmall.not_gt, hj]

/-- **A digit with a fraction and an exponent** is read as a number. -/
theorem numberReadOff_scientific (neg down : Bool) (e : Nat) {c : Char} {fraction : List Char}
    (hc : c.isDigit = true) (hzero : c ≠ '0') (hfraction : ∀ c ∈ fraction, c.isDigit = true)
    (hread : if down then 0 < e
      else e ≤ exponentLimit ∧
        (scaleByTen? (.ofNat (scanFraction (digitValue c) 0 fraction).significand)
          ((scanFraction (digitValue c) 0 fraction).power + e)).isSome = true) :
    NumberReadOff neg (c :: ((if fraction.isEmpty then [] else '.' :: fraction) ++
      'e' :: (if down then '-' else '+') :: Nat.toDigits 10 e)) := by
  have hpower := scanFraction_power_le fraction (digitValue c) 0
  obtain ⟨j, hj⟩ := exists_scanExponent? neg down e
    (s := (scanFraction (digitValue c) 0 fraction).significand)
    (p := (scanFraction (digitValue c) 0 fraction).power) (by
      cases down with
      | true =>
        simp only [if_true] at hread ⊢
        omega
      | false => exact hread)
  refine ⟨j, fun rest hrest => ?_⟩
  have hwhole : ∀ cs, EndsDigits cs →
      unsignedNumber? neg (c :: cs) = unsignedNumber?.afterWhole neg ⟨digitValue c, 0, cs⟩ := by
    intro cs hcs
    have hvalue : Nat.ofDigitChars 10 [c] 0 = digitValue c := by
      rw [Nat.ofDigitChars_cons, Nat.ofDigitChars_nil]
      exact Nat.zero_add _
    have hfirst : [c] ≠ [] ∧ [c].head? ≠ some '0' := by simpa using hzero
    rw [← hvalue]
    exact unsignedNumber?_digits neg (.inr hfirst) (by simpa using hc) hcs (by simp)
  cases fraction with
  | nil =>
    simp only [List.isEmpty_nil, if_true, List.nil_append, List.cons_append]
    rw [hwhole _ (by rintro _ ⟨⟩; decide)]
    exact hj _ _ hrest.endsDigits
  | cons d ds =>
    have hscan := scanFraction_append hfraction
      (show EndsDigits ('e' :: (if down then '-' else '+') :: (Nat.toDigits 10 e ++ rest)) by
        rintro _ ⟨⟩; decide) (digitValue c) 0
    simp only [List.isEmpty_cons, Bool.false_eq_true, if_false, List.cons_append,
      List.append_assoc] at hscan ⊢
    rw [hwhole _ (by rintro _ ⟨⟩; decide), unsignedNumber?.afterWhole]
    simp only
    rw [if_pos (hfraction d List.mem_cons_self), hscan]
    exact hj _ _ hrest.endsDigits

/-! ## Decimals -/

/-- What is read of digits with a point after the first one. -/
def scanDigits : List Char → Scan
  | [] => ⟨0, 0, []⟩
  | c :: cs => scanFraction (digitValue c) 0 cs

/-- The exponent of a decimal can be applied to its digits. -/
def ExponentReads (d : Decimal) : Prop :=
  d.leading ≤ exponentLimit ∧
    (scaleByTen? (.ofNat (scanDigits d.digits).significand)
      ((scanDigits d.digits).power + d.leading)).isSome = true

instance (d : Decimal) : Decidable (ExponentReads d) := inferInstanceAs (Decidable (_ ∧ _))

theorem isDigit_of_mem_digits {d : Decimal} {c : Char} (hc : c ∈ d.digits) : c.isDigit = true :=
  Nat.isDigit_of_mem_toDigits (by decide) (by decide) hc

/-- The digits of a positive decimal begin with one that is not zero. -/
theorem exists_digits_cons {d : Decimal} (hd : 0 < d.coeff) :
    ∃ c cs, d.digits = c :: cs ∧ c.isDigit = true ∧ c ≠ '0' := by
  obtain ⟨c, cs, hcs, hc⟩ := exists_digit_cons d.coeff
  refine ⟨c, cs, hcs, hc, ?_⟩
  have hhead := head?_toDigits hd
  rw [hcs] at hhead
  simpa using hhead

theorem exponentReads_of_lt_overflow {d : Decimal} (hd : 0 < d.coeff) (hlead : 0 ≤ d.leading)
    (hlt : d.value * (1 + 1 / 2 ^ 53) ^ 2 < Binary64.overflow) : ExponentReads d := by
  obtain ⟨c, cs, hcs, hc, hzero⟩ := exists_digits_cons hd
  have hfirst : 0 < digitValue c := by
    have hne : c.toNat ≠ '0'.toNat := fun h => hzero (Char.toNat_inj.mp h)
    have hle : '0'.toNat ≤ c.toNat := by
      simp only [Char.isDigit, Bool.and_eq_true, decide_eq_true_eq] at hc
      exact hc.1
    unfold digitValue
    omega
  have hcoeff : Nat.ofDigitChars 10 cs (digitValue c) = d.coeff := by
    rw [← Nat.ofDigitChars_ten_toDigits (n := d.coeff), ← Decimal.digits, hcs,
      Nat.ofDigitChars_cons, Nat.mul_zero, Nat.zero_add, digitValue]
  have hleading : d.leading = d.exp + cs.length := by
    rw [Decimal.leading, hcs, List.length_cons]
    omega
  have hscan := scanFraction_le cs (fun c' hc' => isDigit_of_mem_digits
    (hcs ▸ List.mem_cons_of_mem c hc')) (digitValue c) 0
  have hpos := hfirst.trans_le (le_scanFraction_significand cs (digitValue c) 0)
  have hvalue : d.value = d.coeff * (10 : Rat) ^ ((0 : Int) - cs.length) * 10 ^ d.leading := by
    rw [Decimal.value, hleading, mul_assoc, ← zpow_add₀ (by norm_num)]
    congr 2
    omega
  rw [hcoeff] at hscan
  have hsmall := mul_le_mul_of_nonneg_right hscan (show (0 : Rat) ≤ 10 ^ d.leading by positivity)
  rw [← hvalue, mul_assoc, ← zpow_add₀ (by norm_num)] at hsmall
  unfold ExponentReads
  rw [hcs, scanDigits]
  refine ⟨?_, isSome_scaleByTen? hpos
    ((mul_le_mul_of_nonneg_right hsmall (by positivity)).trans_lt hlt)⟩
  -- the first digit alone has that power of ten
  have hcoeffLow : (10 : Rat) ^ cs.length ≤ d.coeff := by
    have hle := ofDigitChars_le_mul_pow cs (digitValue c)
    rw [hcoeff] at hle
    exact_mod_cast (Nat.le_mul_of_pos_left _ hfirst).trans hle
  have hone : (1 : Rat) ≤ d.coeff * (10 : Rat) ^ ((0 : Int) - cs.length) := by
    rw [zpow_sub₀ (by norm_num), zpow_zero, zpow_natCast, mul_one_div, le_div_iff₀ (by positivity),
      one_mul]
    exact hcoeffLow
  have hlow : (10 : Rat) ^ d.leading ≤ d.value * (1 + 1 / 2 ^ 53) ^ 2 := by
    rw [hvalue, mul_right_comm]
    exact le_mul_of_one_le_left (by positivity)
      (one_le_mul_of_one_le_of_one_le hone (by norm_num))
  obtain ⟨n, hn⟩ := Int.eq_ofNat_of_zero_le hlead
  rw [hn, zpow_natCast] at hlow
  have hlimit : exponentLimit = 2 ^ 31 - 1 := rfl
  have hsmall := lt_of_pow_lt_overflow (hlow.trans_lt hlt)
  omega

theorem exponentReads_largest : ∀ m ∈ [2 ^ 53 - 3, 2 ^ 53 - 2, 2 ^ 53 - 1],
    ExponentReads (Binary64.shortest m 971) := by
  decide +kernel

/-- **The shortest decimal of a double has an exponent that can be applied.** -/
theorem exponentReads_shortest {m : Nat} {q : Int} (hm : 0 < m) (hbits : m < 2 ^ 53)
    (hq : q ≤ 971) (hlead : 0 ≤ (Binary64.shortest m q).leading) :
    ExponentReads (Binary64.shortest m q) := by
  by_cases htop : q = 971 ∧ 2 ^ 53 - 3 ≤ m
  · obtain ⟨rfl, hge⟩ := htop
    exact exponentReads_largest m (by simp only [List.mem_cons]; omega)
  · exact exponentReads_of_lt_overflow (Binary64.shortest_bounds hm q).1 hlead
      (Binary64.shortest_lt_overflow hm hbits hq (by omega))

theorem isDigit_of_mem_zeros {n : Nat} {c : Char} (hc : c ∈ List.replicate n '0') :
    c.isDigit = true := by
  rw [List.eq_of_mem_replicate hc]
  rfl

/-- **A positive decimal is read** as it is written. -/
theorem numberReadOff_write (neg : Bool) {d : Decimal} (hd : 0 < d.coeff)
    (hread : 0 ≤ d.leading → ExponentReads d) : NumberReadOff neg (NumberStyle.json.write d) := by
  obtain ⟨c, cs, hcs, hc, hzero⟩ := exists_digits_cons hd
  have hdigits : ∀ c' ∈ c :: cs, c'.isDigit = true := fun c' hc' =>
    isDigit_of_mem_digits (hcs ▸ hc')
  unfold NumberStyle.write
  dsimp only
  rw [hcs]
  split
  · rename_i hpositional
    split
    -- a point after a zero
    · refine numberReadOff_positional neg (.inl rfl) (by simp) (by simp) (by simp) ?_
      exact List.forall_mem_append.mpr ⟨fun _ => isDigit_of_mem_zeros, hdigits⟩
    -- a point after whole digits
    · rename_i hnonneg
      have hhigh : d.leading ≤ 15 := hpositional.2
      have hlength : (List.take (d.leading.toNat + 1) (c :: cs) ++
          List.replicate (d.leading.toNat + 1 - (c :: cs).length) '0').length ≤ 16 := by
        rw [List.length_append, List.length_take, List.length_replicate]
        omega
      refine numberReadOff_positional neg (.inr ⟨by simp, by simpa using hzero⟩) ?_ hlength ?_ ?_
      · exact List.forall_mem_append.mpr
          ⟨fun c' hc' => hdigits c' (List.mem_of_mem_take hc'), fun _ => isDigit_of_mem_zeros⟩
      · split
        · simp
        · rename_i hfraction
          simpa using hfraction
      · split
        · simp
        · exact fun c' hc' => hdigits c' (List.mem_of_mem_drop hc')
  · rename_i hexponent
    have hscientific := numberReadOff_scientific neg (decide (d.leading < 0)) d.leading.natAbs hc
      hzero (fun c' hc' => hdigits c' (List.mem_cons_of_mem c hc'))
    have hsign : (if d.leading < 0 then ['-'] else if NumberStyle.json.plus then ['+'] else []) =
        [if decide (d.leading < 0) then '-' else '+'] := by
      by_cases hneg : d.leading < 0 <;> simp [hneg, NumberStyle.json]
    rw [hsign]
    refine hscientific ?_
    rcases Int.lt_or_le d.leading 0 with hneg | hnonneg
    · rw [if_pos (decide_eq_true hneg)]
      omega
    · have hreads := hread hnonneg
      rw [ExponentReads, hcs, scanDigits] at hreads
      rw [if_neg (by simpa using hnonneg), Int.natAbs_of_nonneg hnonneg]
      exact ⟨by omega, hreads.2⟩

/-! ## Doubles -/

theorem view_of_isFinite {x : Binary64} (h : x.isFinite = true) :
    ∃ neg m q, x.view = .finite neg m q ∧ m < 2 ^ 53 ∧ q ≤ 971 := by
  have hpow : Nat.pow 2 52 = 2 ^ 52 := rfl
  have hbits : x.magnitudeBits < 2 ^ 63 := Nat.mod_lt _ (by decide)
  simp only [Binary64.isFinite, hpow, bne_iff_ne] at h
  unfold Binary64.view
  dsimp only
  rw [hpow, if_neg h]
  split
  · exact ⟨_, _, _, rfl, by omega, by omega⟩
  · exact ⟨_, _, _, rfl, by omega, by omega⟩

/-- The text of a finite double is that of a number, with a sign or without. -/
theorem toText_json {x : Binary64} (h : x.isFinite = true) :
    ∃ neg cs, (x.toText .json).toList = (if neg then '-' :: cs else cs) ∧
      NumberReadOff neg cs := by
  obtain ⟨neg, m, q, hview, hbits, hq⟩ := view_of_isFinite h
  rw [Binary64.toText, hview]
  dsimp only
  rw [String.toList_ofList]
  refine ⟨neg, _, rfl, ?_⟩
  rcases Nat.eq_zero_or_pos m with rfl | hm
  · rw [if_pos rfl]
    exact numberReadOff_positional neg (.inl rfl) (by simp) (by simp) (by simp) (by simp)
  · rw [if_neg hm.ne']
    exact numberReadOff_write neg (Binary64.shortest_bounds hm q).1
      (exponentReads_shortest hm hbits hq)

/-- A number without its sign begins with a digit. -/
theorem exists_digit_of_unsignedNumber? {neg : Bool} {cs : List Char} {j : Json × List Char}
    (h : unsignedNumber? neg cs = some j) : ∃ c tail, cs = c :: tail ∧ c.isDigit = true := by
  unfold unsignedNumber? at h
  split at h
  · exact ⟨_, _, rfl, rfl⟩
  · split at h
    · exact ⟨_, _, rfl, ‹_›⟩
    · cases h
  · cases h

theorem NumberReadOff.exists_cons {neg : Bool} {cs : List Char} (h : NumberReadOff neg cs) :
    ∃ c tail, cs = c :: tail ∧ c.isDigit = true := by
  obtain ⟨j, hj⟩ := h
  have hread := hj [] (by rintro c ⟨⟩)
  rw [List.append_nil] at hread
  exact exists_digit_of_unsignedNumber? hread

/-- **The text of a double is read**, whatever comes after it. -/
theorem exists_readOff_double (x : Binary64) : ∃ j, ∀ depth, ReadOff depth (.double x) j := by
  by_cases hx : x.isFinite = true
  · obtain ⟨neg, cs, htext, hread⟩ := toText_json hx
    obtain ⟨c, tail, rfl, hdigit⟩ := hread.exists_cons
    obtain ⟨j, hj⟩ := hread
    refine ⟨j, fun depth rest hrest => ?_⟩
    rw [compactChars, doubleText, if_pos hx, htext]
    cases neg with
    | true =>
      rw [if_pos rfl, List.cons_append, value?_of_number (.inr rfl)]
      exact hj rest hrest
    | false =>
      rw [if_neg (by simp), List.cons_append, value?_of_number (.inl hdigit), number?,
        ← List.cons_append]
      · exact hj rest hrest
      · rintro _ hminus
        cases hminus
        cases hdigit
  · refine ⟨.null, fun depth rest hrest => ?_⟩
    rw [compactChars, doubleText, if_neg hx]
    exact readOff_null rest hrest

end TenantReports.Json
