import TenantReports.Proofs.Binary64.Apart
import TenantReports.Proofs.Json.Doubles

/-!
# Numerals

A decimal is written with a point or with an exponent. In either notation the text says which number
it is, so the texts of two finite doubles are different: their shortest decimals are.

## Main definitions

* `Json.Denotes`: the text of a number without its sign, and the number

## Main results

* `Json.denotes_write`: what is written of a decimal denotes it
* `Json.Denotes.unique`: a text denotes one number only
* `Json.toText_injective`: the texts of finite doubles tell them apart
-/

namespace TenantReports.Json

/-- The text of a number without its sign, and the number: digits on both sides of a point, or a
digit with a fraction and an exponent. -/
inductive Denotes : List Char → Rat → Prop
  | positional (whole fraction : List Char) (hne : whole ≠ [])
      (hwhole : ∀ c ∈ whole, c.isDigit = true) (hfraction : ∀ c ∈ fraction, c.isDigit = true) :
    Denotes (whole ++ '.' :: fraction)
      (Nat.ofDigitChars 10 (whole ++ fraction) 0 * (10 : Rat) ^ (-(fraction.length : Int)))
  | scientific {c : Char} {fraction : List Char} (hc : c.isDigit = true)
      (hfraction : ∀ c ∈ fraction, c.isDigit = true) (e : Int) :
    Denotes ((c :: if fraction.isEmpty then [] else '.' :: fraction) ++
        'e' :: (if e < 0 then '-' else '+') :: Nat.toDigits 10 e.natAbs)
      (Nat.ofDigitChars 10 (c :: fraction) 0 * (10 : Rat) ^ (e - fraction.length))

/-! ## Decimals -/

theorem ofDigitChars_digits (d : Decimal) : Nat.ofDigitChars 10 d.digits 0 = d.coeff :=
  Nat.ofDigitChars_ten_toDigits

/-- A decimal is its coefficient with a point after the first digit, times that digit's power. -/
theorem exp_eq_leading (d : Decimal) : d.exp = d.leading + 1 - d.digits.length := by
  unfold Decimal.leading
  omega

/-- Zeros after the point, and the digits after them. -/
theorem denotes_below_one {d : Decimal} (hneg : d.leading < 0) :
    Denotes ('0' :: '.' :: (List.replicate (-d.leading - 1).toNat '0' ++ d.digits)) d.value := by
  have hfraction : ∀ c ∈ List.replicate (-d.leading - 1).toNat '0' ++ d.digits,
      c.isDigit = true :=
    List.forall_mem_append.mpr ⟨fun _ => isDigit_of_mem_zeros, fun _ => isDigit_of_mem_digits⟩
  have hdenotes := Denotes.positional ['0'] _ (by simp) (by simp) hfraction
  have hvalue : Nat.ofDigitChars 10
      (['0'] ++ (List.replicate (-d.leading - 1).toNat '0' ++ d.digits)) 0 = d.coeff := by
    rw [List.singleton_append, Nat.ofDigitChars_cons, Nat.ofDigitChars_append,
      Nat.ofDigitChars_replicate_zero]
    exact ofDigitChars_digits d
  have hexp : d.exp = -((((-d.leading - 1).toNat + d.digits.length : Nat)) : Int) := by
    have hleading := exp_eq_leading d
    omega
  rw [hvalue, List.length_append, List.length_replicate, ← hexp] at hdenotes
  exact hdenotes

/-- The point among the digits, or after them and as many zeros as it takes. -/
theorem denotes_positional {d : Decimal} (hd : 0 < d.coeff) (hnonneg : 0 ≤ d.leading) :
    Denotes (d.digits.take (d.leading.toNat + 1) ++
      List.replicate (d.leading.toNat + 1 - d.digits.length) '0' ++ '.' ::
        (if (d.digits.drop (d.leading.toNat + 1)).isEmpty then ['0']
          else d.digits.drop (d.leading.toNat + 1))) d.value := by
  have hleading := exp_eq_leading d
  have hdigits : ∀ c ∈ d.digits, c.isDigit = true := fun _ => isDigit_of_mem_digits
  obtain ⟨c, cs, hcs, -, -⟩ := exists_digits_cons hd
  have hne : d.digits ≠ [] := by simp [hcs]
  obtain ⟨whole, hwhole⟩ : ∃ whole, d.leading.toNat + 1 = whole := ⟨_, rfl⟩
  rw [hwhole, Decimal.value]
  by_cases hlong : whole < d.digits.length
  · have hempty : (d.digits.drop whole).isEmpty = false := by simpa using hlong
    have hdenotes := Denotes.positional (d.digits.take whole) (d.digits.drop whole)
      (by simp [hne]; omega)
      (fun c hc => hdigits c (List.mem_of_mem_take hc))
      (fun c hc => hdigits c (List.mem_of_mem_drop hc))
    have hexp : d.exp = -((d.digits.length - whole : Nat) : Int) := by omega
    rw [List.take_append_drop, ofDigitChars_digits, List.length_drop, ← hexp] at hdenotes
    rw [hempty, Nat.sub_eq_zero_of_le hlong.le, List.replicate_zero, List.append_nil]
    exact hdenotes
  · have hshort : d.digits.length ≤ whole := Nat.le_of_not_lt hlong
    have hdenotes := Denotes.positional
      (d.digits ++ List.replicate (whole - d.digits.length) '0') ['0']
      (by simp [hne]) (List.forall_mem_append.mpr ⟨hdigits, fun _ => isDigit_of_mem_zeros⟩)
      (by simp)
    have hcoeff : Nat.ofDigitChars 10
        (d.digits ++ List.replicate (whole - d.digits.length) '0' ++ ['0']) 0
        = 10 * (10 ^ (whole - d.digits.length) * d.coeff) := by
      rw [Nat.ofDigitChars_append, Nat.ofDigitChars_append, Nat.ofDigitChars_replicate_zero,
        ofDigitChars_digits, Nat.ofDigitChars_cons, Nat.ofDigitChars_nil]
      rfl
    have hexp : d.exp = (whole - d.digits.length : Nat) := by omega
    have hvalue : ((10 * (10 ^ (whole - d.digits.length) * d.coeff) : Nat) : Rat)
        * 10 ^ (-(['0'].length : Int)) = d.coeff * 10 ^ d.exp := by
      rw [hexp, zpow_natCast, List.length_singleton, Nat.cast_one, zpow_neg, zpow_one]
      push_cast
      ring
    rw [hcoeff, hvalue] at hdenotes
    rw [List.take_of_length_le hshort, List.drop_of_length_le hshort]
    exact hdenotes

theorem denotes_scientific {d : Decimal} (hd : 0 < d.coeff) :
    Denotes (d.digits.take 1 ++
      (if (d.digits.drop 1).isEmpty then [] else '.' :: d.digits.drop 1) ++
      'e' :: ((if d.leading < 0 then ['-'] else ['+']) ++ Nat.toDigits 10 d.leading.natAbs))
      d.value := by
  obtain ⟨c, cs, hcs, hc, -⟩ := exists_digits_cons hd
  have hfraction : ∀ c' ∈ cs, c'.isDigit = true := fun c' hc' =>
    isDigit_of_mem_digits (hcs ▸ List.mem_cons_of_mem c hc')
  have hdenotes := Denotes.scientific hc hfraction d.leading
  have hcoeff : Nat.ofDigitChars 10 (c :: cs) 0 = d.coeff := by rw [← hcs, ofDigitChars_digits]
  have hexp : d.exp = d.leading - cs.length := by
    have hleading := exp_eq_leading d
    rw [hcs, List.length_cons] at hleading
    omega
  have hsign : (if d.leading < 0 then ['-'] else ['+'])
      = [if d.leading < 0 then '-' else '+'] := by split <;> rfl
  rw [hcoeff, ← hexp] at hdenotes
  rw [hcs, hsign]
  exact hdenotes

/-- **What is written of a positive decimal denotes it.** -/
theorem denotes_write {d : Decimal} (hd : 0 < d.coeff) :
    Denotes (NumberStyle.json.write d) d.value := by
  unfold NumberStyle.write
  dsimp only
  split
  · split
    · rename_i hneg
      exact denotes_below_one hneg
    · rename_i hnonneg
      exact denotes_positional hd (Int.not_lt.mp hnonneg)
  · exact denotes_scientific hd

/-! ## One text, one number -/

namespace Denotes

variable {cs : List Char} {v v' : Rat}

theorem not_mem_of_digits {c : Char} (hc : c.isDigit = false) {ds : List Char}
    (hds : ∀ c ∈ ds, c.isDigit = true) : c ∉ ds := by
  intro hmem
  rw [hds c hmem] at hc
  cases hc

theorem e_not_mem_exponent (e : Int) :
    'e' ∉ (if e < 0 then '-' else '+') :: Nat.toDigits 10 e.natAbs := by
  have hdigits : ∀ c ∈ Nat.toDigits 10 e.natAbs, c.isDigit = true := fun c hc =>
    Nat.isDigit_of_mem_toDigits (by decide) (by decide) hc
  have hnone := not_mem_of_digits (c := 'e') rfl hdigits
  split <;> simp [hnone]

/-- A text with a point and no exponent is not one with an exponent. -/
theorem e_not_mem_positional {whole fraction : List Char}
    (hwhole : ∀ c ∈ whole, c.isDigit = true) (hfraction : ∀ c ∈ fraction, c.isDigit = true) :
    'e' ∉ whole ++ '.' :: fraction := by
  have hw := not_mem_of_digits (c := 'e') rfl hwhole
  have hf := not_mem_of_digits (c := 'e') rfl hfraction
  simp [hw, hf]

theorem e_not_mem_mantissa {c : Char} {fraction : List Char} (hc : c.isDigit = true)
    (hfraction : ∀ c ∈ fraction, c.isDigit = true) :
    'e' ∉ c :: if fraction.isEmpty then [] else '.' :: fraction := by
  have hne : 'e' ≠ c := by
    rintro rfl
    cases hc
  have hf := not_mem_of_digits (c := 'e') rfl hfraction
  split <;> simp [hne, hf]

theorem toDigits_injective {n n' : Nat} (h : Nat.toDigits 10 n = Nat.toDigits 10 n') : n = n' := by
  rw [← Nat.ofDigitChars_ten_toDigits (n := n), h, Nat.ofDigitChars_ten_toDigits]

theorem exponent_injective {e e' : Int}
    (h : (if e < 0 then '-' else '+') :: Nat.toDigits 10 e.natAbs
      = (if e' < 0 then '-' else '+') :: Nat.toDigits 10 e'.natAbs) : e = e' := by
  obtain ⟨hsign, hdigits⟩ := List.cons.inj h
  have habs := toDigits_injective hdigits
  rcases Int.lt_or_le e 0 with hneg | hnonneg
  · rcases Int.lt_or_le e' 0 with hneg' | hnonneg'
    · omega
    · rw [if_pos hneg, if_neg (Int.not_lt.mpr hnonneg')] at hsign
      cases hsign
  · rcases Int.lt_or_le e' 0 with hneg' | hnonneg'
    · rw [if_neg (Int.not_lt.mpr hnonneg), if_pos hneg'] at hsign
      cases hsign
    · omega

theorem mantissa_injective {c c' : Char} {fraction fraction' : List Char}
    (h : (c :: if fraction.isEmpty then [] else '.' :: fraction)
      = c' :: if fraction'.isEmpty then [] else '.' :: fraction') :
    c = c' ∧ fraction = fraction' := by
  obtain ⟨hc, hfractions⟩ := List.cons.inj h
  refine ⟨hc, ?_⟩
  cases fraction <;> cases fraction' <;> simp_all

/-- **A text denotes one number only.** -/
theorem unique (h : Denotes cs v) (h' : Denotes cs v') : v = v' := by
  cases h with
  | positional whole fraction hne hwhole hfraction =>
    generalize htext : whole ++ '.' :: fraction = text at h'
    cases h' with
    | positional whole' fraction' hne' hwhole' hfraction' =>
      -- the point is where the digits end
      obtain ⟨rfl, -, rfl⟩ := (List.append_cons_inj_of_notMem (not_mem_of_digits rfl hwhole)
        (not_mem_of_digits rfl hfraction)).mp htext
      rfl
    | @scientific c fraction' hc hfraction' e =>
      have hnone := e_not_mem_positional hwhole hfraction
      rw [htext] at hnone
      simp at hnone
  | @scientific c fraction hc hfraction e =>
    generalize htext : (c :: if fraction.isEmpty then [] else '.' :: fraction) ++
        'e' :: (if e < 0 then '-' else '+') :: Nat.toDigits 10 e.natAbs = text at h'
    cases h' with
    | positional whole' fraction' hne' hwhole' hfraction' =>
      have hnone := e_not_mem_positional hwhole' hfraction'
      rw [← htext] at hnone
      simp at hnone
    | @scientific c' fraction' hc' hfraction' e' =>
      obtain ⟨hmantissa, -, hexponent⟩ :=
        (List.append_cons_inj_of_notMem (e_not_mem_mantissa hc hfraction)
          (e_not_mem_exponent e)).mp htext
      obtain ⟨rfl, rfl⟩ := mantissa_injective hmantissa
      obtain rfl := exponent_injective hexponent
      rfl

/-- A numeral begins with a digit. -/
theorem exists_digit_cons (h : Denotes cs v) : ∃ c tail, cs = c :: tail ∧ c.isDigit = true := by
  cases h with
  | positional _ _ hne hwhole =>
    obtain ⟨c, tail, rfl⟩ := List.exists_cons_of_ne_nil hne
    exact ⟨c, _, rfl, hwhole c List.mem_cons_self⟩
  | scientific hc => exact ⟨_, _, rfl, hc⟩

/-- It has a point or an exponent. -/
theorem point_or_e_mem (h : Denotes cs v) : '.' ∈ cs ∨ 'e' ∈ cs := by
  cases h with
  | positional => exact .inl (by simp)
  | scientific => exact .inr (by simp)

end Denotes

/-! ## Doubles -/

/-- The text of a finite double is that of its value, with a sign or without. -/
theorem toText_denotes {x : Binary64} {neg : Bool} {m : Nat} {q : Int}
    (hview : x.view = .finite neg m q) :
    ∃ cs, (x.toText .json).toList = (if neg then '-' :: cs else cs) ∧
      Denotes cs (if m = 0 then 0 else (Binary64.shortest m q).value) := by
  rw [Binary64.toText, hview]
  dsimp only
  rw [String.toList_ofList]
  refine ⟨_, rfl, ?_⟩
  split
  · have hzero := Denotes.positional ['0'] ['0'] (by simp) (by simp) (by simp)
    have hvalue : Nat.ofDigitChars 10 (['0'] ++ ['0']) 0 = 0 := rfl
    rw [hvalue, Nat.cast_zero, zero_mul] at hzero
    exact hzero
  · rename_i hm
    exact denotes_write (Binary64.shortest_bounds (Nat.pos_of_ne_zero hm) q).1

/-- Before a digit, a sign can be told from no sign. -/
theorem sign_unique {neg neg' : Bool} {cs cs' : List Char}
    (h : ∃ c tail, cs = c :: tail ∧ c.isDigit = true)
    (h' : ∃ c tail, cs' = c :: tail ∧ c.isDigit = true)
    (htext : (if neg then '-' :: cs else cs) = (if neg' then '-' :: cs' else cs')) :
    neg = neg' ∧ cs = cs' := by
  obtain ⟨c, tail, rfl, hc⟩ := h
  obtain ⟨c', tail', rfl, hc'⟩ := h'
  cases neg <;> cases neg'
  · exact ⟨rfl, htext⟩
  · obtain ⟨rfl, -⟩ := List.cons.inj htext
    cases hc
  · obtain ⟨rfl, -⟩ := List.cons.inj htext
    cases hc'
  · exact ⟨rfl, (List.cons.inj htext).2⟩

/-- **The texts of finite doubles tell them apart.** -/
theorem toText_injective {x y : Binary64} (hx : x.isFinite = true) (hy : y.isFinite = true)
    (h : x.toText .json = y.toText .json) : x = y := by
  obtain ⟨neg, m, q, hview, -, -⟩ := view_of_isFinite hx
  obtain ⟨neg', m', q', hview', -, -⟩ := view_of_isFinite hy
  obtain ⟨cs, htext, hcs⟩ := toText_denotes hview
  obtain ⟨cs', htext', hcs'⟩ := toText_denotes hview'
  obtain ⟨rfl, rfl⟩ := sign_unique hcs.exists_digit_cons hcs'.exists_digit_cons
    (by rw [← htext, ← htext', h])
  have hvalue := hcs.unique hcs'
  apply Binary64.view_injective hx hy
  rw [hview, hview']
  -- a zero and a positive double have different values
  rcases Binary64.canonical_of_view hview with ⟨rfl, rfl⟩ | hm
  · rcases Binary64.canonical_of_view hview' with ⟨rfl, rfl⟩ | hm'
    · rfl
    · rw [if_pos rfl, if_neg hm'.pos.ne'] at hvalue
      exact absurd hvalue (Binary64.shortest_value_pos hm'.pos q').ne
  · rw [if_neg hm.pos.ne'] at hvalue
    rcases Binary64.canonical_of_view hview' with ⟨rfl, rfl⟩ | hm'
    · rw [if_pos rfl] at hvalue
      exact absurd hvalue (Binary64.shortest_value_pos hm.pos q).ne'
    · rw [if_neg hm'.pos.ne'] at hvalue
      obtain ⟨rfl, rfl⟩ := Binary64.shortest_value_injective hm hm' hvalue
      rfl

end TenantReports.Json
