import TenantReports.Proofs.Time.Calendar
import TenantReports.Proofs.Time.Digits

/-!
# The texts of instants

Where the year has four digits, the text of an instant is made of fields of fixed widths. So the
order of such texts is the order of the instants, to the microsecond, and the texts read back.
Years beyond four digits break both: their texts begin with a sign.

## Main definitions

* `Instant.Plain`: the year has four digits, and leap seconds come at the end of a minute

## Main results

* `rfc3339Micros_lt_iff`, `rfc3339Micros_inj`: texts are ordered as the instants, to the
  microsecond
* `rfc3339Micros_le`: later instants never have earlier texts
* `parseRfc3339?_rfc3339Micros`: a text reads back, to the microsecond
-/

namespace TenantReports.Time

namespace Instant

/-- The year has four digits, and a leap second comes at the end of a minute. -/
structure Plain (t : Instant) : Prop where
  nanos_lt : t.nanos < 2000000000
  leap : 1000000000 ≤ t.nanos → t.seconds % 60 = 59
  year_nonneg : 0 ≤ t.date.year
  year_le : t.date.year ≤ 9999

theorem exists_date (t : Instant) : t.date.Exists := (Date.ofDayNumber_spec t.dayNumber).1

theorem dayNumber_date (t : Instant) : t.date.dayNumber = t.dayNumber :=
  (Date.ofDayNumber_spec t.dayNumber).2

/-- The number of days of the date, and the seconds of the day that come before. -/
theorem seconds_eq (t : Instant) : t.seconds = t.date.dayNumber * 86400 + t.seconds % 86400 := by
  rw [dayNumber_date, dayNumber]
  omega

end Instant

/-- The second that is written. A leap second is the sixtieth. -/
def secondShown (c : Clock) : Nat := if 1000000000 ≤ c.nanos then c.second + 1 else c.second

/-- A time of day is before the end of its day, but for a leap second. -/
theorem Instant.clock_le (t : Instant) :
    t.clock.hour ≤ 23 ∧ t.clock.minute ≤ 59 ∧ secondShown t.clock ≤ 60 := by
  unfold secondShown Instant.clock Clock.ofSeconds
  dsimp only
  split <;> omega

/-- The numbers in the text of an instant. -/
def textFields (t : Instant) : List Nat :=
  [t.date.year.toNat, t.date.month, t.date.day, t.clock.hour, t.clock.minute, secondShown t.clock,
    nanosShown t.clock / 1000]

/-- The widths of these numbers, and what follows each. -/
def textShape : List (Nat × Char) :=
  [(4, '-'), (2, '-'), (2, 'T'), (2, ':'), (2, ':'), (2, '.'), (6, 'Z')]

theorem daysInMonth_le (year : Int) (month : Nat) : daysInMonth year month ≤ 31 := by
  unfold daysInMonth
  split
  · split <;> decide
  all_goals decide

/-- All numbers fit their fields. -/
theorem textFields_fit {t : Instant} (h : t.Plain) :
    List.Forall₂ (fun field n => n < 10 ^ field.1) textShape (textFields t) := by
  have hyear := h.year_le
  have hmonth := t.exists_date.month_le
  have hday := t.exists_date.day_le
  have hdays := daysInMonth_le t.date.year t.date.month
  have hnanos := h.nanos_lt
  obtain ⟨hhour, hminute, hsecond⟩ := t.clock_le
  refine .cons ?_ (.cons ?_ (.cons ?_ (.cons ?_ (.cons ?_ (.cons ?_ (.cons ?_ .nil))))))
  · dsimp only
    omega
  · dsimp only
    omega
  · dsimp only
    omega
  · dsimp only
    omega
  · dsimp only
    omega
  · dsimp only
    omega
  · unfold nanosShown Instant.clock Clock.ofSeconds
    dsimp only
    split <;> omega

/-- The text of an instant is made of its fields. -/
theorem toList_rfc3339Micros {t : Instant} (h : t.Plain) :
    (rfc3339Micros t).toList = fieldChars textShape (textFields t) := by
  have hyear : yearChars t.date.year = padded 4 t.date.year.toNat :=
    if_pos ⟨h.year_nonneg, h.year_le⟩
  have hfit := textFields_fit h
  simp only [textShape, textFields, List.forall₂_cons] at hfit
  obtain ⟨h₁, h₂, h₃, h₄, h₅, h₆, h₇, -⟩ := hfit
  rw [rfc3339Micros, String.toList_ofList, dateClockChars, dateChars, clockChars, hyear,
    padded_eq_digits (by decide) h₁, padded_eq_digits (by decide) h₂,
    padded_eq_digits (by decide) h₃, padded_eq_digits (by decide) h₄,
    padded_eq_digits (by decide) h₅, padded_eq_digits (by decide) h₇]
  rw [show (if 1000000000 ≤ t.clock.nanos then t.clock.second + 1 else t.clock.second)
    = secondShown t.clock from rfl, padded_eq_digits (by decide) h₆]
  simp [fieldChars, textShape, textFields]

/-! ## Order -/

namespace Instant

variable {t t' : Instant}

theorem lt_iff : t < t' ↔ t.seconds < t'.seconds ∨ t.seconds = t'.seconds ∧ t.nanos < t'.nanos :=
  Iff.rfl

theorem not_lt : ¬ t < t' ↔ t' ≤ t := Iff.rfl

theorem lt_trichotomy (t t' : Instant) : t < t' ∨ t = t' ∨ t' < t := by
  obtain ⟨seconds, nanos⟩ := t
  obtain ⟨seconds', nanos'⟩ := t'
  simp only [lt_iff, mk.injEq]
  omega

theorem lt_asymm (h : t < t') : ¬ t' < t := by
  rw [lt_iff] at h ⊢
  omega

/-- An instant that is known to the microsecond is not after another one if it is not after what
is left of that one to the microsecond. -/
theorem le_truncateMicros_iff (h : t.truncateMicros = t) : t ≤ t'.truncateMicros ↔ t ≤ t' := by
  have hnanos : t.nanos / 1000 * 1000 = t.nanos := congrArg nanos h
  rw [← not_lt, ← not_lt, lt_iff, lt_iff, truncateMicros]
  dsimp only
  omega

end Instant

/-- The date of an earlier day comes before. -/
theorem Instant.before_date {t t' : Instant} (h : t.dayNumber < t'.dayNumber) :
    t.date.Before t'.date := by
  rw [← Date.dayNumber_lt_iff t.exists_date t'.exists_date, dayNumber_date, dayNumber_date]
  exact h

/-- The fields of an instant come before those of a later one. -/
theorem textFields_lt {t t' : Instant} (h : t.Plain) (h' : t'.Plain)
    (hlt : t.truncateMicros < t'.truncateMicros) : textFields t < textFields t' := by
  have hcases : t.seconds < t'.seconds ∨
      t.seconds = t'.seconds ∧ t.nanos / 1000 * 1000 < t'.nanos / 1000 * 1000 := hlt
  have hyear := h.year_nonneg
  have hleap := h.leap
  have hleap' := h'.leap
  have hnanos' := h'.nanos_lt
  unfold textFields
  simp only [List.cons_lt_cons_iff]
  rcases hcases with hseconds | ⟨hseconds, hnanos⟩
  · by_cases hday : t.dayNumber < t'.dayNumber
    · -- an earlier day
      rcases Instant.before_date hday with hdate | ⟨hdate, hmonth | ⟨hmonth, hday⟩⟩
      · left
        omega
      · right
        rw [hdate]
        exact ⟨rfl, .inl hmonth⟩
      · right
        rw [hdate, hmonth]
        exact ⟨rfl, .inr ⟨rfl, .inl hday⟩⟩
    · -- the same day, but an earlier time of day
      have hsame : t.dayNumber = t'.dayNumber := by
        unfold Instant.dayNumber at hday ⊢
        omega
      have hdate : t.date = t'.date := by rw [Instant.date, hsame, Instant.date]
      rw [hdate]
      right; refine ⟨rfl, ?_⟩
      right; refine ⟨rfl, ?_⟩
      right; refine ⟨rfl, ?_⟩
      unfold secondShown nanosShown Instant.clock Clock.ofSeconds
      unfold Instant.dayNumber at hsame
      dsimp only
      split <;> split <;> omega
  · -- the same second
    have hdate : t.date = t'.date := by
      rw [Instant.date, Instant.date, Instant.dayNumber, Instant.dayNumber, hseconds]
    rw [hdate]
    unfold secondShown nanosShown Instant.clock Clock.ofSeconds
    rw [hseconds]
    dsimp only
    right; refine ⟨rfl, ?_⟩
    right; refine ⟨rfl, ?_⟩
    right; refine ⟨rfl, ?_⟩
    right; refine ⟨rfl, ?_⟩
    right; refine ⟨rfl, ?_⟩
    split <;> split <;> omega

/-- **The order of texts is the order of time.** -/
theorem rfc3339Micros_lt {t t' : Instant} (h : t.Plain) (h' : t'.Plain)
    (hlt : t.truncateMicros < t'.truncateMicros) : rfc3339Micros t < rfc3339Micros t' := by
  change (rfc3339Micros t).toList < (rfc3339Micros t').toList
  rw [toList_rfc3339Micros h, toList_rfc3339Micros h']
  exact fieldChars_lt (textFields_fit h) (textFields_fit h') (textFields_lt h h' hlt)

/-- What is below a microsecond is not written. -/
theorem textFields_congr {t t' : Instant} (h : t.truncateMicros = t'.truncateMicros) :
    textFields t = textFields t' := by
  simp only [Instant.truncateMicros, Instant.mk.injEq] at h
  obtain ⟨hseconds, hnanos⟩ := h
  have hdate : t.date = t'.date := by
    rw [Instant.date, Instant.date, Instant.dayNumber, Instant.dayNumber, hseconds]
  have hsecond : secondShown t.clock = secondShown t'.clock := by
    unfold secondShown Instant.clock Clock.ofSeconds
    rw [hseconds]
    dsimp only
    split <;> split <;> omega
  have hmicros : nanosShown t.clock / 1000 = nanosShown t'.clock / 1000 := by
    unfold nanosShown Instant.clock Clock.ofSeconds
    dsimp only
    split <;> split <;> omega
  unfold textFields
  rw [hdate, hsecond, hmicros]
  unfold Instant.clock Clock.ofSeconds
  rw [hseconds]

section Order

variable {t t' : Instant} (h : t.Plain) (h' : t'.Plain)

include h h'

theorem rfc3339Micros_congr (hsame : t.truncateMicros = t'.truncateMicros) :
    rfc3339Micros t = rfc3339Micros t' := by
  apply String.toList_inj.mp
  rw [toList_rfc3339Micros h, toList_rfc3339Micros h', textFields_congr hsame]

/-- **Texts are ordered as the instants**, to the microsecond. -/
theorem rfc3339Micros_lt_iff :
    rfc3339Micros t < rfc3339Micros t' ↔ t.truncateMicros < t'.truncateMicros := by
  refine ⟨fun htext => ?_, rfc3339Micros_lt h h'⟩
  rcases Instant.lt_trichotomy t.truncateMicros t'.truncateMicros with hlt | hsame | hgt
  · exact hlt
  · rw [rfc3339Micros_congr h h' hsame] at htext
    exact absurd htext (String.lt_irrefl _)
  · exact absurd (rfc3339Micros_lt h' h hgt) (String.lt_asymm htext)

theorem rfc3339Micros_le_iff :
    rfc3339Micros t ≤ rfc3339Micros t' ↔ t.truncateMicros ≤ t'.truncateMicros := by
  rw [← String.not_lt, ← Instant.not_lt, rfc3339Micros_lt_iff h' h]

/-- Instants with one text are the same, to the microsecond. -/
theorem rfc3339Micros_inj :
    rfc3339Micros t = rfc3339Micros t' ↔ t.truncateMicros = t'.truncateMicros := by
  refine ⟨fun htext => ?_, rfc3339Micros_congr h h'⟩
  rcases Instant.lt_trichotomy t.truncateMicros t'.truncateMicros with hlt | hsame | hgt
  · exact absurd (rfc3339Micros_lt h h' hlt) (htext ▸ String.lt_irrefl _)
  · exact hsame
  · exact absurd (rfc3339Micros_lt h' h hgt) (htext ▸ String.lt_irrefl _)

/-- Later instants never have earlier texts. -/
theorem rfc3339Micros_le (hle : t ≤ t') : rfc3339Micros t ≤ rfc3339Micros t' := by
  rw [rfc3339Micros_le_iff h h', ← Instant.not_lt, Instant.lt_iff]
  rw [← Instant.not_lt, Instant.lt_iff] at hle
  unfold Instant.truncateMicros
  dsimp only
  omega

end Order

/-! ## Reading -/

/-- What follows the first fields of a text. -/
theorem fixedDigits?_fieldChars {width n : Nat} {follow : Char} {shape : List (Nat × Char)}
    {ns : List Nat} (h : n < 10 ^ width) :
    fixedDigits? width (fieldChars ((width, follow) :: shape) (n :: ns))
      = some (n, follow :: fieldChars shape ns) :=
  fixedDigits?_digits h _

/-- The last field, and the characters after it. -/
theorem scan_digits (width n : Nat) :
    (digits width n ++ ['Z']).takeWhile Char.isDigit = digits width n ∧
      (digits width n ++ ['Z']).dropWhile Char.isDigit = ['Z'] := by
  have hall : ∀ c ∈ digits width n, c.isDigit = true := fun c hc => isDigit_of_mem_digits hc
  constructor
  · exact (List.takeWhile_append_of_pos hall).trans (List.append_nil _)
  · exact List.dropWhile_append_of_pos hall

/-- Six fraction digits are microseconds. -/
theorem fractionNanos_digits {n : Nat} (h : n < 10 ^ 6) :
    fractionNanos (digits 6 n) = n * 1000 := by
  have htake : (digits 6 n).take 9 = digits 6 n :=
    List.take_of_length_le (by rw [length_digits]; decide)
  unfold fractionNanos
  dsimp only
  rw [htake, digitsValue_digits h, length_digits]

/-- The second and the microseconds that are written are those of the instant. -/
theorem leapAware?_shown {t : Instant} (h : t.Plain) :
    leapAware? (secondShown t.clock) (nanosShown t.clock / 1000 * 1000)
      = some (t.clock.second, t.truncateMicros.nanos) := by
  have hleap := h.leap
  unfold leapAware? secondShown nanosShown Instant.truncateMicros Instant.clock Clock.ofSeconds
  dsimp only
  by_cases hnanos : 1000000000 ≤ t.nanos
  · -- the sixtieth second of its minute
    have hsecond : (t.seconds % 86400).toNat % 60 = 59 := by
      have hmod := hleap hnanos
      omega
    rw [if_pos hnanos, if_pos hnanos, hsecond, if_neg (by decide), if_pos rfl]
    congr 2
    omega
  · rw [if_neg hnanos, if_neg hnanos, if_pos (by omega)]

/-- **A text reads back**, to the microsecond. -/
theorem parseRfc3339?_rfc3339Micros {t : Instant} (h : t.Plain) :
    parseRfc3339? (rfc3339Micros t) = some t.truncateMicros := by
  have hfit := textFields_fit h
  simp only [textShape, textFields, List.forall₂_cons] at hfit
  obtain ⟨h₁, h₂, h₃, h₄, h₅, h₆, h₇, -⟩ := hfit
  have hlast : fieldChars [(6, 'Z')] [nanosShown t.clock / 1000]
      = digits 6 (nanosShown t.clock / 1000) ++ ['Z'] := rfl
  have hdigits : (digits 6 (nanosShown t.clock / 1000)).isEmpty = false := by
    rw [List.isEmpty_eq_false_iff_exists_mem, ← List.length_pos_iff_exists_mem, length_digits]
    decide
  have hyear : (t.date.year.toNat : Int) = t.date.year := Int.toNat_of_nonneg h.year_nonneg
  have hvalid : t.date.isValid = true := by
    obtain ⟨hmonth, hmonth', hday, hday'⟩ := t.exists_date
    have hyear := h.year_nonneg
    have hyear' := h.year_le
    simp only [Date.isValid, Bool.and_eq_true, decide_eq_true_eq]
    omega
  have hclock : t.clock.hour ≤ 23 ∧ t.clock.minute ≤ 59 := ⟨t.clock_le.1, t.clock_le.2.1⟩
  unfold parseRfc3339?
  rw [toList_rfc3339Micros h, textShape, textFields]
  simp only [fixedDigits?_fieldChars h₁, fixedDigits?_fieldChars h₂, fixedDigits?_fieldChars h₃,
    fixedDigits?_fieldChars h₄, fixedDigits?_fieldChars h₅, fixedDigits?_fieldChars h₆,
    Option.bind_eq_bind, Option.bind_some]
  rw [if_neg (by simp), hlast, (scan_digits 6 _).1, (scan_digits 6 _).2, hdigits,
    if_neg Bool.false_ne_true, fractionNanos_digits h₇, leapAware?_shown h, hyear]
  change (if t.date.isValid = true ∧ t.clock.hour ≤ 23 ∧ t.clock.minute ≤ 59 then _ else _) = _
  rw [if_pos ⟨hvalid, hclock⟩]
  have hseconds := t.seconds_eq
  congr 1
  change (⟨t.date.dayNumber * 86400 + _ + _, _⟩ : Instant) = _
  unfold Instant.clock Clock.ofSeconds Clock.seconds Instant.truncateMicros
  dsimp only
  congr 1
  omega

/-- So it reads back at all. -/
theorem isSome_parseRfc3339? {t : Instant} (h : t.Plain) :
    (parseRfc3339? (rfc3339Micros t)).isSome = true := by
  rw [parseRfc3339?_rfc3339Micros h]
  rfl

end TenantReports.Time
