import TenantReports.Time.Calendar

/-!
# Dates and their numbers of days

The number of days of a date is that of its year, counted from March, and that of its day in such a
year, in which the leap day comes last. So dates that exist are ordered as their numbers, and every
number is the one of a date that exists.

## Main definitions

* `Date.Exists`: the month has such a day
* `Date.Before`: the order of dates
* `yearStart`: the number of days before the first of March of a year

## Main results

* `Date.dayNumber_lt_iff`: dates are ordered as their numbers of days
* `Date.ofDayNumber_spec`: the date of a number of days
-/

namespace TenantReports.Time

theorem isLeapYear_iff {year : Int} :
    isLeapYear year = true ↔ year % 4 = 0 ∧ (year % 100 ≠ 0 ∨ year % 400 = 0) := by
  simp [isLeapYear]

/-- The number of days before the first of March of a year. -/
def yearStart (year : Int) : Int := 365 * year + year / 4 - year / 100 + year / 400 - 719468

theorem yearStart_lt {year year' : Int} (h : year < year') : yearStart year < yearStart year' := by
  unfold yearStart
  omega

namespace Date

/-- The month has such a day. -/
structure Exists (d : Date) : Prop where
  one_le_month : 1 ≤ d.month
  month_le : d.month ≤ 12
  one_le_day : 1 ≤ d.day
  day_le : d.day ≤ daysInMonth d.year d.month

/-- A date comes before another one. -/
def Before (d d' : Date) : Prop :=
  d.year < d'.year ∨ d.year = d'.year ∧
    (d.month < d'.month ∨ d.month = d'.month ∧ d.day < d'.day)

/-- The year of a date, counted from March. -/
def marchYear (d : Date) : Int := if d.month ≤ 2 then d.year - 1 else d.year

/-- The month of a date, counted from March. -/
def marchMonth (d : Date) : Int := (d.month + 9) % 12

/-- The days of a year counted from March that come before a month. -/
def monthStart (month : Int) : Int := (153 * month + 2) / 5

/-- The month of the calendar that a month counted from March is. -/
def calendarMonth (month : Int) : Nat := (if month < 10 then month + 3 else month - 9).toNat

theorem dayNumber_eq (d : Date) :
    d.dayNumber = yearStart d.marchYear + (monthStart d.marchMonth + d.day - 1) := by
  unfold dayNumber yearStart marchYear marchMonth monthStart
  dsimp only
  split <;> omega

/-- February comes last, and the other months follow each other as they should. -/
theorem daysInMonth_calendarMonth (year : Int) {month : Int} (h₀ : 0 ≤ month) (h₁ : month < 11) :
    (daysInMonth year (calendarMonth month) : Int) = monthStart (month + 1) - monthStart month := by
  have hmonths : month = 0 ∨ month = 1 ∨ month = 2 ∨ month = 3 ∨ month = 4 ∨ month = 5 ∨
      month = 6 ∨ month = 7 ∨ month = 8 ∨ month = 9 ∨ month = 10 := by
    omega
  rcases hmonths with rfl | rfl | rfl | rfl | rfl | rfl | rfl | rfl | rfl | rfl | rfl <;> rfl

theorem calendarMonth_marchMonth {d : Date} (h : d.Exists) :
    calendarMonth d.marchMonth = d.month ∧ 0 ≤ d.marchMonth ∧ d.marchMonth ≤ 11 := by
  have h₁ := h.one_le_month
  have h₂ := h.month_le
  unfold calendarMonth marchMonth
  split <;> omega

theorem marchMonth_eq {d : Date} (h : d.Exists) :
    d.marchMonth = if d.month ≤ 2 then (d.month : Int) + 9 else (d.month : Int) - 3 := by
  have h₁ := h.one_le_month
  have h₂ := h.month_le
  unfold marchMonth
  split <;> omega

/-- A month ends before the next one begins, and the last one before the year ends. -/
theorem day_le_of_exists {d : Date} (h : d.Exists) :
    (d.marchMonth < 11 ∧ monthStart d.marchMonth + d.day ≤ monthStart (d.marchMonth + 1)) ∨
      d.marchMonth = 11 ∧
        yearStart d.marchYear + (monthStart d.marchMonth + d.day) ≤ yearStart (d.marchYear + 1) := by
  have hday := h.day_le
  obtain ⟨hmonth, hnonneg, hle⟩ := calendarMonth_marchMonth h
  by_cases hlast : d.marchMonth < 11
  · left
    have hdays := daysInMonth_calendarMonth d.year hnonneg hlast
    rw [hmonth] at hdays
    omega
  · right
    have h11 : d.marchMonth = 11 := by omega
    refine ⟨h11, ?_⟩
    rw [h11] at hmonth
    have hfebruary : d.month = 2 := hmonth.symm
    rw [hfebruary] at hday
    unfold marchYear
    rw [h11, if_pos (Nat.le_of_eq hfebruary)]
    unfold monthStart yearStart
    by_cases hleap : isLeapYear d.year = true
    · rw [daysInMonth, if_pos hleap] at hday
      rw [isLeapYear_iff] at hleap
      omega
    · rw [daysInMonth, if_neg hleap] at hday
      omega

theorem yearStart_le_dayNumber {d : Date} (h : d.Exists) :
    yearStart d.marchYear ≤ d.dayNumber := by
  have hday := h.one_le_day
  have hmonth : 0 ≤ d.marchMonth := by
    unfold marchMonth
    omega
  rw [dayNumber_eq]
  unfold monthStart
  omega

theorem dayNumber_lt_yearStart {d : Date} (h : d.Exists) :
    d.dayNumber < yearStart (d.marchYear + 1) := by
  rw [dayNumber_eq]
  rcases day_le_of_exists h with ⟨hmonth, hday⟩ | ⟨-, hday⟩
  · unfold monthStart at hday ⊢
    unfold yearStart
    omega
  · omega

/-- The order of dates, with years and months counted from March. -/
theorem Before.march {d d' : Date} (h : d.Exists) (h' : d'.Exists) (hlt : d.Before d') :
    d.marchYear < d'.marchYear ∨ d.marchYear = d'.marchYear ∧
      (d.marchMonth < d'.marchMonth ∨ d.marchMonth = d'.marchMonth ∧ d.day < d'.day) := by
  have h₁ := h.one_le_month
  have h₂ := h.month_le
  have h₁' := h'.one_le_month
  have h₂' := h'.month_le
  rw [marchMonth_eq h, marchMonth_eq h']
  unfold marchYear
  unfold Before at hlt
  split <;> split <;> omega

theorem Before.dayNumber_lt {d d' : Date} (h : d.Exists) (h' : d'.Exists) (hlt : d.Before d') :
    d.dayNumber < d'.dayNumber := by
  rcases hlt.march h h' with hyear | ⟨hyear, hmonth | ⟨hmonth, hday⟩⟩
  · -- the year ends before the other one begins
    have hend := dayNumber_lt_yearStart h
    have hstart := yearStart_le_dayNumber h'
    rcases Int.lt_or_eq_of_le (Int.add_one_le_of_lt hyear) with hgap | heq
    · have hmono := yearStart_lt hgap
      omega
    · rw [heq] at hend
      omega
  · -- the month ends before the other one begins
    have hlast : d'.marchMonth ≤ 11 := by
      unfold marchMonth
      omega
    have hday' := h'.one_le_day
    rw [dayNumber_eq, dayNumber_eq, hyear]
    rcases day_le_of_exists h with ⟨-, hday⟩ | ⟨hlast', -⟩
    · unfold monthStart at hday ⊢
      omega
    · omega
  · rw [dayNumber_eq, dayNumber_eq, hyear, hmonth]
    omega

theorem before_trichotomy (d d' : Date) : d.Before d' ∨ d = d' ∨ d'.Before d := by
  obtain ⟨year, month, day⟩ := d
  obtain ⟨year', month', day'⟩ := d'
  simp only [Before, mk.injEq]
  omega

/-- **Dates that exist are ordered as their numbers of days.** -/
theorem dayNumber_lt_iff {d d' : Date} (h : d.Exists) (h' : d'.Exists) :
    d.dayNumber < d'.dayNumber ↔ d.Before d' := by
  constructor
  · intro hlt
    rcases before_trichotomy d d' with hbefore | rfl | hafter
    · exact hbefore
    · exact absurd hlt (Int.lt_irrefl _)
    · have hgt := hafter.dayNumber_lt h' h
      omega
  · exact Before.dayNumber_lt h h'

/-! ## The date of a number of days -/

/-- A day of an era is a day of one of its four centuries, of one of the 25 blocks of four years
of a century, and of one of the four years of a block. The last year of a block has a leap day,
but for the last block of the first three centuries. -/
theorem dayOfEra_cases {n : Int} (h₀ : 0 ≤ n) (h₁ : n < 146097) :
    ∃ century block year day : Int,
      n = 36524 * century + 1461 * block + 365 * year + day ∧
      (0 ≤ century ∧ century ≤ 3) ∧ (0 ≤ block ∧ block ≤ 24) ∧ (0 ≤ year ∧ year ≤ 3) ∧
      0 ≤ day ∧ (day < 365 ∨ day = 365 ∧ year = 3 ∧ (block < 24 ∨ century = 3)) := by
  -- the last day of the last century is a leap day
  let century := if n < 146096 then n / 36524 else 3
  let rest := n - 36524 * century
  let block := rest / 1461
  let year := if rest % 1461 < 1460 then rest % 1461 / 365 else 3
  have hcentury : 0 ≤ century ∧ century ≤ 3 ∧ 0 ≤ rest ∧
      (rest < 36524 ∨ rest = 36524 ∧ century = 3) := by
    simp only [rest, century]
    split <;> omega
  refine ⟨century, block, year, rest % 1461 - 365 * year, ?_, ?_, ?_, ?_, ?_⟩
  · simp only [block]
    omega
  · omega
  · simp only [block]
    omega
  · simp only [year]
    split <;> omega
  · simp only [year, block]
    split <;> omega

/-- The year of a day of an era, as it is computed. -/
theorem yearOfEra_eq {century block year day : Int} (hcentury : 0 ≤ century ∧ century ≤ 3)
    (hblock : 0 ≤ block ∧ block ≤ 24) (hyear : 0 ≤ year ∧ year ≤ 3) (hday : 0 ≤ day)
    (hlast : day < 365 ∨ day = 365 ∧ year = 3 ∧ (block < 24 ∨ century = 3)) {n : Int}
    (hn : n = 36524 * century + 1461 * block + 365 * year + day) :
    (n - n / 1460 + n / 36524 - n / 146096) / 365 = 100 * century + 4 * block + year := by
  -- one day in 1460 is a leap day, one century in four has the last of them
  have hblocks : n / 1460 = 25 * century + block ∨
      n / 1460 = 25 * century + block + 1 ∧ 1460 ≤ 24 * century + block + 365 * year + day := by
    omega
  have hcenturies : n / 36524 = century ∧ n / 146096 = 0 ∨ n = 146096 := by
    have hc : century = 0 ∨ century = 1 ∨ century = 2 ∨ century = 3 := by omega
    rcases hc with rfl | rfl | rfl | rfl <;> omega
  rcases hcenturies with ⟨hc, he⟩ | rfl
  · rw [hc, he]
    rcases hblocks with hb | ⟨hb, hlate⟩
    · rw [hb]
      omega
    · rw [hb]
      omega
  · omega

/-- The date of a day of a year, both counted from March. -/
def ofMarch (year day : Int) : Date :=
  let month := (5 * day + 2) / 153
  ⟨if calendarMonth month ≤ 2 then year + 1 else year, calendarMonth month,
    (day - monthStart month + 1).toNat⟩

/-- Such a date exists, and is the one of that day. -/
theorem ofMarch_spec {year day : Int} (h₀ : 0 ≤ day)
    (h₁ : day < 365 ∨ day = 365 ∧ isLeapYear (year + 1) = true) :
    (ofMarch year day).Exists ∧ (ofMarch year day).dayNumber = yearStart year + day := by
  have hmonth : 0 ≤ (5 * day + 2) / 153 ∧ (5 * day + 2) / 153 ≤ 11 := by omega
  have hstart : monthStart ((5 * day + 2) / 153) ≤ day := by
    unfold monthStart
    omega
  constructor
  · refine ⟨?_, ?_, ?_, ?_⟩
    · unfold ofMarch calendarMonth
      dsimp only
      split <;> omega
    · unfold ofMarch calendarMonth
      dsimp only
      split <;> omega
    · unfold ofMarch
      dsimp only
      omega
    · by_cases hlast : (5 * day + 2) / 153 < 11
      · have hdays := daysInMonth_calendarMonth (ofMarch year day).year hmonth.1 hlast
        change ((day - monthStart _ + 1).toNat : Nat) ≤ daysInMonth _ (calendarMonth _)
        unfold monthStart at hdays ⊢
        omega
      · -- the last month is February, which may have a leap day
        have h11 : (5 * day + 2) / 153 = 11 := by omega
        unfold ofMarch
        rw [h11]
        unfold monthStart
        change (day - _ + 1).toNat ≤ if isLeapYear (year + 1) = true then 29 else 28
        rcases h₁ with hday | ⟨hday, hleap⟩
        · split <;> omega
        · rw [if_pos hleap]
          omega
  · have hmarch : (ofMarch year day).marchYear = year ∧
        (ofMarch year day).marchMonth = (5 * day + 2) / 153 := by
      unfold marchYear marchMonth ofMarch calendarMonth
      dsimp only
      constructor
      · split <;> omega
      · split <;> omega
    rw [dayNumber_eq, hmarch.1, hmarch.2]
    unfold ofMarch
    dsimp only
    omega

/-- The date of a number of days exists, and has that number. -/
theorem ofDayNumber_spec (n : Int) : (ofDayNumber n).Exists ∧ (ofDayNumber n).dayNumber = n := by
  obtain ⟨century, block, year, day, hn, hcentury, hblock, hyear, hday, hlast⟩ :=
    dayOfEra_cases (Int.emod_nonneg (n + 719468) (by decide : (146097 : Int) ≠ 0))
      (Int.emod_lt_of_pos (n + 719468) (by decide))
  let marchYear := 100 * century + 4 * block + year + (n + 719468) / 146097 * 400
  have heq : ofDayNumber n = ofMarch marchYear day := by
    unfold ofDayNumber
    dsimp only
    rw [yearOfEra_eq hcentury hblock hyear hday hlast hn]
    have hrest : (n + 719468) % 146097 - (365 * (100 * century + 4 * block + year)
        + (100 * century + 4 * block + year) / 4 - (100 * century + 4 * block + year) / 100)
        = day := by
      omega
    rw [hrest]
    unfold ofMarch calendarMonth monthStart
    dsimp only
    congr 1
    simp only [marchYear]
    split <;> split <;> split <;> omega
  have hleap : day < 365 ∨ day = 365 ∧ isLeapYear (marchYear + 1) = true := by
    rw [isLeapYear_iff]
    simp only [marchYear]
    omega
  rw [heq]
  obtain ⟨hexists, hnumber⟩ := ofMarch_spec hday hleap
  refine ⟨hexists, hnumber.trans ?_⟩
  simp only [marchYear]
  unfold yearStart
  omega

end Date
end TenantReports.Time
