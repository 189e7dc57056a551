import TenantReports.Proofs.Outcome
import TenantReports.Proofs.Recurrence.Cron
import TenantReports.Recurrence.Next

/-!
# The next run is later

Whatever the kind of recurrence, its next run is on a whole second after the instant from which it
is found. It is not far ahead, but for a cron schedule, which ends with the year 2100. So in the
years of four digits the texts of next runs come after the text of that instant.

## Main definitions

* `RunsAfter`: an instant on a whole second, later than another one and not too far ahead to be
  written

## Main results

* `timeOfDay_spec`: a time of day that is read is one of a day
* `Recurrence.runsAfter_next`: the next run is later, and not too far ahead to be written
* `Recurrence.text_lt_of_next`: so is its text
-/

namespace TenantReports

open Time (Clock Date Instant Part)

/-! ## Times of day -/

namespace Time

/-- Hours and minutes are those of a day. -/
structure Fields.Daily (f : Fields) : Prop where
  hour_le : f.hour ≤ 23
  minute_le : f.minute ≤ 59

theorem within?_eq_some {low high n : Nat} {cs r : List Char}
    (h : within? low high cs = some (n, r)) : low ≤ n ∧ n ≤ high := by
  unfold within? at h
  split at h
  · rename_i m r' _
    split at h
    · rename_i hbounds
      cases h
      exact hbounds
    · cases h
  · cases h

/-- Reading one more part keeps hours and minutes within their bounds. -/
theorem Fields.Daily.readPart? {p : Part} {f f' : Fields} {cs r : List Char} (hf : f.Daily)
    (h : readPart? p f cs = some (f', r)) : f'.Daily := by
  have hour_le := hf.hour_le
  have minute_le := hf.minute_le
  cases p with
  | hour =>
    obtain ⟨⟨n, r'⟩, hn, heq⟩ := Option.map_eq_some_iff.mp h
    cases heq
    exact ⟨(within?_eq_some hn).2, minute_le⟩
  | minute =>
    obtain ⟨⟨n, r'⟩, hn, heq⟩ := Option.map_eq_some_iff.mp h
    cases heq
    exact ⟨hour_le, (within?_eq_some hn).2⟩
  | year | month | day | second =>
    obtain ⟨⟨n, r'⟩, -, heq⟩ := Option.map_eq_some_iff.mp h
    cases heq
    exact ⟨hour_le, minute_le⟩
  | fraction =>
    unfold Time.readPart? at h
    dsimp only at h
    split at h
    · split at h
      · cases h
      · cases h
        exact ⟨hour_le, minute_le⟩
    · cases h
      exact hf
  | char c =>
    unfold Time.readPart? at h
    dsimp only at h
    split at h
    · split at h
      · cases h
        exact hf
      · cases h
    · cases h
  | blanks =>
    cases h
    exact hf

theorem Fields.Daily.readParts? {ps : List Part} {f f' : Fields} {cs : List Char} (hf : f.Daily)
    (h : readParts? ps f cs = some f') : f'.Daily := by
  induction ps generalizing f cs with
  | nil =>
    unfold Time.readParts? at h
    split at h
    · cases h
      exact hf
    · cases h
  | cons p ps ih =>
    unfold Time.readParts? at h
    split at h
    · rename_i f₁ r hpart
      exact ih (hf.readPart? hpart) h
    · cases h

end Time

/-- A time of day that is read is a whole minute of a day. -/
theorem timeOfDay_spec {text : String} {c : Clock} (h : timeOfDay text = .ok c) :
    c.seconds < 86400 ∧ c.nanos = 0 := by
  unfold timeOfDay at h
  dsimp only at h
  split at h
  · split at h
    · rename_i f hread
      have hdaily : f.Daily := Time.Fields.Daily.readParts? ⟨Nat.zero_le _, Nat.zero_le _⟩ hread
      have hhour := hdaily.hour_le
      have hminute := hdaily.minute_le
      cases h
      unfold Clock.seconds
      dsimp only
      exact ⟨by omega, rfl⟩
    · cases h
  · cases h

/-! ## Instants on a whole second -/

namespace Time.Instant

/-- An instant on a whole second is later only if its second is. -/
theorem seconds_lt_of_lt {t t' : Instant} (h : t < t') (hnanos : t'.nanos = 0) :
    t.seconds < t'.seconds := by
  rcases lt_iff.mp h with hseconds | ⟨-, hlt⟩
  · exact hseconds
  · omega

theorem dayNumber_ofDateClock (d : Date) {c : Clock} (h : c.seconds < 86400) :
    (ofDateClock d c).dayNumber = d.dayNumber := by
  unfold dayNumber ofDateClock
  dsimp only
  omega

/-- The first day of the year 10000. -/
def firstLongDay : Date := ⟨10000, 1, 1⟩

/-- The first day of the year 9999. -/
def lastYearDay : Date := ⟨9999, 1, 1⟩

theorem firstLongDay_exists : firstLongDay.Exists := ⟨by decide, by decide, by decide, by decide⟩

theorem lastYearDay_exists : lastYearDay.Exists := ⟨by decide, by decide, by decide, by decide⟩

/-- The years with four digits end before the first day of the year 10000. -/
theorem year_le_iff {t : Instant} : t.date.year ≤ 9999 ↔ t.dayNumber < 2932897 := by
  have hday : firstLongDay.dayNumber = 2932897 := by decide
  rw [← hday, ← dayNumber_date, Date.dayNumber_lt_iff t.exists_date firstLongDay_exists]
  have hmonth := t.exists_date.one_le_month
  have hone := t.exists_date.one_le_day
  unfold Date.Before firstLongDay
  dsimp only
  omega

theorem dayNumber_lt_of_year_le {t : Instant} (h : t.date.year ≤ 9998) :
    t.dayNumber < 2932532 := by
  have hday : lastYearDay.dayNumber = 2932532 := by decide
  rw [← hday, ← dayNumber_date, Date.dayNumber_lt_iff t.exists_date lastYearDay_exists]
  refine .inl ?_
  unfold lastYearDay
  dsimp only
  omega

/-- Later instants are in the same year or in a later one. -/
theorem year_le_of_seconds_le {t t' : Instant} (h : t.seconds ≤ t'.seconds) :
    t.date.year ≤ t'.date.year := by
  have hdays : t.dayNumber ≤ t'.dayNumber := by
    unfold dayNumber
    omega
  rcases Int.lt_or_eq_of_le hdays with hlt | heq
  · rcases before_date hlt with hyear | ⟨hyear, -⟩ <;> omega
  · exact Int.le_of_eq (congrArg (fun n => (Date.ofDayNumber n).year) heq)

/-- An instant on a whole second whose day is in a year of four digits. -/
theorem plain_of_later {t t' : Instant} (h : t.Plain) (hlt : t.seconds < t'.seconds)
    (hnanos : t'.nanos = 0) (hday : t'.dayNumber < 2932897) : t'.Plain where
  nanos_lt := by omega
  leap := by omega
  year_nonneg := Int.le_trans h.year_nonneg (year_le_of_seconds_le (Int.le_of_lt hlt))
  year_le := year_le_iff.mpr hday

end Time.Instant

/-! ## Next runs -/

/-- A month may be too short for the day, but it has a last one. -/
theorem clampedDay_exists {year : Int} {month day : Nat} (hmonth : 1 ≤ month ∧ month ≤ 12)
    (hday : 1 ≤ day) : (clampedDay year month day).Exists := by
  have hlength : 1 ≤ Time.daysInMonth year month := by
    unfold Time.daysInMonth
    split
    · split <;> decide
    all_goals decide
  exact ⟨hmonth.1, hmonth.2, Nat.le_min.mpr ⟨hday, hlength⟩, Nat.min_le_right _ _⟩

/-- A run at a time of day on a date of the years that can be written with four digits, later than
an instant. -/
structure RunsAfter (now run : Instant) : Prop where
  seconds_lt : now.seconds < run.seconds
  nanos_eq : run.nanos = 0
  dayNumber_lt : run.dayNumber < 2932897

section Kinds

variable {time : Clock} {now : Instant} (htime : time.seconds < 86400 ∧ time.nanos = 0)
  (hyear : now.date.year ≤ 9998)

include htime hyear

theorem runsAfter_nextDaily : RunsAfter now (nextDaily time now) := by
  have hday := Instant.dayNumber_lt_of_year_le hyear
  have hnow := now.dayNumber_date
  unfold nextDaily
  dsimp only
  by_cases hlater : now < Instant.ofDateClock now.date time
  · rw [if_pos hlater]
    refine ⟨Instant.seconds_lt_of_lt hlater htime.2, htime.2, ?_⟩
    rw [Instant.dayNumber_ofDateClock _ htime.1]
    omega
  · rw [if_neg hlater]
    unfold Instant.addSeconds Instant.ofDateClock
    unfold Instant.dayNumber at hday hnow
    refine ⟨?_, htime.2, ?_⟩
    · dsimp only
      omega
    · unfold Instant.dayNumber
      dsimp only
      omega

theorem runsAfter_nextWeekly (day : Time.Weekday) : RunsAfter now (nextWeekly day time now) := by
  have hday := Instant.dayNumber_lt_of_year_le hyear
  have hnow := now.dayNumber_date
  unfold nextWeekly
  dsimp only
  generalize hahead : (7 + day.index - now.date.weekdayIndex) % 7 = ahead
  have hweek : ahead < 7 := by
    rw [← hahead]
    exact Nat.mod_lt _ (by decide)
  by_cases hlater : now < (Instant.ofDateClock now.date time).addSeconds (86400 * ahead)
  · rw [if_pos hlater]
    refine ⟨Instant.seconds_lt_of_lt hlater htime.2, htime.2, ?_⟩
    unfold Instant.addSeconds Instant.ofDateClock
    unfold Instant.dayNumber at hday hnow ⊢
    dsimp only
    omega
  · rw [if_neg hlater]
    unfold Instant.addSeconds Instant.ofDateClock
    unfold Instant.dayNumber at hday hnow
    refine ⟨?_, htime.2, ?_⟩
    · dsimp only
      omega
    · unfold Instant.dayNumber
      dsimp only
      omega

theorem runsAfter_nextMonthly {day : Nat} {run : Instant} (hpositive : 1 ≤ day)
    (h : nextMonthly day time now = .ok run) : RunsAfter now run := by
  -- a run on a date of this month or the next one, if it is later
  have hrun : ∀ d : Date, d.Exists → d.year ≤ 9999 → now < Instant.ofDateClock d time →
      RunsAfter now (Instant.ofDateClock d time) := by
    intro d hd hle hlater
    refine ⟨Instant.seconds_lt_of_lt hlater htime.2, htime.2, ?_⟩
    rw [Instant.dayNumber_ofDateClock _ htime.1]
    have hlast : Instant.firstLongDay.dayNumber = 2932897 := by decide
    rw [← hlast, Date.dayNumber_lt_iff hd Instant.firstLongDay_exists]
    refine .inl ?_
    unfold Instant.firstLongDay
    dsimp only
    omega
  have hmonth := now.exists_date.one_le_month
  have hmonthLe := now.exists_date.month_le
  have hthis : (clampedDay now.date.year now.date.month day).Exists :=
    clampedDay_exists ⟨hmonth, hmonthLe⟩ hpositive
  have hthisYear : (clampedDay now.date.year now.date.month day).year = now.date.year := rfl
  -- the month after, perhaps in the next year
  obtain ⟨year, month, hfollowing, hyearLe, hmonthLe⟩ : ∃ (year : Int) (month : Nat),
      (if now.date.month = 12 then (now.date.year + 1, 1) else (now.date.year, now.date.month + 1))
        = (year, month) ∧ year ≤ 9999 ∧ 1 ≤ month ∧ month ≤ 12 := by
    by_cases hlast : now.date.month = 12
    · exact ⟨_, _, if_pos hlast, by omega, by omega, by omega⟩
    · exact ⟨_, _, if_neg hlast, by omega, by omega, by omega⟩
  unfold nextMonthly at h
  dsimp only at h
  rw [hfollowing] at h
  split at h
  · rename_i hlater
    cases h
    exact hrun _ hthis (by omega) hlater
  · split at h
    · rename_i hlater
      cases h
      exact hrun _ (clampedDay_exists hmonthLe hpositive) hyearLe hlater
    · cases h

end Kinds

namespace Recurrence

/-- **The next run is later**, on a whole second and in a year that can be written with four
digits. -/
theorem runsAfter_next {r : Recurrence} {now run : Instant} (hyear : now.date.year ≤ 9998)
    (h : r.next now = .ok run) : RunsAfter now run := by
  cases r with
  | daily time =>
    simp only [next, Except.bind_eq_ok] at h
    obtain ⟨c, hc, h⟩ := h
    cases h
    exact runsAfter_nextDaily (timeOfDay_spec hc) hyear
  | weekly day time =>
    simp only [next, Except.bind_eq_ok] at h
    obtain ⟨weekday, -, c, hc, h⟩ := h
    cases h
    exact runsAfter_nextWeekly (timeOfDay_spec hc) hyear weekday
  | monthly day time =>
    simp only [next, Except.bind_eq_ok] at h
    obtain ⟨day', hday, c, hc, h⟩ := h
    have hpositive : 1 ≤ day' := by
      unfold dayOfMonth at hday
      split at hday
      · rename_i hrange
        cases hday
        exact hrange.1
      · cases hday
    exact runsAfter_nextMonthly (timeOfDay_spec hc) hyear hpositive h
  | cron expression =>
    simp only [next, Except.bind_eq_ok] at h
    obtain ⟨s, hs, h⟩ := h
    have horderly : s.Orderly := by
      unfold cronSchedule at hs
      dsimp only at hs
      split at hs
      · rename_i s' hparse
        cases hs
        exact Cron.Schedule.orderly_of_parse? hparse
      · cases hs
    split at h
    · rename_i run' hnext
      cases h
      obtain ⟨d, c, rfl, hexists, -, hle, hseconds, hnanos, hlater⟩ :=
        Cron.Schedule.next?_spec horderly hnext
      refine ⟨hlater, hnanos, ?_⟩
      rw [Instant.dayNumber_ofDateClock _ hseconds]
      have hlast : Instant.firstLongDay.dayNumber = 2932897 := by decide
      rw [← hlast, Date.dayNumber_lt_iff hexists Instant.firstLongDay_exists]
      refine .inl ?_
      unfold Instant.firstLongDay
      dsimp only
      omega
    · cases h

/-- The text of the next run reads back, and comes after the text of the instant. -/
theorem text_lt_of_next {r : Recurrence} {now run : Instant} (hnow : now.Plain)
    (hyear : now.date.year ≤ 9998) (h : r.next now = .ok run) :
    run.Plain ∧ Time.rfc3339Micros now < Time.rfc3339Micros run := by
  have hafter := runsAfter_next hyear h
  have hrun := Instant.plain_of_later hnow hafter.seconds_lt hafter.nanos_eq hafter.dayNumber_lt
  exact ⟨hrun, Time.rfc3339Micros_lt hnow hrun (.inl hafter.seconds_lt)⟩

end Recurrence

end TenantReports
