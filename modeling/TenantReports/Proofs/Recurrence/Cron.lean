import TenantReports.Proofs.Time.Rfc3339
import TenantReports.Recurrence.CronNext

/-!
# The next run of a cron schedule is later

The search takes the units one after the other and keeps the start's value as long as it can. What
makes its result later than the start is that each list of values is in ascending order: as soon as
one value is above that of the start, the smaller units may take any value.

## Main definitions

* `Cron.TimeUnit.Lists`: values of a unit, in ascending order
* `Cron.Schedule.Orderly`: so are all values of a schedule

## Main results

* `Cron.Schedule.orderly_of_parse?`: what is parsed is orderly
* `Cron.search_eq_some`: all that one unit of the search can find
* `Cron.Schedule.next?_spec`: the next run is a time of day on a date, and it is later
-/

namespace TenantReports.Cron

open Time (Clock Date Instant daysInMonth)

/-! ## Values -/

/-- Values of a unit, in ascending order. -/
structure TimeUnit.Lists (u : TimeUnit) (values : List Nat) : Prop where
  sorted : values.Pairwise (· < ·)
  within : ∀ v ∈ values, u.low ≤ v ∧ v ≤ u.high

/-- The values of all units of a schedule are in ascending order. -/
structure Schedule.Orderly (s : Schedule) : Prop where
  seconds : TimeUnit.second.Lists s.seconds
  minutes : TimeUnit.minute.Lists s.minutes
  hours : TimeUnit.hour.Lists s.hours
  days : TimeUnit.day.Lists s.days
  months : TimeUnit.month.Lists s.months
  years : TimeUnit.year.Lists s.years

namespace TimeUnit

variable {u : TimeUnit}

theorem lists_all (u : TimeUnit) : u.Lists u.all where
  sorted := by
    unfold all between
    rw [List.pairwise_map]
    exact List.pairwise_lt_range.imp fun h => Nat.add_lt_add_right h u.low
  within := by
    intro v hv
    unfold all between at hv
    obtain ⟨n, hn, rfl⟩ := List.mem_map.mp hv
    rw [List.mem_range] at hn
    omega

theorem Lists.filter {values : List Nat} (h : u.Lists values) (p : Nat → Bool) :
    u.Lists (values.filter p) :=
  ⟨h.sorted.filter p, fun v hv => h.within v (List.mem_of_mem_filter hv)⟩

/-- Whatever items a field has, its values are picked from all values of the unit. -/
theorem lists_of_values? {items : List Item} {values : List Nat}
    (h : u.values? items = some values) : u.Lists values := by
  simp only [values?, Option.bind_eq_bind, Option.bind_eq_some_iff, Option.pure_def,
    Option.some.injEq] at h
  obtain ⟨_, -, _, -, rfl⟩ := h
  exact u.lists_all.filter _

theorem lists_of_field? {cs rest : List Char} {values : List Nat}
    (h : u.field? cs = some (values, rest)) : u.Lists values := by
  simp only [field?, Option.bind_eq_bind, Option.bind_eq_some_iff, Option.pure_def,
    Option.some.injEq, Prod.mk.injEq] at h
  obtain ⟨_, -, _, hvalues, rfl, -⟩ := h
  exact lists_of_values? hvalues

theorem lists_of_questionField? {cs rest : List Char} {values : List Nat}
    (h : u.questionField? cs = some (values, rest)) : u.Lists values := by
  simp only [questionField?, Option.bind_eq_bind, Option.bind_eq_some_iff, Option.pure_def,
    Option.some.injEq, Prod.mk.injEq] at h
  obtain ⟨_, -, _, hvalues, rfl, -⟩ := h
  exact lists_of_values? hvalues

theorem lists_singleton {v : Nat} (h : u.low ≤ v ∧ v ≤ u.high) : u.Lists [v] :=
  ⟨List.pairwise_singleton _ v, by simpa using h⟩

end TimeUnit

namespace Schedule

theorem orderly_hourly : hourly.Orderly where
  seconds := TimeUnit.lists_singleton (by decide)
  minutes := TimeUnit.lists_singleton (by decide)
  hours := TimeUnit.lists_all _
  days := TimeUnit.lists_all _
  months := TimeUnit.lists_all _
  years := TimeUnit.lists_all _

theorem orderly_daily : daily.Orderly :=
  { orderly_hourly with hours := TimeUnit.lists_singleton (by decide) }

theorem orderly_of_shorthand? {cs : List Char} {s : Schedule} (h : shorthand? cs = some s) :
    s.Orderly := by
  obtain ⟨⟨name, s'⟩, hfind, rfl⟩ := Option.map_eq_some_iff.mp h
  have hmem := List.mem_of_find?_eq_some hfind
  have hfirst : TimeUnit.day.Lists [1] := TimeUnit.lists_singleton (by decide)
  simp only [shorthands, List.mem_cons, Prod.mk.injEq, List.not_mem_nil, or_false] at hmem
  rcases hmem with ⟨-, rfl⟩ | ⟨-, rfl⟩ | ⟨-, rfl⟩ | ⟨-, rfl⟩ | ⟨-, rfl⟩
  · exact { orderly_daily with
      days := hfirst, months := TimeUnit.lists_singleton (by decide) }
  · exact { orderly_daily with days := hfirst }
  · exact { orderly_daily with }
  · exact orderly_daily
  · exact orderly_hourly

theorem orderly_of_fields? {cs : List Char} {s : Schedule} (h : fields? cs = some s) :
    s.Orderly := by
  simp only [fields?, Option.bind_eq_bind, Option.bind_eq_some_iff] at h
  obtain ⟨⟨seconds, r₁⟩, hseconds, ⟨minutes, r₂⟩, hminutes, ⟨hours, r₃⟩, hhours, ⟨days, r₄⟩, hdays,
    ⟨months, r₅⟩, hmonths, ⟨weekdays, r₆⟩, -, h⟩ := h
  -- without a field for them, all years are meant
  have hyears : TimeUnit.year.Lists ((TimeUnit.year.field? r₆).getD (TimeUnit.year.all, r₆)).1 := by
    cases hfield : TimeUnit.year.field? r₆ with
    | none => exact TimeUnit.lists_all _
    | some field =>
      obtain ⟨years, rest⟩ := field
      exact TimeUnit.lists_of_field? hfield
  split at h
  · rw [Option.some.injEq] at h
    subst h
    exact ⟨TimeUnit.lists_of_field? hseconds, TimeUnit.lists_of_field? hminutes,
      TimeUnit.lists_of_field? hhours, TimeUnit.lists_of_questionField? hdays,
      TimeUnit.lists_of_field? hmonths, hyears⟩
  · cases h

/-- **What is parsed is orderly.** -/
theorem orderly_of_parse? {text : String} {s : Schedule} (h : parse? text = some s) :
    s.Orderly := by
  unfold parse? at h
  cases hshort : shorthand? text.toList with
  | some s' =>
    rw [hshort] at h
    cases h
    exact orderly_of_shorthand? hshort
  | none =>
    rw [hshort] at h
    exact orderly_of_fields? h

end Schedule

/-! ## The search -/

/-- **All that one unit of the search can find**: a value of the unit that is not above the upper
bound, and what comes of the smaller units. From a start within the bound, the value is above the
start, or it is the start and the smaller units go on from theirs. -/
theorem search_eq_some {α : Type} {values : List Nat} {tight : Bool} {start low high : Nat}
    {inner : Bool → Nat → Option α} {a : α} (hsorted : values.Pairwise (· < ·))
    (h : search values tight start low high inner = some a) :
    ∃ v ∈ values, v ≤ high ∧ ∃ tight', inner tight' v = some a ∧
      (tight = true → start ≤ high → start < v ∨ v = start ∧ tight' = true) := by
  unfold search at h
  generalize hfirst : (if tight = true then start else low) = first at h
  have hmem : ∀ v, v ∈ values.filter (fun v => min first high ≤ v && v ≤ high) →
      v ∈ values ∧ min first high ≤ v ∧ v ≤ high := by
    intro v hv
    simpa using hv
  have hfound := hsorted.filter fun v => min first high ≤ v && v ≤ high
  -- from a start within the bound, what is left of the values begins at the start
  have hstart : tight = true → start ≤ high → min first high = start := by
    rintro rfl hle
    rw [← hfirst, if_pos rfl]
    exact Nat.min_eq_left hle
  dsimp only at h
  split at h
  · cases h
  · rename_i v rest hvalues
    rw [hvalues] at hmem hfound
    obtain ⟨hv, hlow, hhigh⟩ := hmem v List.mem_cons_self
    cases hinner : inner (tight && values.contains first) v with
    | some b =>
      rw [hinner] at h
      refine ⟨v, hv, hhigh, _, hinner.trans h, fun htight hle => ?_⟩
      rw [hstart htight hle] at hlow
      rcases Nat.lt_or_eq_of_le hlow with hlt | heq
      · exact .inl hlt
      · refine .inr ⟨heq.symm, ?_⟩
        rw [htight, ← hfirst, htight, if_pos rfl, Bool.true_and, List.contains_iff_mem, heq]
        exact hv
    | none =>
      rw [hinner] at h
      obtain ⟨v', hv', hlater⟩ := List.exists_of_findSome?_eq_some h
      obtain ⟨hmem', -, hhigh'⟩ := hmem v' (List.mem_cons_of_mem v hv')
      refine ⟨v', hmem', hhigh', false, hlater, fun htight hle => .inl ?_⟩
      rw [hstart htight hle] at hlow
      have hlt := (List.pairwise_cons.mp hfound).1 v' hv'
      omega

namespace Schedule

variable {s : Schedule} (hs : s.Orderly) {tight : Bool}

include hs

/-- A time of day of the schedule is one of a day, and not before the start. -/
theorem timeOfDay?_spec {start c : Clock} (h : s.timeOfDay? tight start = some c) :
    c.seconds < 86400 ∧ c.nanos = 0 ∧
      (tight = true → start.hour ≤ 23 → start.minute ≤ 59 → start.second ≤ 59 →
        start.seconds ≤ c.seconds) := by
  obtain ⟨hour, hhour, -, tight₁, h₁, hlater₁⟩ := search_eq_some hs.hours.sorted h
  obtain ⟨minute, hminute, -, tight₂, h₂, hlater₂⟩ := search_eq_some hs.minutes.sorted h₁
  obtain ⟨second, hsecond, -, tight₃, h₃, hlater₃⟩ := search_eq_some hs.seconds.sorted h₂
  have hhour := (hs.hours.within hour hhour).2
  have hminute := (hs.minutes.within minute hminute).2
  have hsecond := (hs.seconds.within second hsecond).2
  simp only [TimeUnit.hour, TimeUnit.minute, TimeUnit.second] at hhour hminute hsecond
  rw [Option.some.injEq] at h₃
  subst h₃
  unfold Clock.seconds
  refine ⟨by dsimp only; omega, rfl, fun htight hh hm hsec => ?_⟩
  dsimp only
  rcases hlater₁ htight hh with hlt | ⟨rfl, htight₁⟩
  · omega
  rcases hlater₂ htight₁ hm with hlt | ⟨rfl, htight₂⟩
  · omega
  rcases hlater₃ htight₂ hsec with hlt | ⟨rfl, -⟩ <;> omega

/-- A run in a year is on a date of that year. If that is the year of the start, the date is not
before that of the start, and on that date the time of day is not before that of the start. -/
theorem inYear?_spec {start : Date × Clock} {year : Nat} {run : Instant}
    (h : s.inYear? tight start year = some run) :
    ∃ (d : Date) (c : Clock), run = Instant.ofDateClock d c ∧ d.Exists ∧ d.year = year ∧
      c.seconds < 86400 ∧ c.nanos = 0 ∧
      (tight = true → start.1.Exists → start.1.year = year → start.2.hour ≤ 23 →
        start.2.minute ≤ 59 → start.2.second ≤ 59 →
        start.1.Before d ∨ start.1 = d ∧ start.2.seconds ≤ c.seconds) := by
  obtain ⟨month, hmonth, -, tight₁, h₁, hlater₁⟩ := search_eq_some hs.months.sorted h
  obtain ⟨day, hday, hlast, tight₂, h₂, hlater₂⟩ := search_eq_some hs.days.sorted h₁
  have hmonth := hs.months.within month hmonth
  have hday := (hs.days.within day hday).1
  simp only [TimeUnit.month, TimeUnit.day] at hmonth hday
  unfold onDay? at h₂
  split at h₂
  · obtain ⟨c, htime, rfl⟩ := Option.map_eq_some_iff.mp h₂
    obtain ⟨hseconds, hnanos, hlater₃⟩ := timeOfDay?_spec hs htime
    refine ⟨⟨year, month, day⟩, c, rfl, ⟨hmonth.1, hmonth.2, hday, hlast⟩, rfl, hseconds, hnanos,
      fun htight hexists hyear hh hm hsec => ?_⟩
    -- unit by unit: later already, or still the value of the start
    rcases hlater₁ htight hexists.month_le with hlt | ⟨rfl, htight₁⟩
    · exact .inl (.inr ⟨hyear, .inl hlt⟩)
    rcases hlater₂ htight₁ (hyear ▸ hexists.day_le) with hlt | ⟨rfl, htight₂⟩
    · exact .inl (.inr ⟨hyear, .inr ⟨rfl, hlt⟩⟩)
    · refine .inr ⟨?_, hlater₃ htight₂ hh hm hsec⟩
      rw [← hyear]
  · cases h₂

/-- **The next run is later**: it is a time of day on a date no later than the year 2100, and at
least a second after the start. -/
theorem next?_spec {after run : Instant} (h : s.next? after = some run) :
    ∃ (d : Date) (c : Clock), run = Instant.ofDateClock d c ∧ d.Exists ∧ 0 ≤ d.year ∧
      d.year ≤ 2100 ∧ c.seconds < 86400 ∧ c.nanos = 0 ∧ after.seconds < run.seconds := by
  unfold next? at h
  dsimp only at h
  generalize hfrom : after.addSeconds 1 = start at h
  have hseconds : start.seconds = after.seconds + 1 := by rw [← hfrom, Instant.addSeconds]
  -- a run in a year that is not before that of the start, if it was searched as it should
  have hyear : ∀ (tight : Bool) (y : Nat), y ∈ s.years → start.date.year ≤ y →
      (start.date.year = y → tight = true) → s.inYear? tight (start.date, start.clock) y = some run →
      ∃ (d : Date) (c : Clock), run = Instant.ofDateClock d c ∧ d.Exists ∧ 0 ≤ d.year ∧
        d.year ≤ 2100 ∧ c.seconds < 86400 ∧ c.nanos = 0 ∧ after.seconds < run.seconds := by
    intro tight y hy hle htight hrun
    obtain ⟨d, c, rfl, hexists, hd, hc, hnanos, hlater⟩ := inYear?_spec hs hrun
    have hbound := (hs.years.within y hy).2
    simp only [TimeUnit.year] at hbound
    refine ⟨d, c, rfl, hexists, by omega, by omega, hc, hnanos, ?_⟩
    have hstart := start.seconds_eq
    have hnotBefore : start.date.Before d ∨ start.date = d ∧ start.clock.seconds ≤ c.seconds := by
      rcases Int.lt_or_eq_of_le hle with hlt | heq
      · exact .inl (.inl (hd ▸ hlt))
      · refine hlater (htight heq) start.exists_date heq ?_ ?_ ?_
        all_goals
          unfold Instant.clock Clock.ofSeconds
          dsimp only
          omega
    unfold Instant.ofDateClock
    dsimp only
    rcases hnotBefore with hbefore | ⟨rfl, hclock⟩
    · have hlt := hbefore.dayNumber_lt start.exists_date hexists
      omega
    · unfold Instant.clock Clock.ofSeconds Clock.seconds at hclock
      unfold Clock.seconds
      dsimp only at hclock ⊢
      omega
  have hmem : ∀ y, y ∈ s.years.filter (fun y : Nat =>
      start.date.year ≤ (y : Int) && 0 ≤ start.date.year) →
      y ∈ s.years ∧ start.date.year ≤ (y : Int) := by
    intro y hy
    simp only [List.mem_filter, Bool.and_eq_true, decide_eq_true_eq] at hy
    exact ⟨hy.1, hy.2.1⟩
  have hsorted := hs.years.sorted.filter fun y : Nat =>
    start.date.year ≤ (y : Int) && 0 ≤ start.date.year
  split at h
  · cases h
  · rename_i y rest hvalues
    rw [hvalues] at hmem hsorted
    obtain ⟨hy, hle⟩ := hmem y List.mem_cons_self
    cases hinner : s.inYear? true (start.date, start.clock) y with
    | some run' =>
      rw [hinner] at h
      exact hyear true y hy hle (fun _ => rfl) (hinner.trans h)
    | none =>
      rw [hinner] at h
      obtain ⟨y', hy', hlater⟩ := List.exists_of_findSome?_eq_some h
      obtain ⟨hmem', hle'⟩ := hmem y' (List.mem_cons_of_mem y hy')
      have hlt := (List.pairwise_cons.mp hsorted).1 y' hy'
      refine hyear false y' hmem' hle' (fun heq => ?_) hlater
      omega

end Schedule

end TenantReports.Cron
