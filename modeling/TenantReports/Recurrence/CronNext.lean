import TenantReports.Recurrence.Cron
import TenantReports.Time.Instant

/-!
# The next run of a cron schedule

The next run is searched from one second after a given instant, year by year and in each year
month by month, down to the seconds. As long as every unit so far has the value of the start, the
next unit is searched from the start's value on, otherwise from its least value. The first year
that is searched counts as the year of the start even if it is later.

## Main definitions

* `Cron.search`: one unit of the search
* `Cron.Schedule.next?`: the next run after an instant
-/

namespace TenantReports.Cron

open Time (Date Clock Instant)

/-- The first result over the values of a unit from `low` to `high`. While `tight`, the search
starts at `start`, and stays tight for the first value if `start` is a value of the unit. -/
def search {α : Type} (values : List Nat) (tight : Bool) (start low high : Nat)
    (inner : Bool → Nat → Option α) : Option α :=
  let first := if tight then start else low
  match values.filter fun v => min first high ≤ v && v ≤ high with
  | [] => none
  | v :: rest => inner (tight && values.contains first) v <|> rest.findSome? (inner false)

/-- The number of a day of the week, from Sunday as 1. -/
def weekdayNumber (d : Date) : Nat := (d.weekdayIndex + 1) % 7 + 1

namespace Schedule

/-- The first time of day of the schedule, from a start if `tight`. -/
def timeOfDay? (s : Schedule) (tight : Bool) (start : Clock) : Option Clock :=
  search s.hours tight start.hour 0 23 fun tight hour =>
    search s.minutes tight start.minute 0 59 fun tight minute =>
      search s.seconds tight start.second 0 59 fun _ second =>
        some ⟨hour, minute, second, 0⟩

/-- The first run of the schedule on a day, from a start if `tight`. -/
def onDay? (s : Schedule) (tight : Bool) (start : Clock) (d : Date) : Option Instant :=
  if s.weekdays.contains (weekdayNumber d) then
    (s.timeOfDay? tight start).map (Instant.ofDateClock d)
  else none

/-- The first run of the schedule in a year, from a start if `tight`. -/
def inYear? (s : Schedule) (tight : Bool) (start : Date × Clock) (year : Nat) : Option Instant :=
  search s.months tight start.1.month 1 12 fun tight month =>
    search s.days tight start.1.day 1 (Time.daysInMonth year month) fun tight day =>
      s.onDay? tight start.2 ⟨year, month, day⟩

/-- The next run after an instant. -/
def next? (s : Schedule) (after : Instant) : Option Instant :=
  let from_ := after.addSeconds 1
  let start := (from_.date, from_.clock)
  match s.years.filter fun y : Nat => start.1.year ≤ (y : Int) && 0 ≤ start.1.year with
  | [] => none
  | y :: rest => s.inYear? true start y <|> rest.findSome? (s.inYear? false start)

end Schedule

end TenantReports.Cron
