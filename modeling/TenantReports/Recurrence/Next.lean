import TenantReports.Named
import TenantReports.Recurrence.Basic
import TenantReports.Recurrence.CronNext
import TenantReports.Time.Pattern

/-!
# The next run of a recurrence

A daily recurrence fires at its time of day; a weekly one also on its weekday; a monthly one on
its day, or on the last day of a month that is too short. The next run is the first one strictly
after an instant.

## Main definitions

* `timeOfDay`, `weekdayOf`, `dayOfMonth`: the parts of a recurrence, checked
* `Recurrence.validate`: what is wrong with a recurrence
* `Recurrence.next`, `Recurrence.runs`: the next run after an instant, and the next few
-/

namespace TenantReports

open Time (Date Clock Instant Weekday)

/-- The time of day of a text of five bytes, hours and minutes with a colon as the third byte. -/
def timeOfDay (text : String) : Except RecurrenceError Clock :=
  let bytes := text.toUTF8.data
  if bytes.size = 5 ∧ bytes[2]? = some 58 then
    match Time.readParts? Time.minutePattern {} text.toList with
    | some f => .ok ⟨f.hour, f.minute, 0, 0⟩
    | none => .error (.invalidTime text)
  else .error (.invalidTime text)

/-- The weekday of a name: the whole English name or its first three letters, in any case. -/
def weekdayOf (text : String) : Except RecurrenceError Weekday :=
  let name := lowerAscii (Text.trim text)
  match Weekday.all.find? fun d => d.name == name || d.name.toList.take 3 == name.toList with
  | some d => .ok d
  | none => .error (.invalidWeekday text)

/-- A day of a month. -/
def dayOfMonth (day : Nat) : Except RecurrenceError Nat :=
  if 1 ≤ day ∧ day ≤ 31 then .ok day else .error (.invalidDayOfMonth day)

/-- The schedule of a cron expression. One of five words has no field for seconds, and fires at
second zero. -/
def cronSchedule (expression : String) : Except RecurrenceError Cron.Schedule :=
  let trimmed := Text.trim expression
  let full := if Text.wordCount trimmed = 5 then "0 " ++ trimmed else trimmed
  match Cron.Schedule.parse? full with
  | some s => .ok s
  | none => .error (.invalidCron expression)

/-- The next time a clock shows a time of day. -/
def nextDaily (time : Clock) (now : Instant) : Instant :=
  let today := Instant.ofDateClock now.date time
  if now < today then today else today.addSeconds 86400

/-- The next time a clock shows a time of day on a weekday. -/
def nextWeekly (day : Weekday) (time : Clock) (now : Instant) : Instant :=
  let ahead := (7 + day.index - now.date.weekdayIndex) % 7
  let candidate := (Instant.ofDateClock now.date time).addSeconds (86400 * ahead)
  if now < candidate then candidate else candidate.addSeconds (86400 * 7)

/-- The day of a month, or its last day if it is too short. -/
def clampedDay (year : Int) (month day : Nat) : Date :=
  ⟨year, month, min day (Time.daysInMonth year month)⟩

/-- The next time a clock shows a time of day on a day of the month: in this month, or in the
next one. -/
def nextMonthly (day : Nat) (time : Clock) (now : Instant) : Except RecurrenceError Instant :=
  let d := now.date
  let this := Instant.ofDateClock (clampedDay d.year d.month day) time
  let (year, month) := if d.month = 12 then (d.year + 1, 1) else (d.year, d.month + 1)
  let following := Instant.ofDateClock (clampedDay year month day) time
  if now < this then .ok this
  else if now < following then .ok following
  else .error (.invalidDayOfMonth day)

namespace Recurrence

/-- What is wrong with a recurrence, if anything. -/
def validate : Recurrence → Except RecurrenceError Unit
  | .daily time => do
    let _ ← timeOfDay time
  | .weekly day time => do
    let _ ← weekdayOf day
    let _ ← timeOfDay time
  | .monthly day time => do
    let _ ← dayOfMonth day
    let _ ← timeOfDay time
  | .cron expression => do
    let _ ← cronSchedule expression

/-- The first run strictly after an instant. -/
def next (r : Recurrence) (now : Instant) : Except RecurrenceError Instant :=
  match r with
  | .daily time => do
    let time ← timeOfDay time
    return nextDaily time now
  | .weekly day time => do
    let day ← weekdayOf day
    let time ← timeOfDay time
    return nextWeekly day time now
  | .monthly day time => do
    let day ← dayOfMonth day
    let time ← timeOfDay time
    nextMonthly day time now
  | .cron expression => do
    let s ← cronSchedule expression
    match s.next? now with
    | some run => .ok run
    | none => .error (.noUpcomingRun expression)

/-- The next `n` runs, each strictly after the one before it, up to an error. -/
def runs (r : Recurrence) : Nat → Instant → List Instant × Option RecurrenceError
  | 0, _ => ([], none)
  | n + 1, now => match r.next now with
    | .error e => ([], some e)
    | .ok run =>
      let (later, e) := r.runs n run
      (run :: later, e)

end Recurrence

end TenantReports
