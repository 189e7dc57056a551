import TenantReports.Time.Calendar

/-!
# Instants

An instant is a number of seconds since the start of 1970 in universal time, and nanoseconds.
A leap second counts as part of the second before it, with a thousand million nanoseconds or
more.

## Main definitions

* `Clock`: a time of day
* `Instant`: the instants, with their order
* `Instant.ofDateClock`, `Instant.date`, `Instant.clock`: date and time of day
-/

namespace TenantReports.Time

/-- A time of day. During a leap second, `nanos` is a thousand million or more. -/
structure Clock where
  hour : Nat
  minute : Nat
  second : Nat
  nanos : Nat := 0
deriving DecidableEq, Repr

namespace Clock

/-- The seconds since midnight. -/
def seconds (c : Clock) : Nat := c.hour * 3600 + c.minute * 60 + c.second

/-- The time of day of a number of seconds since midnight. -/
def ofSeconds (s nanos : Nat) : Clock := ⟨s / 3600, s / 60 % 60, s % 60, nanos⟩

end Clock

/-- Seconds since the start of 1970 in universal time, and nanoseconds. -/
structure Instant where
  seconds : Int
  nanos : Nat
deriving DecidableEq, Repr, Inhabited

namespace Instant

/-- Earlier in seconds, or in nanoseconds within a second. -/
def Before (a b : Instant) : Prop :=
  a.seconds < b.seconds ∨ a.seconds = b.seconds ∧ a.nanos < b.nanos

instance : LT Instant := ⟨Before⟩

instance : LE Instant := ⟨fun a b => ¬ b < a⟩

instance (a b : Instant) : Decidable (a < b) :=
  inferInstanceAs (Decidable (a.seconds < b.seconds ∨ a.seconds = b.seconds ∧ a.nanos < b.nanos))

instance (a b : Instant) : Decidable (a ≤ b) := inferInstanceAs (Decidable (¬ b < a))

/-- The instant of a date and a time of day. -/
def ofDateClock (d : Date) (c : Clock) : Instant := ⟨d.dayNumber * 86400 + c.seconds, c.nanos⟩

/-- The number of days since the start of 1970. -/
def dayNumber (t : Instant) : Int := t.seconds / 86400

/-- The date in universal time. -/
def date (t : Instant) : Date := .ofDayNumber t.dayNumber

/-- The time of day in universal time. -/
def clock (t : Instant) : Clock := .ofSeconds (t.seconds % 86400).toNat t.nanos

/-- A number of seconds later. -/
def addSeconds (t : Instant) (s : Int) : Instant := ⟨t.seconds + s, t.nanos⟩

/-- The instant less what is below a microsecond. -/
def truncateMicros (t : Instant) : Instant := ⟨t.seconds, t.nanos / 1000 * 1000⟩

end Instant

end TenantReports.Time
