import Mathlib.Data.List.TakeWhile
import TenantReports.Cells.Format
import TenantReports.Proofs.Time.Calendar
import TenantReports.Proofs.Time.Digits
import TenantReports.Proofs.Time.Rfc3339

/-!
# Texts of timestamps

A timestamp without a zone is a date, a blank or a `T`, and a time of day to the minute, to the
second or with a fraction of it. The texts of dates are as long as each other, so they are ordered
as the dates, whatever comes behind them; and what comes behind is ordered as the times of day,
except that a blank comes before a `T`.

## Main definitions

* `Date.Ordinary`: a date of the calendar whose year is written with four digits
* `Stamp`, `Stamp.text`: a timestamp without a zone, and its text
* `Stamp.Late`: the timestamp is after the beginning of the last second of its day

## Main results

* `Date.Ordinary.dateChars_lt_iff`: the texts of dates are ordered as the dates
* `parseDate?_dateChars`: a date is read back
* `Stamp.lastSecond_lt_iff`: the texts of times of day after the beginning of the last second
* `Stamp.exists_moment?`: what cells are formatted by reads a timestamp
-/

namespace TenantReports.Time

/-! ## Digits -/

/-- Digits are ordered as their numbers, and no others are. -/
theorem digits_lt_iff {width m n : Nat} (hm : m < 10 ^ width) (hn : n < 10 ^ width) :
    digits width m < digits width n ↔ m < n := by
  refine ⟨fun h => ?_, digits_lt hn⟩
  rcases Nat.lt_trichotomy m n with hlt | rfl | hgt
  · exact hlt
  · exact absurd h (List.lt_irrefl _)
  · exact absurd h (List.lt_asymm (digits_lt hm hgt))

theorem digits_inj {width m n : Nat} (hm : m < 10 ^ width) (hn : n < 10 ^ width) :
    digits width m = digits width n ↔ m = n := by
  constructor
  · intro h
    rw [← digitsValue_digits hm, h, digitsValue_digits hn]
  · rintro rfl
    rfl

/-- Digits before other characters: the first difference counts. -/
theorem digits_append_lt_iff {width m n : Nat} (hm : m < 10 ^ width) (hn : n < 10 ^ width)
    {us vs : List Char} :
    digits width m ++ us < digits width n ++ vs ↔ m < n ∨ m = n ∧ us < vs := by
  rw [append_lt_append_iff (by simp), digits_lt_iff hm hn, digits_inj hm hn]

/-! ## Dates -/

/-- A date of the calendar whose year is written with four digits and no sign. -/
structure Date.Ordinary (d : Date) : Prop extends d.Exists where
  year_nonneg : 0 ≤ d.year
  year_le : d.year ≤ 9999

namespace Date.Ordinary

variable {d d' : Date}

theorem month_lt (h : d.Ordinary) : d.month < 10 ^ 2 := by
  have hmonth := h.month_le
  omega

theorem day_lt (h : d.Ordinary) : d.day < 10 ^ 2 := by
  have hday := Nat.le_trans h.day_le (daysInMonth_le d.year d.month)
  omega

theorem year_lt (h : d.Ordinary) : d.year.toNat < 10 ^ 4 := by
  have hyear := h.year_le
  omega

/-- A date is written in digits. -/
theorem dateChars_eq (h : d.Ordinary) : dateChars d
    = digits 4 d.year.toNat ++ '-' :: (digits 2 d.month ++ '-' :: digits 2 d.day) := by
  rw [dateChars, yearChars, if_pos ⟨h.year_nonneg, h.year_le⟩,
    padded_eq_digits (by decide) h.year_lt, padded_eq_digits (by decide) h.month_lt,
    padded_eq_digits (by decide) h.day_lt]
  simp

theorem length_dateChars (h : d.Ordinary) : (dateChars d).length = 10 := by
  simp [h.dateChars_eq]

/-- The texts of dates are ordered as the dates. -/
theorem dateChars_lt_iff (h : d.Ordinary) (h' : d'.Ordinary) :
    dateChars d < dateChars d' ↔ d.Before d' := by
  have hyear := h.year_nonneg
  have hyear' := h'.year_nonneg
  have hday : digits 2 d.day < digits 2 d'.day ↔ d.day < d'.day :=
    digits_lt_iff h.day_lt h'.day_lt
  rw [h.dateChars_eq, h'.dateChars_eq, digits_append_lt_iff h.year_lt h'.year_lt,
    List.cons_lt_cons_self, digits_append_lt_iff h.month_lt h'.month_lt, List.cons_lt_cons_self,
    hday, Date.Before]
  omega

/-- Different dates have different texts. -/
theorem dateChars_inj (h : d.Ordinary) (h' : d'.Ordinary) :
    dateChars d = dateChars d' ↔ d = d' := by
  constructor
  · intro heq
    rcases Date.before_trichotomy d d' with hlt | hsame | hgt
    · exact absurd ((h.dateChars_lt_iff h').mpr hlt) (heq ▸ List.lt_irrefl _)
    · exact hsame
    · exact absurd ((h'.dateChars_lt_iff h).mpr hgt) (heq ▸ List.lt_irrefl _)
  · rintro rfl
    rfl

theorem isValid (h : d.Ordinary) : d.isValid = true := by
  have hyear := h.year_nonneg
  have hyear' := h.year_le
  simp only [Date.isValid, Bool.and_eq_true, decide_eq_true_eq]
  exact ⟨⟨⟨⟨⟨by omega, by omega⟩, h.one_le_month⟩, h.month_le⟩, h.one_le_day⟩, h.day_le⟩

end Date.Ordinary

/-! ## Reading by patterns -/

theorem exists_cons_digits {width : Nat} (hwidth : 0 < width) (n : Nat) :
    ∃ c cs, digits width n = c :: cs ∧ c.isDigit = true := by
  obtain ⟨c, cs, hdigits⟩ := List.exists_cons_of_length_pos (by simpa : 0 < (digits width n).length)
  exact ⟨c, cs, hdigits, isDigit_of_mem_digits (hdigits ▸ List.mem_cons_self)⟩

theorem isDigit_of_mem_head?_digits {width n : Nat} {rest : List Char} (hwidth : 0 < width) :
    ∀ c ∈ (digits width n ++ rest).head?, c.isDigit = true := by
  obtain ⟨c, cs, hdigits, hc⟩ := exists_cons_digits hwidth n
  rw [hdigits]
  rintro _ ⟨⟩
  exact hc

/-- There are no blanks to drop before a digit. -/
theorem dropBlanks_of_digits {cs : List Char} (h : ∀ c ∈ cs.head?, c.isDigit = true) :
    Text.dropBlanks cs = cs := by
  cases cs with
  | nil => rfl
  | cons c cs =>
    have hc := isBlank_eq_false_of_isDigit (h c rfl)
    rw [Text.dropBlanks, List.dropWhile_cons_of_neg (by simp [hc])]

theorem dropBlanks_digits {width : Nat} (hwidth : 0 < width) (n : Nat) (rest : List Char) :
    Text.dropBlanks (digits width n ++ rest) = digits width n ++ rest :=
  dropBlanks_of_digits (isDigit_of_mem_head?_digits hwidth)

theorem takeWhile_digits (width n : Nat) :
    (digits width n).takeWhile Char.isDigit = digits width n :=
  List.takeWhile_eq_self_iff.mpr fun _ => isDigit_of_mem_digits

/-- All digits that there is room for are a number. -/
theorem shortNumber?_digits {width n : Nat} (hwidth : 0 < width) (h : n < 10 ^ width)
    (rest : List Char) : shortNumber? width (digits width n ++ rest) = some (n, rest) := by
  obtain ⟨c, cs, hdigits, hc⟩ := exists_cons_digits hwidth n
  have hempty : (digits width n).isEmpty = false := by rw [hdigits, List.isEmpty_cons]
  unfold shortNumber?
  dsimp only
  rw [dropBlanks_digits hwidth, List.take_left' (length_digits width n), takeWhile_digits, hempty,
    if_neg Bool.false_ne_true, digitsValue_digits h, List.drop_left' rfl]

/-- Four digits are a year. -/
theorem year?_digits {n : Nat} (h : n < 10 ^ 4) (rest : List Char) :
    year? (digits 4 n ++ rest) = some ((n : Int), rest) := by
  obtain ⟨c, cs, hdigits, hc⟩ := exists_cons_digits (by decide : 0 < 4) n
  have hread := shortNumber?_digits (by decide) h rest
  unfold year?
  rw [dropBlanks_digits (by decide), hdigits, List.cons_append]
  rw [hdigits, List.cons_append] at hread
  -- the first digit is no sign
  split
  next heq =>
    obtain ⟨rfl, -⟩ := List.cons.inj heq
    cases hc
  next heq =>
    obtain ⟨rfl, -⟩ := List.cons.inj heq
    cases hc
  next =>
    rw [hread]
    rfl

/-- Two digits between bounds. -/
theorem within?_digits {low high n : Nat} (hn : low ≤ n ∧ n ≤ high) (h : n < 10 ^ 2)
    (rest : List Char) : within? low high (digits 2 n ++ rest) = some (n, rest) := by
  rw [within?, shortNumber?_digits (by decide) h]
  exact if_pos hn

section Read

variable (ps : List Part) (f : Fields) (rest : List Char)

/-- A date is read, whatever comes behind it. -/
theorem readParts?_date {d : Date} (h : d.Ordinary) :
    readParts? (datePattern ++ ps) f (dateChars d ++ rest)
      = readParts? ps { f with year := d.year, month := d.month, day := d.day } rest := by
  have hyear : ((d.year.toNat : Nat) : Int) = d.year := Int.toNat_of_nonneg h.year_nonneg
  have hday : d.day ≤ 31 := Nat.le_trans h.day_le (daysInMonth_le d.year d.month)
  rw [h.dateChars_eq]
  simp [datePattern, readParts?, readPart?, year?_digits h.year_lt, hyear,
    within?_digits ⟨h.one_le_month, h.month_le⟩ h.month_lt,
    within?_digits ⟨h.one_le_day, hday⟩ h.day_lt]

/-- So is an hour with its minute. -/
theorem readParts?_minute {hour minute : Nat} (hhour : hour ≤ 23) (hminute : minute ≤ 59) :
    readParts? (minutePattern ++ ps) f (digits 2 hour ++ ':' :: (digits 2 minute ++ rest))
      = readParts? ps { f with hour, minute } rest := by
  simp [minutePattern, readParts?, readPart?, within?_digits ⟨Nat.zero_le _, hhour⟩ (by omega),
    within?_digits ⟨Nat.zero_le _, hminute⟩ (by omega)]

end Read

/-- **A date is read back.** -/
theorem parseDate?_dateChars {d : Date} (h : d.Ordinary) : parseDate? (dateChars d) = some d := by
  have hread := readParts?_date [] {} [] h
  rw [List.append_nil, List.append_nil] at hread
  rw [parseDate?, hread, readParts?, List.isEmpty_nil, if_pos rfl, Option.bind_some, Fields.date?,
    if_pos h.isValid]

/-! ## Timestamps -/

/-- What stands between a date and a time of day. -/
inductive Separator where
  | blank
  | t
deriving DecidableEq, Repr

/-- The character of a separator. -/
def Separator.char : Separator → Char
  | .blank => ' '
  | .t => 'T'

/-- What a time of day has after its minute: nothing, a second, or a second and the digits of a
fraction. -/
inductive Seconds where
  | none
  | whole (second : Nat)
  | parts (second : Nat) (ds : List Char)
deriving DecidableEq, Repr

namespace Seconds

/-- The characters of seconds, with the colon before them. -/
def chars : Seconds → List Char
  | .none => []
  | .whole second => ':' :: digits 2 second
  | .parts second ds => ':' :: (digits 2 second ++ '.' :: ds)

/-- The second is one of a minute, which may have a leap second, and a fraction has digits. -/
def Fit : Seconds → Prop
  | .none => True
  | .whole second => second ≤ 60
  | .parts second ds => second ≤ 60 ∧ ds ≠ [] ∧ ∀ d ∈ ds, d.isDigit = true

/-- More than 59 seconds of the minute are over. -/
def Late : Seconds → Prop
  | .none => False
  | .whole second => 59 < second
  | .parts second _ => 59 ≤ second

/-- Seconds are late if their text comes after that of the last full one. -/
theorem lt_chars_iff {seconds : Seconds} (h : seconds.Fit) :
    ':' :: digits 2 59 < seconds.chars ↔ seconds.Late := by
  cases seconds with
  | none => simp [chars, Late]
  | whole second =>
    have hsecond : second < 10 ^ 2 := Nat.lt_of_le_of_lt h (by decide)
    rw [chars, List.cons_lt_cons_self, digits_lt_iff (by decide) hsecond, Late]
  | parts second ds =>
    have hsecond : second < 10 ^ 2 := Nat.lt_of_le_of_lt h.1 (by decide)
    -- a fraction comes after none
    have hfraction : digits 2 59 ++ [] < digits 2 second ++ '.' :: ds ↔ 59 ≤ second := by
      rw [digits_append_lt_iff (by decide) hsecond, Nat.le_iff_lt_or_eq,
        and_iff_left (List.nil_lt_cons _ _)]
    rw [chars, List.cons_lt_cons_self, ← List.append_nil (digits 2 59), hfraction, Late]

end Seconds

/-- A timestamp without a zone. -/
structure Stamp where
  date : Date
  separator : Separator
  hour : Nat
  minute : Nat
  seconds : Seconds
  ordinary : date.Ordinary
  hour_le : hour ≤ 23
  minute_le : minute ≤ 59
  fit : seconds.Fit

namespace Stamp

variable (s : Stamp)

/-- The characters of the time of day. -/
def clockChars : List Char :=
  digits 2 s.hour ++ ':' :: (digits 2 s.minute ++ s.seconds.chars)

/-- The text of a timestamp. -/
def text : String := String.ofList (dateChars s.date ++ s.separator.char :: s.clockChars)

/-- The timestamp is after the beginning of the last second of its day. -/
def Late : Prop := s.hour = 23 ∧ s.minute = 59 ∧ s.seconds.Late

/-- The beginning of the last second of a day. -/
def lastSecond : List Char := digits 2 23 ++ ':' :: (digits 2 59 ++ ':' :: digits 2 59)

/-- **The times of day that come after the beginning of the last second**, as texts. -/
theorem lastSecond_lt_iff : lastSecond < s.clockChars ↔ s.Late := by
  have hhour := s.hour_le
  have hminute := s.minute_le
  rw [lastSecond, clockChars, digits_append_lt_iff (by decide) (by omega), List.cons_lt_cons_self,
    digits_append_lt_iff (by decide) (by omega), Seconds.lt_chars_iff s.fit,
    or_iff_right (by omega), or_iff_right (by omega), Late, eq_comm, eq_comm (a := 59)]

end Stamp

/-! ## Reading timestamps -/

/-- Characters that begin and end with digits have no blanks at their ends. -/
theorem trimChars_of_digits {cs : List Char} (hhead : ∀ c ∈ cs.head?, c.isDigit = true)
    (hlast : ∀ c ∈ cs.getLast?, c.isDigit = true) : Text.trimChars cs = cs := by
  have hback : ∀ c ∈ cs.reverse.head?, c.isDigit = true := by rwa [List.head?_reverse]
  rw [Text.trimChars, dropBlanks_of_digits hhead, dropBlanks_of_digits hback, List.reverse_reverse]

/-- The second of a minute has its place in a leap second, if it is the sixtieth. -/
theorem exists_leapAware? {second : Nat} (h : second ≤ 60) (nanos : Nat) :
    ∃ shown, leapAware? second nanos = some shown := by
  unfold leapAware?
  rcases Nat.lt_or_eq_of_le h with hlt | rfl
  · exact ⟨_, if_pos hlt⟩
  · exact ⟨_, rfl⟩

/-- Seconds are read by their pattern. -/
theorem exists_readParts?_seconds {seconds : Seconds} (h : seconds.Fit) (hne : seconds ≠ .none)
    (f : Fields) : ∃ second nanos, second ≤ 60 ∧
      readParts? [.char ':', .second, .fraction] f seconds.chars
        = some { f with second, nanos } := by
  cases seconds with
  | none => exact absurd rfl hne
  | whole second =>
    have hread := within?_digits ⟨Nat.zero_le second, h⟩ (Nat.lt_of_le_of_lt h (by decide)) []
    rw [List.append_nil] at hread
    refine ⟨second, f.nanos, h, ?_⟩
    simp [readParts?, readPart?, Seconds.chars, hread]
  | parts second ds =>
    obtain ⟨hsecond, hds, hdigits⟩ := h
    have hread := within?_digits ⟨Nat.zero_le second, hsecond⟩
      (Nat.lt_of_le_of_lt hsecond (by decide)) ('.' :: ds)
    have htake : ds.takeWhile Char.isDigit = ds := List.takeWhile_eq_self_iff.mpr hdigits
    have hdrop : ds.dropWhile Char.isDigit = [] := List.dropWhile_eq_nil_iff.mpr hdigits
    refine ⟨second, fractionNanos ds, hsecond, ?_⟩
    simp [readParts?, readPart?, Seconds.chars, hread, htake, hdrop, hds]

/-- What is read by a pattern is a timestamp, if its date is one and its second that of a minute. -/
theorem exists_parseDateClock? {pattern : List Part} {cs : List Char} {f : Fields} {d : Date}
    (h : readParts? pattern {} cs = some f) (hd : d.Ordinary)
    (hdate : (⟨f.year, f.month, f.day⟩ : Date) = d) (hsecond : f.second ≤ 60) :
    ∃ clock, parseDateClock? pattern cs = some (d, clock) := by
  obtain ⟨⟨second, nanos⟩, hleap⟩ := exists_leapAware? hsecond f.nanos
  have hfields : f.date? = some d := by
    rw [Fields.date?, hdate]
    exact if_pos hd.isValid
  refine ⟨⟨f.hour, f.minute, second, nanos⟩, ?_⟩
  simp [parseDateClock?, h, hfields, hleap]

theorem parseDateClock?_eq_none {pattern : List Part} {cs : List Char}
    (h : readParts? pattern {} cs = none) : parseDateClock? pattern cs = none := by
  simp [parseDateClock?, h]

/-- A `T` is no blank before an hour. -/
theorem readParts?_blanks_t (ps : List Part) (f : Fields) (rest : List Char) :
    readParts? (.blanks :: .hour :: ps) f ('T' :: rest) = none := by
  have hblank : Text.isBlank 'T' = false := by decide
  have hdigit : 'T'.isDigit = false := by decide
  simp [readParts?, readPart?, within?, shortNumber?, Text.dropBlanks, hblank, hdigit]

namespace Stamp

variable (s : Stamp)

/-- A time of day ends with digits. -/
theorem exists_clockChars_eq_append : ∃ front ds, s.clockChars = front ++ ds ∧ ds ≠ [] ∧
    ∀ d ∈ ds, d.isDigit = true := by
  have hdigits : ∀ n, digits 2 n ≠ [] ∧ ∀ d ∈ digits 2 n, d.isDigit = true := fun n =>
    ⟨List.ne_nil_of_length_pos (by simp), fun _ => isDigit_of_mem_digits⟩
  have hfit := s.fit
  rw [clockChars]
  cases hs : s.seconds with
  | none => exact ⟨digits 2 s.hour ++ [':'], _, by simp [Seconds.chars], hdigits s.minute⟩
  | whole second =>
    exact ⟨digits 2 s.hour ++ ':' :: (digits 2 s.minute ++ [':']), _, by simp [Seconds.chars],
      hdigits second⟩
  | parts second ds =>
    rw [hs] at hfit
    exact ⟨digits 2 s.hour ++ ':' :: (digits 2 s.minute ++ ':' :: (digits 2 second ++ ['.'])), ds,
      by simp [Seconds.chars], hfit.2⟩

/-- The text of a timestamp has no blanks at its ends. -/
theorem trim_text : Text.trim s.text = s.text := by
  obtain ⟨front, ds, hclock, hne, hdigits⟩ := s.exists_clockChars_eq_append
  rw [text, Text.trim, String.toList_ofList, trimChars_of_digits]
  · rw [s.ordinary.dateChars_eq, List.append_assoc]
    exact isDigit_of_mem_head?_digits (by decide)
  · intro c hc
    have htext : dateChars s.date ++ s.separator.char :: s.clockChars
        = dateChars s.date ++ s.separator.char :: front ++ ds := by simp [hclock]
    rw [htext, List.getLast?_append_of_ne_nil _ hne] at hc
    exact hdigits c (List.mem_of_getLast? hc)

/-- A timestamp has no zone, so its text is that of no instant. -/
theorem parseRfc3339?_text : parseRfc3339? s.text = none := by
  have h := s.ordinary
  have hhour : s.hour < 10 ^ 2 := Nat.lt_of_le_of_lt s.hour_le (by decide)
  have hminute : s.minute < 10 ^ 2 := Nat.lt_of_le_of_lt s.minute_le (by decide)
  have hfit := s.fit
  unfold parseRfc3339?
  rw [text, String.toList_ofList, h.dateChars_eq, clockChars]
  -- everything is read up to the minute; what then fails is the second, or the zone behind it
  simp only [List.append_assoc, List.cons_append, fixedDigits?_digits h.year_lt,
    fixedDigits?_digits h.month_lt, fixedDigits?_digits h.day_lt, fixedDigits?_digits hhour,
    fixedDigits?_digits hminute, Option.bind_eq_bind, Option.bind_some]
  cases hs : s.seconds with
  | none => simp [Seconds.chars]
  | whole second =>
    rw [hs] at hfit
    have hsecond : second < 10 ^ 2 := Nat.lt_of_le_of_lt hfit (by decide)
    have hread := fixedDigits?_digits hsecond []
    rw [List.append_nil] at hread
    simp [Seconds.chars, hread, zoneSeconds?]
  | parts second ds =>
    rw [hs] at hfit
    have hsecond : second < 10 ^ 2 := Nat.lt_of_le_of_lt hfit.1 (by decide)
    have hdrop : ds.dropWhile Char.isDigit = [] := List.dropWhile_eq_nil_iff.mpr hfit.2.2
    simp [Seconds.chars, fixedDigits?_digits hsecond, hdrop, zoneSeconds?]

/-- Blanks are read up to the time of day. -/
theorem readParts?_blanks (ps : List Part) (f : Fields) :
    readParts? (.blanks :: ps) f (' ' :: s.clockChars) = readParts? ps f s.clockChars := by
  have hblank : Text.isBlank ' ' = true := by decide
  have hdrop : Text.dropBlanks (' ' :: s.clockChars) = s.clockChars := by
    rw [Text.dropBlanks, List.dropWhile_cons_of_pos hblank, ← Text.dropBlanks, clockChars]
    exact dropBlanks_digits (by decide) _ _
  rw [readParts?, readPart?, hdrop]

/-- A time of day to the second is read by its pattern. -/
theorem exists_readParts?_clock (h : s.seconds ≠ .none) (f : Fields) :
    ∃ second nanos, second ≤ 60 ∧ readParts? secondPattern f s.clockChars
      = some { f with hour := s.hour, minute := s.minute, second, nanos } := by
  obtain ⟨second, nanos, hsecond, hread⟩ :=
    exists_readParts?_seconds s.fit h { f with hour := s.hour, minute := s.minute }
  refine ⟨second, nanos, hsecond, ?_⟩
  rw [secondPattern, clockChars, readParts?_minute _ _ _ s.hour_le s.minute_le, hread]

/-- A time of day to the minute is read after a blank, by the last of the patterns. -/
theorem exists_findSome?_minute (h : s.seconds = .none) :
    ∃ clock, momentPatterns.findSome? (fun p =>
      parseDateClock? p (dateChars s.date ++ ' ' :: s.clockChars)) = some (s.date, clock) := by
  have hdate := fun ps rest => readParts?_date ps {} rest s.ordinary
  have hclock : s.clockChars = digits 2 s.hour ++ ':' :: (digits 2 s.minute ++ []) := by
    rw [clockChars, h, Seconds.chars]
  have hseconds : readParts? (datePattern ++ .blanks :: secondPattern) {}
      (dateChars s.date ++ ' ' :: s.clockChars) = none := by
    rw [hdate, s.readParts?_blanks, hclock, secondPattern,
      readParts?_minute _ _ _ s.hour_le s.minute_le]
    rfl
  have ht : readParts? (datePattern ++ .char 'T' :: secondPattern) {}
      (dateChars s.date ++ ' ' :: s.clockChars) = none := by
    rw [hdate]
    simp [readParts?, readPart?]
  have hminute : readParts? (datePattern ++ .blanks :: minutePattern) {}
      (dateChars s.date ++ ' ' :: s.clockChars)
        = some ⟨s.date.year, s.date.month, s.date.day, s.hour, s.minute, 0, 0⟩ := by
    rw [hdate, s.readParts?_blanks, hclock, ← List.append_nil minutePattern,
      readParts?_minute _ _ _ s.hour_le s.minute_le]
    rfl
  obtain ⟨clock, hread⟩ := exists_parseDateClock? hminute s.ordinary rfl (Nat.zero_le _)
  refine ⟨clock, ?_⟩
  simp [momentPatterns, parseDateClock?_eq_none hseconds, parseDateClock?_eq_none ht, hread]

/-- A time of day to the second is read after a blank or a `T`, each by a pattern of its own. -/
theorem exists_findSome?_second (h : s.seconds ≠ .none) :
    ∃ clock, momentPatterns.findSome? (fun p =>
      parseDateClock? p (dateChars s.date ++ s.separator.char :: s.clockChars))
        = some (s.date, clock) := by
  have hdate := fun ps rest => readParts?_date ps {} rest s.ordinary
  obtain ⟨second, nanos, hsecond, hclock⟩ :=
    s.exists_readParts?_clock h { year := s.date.year, month := s.date.month, day := s.date.day }
  cases s.separator with
  | blank =>
    have hblank := hdate (.blanks :: secondPattern) (' ' :: s.clockChars)
    rw [s.readParts?_blanks, hclock] at hblank
    obtain ⟨clock, hread⟩ := exists_parseDateClock? hblank s.ordinary rfl hsecond
    refine ⟨clock, ?_⟩
    simp [momentPatterns, Separator.char, hread]
  | t =>
    have hblank : readParts? (datePattern ++ .blanks :: secondPattern) {}
        (dateChars s.date ++ 'T' :: s.clockChars) = none := by
      rw [hdate]
      exact readParts?_blanks_t _ _ _
    have ht := (hdate (.char 'T' :: secondPattern) ('T' :: s.clockChars)).trans hclock
    obtain ⟨clock, hread⟩ := exists_parseDateClock? ht s.ordinary rfl hsecond
    refine ⟨clock, ?_⟩
    simp [momentPatterns, Separator.char, parseDateClock?_eq_none hblank, hread]

/-- **What cells are formatted by reads a timestamp** as one of its day, unless it has a `T` and
ends with the minute. -/
theorem exists_moment? (h : s.separator = .blank ∨ s.seconds ≠ .none) :
    ∃ clock, moment? s.text = some (s.date, clock) := by
  obtain ⟨clock, hfind⟩ : ∃ clock, momentPatterns.findSome? (fun p =>
      parseDateClock? p (dateChars s.date ++ s.separator.char :: s.clockChars))
        = some (s.date, clock) := by
    by_cases hseconds : s.seconds = .none
    · rw [h.resolve_right (not_not.mpr hseconds)]
      exact s.exists_findSome?_minute hseconds
    · exact s.exists_findSome?_second hseconds
  refine ⟨clock, ?_⟩
  unfold moment?
  dsimp only
  rw [s.trim_text, s.parseRfc3339?_text, text, String.toList_ofList, hfind]

end Stamp

end TenantReports.Time
