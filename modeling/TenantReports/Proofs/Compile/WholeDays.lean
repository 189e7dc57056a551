import TenantReports.Compile.Filters
import TenantReports.Proofs.Json.Keys
import TenantReports.Proofs.Sql.Patterns
import TenantReports.Proofs.Time.Stamps

/-!
# A range of one day

A range over timestamps whose bounds are one date goes from the text of the date to the last second
of the day, written after a blank. Texts compare byte by byte, so no timestamp of another day is in
it. Of the day itself it has the timestamps that are written with a blank, up to the beginning of
the last second. It misses the rest of that second and whatever is written with a `T`, although
cells with these are formatted as timestamps of the day.

## Main definitions

* `Sql.Interpretation.ComparesBytes`: a database that compares texts byte by byte
* `dayRange`: the value of a range of one day

## Main results

* `Sql.Expr.holds_between_texts`: a range of texts
* `FilterSlot.predicate?_dayRange`: the condition of a range of one day
* `FilterSlot.exists_predicate_dayRange`: the timestamps that it is true of
-/

namespace TenantReports

open Sql (Env Expr Interpretation)
open Sql.Interpretation (textCell)
open Time (Date Separator Stamp dateChars digits utf8Len_digits)

/-! ## Texts in order -/

namespace Sql

/-- A database that compares texts byte by byte. -/
structure Interpretation.ComparesBytes (I : Interpretation) : Prop where
  lt_iff : ∀ l r as bs, I.compare l r (.text as) (.text bs) = .lt ↔ as < bs
  gt_iff : ∀ l r as bs, I.compare l r (.text as) (.text bs) = .gt ↔ bs < as

/-- Bytes compare as they are ordered. -/
theorem compare_bytes (as bs : List UInt8) :
    (Ord.compare (as.map UInt8.toNat) (bs.map UInt8.toNat) = .lt ↔ as < bs) ∧
      (Ord.compare (as.map UInt8.toNat) (bs.map UInt8.toNat) = .gt ↔ bs < as) := by
  have hcons : ∀ (a b : UInt8) (as bs : List UInt8),
      Ord.compare ((a :: as).map UInt8.toNat) ((b :: bs).map UInt8.toNat)
        = (Ord.compare a.toNat b.toNat).then
            (Ord.compare (as.map UInt8.toNat) (bs.map UInt8.toNat)) := fun _ _ _ _ =>
    List.compareLex_cons_cons
  -- the bytes of one text against those of the other, up to the first difference
  induction as generalizing bs with
  | nil =>
    cases bs with
    | nil => decide
    | cons b bs =>
      exact ⟨iff_of_true rfl (List.nil_lt_cons _ _), iff_of_false nofun (List.not_lt_nil _)⟩
  | cons a as ih =>
    cases bs with
    | nil => exact ⟨iff_of_false nofun (List.not_lt_nil _), iff_of_true rfl (List.nil_lt_cons _ _)⟩
    | cons b bs =>
      rw [hcons, Ordering.then_eq_lt, Ordering.then_eq_gt, (ih bs).1, (ih bs).2,
        List.cons_lt_cons_iff, List.cons_lt_cons_iff, Nat.compare_eq_lt, Nat.compare_eq_gt,
        Nat.compare_eq_eq, UInt8.lt_iff_toNat_lt, UInt8.lt_iff_toNat_lt, UInt8.toNat_inj,
        eq_comm (a := b)]
      exact ⟨Iff.rfl, Iff.rfl⟩

theorem Interpretation.plain_comparesBytes : Interpretation.plain.ComparesBytes where
  lt_iff _ _ as bs := (compare_bytes as bs).1
  gt_iff _ _ as bs := (compare_bytes as bs).2

variable {I : Interpretation} (hI : I.ComparesBytes)

include hI

/-- **A range of texts** has the texts that come neither before its first nor after its last. -/
theorem Expr.holds_between_texts {column : Expr} {env : Env} {low high s : String}
    (h : column.eval I env = textCell s) :
    (Expr.between column (.param (.string low)) (.param (.string high))).holds I env = true ↔
      ¬ s < low ∧ ¬ high < s := by
  have hcell : ∀ t : String, textCell t = .text (keyBytes t) := fun _ => rfl
  have hparam : ∀ t : String, (Expr.param (.string t)).eval I env = textCell t := fun _ => rfl
  rw [Expr.holds, Expr.eval, h, hparam, hparam, Interpretation.truth_cell, beq_iff_eq,
    Truth.and_eq_true]
  simp only [Interpretation.binary, Interpretation.compares, hcell, reduceCtorEq, or_self, if_false,
    Option.some.injEq, Ordering.isGE_iff_ne_lt, Ordering.isLE_iff_ne_gt, hI.lt_iff, hI.gt_iff,
    lt_iff_keyBytes_lt]

end Sql

/-! ## The condition -/

/-- The text of a date. -/
def dateText (day : Date) : String := String.ofList (dateChars day)

/-- The value of a range of one day. -/
def dayRange (day : Date) : Json :=
  .object [("from", .string (dateText day)), ("to", .string (dateText day))]

section Day

variable {day : Date} (hday : day.Ordinary)

include hday

/-- The text of a date begins and ends with digits. -/
theorem isDigit_dateChars : (∀ c ∈ (dateChars day).head?, c.isDigit = true) ∧
    ∀ c ∈ (dateChars day).getLast?, c.isDigit = true := by
  have hlast : digits 2 day.day ≠ [] := List.ne_nil_of_length_pos (by simp)
  have htext : dateChars day = digits 4 day.year.toNat ++ '-' :: (digits 2 day.month ++ ['-'])
      ++ digits 2 day.day := by simp [hday.dateChars_eq]
  constructor
  · rw [hday.dateChars_eq]
    exact Time.isDigit_of_mem_head?_digits (by decide)
  · intro c hc
    rw [htext, List.getLast?_append_of_ne_nil _ hlast] at hc
    exact Time.isDigit_of_mem_digits (List.mem_of_getLast? hc)

theorem trim_dateText : Text.trim (dateText day) = dateText day := by
  obtain ⟨hhead, hlast⟩ := isDigit_dateChars hday
  rw [dateText, Text.trim, String.toList_ofList, Time.trimChars_of_digits hhead hlast]

theorem isBlankText_dateText : Text.isBlankText (dateText day) = false := by
  obtain ⟨c, cs, hdigits, hc⟩ := Time.exists_cons_digits (by decide : 0 < 4) day.year.toNat
  rw [Text.isBlankText, dateText, String.toList_ofList, hday.dateChars_eq, hdigits,
    List.cons_append, List.all_cons, Time.isBlank_eq_false_of_isDigit hc, Bool.false_and]

theorem isDateOnly_dateText : isDateOnly (dateText day) = true := by
  have hsize : (dateText day).utf8ByteSize = 10 := by
    have hhyphen : '-'.utf8Size = 1 := rfl
    rw [dateText, String.utf8ByteSize_ofList, hday.dateChars_eq]
    simp [String.utf8Len_append, String.utf8Len_cons, utf8Len_digits, hhyphen]
  rw [isDateOnly, hsize, dateText, String.toList_ofList, Time.parseDate?_dateChars hday]
  rfl

/-- **The condition of a range of one day** goes to the last second of the day. -/
theorem FilterSlot.predicate?_dayRange {slot : FilterSlot} (hkind : slot.kind = .dateRange)
    (column : Expr) : slot.predicate? .datetime column (dayRange day)
      = some (.between column (.param (.string (dateText day)))
          (.param (.string (dateText day ++ " 23:59:59")))) := by
  have hbound : dateBound? (some (.string (dateText day))) = some (dateText day) := by
    rw [dateBound?, isBlankText_dateText hday, if_neg Bool.false_ne_true, trim_dateText hday]
  have hupper : upperBound .datetime (dateText day) = dateText day ++ " 23:59:59" :=
    if_pos ⟨rfl, isDateOnly_dateText hday⟩
  have hfrom : ([("from", Json.string (dateText day)), ("to", .string (dateText day))] :
      List (String × Json)).lookup "from" = some (.string (dateText day)) := rfl
  have hto : ([("from", Json.string (dateText day)), ("to", .string (dateText day))] :
      List (String × Json)).lookup "to" = some (.string (dateText day)) := rfl
  rw [dayRange, predicate?, valuePredicate?, hkind]
  dsimp only
  rw [rangeBounds?, hfrom, hto, Option.bind_some, rangePredicate?, hbound, Option.map_some, hupper]
  all_goals nofun

/-- Timestamps before the text of a date are those of earlier days. -/
theorem text_lt_dateText_iff (s : Stamp) : s.text < dateText day ↔ s.date.Before day := by
  have hlength : (dateChars s.date).length = (dateChars day).length := by
    rw [s.ordinary.length_dateChars, hday.length_dateChars]
  have hlt : dateChars s.date ++ s.separator.char :: s.clockChars < dateChars day ++ [] ↔ _ :=
    Time.append_lt_append_iff hlength
  rw [List.append_nil] at hlt
  rw [Stamp.text, dateText, String.lt_iff, String.toList_ofList, String.toList_ofList, hlt,
    s.ordinary.dateChars_lt_iff hday, or_iff_left (fun h => List.not_lt_nil _ h.2)]

/-- Timestamps after the upper bound are those of later days, and those of the day with a `T` or
in the rest of its last second. -/
theorem upper_lt_text_iff (s : Stamp) : dateText day ++ " 23:59:59" < s.text ↔
    day.Before s.date ∨ day = s.date ∧ (s.separator = .t ∨ s.Late) := by
  have hlength : (dateChars day).length = (dateChars s.date).length := by
    rw [s.ordinary.length_dateChars, hday.length_dateChars]
  have hupper : (" 23:59:59" : String).toList = ' ' :: Stamp.lastSecond := by decide
  have hclock : ' ' :: Stamp.lastSecond < s.separator.char :: s.clockChars ↔
      s.separator = .t ∨ s.Late := by
    cases s.separator with
    | blank =>
      rw [Separator.char, List.cons_lt_cons_self, s.lastSecond_lt_iff]
      simp
    | t => simp [Separator.char, List.cons_lt_cons_iff]
  rw [String.lt_iff, String.toList_append, hupper, Stamp.text, dateText, String.toList_ofList,
    String.toList_ofList, Time.append_lt_append_iff hlength,
    hday.dateChars_lt_iff s.ordinary, hday.dateChars_inj s.ordinary, hclock]

end Day

/-- **The timestamps that a range of one day has.** For every date with a year of at most four
digits there is a condition. Where the column holds a timestamp, the condition is true exactly if
the timestamp is of that day, has a blank, and is not after the beginning of the last second. All
timestamps are read where cells are formatted, as ones of their day, but those to the minute with a
`T`. -/
theorem FilterSlot.exists_predicate_dayRange {I : Interpretation} (hI : I.ComparesBytes)
    {slot : FilterSlot} (hkind : slot.kind = .dateRange) (column : Expr) {day : Date}
    (hday : day.Ordinary) :
    ∃ e, slot.predicate? .datetime column (dayRange day) = some e ∧ ∀ s : Stamp,
      (s.separator = .blank ∨ s.seconds ≠ .none →
        ∃ clock, moment? s.text = some (s.date, clock)) ∧
      ∀ env : Env, column.eval I env = textCell s.text →
        (e.holds I env = true ↔ s.date = day ∧ s.separator = .blank ∧ ¬ s.Late) := by
  refine ⟨_, predicate?_dayRange hday hkind column, fun s => ⟨s.exists_moment?, ?_⟩⟩
  intro env hcell
  rw [Sql.Expr.holds_between_texts hI hcell, text_lt_dateText_iff hday, upper_lt_text_iff hday]
  constructor
  · rintro ⟨hbefore, hafter⟩
    rw [not_or, not_and] at hafter
    -- neither an earlier day nor a later one
    have hday' : s.date = day := by
      rcases Date.before_trichotomy s.date day with h | h | h
      · exact absurd h hbefore
      · exact h
      · exact absurd h hafter.1
    obtain ⟨ht, hlate⟩ := not_or.mp (hafter.2 hday'.symm)
    refine ⟨hday', ?_, hlate⟩
    cases hseparator : s.separator with
    | blank => rfl
    | t => exact absurd hseparator ht
  · rintro ⟨rfl, hblank, hlate⟩
    have hself : ¬ s.date.Before s.date := by
      unfold Date.Before
      omega
    simp [hself, hblank, hlate]

/-! ## The end of a month -/

/-- The slot of when a customer was created. -/
def createdSlot : FilterSlot := ⟨⟨"customers", "created_at"⟩, "Created", .dateRange, false, []⟩

/-- A row with the time at which a customer was created. -/
def createdEnv (text : String) : Env :=
  { row := [("customers", [("created_at", textCell text)])] }

/-- The last day of January. -/
def endOfJanuary : Date := ⟨2024, 1, 31⟩

theorem ordinary_endOfJanuary : endOfJanuary.Ordinary where
  one_le_month := by decide
  month_le := by decide
  one_le_day := by decide
  day_le := by decide
  year_nonneg := by decide
  year_le := by decide

/-- Ten in the morning of that day. -/
def tenOfJanuary (separator : Separator) : Stamp where
  date := endOfJanuary
  separator
  hour := 10
  minute := 0
  seconds := .whole 0
  ordinary := ordinary_endOfJanuary
  hour_le := by decide
  minute_le := by decide
  fit := Nat.zero_le 60

theorem exists_predicate_dayRange_endOfJanuary :
    Interpretation.plain.ComparesBytes ∧ createdSlot.kind = .dateRange ∧ endOfJanuary.Ordinary ∧
    ∃ e, createdSlot.predicate? .datetime (sourceColumn "customers" "created_at")
        (dayRange endOfJanuary) = some e ∧
      e.holds .plain (createdEnv "2024-01-31 10:00:00") = true ∧
      e.holds .plain (createdEnv "2024-01-31T10:00:00") = false := by
  have hkind : createdSlot.kind = .dateRange := rfl
  obtain ⟨e, hpredicate, hholds⟩ := FilterSlot.exists_predicate_dayRange
    Interpretation.plain_comparesBytes hkind (sourceColumn "customers" "created_at")
    ordinary_endOfJanuary
  refine ⟨Interpretation.plain_comparesBytes, hkind, ordinary_endOfJanuary, e, hpredicate, ?_, ?_⟩
  · have hblank := (hholds (tenOfJanuary .blank)).2 (createdEnv "2024-01-31 10:00:00") rfl
    exact hblank.mpr ⟨rfl, rfl, nofun⟩
  · have ht := (hholds (tenOfJanuary .t)).2 (createdEnv "2024-01-31T10:00:00") rfl
    rw [← Bool.not_eq_true, ht]
    exact nofun

/-- Timestamps of the day that its range misses, although cells with them are formatted as
timestamps of it. -/
theorem exists_missed_timestamps :
    ∃ e, createdSlot.predicate? .datetime (sourceColumn "customers" "created_at")
        (dayRange endOfJanuary) = some e ∧
      ∀ text ∈ ["2024-01-31T10:00:00", "2024-01-31 23:59:59.5"],
        (∃ clock, moment? text = some (endOfJanuary, clock)) ∧
          e.holds .plain (createdEnv text) = false := by
  refine ⟨_, FilterSlot.predicate?_dayRange ordinary_endOfJanuary rfl _, ?_⟩
  intro text htext
  rw [List.mem_cons, List.mem_singleton] at htext
  rcases htext with rfl | rfl
  · exact ⟨⟨_, rfl⟩, by decide⟩
  · exact ⟨⟨_, rfl⟩, by decide⟩

end TenantReports
