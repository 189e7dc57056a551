import Mathlib.Data.String.Basic
import TenantReports.Export.Slug
import TenantReports.Proofs.Time.Rfc3339

/-!
# Names of exported files

While years have four digits, the second in the name of a file has a fixed form. So a name that is
too long for one time is too long for every time, and two files have one name exactly if their
reports have one slug, and they have one format and one second.

## Main definitions

* `fileStem`: what comes before the second

## Main results

* `stampChars_eq`: the second of a file as digits
* `exportFilename_size`: the length of a name does not depend on the time
* `exportFilename_inj`: what two files of one name have in common
-/

namespace TenantReports

open Time (digits Instant utf8Len_digits)

/-- No digit is a colon. -/
theorem filter_colon_digits (width n : Nat) :
    (digits width n).filter (· != ':') = digits width n := by
  refine List.filter_eq_self.mpr fun c hc => bne_iff_ne.mpr ?_
  rintro rfl
  exact absurd (Time.isDigit_of_mem_digits hc) (by decide)

section Stamp

variable {t : Instant} (hyear : 0 ≤ t.date.year) (hyear' : t.date.year ≤ 9999)

include hyear hyear'

/-- The second of a file, field by field. -/
theorem stampChars_eq :
    stampChars t = digits 4 t.date.year.toNat ++ digits 2 t.date.month ++ digits 2 t.date.day
      ++ '_' :: (digits 2 t.clock.hour ++ digits 2 t.clock.minute
        ++ digits 2 (Time.secondShown t.clock)) := by
  have hyearChars : Time.yearChars t.date.year = Time.padded 4 t.date.year.toNat :=
    if_pos ⟨hyear, hyear'⟩
  have hmonth := t.exists_date.month_le
  have hday := Nat.le_trans t.exists_date.day_le (Time.daysInMonth_le _ _)
  obtain ⟨hhour, hminute, hsecond⟩ := t.clock_le
  have hcolon : (':' != ':') = false := rfl
  rw [stampChars, Time.clockChars, hyearChars,
    Time.padded_eq_digits (by decide) (by omega : t.date.year.toNat < 10 ^ 4),
    Time.padded_eq_digits (by decide) (by omega : t.date.month < 10 ^ 2),
    Time.padded_eq_digits (by decide) (by omega : t.date.day < 10 ^ 2),
    Time.padded_eq_digits (by decide) (by omega : t.clock.hour < 10 ^ 2),
    Time.padded_eq_digits (by decide) (by omega : t.clock.minute < 10 ^ 2)]
  rw [show (if 1000000000 ≤ t.clock.nanos then t.clock.second + 1 else t.clock.second)
    = Time.secondShown t.clock from rfl,
    Time.padded_eq_digits (by decide) (by omega : Time.secondShown t.clock < 10 ^ 2)]
  simp only [List.filter_append, List.filter_cons, filter_colon_digits, hcolon,
    Bool.false_eq_true, if_false, List.append_assoc]

theorem length_stampChars : (stampChars t).length = 15 := by
  rw [stampChars_eq hyear hyear']
  simp only [List.length_append, List.length_cons, Time.length_digits]

end Stamp

/-- **The length of a name does not depend on the time.** -/
theorem exportFilename_size (name : String) (format : ExportFormat) {s t : Instant}
    (hs : s.Plain) (ht : t.Plain) : (exportFilename name format s).utf8ByteSize
      = (exportFilename name format t).utf8ByteSize := by
  have hstamp : ∀ {t : Instant}, t.Plain → String.utf8Len (stampChars t)
      = 4 + 2 + 2 + ((2 + 2 + 2) + Char.utf8Size '_') := by
    intro t h
    rw [stampChars_eq h.year_nonneg h.year_le]
    simp only [String.utf8Len_append, String.utf8Len_cons, utf8Len_digits]
  unfold exportFilename
  simp only [String.utf8ByteSize_ofList, String.utf8Len_append, String.utf8Len_cons, hstamp hs,
    hstamp ht]

/-- What stands in the name of a file before the second. -/
def fileStem (name : String) : List Char :=
  if (slugChars name).isEmpty then "report".toList else slugChars name

theorem exportFilename_eq (name : String) (format : ExportFormat) (t : Instant) :
    exportFilename name format t = String.ofList
      (fileStem name ++ '_' :: stampChars t ++ '.' :: format.extension.toList) := rfl

/-- **What two files of one name have in common**: the slugs of their reports, their format and
their second, and no more. -/
theorem exportFilename_inj {name name' : String} {format format' : ExportFormat} {s t : Instant}
    (hs : s.Plain) (ht : t.Plain) :
    exportFilename name format s = exportFilename name' format' t ↔
      fileStem name = fileStem name' ∧ format = format' ∧ stampChars s = stampChars t := by
  constructor
  · intro h
    rw [exportFilename_eq, exportFilename_eq, String.ofList_inj] at h
    -- the last letter of the extension tells the formats apart
    have hlast : ∀ (cs : List Char) (f : ExportFormat),
        (cs ++ '.' :: f.extension.toList).getLast? = f.extension.toList.getLast? := by
      intro cs f
      rw [List.getLast?_append]
      cases f <;> rfl
    have hformat := congrArg List.getLast? h
    rw [hlast, hlast] at hformat
    obtain rfl : format = format' := by
      cases format <;> cases format' <;> first | rfl | exact absurd hformat (by decide)
    -- both seconds have fifteen characters
    rw [List.append_left_inj] at h
    obtain ⟨hstem, hstamp⟩ := List.append_inj' h (by
      rw [List.length_cons, List.length_cons, length_stampChars hs.year_nonneg hs.year_le,
        length_stampChars ht.year_nonneg ht.year_le])
    exact ⟨hstem, rfl, (List.cons.inj hstamp).2⟩
  · rintro ⟨hstem, rfl, hstamp⟩
    rw [exportFilename_eq, exportFilename_eq, hstem, hstamp]

end TenantReports
