import TenantReports.Proofs.Json.RoundTrip
import TenantReports.Proofs.Outcome
import TenantReports.Recurrence.Next

/-!
# Recurrences as text

A recurrence that makes sense is stored as text and reads back as itself, so what a stored
recurrence says is what was asked for.

## Main results

* `Recurrence.ofJson?_ordered`: the record of a recurrence, with its keys in order, reads back
* `Recurrence.ofJson?_parse?`: so does its text
-/

namespace TenantReports.Recurrence

/-- The day of the month fits into 32 bits. -/
def Fits : Recurrence → Prop
  | .monthly day _ => day < 2 ^ 32
  | _ => True

/-- A recurrence that makes sense has a day of the month, if any. -/
theorem fits_of_validate {r : Recurrence} (h : r.validate = .ok ()) : r.Fits := by
  cases r with
  | monthly day time =>
    simp only [validate, Except.bind_eq_ok] at h
    obtain ⟨day', hday, -⟩ := h
    unfold dayOfMonth at hday
    split at hday
    · rename_i hrange
      change day < 2 ^ 32
      omega
    · cases hday
  | _ => trivial

/-- The parts of a recurrence, in the order of their names. -/
theorem ordered_toJson (r : Recurrence) : r.toJson.ordered = .object (match r with
    | .daily time => [("time", .string time), ("type", .string "daily")]
    | .weekly day time =>
      [("day_of_week", .string day), ("time", .string time), ("type", .string "weekly")]
    | .monthly day time =>
      [("day_of_month", .int day), ("time", .string time), ("type", .string "monthly")]
    | .cron expression => [("expression", .string expression), ("type", .string "cron")]) := by
  have htime : "time" < "type" := by decide
  have hweek : "day_of_week" < "type" := by decide
  have hweekTime : ¬ "time" < "day_of_week" := by decide
  have hmonth : "day_of_month" < "type" := by decide
  have hmonthTime : ¬ "time" < "day_of_month" := by decide
  have hexpression : "expression" < "type" := by decide
  cases r <;>
    simp only [toJson, kind, Json.ordered, Json.orderedEntries, Json.ofEntries, orderKeys,
      insertKey, List.foldl_cons, List.foldl_nil, htime, hweek, hweekTime, hmonth, hmonthTime,
      hexpression, if_true, if_false, String.reduceEq]

/-- The day of the month may be any value that reads as one. -/
theorem ofJson?_monthly {j : Json} {day : Nat} (hday : Json.nat32? j = some day) (time : String) :
    ofJson? (.object [("day_of_month", j), ("time", .string time), ("type", .string "monthly")])
      = some (.monthly day time) := by
  simp [ofJson?, ofParts?, Json.asRecord?, Record.required?, Record.get?, List.lookup_cons,
    Json.asString?, hday]

/-- The record of a recurrence reads back, with its keys in order. -/
theorem ofJson?_ordered {r : Recurrence} (h : r.Fits) : ofJson? r.toJson.ordered = some r := by
  rw [ordered_toJson]
  cases r with
  | monthly day time =>
    refine ofJson?_monthly ?_ time
    have hpow : Nat.pow 2 32 = 2 ^ 32 := rfl
    have hlt : day < 2 ^ 32 := h
    rw [Json.nat32?, Json.natBelow?, if_pos (by omega), Int.toNat_natCast]
  | _ => rfl

theorem readsBack_toJson {r : Recurrence} (h : r.Fits) :
    Json.ReadsBack Json.depthLimit r.toJson := by
  refine .object fun e he => ?_
  cases r with
  | daily time =>
    simp at he
    rcases he with rfl | rfl <;> exact .string _
  | weekly day time =>
    simp at he
    rcases he with rfl | rfl | rfl <;> exact .string _
  | monthly day time =>
    have hday : day < 2 ^ 32 := h
    simp at he
    rcases he with rfl | rfl | rfl
    · exact .string _
    · exact .int (by omega) (by omega)
    · exact .string _
  | cron expression =>
    simp at he
    rcases he with rfl | rfl <;> exact .string _

/-- **The text of a recurrence reads back.** -/
theorem ofJson?_parse? {r : Recurrence} (h : r.Fits) :
    (Json.parse? r.toJson.compact).bind ofJson? = some r := by
  rw [Json.parse?_compact (readsBack_toJson h), Option.bind_some, ofJson?_ordered h]

end TenantReports.Recurrence
