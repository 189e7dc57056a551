import TenantReports.Proofs.Recurrence.RoundTrip
import TenantReports.Proofs.Store.Agreement
import TenantReports.Proofs.Validation.Build

/-!
# Rows read back

Whether an operation on the store succeeds depends on whether the texts of a row can be read. The
texts of reports and schedules can, if their times have four-digit years and their values do not
nest too deep. What was saved is then what is read.

## Main definitions

* `Time.Instant.Legible`, `Schedule.Legible`, `Definition.Legible`: what reads back as it was

## Main results

* `ScheduleRow.read?_ofSchedule`, `DefinitionRow.read?_ofDefinition`: rows of legible things
* `Store.insertScheduleWithinCap_of_legible`: a legible schedule can be saved
* `ScheduleRow.isSome_read?_iff`, `ScheduleRow.isSome_read?_of_texts`: which fields matter
-/

namespace TenantReports

open Time (Instant)

/-! ## Texts -/

/-- The text of an instant is read as that instant. -/
def Time.Instant.Legible (t : Instant) : Prop :=
  Time.parseRfc3339? (Time.rfc3339Micros t) = some t

theorem readOptional?_of_legible {t : Option Instant} (h : ∀ t' ∈ t, t'.Legible) :
    readOptional? Time.parseRfc3339? (t.map Time.rfc3339Micros) = some t := by
  cases t with
  | none => rfl
  | some t =>
    have ht : Time.parseRfc3339? (Time.rfc3339Micros t) = some t := h t rfl
    rw [Option.map_some, readOptional?, ht, Option.map_some]

/-- Any texts can be kept as one text. -/
theorem Json.parse?_ofStrings (texts : List String) :
    (parse? (ofStrings texts).compact).bind (listOf? asString?) = some texts := by
  have hordered : ∀ ts : List String, orderedItems (ts.map .string) = ts.map .string := by
    intro ts
    induction ts with
    | nil => rfl
    | cons t ts ih => simp [orderedItems, ordered, ih]
  rw [ofStrings, parse?_compact (.array fun j hj => ?_), Option.bind_some, ordered, hordered,
    listOf?, Option.mapM_eq_some, List.forall₂_map_left_iff, List.forall₂_same]
  · exact fun _ _ => rfl
  · obtain ⟨t, -, rfl⟩ := List.mem_map.mp hj
    exact .string t

/-- The text of no filter values at all. -/
theorem FilterValues.ofText?_nil : ofText? (FilterValues.text []) = some [] := by
  have hread : Json.parse? (Json.object []).compact = some (Json.object []).ordered :=
    Json.parse?_compact (.object (by simp))
  rw [ofText?, FilterValues.text, hread]
  rfl

/-! ## Rows -/

/-- Everything in a schedule reads back as it is. -/
structure Schedule.Legible (s : Schedule) : Prop where
  recurrence : s.recurrence.Fits
  preset : FilterValues.ofText? s.preset.text = some s.preset
  nextRunAt : s.nextRunAt.Legible
  lastRunAt : ∀ t ∈ s.lastRunAt, t.Legible
  createdAt : s.createdAt.Legible
  updatedAt : s.updatedAt.Legible

/-- Everything in a report reads back as it is. -/
structure Definition.Legible (d : Definition) : Prop where
  hash : d.hash = d.layout.hash
  layout : (Json.parse? d.layout.text).bind Layout.ofJson? = some d.layout
  lastExecutedAt : ∀ t ∈ d.lastExecutedAt, t.Legible
  createdAt : d.createdAt.Legible
  updatedAt : d.updatedAt.Legible

theorem ScheduleRow.read?_ofSchedule {s : Schedule} (h : s.Legible) :
    (ofSchedule s).read? = some s := by
  have hnext : Time.parseRfc3339? (Time.rfc3339Micros s.nextRunAt) = some s.nextRunAt := h.nextRunAt
  have hcreated : Time.parseRfc3339? (Time.rfc3339Micros s.createdAt) = some s.createdAt :=
    h.createdAt
  have hupdated : Time.parseRfc3339? (Time.rfc3339Micros s.updatedAt) = some s.updatedAt :=
    h.updatedAt
  simp only [read?, ofSchedule, Recurrence.ofJson?_parse? h.recurrence, h.preset,
    Json.parse?_ofStrings, hnext, readOptional?_of_legible h.lastRunAt, hcreated, hupdated,
    Option.bind_eq_bind, Option.bind_some, Option.pure_def]

theorem DefinitionRow.read?_ofDefinition {d : Definition} (h : d.Legible) :
    (ofDefinition d).read? = some d := by
  have hcreated : Time.parseRfc3339? (Time.rfc3339Micros d.createdAt) = some d.createdAt :=
    h.createdAt
  have hupdated : Time.parseRfc3339? (Time.rfc3339Micros d.updatedAt) = some d.updatedAt :=
    h.updatedAt
  simp only [read?, ofDefinition, h.layout, readOptional?_of_legible h.lastExecutedAt, hcreated,
    hupdated, ← h.hash, Option.bind_eq_bind, Option.bind_some, Option.pure_def]

/-- A row reads back if all of its texts do. -/
theorem ScheduleRow.isSome_read?_iff {r : ScheduleRow} : r.read?.isSome = true ↔
    r.recurrence?.isSome = true ∧ (FilterValues.ofText? r.preset).isSome = true ∧
      ((Json.parse? r.recipients).bind (Json.listOf? Json.asString?)).isSome = true ∧
      (Time.parseRfc3339? r.nextRunAt).isSome = true ∧
      (readOptional? Time.parseRfc3339? r.lastRunAt).isSome = true ∧
      (Time.parseRfc3339? r.createdAt).isSome = true ∧
      (Time.parseRfc3339? r.updatedAt).isSome = true := by
  simp only [read?, recurrence?, Option.isSome_iff_exists, Option.bind_eq_bind,
    Option.bind_eq_some_iff, Option.pure_def, Option.some.injEq]
  constructor
  · rintro ⟨_, _, h₁, _, h₂, _, h₃, _, h₄, _, h₅, _, h₆, _, h₇, -⟩
    exact ⟨⟨_, h₁⟩, ⟨_, h₂⟩, ⟨_, h₃⟩, ⟨_, h₄⟩, ⟨_, h₅⟩, ⟨_, h₆⟩, ⟨_, h₇⟩⟩
  · rintro ⟨⟨_, h₁⟩, ⟨_, h₂⟩, ⟨_, h₃⟩, ⟨_, h₄⟩, ⟨_, h₅⟩, ⟨_, h₆⟩, ⟨_, h₇⟩⟩
    exact ⟨_, _, h₁, _, h₂, _, h₃, _, h₄, _, h₅, _, h₆, _, h₇, rfl⟩

/-- What of a row decides whether it reads back: its texts, and whether it was ever updated at a
time that can be read. -/
theorem ScheduleRow.isSome_read?_of_texts {r r' : ScheduleRow}
    (htexts : (r'.recurrence, r'.preset, r'.recipients, r'.nextRunAt, r'.lastRunAt, r'.createdAt)
      = (r.recurrence, r.preset, r.recipients, r.nextRunAt, r.lastRunAt, r.createdAt))
    (hupdated : (Time.parseRfc3339? r'.updatedAt).isSome = true) (h : r.read?.isSome = true) :
    r'.read?.isSome = true := by
  simp only [Prod.mk.injEq] at htexts
  obtain ⟨hrecurrence, hpreset, hrecipients, hnext, hlast, hcreated⟩ := htexts
  obtain ⟨h₁, h₂, h₃, h₄, h₅, h₆, -⟩ := isSome_read?_iff.mp h
  rw [isSome_read?_iff, recurrence?, hrecurrence, hpreset, hrecipients, hnext, hlast, hcreated]
  exact ⟨h₁, h₂, h₃, h₄, h₅, h₆, hupdated⟩

/-! ## The store -/

namespace Store

variable {s : Store} {tenant id : Int}

theorem getSchedule_of_find {r : ScheduleRow} {d : Schedule}
    (hfind : s.schedules.find? (ScheduleRow.isAt tenant id) = some r) (hread : r.read? = some d) :
    s.getSchedule tenant id = .ok (some d) :=
  readRow_eq_ok_some.mpr ⟨r, hfind, hread⟩

theorem getDefinition_of_find {r : DefinitionRow} {d : Definition}
    (hfind : s.definitionRow? tenant id = some r) (hread : r.read? = some d) :
    s.getDefinition tenant id = .ok (some d) :=
  readRow_eq_ok_some.mpr ⟨r, hfind, hread⟩

theorem needSchedule_eq_ok {d : Schedule} :
    s.needSchedule tenant id = .ok d ↔ s.getSchedule tenant id = .ok (some d) := by
  unfold needSchedule
  rcases s.getSchedule tenant id with e | _ | d' <;> simp [bind, Except.bind]

/-- An update answers with what is read after it. -/
theorem updateSchedule_eq_ok {new saved : Schedule} {now : Instant} :
    (s.updateSchedule new now).1 = .ok saved ↔
      (s.updateSchedule new now).2.getSchedule new.tenant new.id = .ok (some saved) := by
  rw [updateSchedule_fst, needSchedule_eq_ok]

/-- **A legible schedule is saved while there is room**, under an id of its own. -/
theorem insertScheduleWithinCap_of_legible {new : Schedule} {cap : Nat}
    (hids : Numbered (s.schedules.map (·.id)) s.lastSchedule)
    (hroom : s.countActive new.tenant < cap) (hnew : new.Legible) :
    s.insertScheduleWithinCap new cap = (.ok (some { new with id := s.lastSchedule + 1 }),
      { s with
        schedules := s.schedules ++ [ScheduleRow.ofSchedule { new with id := s.lastSchedule + 1 }]
        lastSchedule := s.lastSchedule + 1 }) := by
  have hread : (ScheduleRow.ofSchedule { new with id := s.lastSchedule + 1 }).read?
      = some { new with id := s.lastSchedule + 1 } :=
    ScheduleRow.read?_ofSchedule ⟨hnew.recurrence, hnew.preset, hnew.nextRunAt, hnew.lastRunAt,
      hnew.createdAt, hnew.updatedAt⟩
  rw [insertScheduleWithinCap_eq new cap hids, if_neg (Nat.not_le.mpr hroom), hread]

end Store

/-! ## A daily report

The sales of the shop, every day at eight. -/

/-- The start of 2024. -/
def newYear : Instant := ⟨1704067200, 0⟩

/-- Eight o'clock on the first day of 2024. -/
def firstMorning : Instant := ⟨1704096000, 0⟩

/-- Eight o'clock on the day after. -/
def secondMorning : Instant := ⟨1704182400, 0⟩

theorem newYear_legible : newYear.Legible := by
  rw [Instant.Legible, Time.rfc3339Micros, Time.parseRfc3339?, String.toList_ofList]
  rfl

theorem firstMorning_legible : firstMorning.Legible := by
  rw [Instant.Legible, Time.rfc3339Micros, Time.parseRfc3339?, String.toList_ofList]
  rfl

/-- What a saved report of the shop's sales is. -/
def salesReport (id : Int) (category : Option String) : Definition :=
  { Definition.new 1 1 "Sales" salesLayout newYear with id, category }

theorem salesLayout_reads :
    (Json.parse? salesLayout.text).bind Layout.ofJson? = some salesLayout := by
  rw [Layout.text, Json.parse?_compact (Json.readsBack_of_plain _ _ (by decide))]
  rfl

theorem salesReport_legible (id : Int) (category : Option String) :
    (salesReport id category).Legible where
  hash := by rw [salesReport, Definition.new]
  layout := by
    rw [show (salesReport id category).layout = salesLayout from rfl]
    exact salesLayout_reads
  lastExecutedAt := by simp [salesReport, Definition.new]
  createdAt := newYear_legible
  updatedAt := newYear_legible

/-- Every day at eight. -/
def dailyAtEight : ScheduleSpec := { recurrence := .daily "08:00", exportAs := .csv }

theorem legible_new_dailyAtEight (report : Int) :
    (Schedule.new report 1 1 dailyAtEight firstMorning newYear).Legible where
  recurrence := trivial
  preset := FilterValues.ofText?_nil
  nextRunAt := firstMorning_legible
  lastRunAt := by simp [Schedule.new]
  createdAt := newYear_legible
  updatedAt := newYear_legible

end TenantReports
