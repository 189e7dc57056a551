import TenantReports.Proofs.Process.Pairs
import TenantReports.Proofs.Time.Rfc3339
import TenantReports.Reports

/-!
# Twins

The same request at two places gives new rows other ids and reads other times of the clock. A
pairing says which ids and times stand for each other. Twins are rows and answers that are the
same apart from ids and times that are paired, and from what is made of times: their texts, how
long a run took, and the names of exported files.

## Main definitions

* `Pairing`: the ids and times that stand for each other
* `DefinitionRow.Twin`, `ExecutionRow.Twin`, `ScheduleRow.Twin`, `Store.Twin`: rows
* `Definition.Twin`, `Schedule.Twin`, `RunOutcome.Twin`, `ReportError.Twin`: answers
* `Pairing.Readable`: times that differ have years of four digits

## Main results

* `DefinitionRow.Twin.read?`, `ScheduleRow.Twin.read?`: what twins say
-/

namespace TenantReports

open Time (Instant)

/-- The ids of reports, schedules and runs that stand for each other, and the times. -/
structure Pairing where
  report : Int → Int → Prop
  schedule : Int → Int → Prop
  execution : String → String → Prop
  time : Instant → Instant → Prop

namespace Pairing

variable (m : Pairing)

/-- The same text, or the texts of paired times. -/
inductive Stamp : String → String → Prop
  | same (text : String) : Stamp text text
  | of {a b : Instant} (h : m.time a b) : Stamp (Time.rfc3339Micros a) (Time.rfc3339Micros b)

/-- The same instant, or paired times to the microsecond. -/
inductive Moment : Instant → Instant → Prop
  | same (t : Instant) : Moment t t
  | of {a b : Instant} (h : m.time a b) : Moment a.truncateMicros b.truncateMicros

/-- The same number, or the milliseconds between paired times. -/
inductive Duration : Int → Int → Prop
  | same (n : Int) : Duration n n
  | between {a b a' b' : Instant} (h : m.time a a') (h' : m.time b b') :
    Duration (Engine.elapsedMs a b) (Engine.elapsedMs a' b')

/-- The same name of a file, or names with paired times. -/
inductive Filename : String → String → Prop
  | same (name : String) : Filename name name
  | of (name : String) (format : ExportFormat) {a b : Instant} (h : m.time a b) :
    Filename (exportFilename name format a) (exportFilename name format b)

/-- The paths of such files in one directory. -/
inductive Path : String → String → Prop
  | same (path : String) : Path path path
  | inside (dir : String) {a b : String} (h : m.Filename a b) :
    Path (joinPath dir a) (joinPath dir b)

/-- Times that differ have years of four digits, so that their texts can be read. -/
def Readable : Prop := ∀ a b, m.time a b → a = b ∨ a.Plain ∧ b.Plain

/-- Every id stands for itself. -/
structure KeepsIds : Prop where
  report : ∀ id, m.report id id
  schedule : ∀ id, m.schedule id id
  execution : ∀ id, m.execution id id

end Pairing

variable {m : Pairing}

/-! ## Rows -/

/-- The rows of a report. -/
structure DefinitionRow.Twin (m : Pairing) (r r' : DefinitionRow) : Prop where
  id : m.report r.id r'.id
  lastExecutedAt : Option.Rel m.Stamp r.lastExecutedAt r'.lastExecutedAt
  createdAt : m.Stamp r.createdAt r'.createdAt
  updatedAt : m.Stamp r.updatedAt r'.updatedAt
  rest : r' = { r with
    id := r'.id, lastExecutedAt := r'.lastExecutedAt, createdAt := r'.createdAt
    updatedAt := r'.updatedAt }

/-- The records of a run. -/
structure ExecutionRow.Twin (m : Pairing) (r r' : ExecutionRow) : Prop where
  id : m.execution r.id r'.id
  createdAt : m.Stamp r.createdAt r'.createdAt
  startedAt : Option.Rel m.Stamp r.startedAt r'.startedAt
  completedAt : Option.Rel m.Stamp r.completedAt r'.completedAt
  durationMs : Option.Rel m.Duration r.durationMs r'.durationMs
  exportPath : Option.Rel m.Path r.exportPath r'.exportPath
  rest : r' = { r with
    id := r'.id, createdAt := r'.createdAt, startedAt := r'.startedAt
    completedAt := r'.completedAt, durationMs := r'.durationMs, exportPath := r'.exportPath }

/-- The rows of a schedule. -/
structure ScheduleRow.Twin (m : Pairing) (r r' : ScheduleRow) : Prop where
  id : m.schedule r.id r'.id
  nextRunAt : m.Stamp r.nextRunAt r'.nextRunAt
  createdAt : m.Stamp r.createdAt r'.createdAt
  updatedAt : m.Stamp r.updatedAt r'.updatedAt
  rest : r' = { r with
    id := r'.id, nextRunAt := r'.nextRunAt, createdAt := r'.createdAt, updatedAt := r'.updatedAt }

theorem DefinitionRow.Twin.tenant {r r' : DefinitionRow} (h : r.Twin m r') :
    r'.tenant = r.tenant := by
  rw [h.rest]

theorem ExecutionRow.Twin.tenant {r r' : ExecutionRow} (h : r.Twin m r') :
    r'.tenant = r.tenant := by
  rw [h.rest]

theorem ScheduleRow.Twin.tenant {r r' : ScheduleRow} (h : r.Twin m r') : r'.tenant = r.tenant := by
  rw [h.rest]

/-- Tables of twins, row by row. -/
structure Store.Twin (m : Pairing) (s t : Store) : Prop where
  definitions : List.Forall₂ (DefinitionRow.Twin m) s.definitions t.definitions
  executions : List.Forall₂ (ExecutionRow.Twin m) s.executions t.executions
  schedules : List.Forall₂ (ScheduleRow.Twin m) s.schedules t.schedules

/-! ## Answers -/

/-- The same report, saved here and there. -/
structure Definition.Twin (m : Pairing) (d d' : Definition) : Prop where
  id : m.report d.id d'.id
  lastExecutedAt : Option.Rel m.Moment d.lastExecutedAt d'.lastExecutedAt
  createdAt : m.Moment d.createdAt d'.createdAt
  updatedAt : m.Moment d.updatedAt d'.updatedAt
  rest : d' = { d with
    id := d'.id, lastExecutedAt := d'.lastExecutedAt, createdAt := d'.createdAt
    updatedAt := d'.updatedAt }

/-- The same schedule, saved here and there. -/
structure Schedule.Twin (m : Pairing) (s s' : Schedule) : Prop where
  id : m.schedule s.id s'.id
  nextRunAt : m.Moment s.nextRunAt s'.nextRunAt
  createdAt : m.Moment s.createdAt s'.createdAt
  updatedAt : m.Moment s.updatedAt s'.updatedAt
  rest : s' = { s with
    id := s'.id, nextRunAt := s'.nextRunAt, createdAt := s'.createdAt, updatedAt := s'.updatedAt }

/-- The same file, made here and there. -/
structure Artifact.Twin (m : Pairing) (a a' : Artifact) : Prop where
  filename : m.Filename a.filename a'.filename
  path : Option.Rel m.Path a.path a'.path
  rest : a' = { a with filename := a'.filename, path := a'.path }

/-- The same outcome of a run. -/
structure RunOutcome.Twin (m : Pairing) (o o' : RunOutcome) : Prop where
  execution : m.execution o.execution o'.execution
  artifact : Option.Rel (Artifact.Twin m) o.artifact o'.artifact
  rest : o' = { o with execution := o'.execution, artifact := o'.artifact }

/-- The same error, by the record of a run if it is about one. -/
inductive ReportError.Twin (m : Pairing) : ReportError → ReportError → Prop
  | same (e : ReportError) : Twin m e e
  | run (fault : Fault) {execution execution' : String} (h : m.execution execution execution') :
    Twin m (.run ⟨execution, fault⟩) (.run ⟨execution', fault⟩)

/-! ## What is the same is a twin -/

section Refl

variable (hm : m.KeepsIds)

include hm

theorem DefinitionRow.Twin.refl (r : DefinitionRow) : r.Twin m r :=
  ⟨hm.report _, optionRel_refl .same _, .same _, .same _, rfl⟩

theorem ExecutionRow.Twin.refl (r : ExecutionRow) : r.Twin m r :=
  ⟨hm.execution _, .same _, optionRel_refl .same _, optionRel_refl .same _,
    optionRel_refl .same _, optionRel_refl .same _, rfl⟩

theorem ScheduleRow.Twin.refl (r : ScheduleRow) : r.Twin m r :=
  ⟨hm.schedule _, .same _, .same _, .same _, rfl⟩

theorem Store.Twin.refl (s : Store) : s.Twin m s :=
  ⟨List.forall₂_same.mpr fun r _ => .refl hm r, List.forall₂_same.mpr fun r _ => .refl hm r,
    List.forall₂_same.mpr fun r _ => .refl hm r⟩

end Refl

/-! ## Saving -/

/-- Reports that differ in their ids and in when they were made have twins as their rows. -/
theorem DefinitionRow.twin_ofDefinition {d d' : Definition} (hid : m.report d.id d'.id)
    (hcreated : m.time d.createdAt d'.createdAt) (hupdated : m.time d.updatedAt d'.updatedAt)
    (hrest : d' = { d with id := d'.id, createdAt := d'.createdAt, updatedAt := d'.updatedAt }) :
    (ofDefinition d).Twin m (ofDefinition d') where
  id := hid
  lastExecutedAt := by
    rw [hrest]
    exact optionRel_refl .same _
  createdAt := .of hcreated
  updatedAt := .of hupdated
  rest := by
    rw [hrest]
    dsimp only [ofDefinition]

theorem ScheduleRow.twin_ofSchedule {d d' : Schedule} (hid : m.schedule d.id d'.id)
    (hnext : m.time d.nextRunAt d'.nextRunAt) (hcreated : m.time d.createdAt d'.createdAt)
    (hupdated : m.time d.updatedAt d'.updatedAt)
    (hrest : d' = { d with
      id := d'.id, nextRunAt := d'.nextRunAt, createdAt := d'.createdAt
      updatedAt := d'.updatedAt }) :
    (ofSchedule d).Twin m (ofSchedule d') where
  id := hid
  nextRunAt := .of hnext
  createdAt := .of hcreated
  updatedAt := .of hupdated
  rest := by
    rw [hrest]
    rfl

/-! ## Reading -/

section Reading

variable (hm : m.Readable)

include hm

theorem Pairing.Stamp.parse {text text' : String} (h : m.Stamp text text') :
    Option.Rel m.Moment (Time.parseRfc3339? text) (Time.parseRfc3339? text') := by
  cases h with
  | same => exact optionRel_refl .same _
  | of h =>
    rcases hm _ _ h with rfl | ⟨ha, hb⟩
    · exact optionRel_refl .same _
    · rw [Time.parseRfc3339?_rfc3339Micros ha, Time.parseRfc3339?_rfc3339Micros hb]
      exact .some (.of h)

theorem Pairing.readOptional_stamp {text text' : Option String}
    (h : Option.Rel m.Stamp text text') :
    Option.Rel (Option.Rel m.Moment) (readOptional? Time.parseRfc3339? text)
      (readOptional? Time.parseRfc3339? text') := by
  cases h with
  | none => exact .some .none
  | some h => exact optionRel_map (h.parse hm) fun _ _ => .some

/-- **The rows of twins say the same**, or cannot be read both. -/
theorem DefinitionRow.Twin.read? {r r' : DefinitionRow} (h : r.Twin m r') :
    Option.Rel (Definition.Twin m) r.read? r'.read? := by
  obtain ⟨hid, hlast, hcreated, hupdated, hrest⟩ := h
  have hinfo : r'.toReportInfo = { r.toReportInfo with id := r'.id } := by rw [hrest]
  have hlayout : r'.layout = r.layout := by rw [hrest]
  unfold DefinitionRow.read?
  rw [hlayout]
  refine optionRel_bind (optionRel_refl (R := Eq) (fun _ => rfl) _) fun layout _ hsame => ?_
  subst hsame
  refine optionRel_bind (Pairing.readOptional_stamp hm hlast) fun last last' hlast => ?_
  refine optionRel_bind (hcreated.parse hm) fun created created' hcreated => ?_
  refine optionRel_bind (hupdated.parse hm) fun updated updated' hupdated => ?_
  exact .some ⟨hid, hlast, hcreated, hupdated, by rw [hinfo]⟩

theorem ScheduleRow.Twin.read? {r r' : ScheduleRow} (h : r.Twin m r') :
    Option.Rel (Schedule.Twin m) r.read? r'.read? := by
  obtain ⟨hid, hnext, hcreated, hupdated, hrest⟩ := h
  have hinfo : r'.toScheduleInfo = { r.toScheduleInfo with id := r'.id } := by rw [hrest]
  have htexts : (r'.recurrence, r'.preset, r'.recipients, r'.lastRunAt)
      = (r.recurrence, r.preset, r.recipients, r.lastRunAt) := by rw [hrest]
  simp only [Prod.mk.injEq] at htexts
  obtain ⟨hrecurrence, hpreset, hrecipients, hlast⟩ := htexts
  have hsame : ∀ {α : Type} (o : Option α), Option.Rel Eq o o := optionRel_refl fun _ => rfl
  unfold ScheduleRow.read?
  rw [hrecurrence, hpreset, hrecipients, hlast]
  refine optionRel_bind (hsame _) fun recurrence _ h => ?_
  subst h
  refine optionRel_bind (hsame _) fun preset _ h => ?_
  subst h
  refine optionRel_bind (hsame _) fun recipients _ h => ?_
  subst h
  refine optionRel_bind (hnext.parse hm) fun next next' hnext => ?_
  refine optionRel_bind (hsame _) fun last _ h => ?_
  subst h
  refine optionRel_bind (hcreated.parse hm) fun created created' hcreated => ?_
  refine optionRel_bind (hupdated.parse hm) fun updated updated' hupdated => ?_
  exact .some ⟨hid, hnext, hcreated, hupdated, by rw [hinfo]⟩

end Reading

theorem orUnreadable_twin {α : Type} {R : α → α → Prop} {o o' : Option α} (h : Option.Rel R o o') :
    Except.Rel Eq R (orUnreadable o) (orUnreadable o') := by
  cases h with
  | none => exact .error rfl
  | some h => exact .ok h

end TenantReports
