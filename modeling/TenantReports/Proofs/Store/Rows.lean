import TenantReports.Proofs.Outcome
import TenantReports.Store.Definitions
import TenantReports.Store.Executions
import TenantReports.Store.Schedules

/-!
# What the store's operations do to rows

Every operation on the store changes the rows that meet a condition, adds a row or takes rows away.
Here this is said once for each operation, so that later proofs never open one. What is read from
the store is what a row of it says.

## Main definitions

* `Store.mapSchedules`: the rows of schedules that meet a condition, changed
* `ScheduleRow.recurrence?`: the recurrence that a row states
* `DefinitionRow.afterSetDefault`: a row after a report was made the default one

## Main results

* `forall₂_comp`, `find?_of_forall₂`: tables compared row by row
* `Store.insertScheduleWithinCap_cases`, `Store.updateDefinition_cases`, `Store.setDefault_cases`:
  all that these operations can do
* `Store.setScheduleActive_snd`, `Store.markScheduleRun_snd`, …: the store after the others
* `Store.row_of_getSchedule`, `Store.row_of_mem_dueSchedules`, …: the rows behind what was read
-/

namespace TenantReports

open Time (Instant)

/-! ## Row by row -/

section RowByRow

variable {α β γ : Type} {R : α → β → Prop} {as : List α} {bs : List β}

/-- Two comparisons, row by row, are one. -/
theorem forall₂_comp {S : β → γ → Prop} {T : α → γ → Prop} {cs : List γ}
    (hT : ∀ a b c, R a b → S b c → T a c) (h : List.Forall₂ R as bs) (h' : List.Forall₂ S bs cs) :
    List.Forall₂ T as cs := by
  induction h generalizing cs with
  | nil =>
    cases h'
    exact .nil
  | @cons a b as bs hab _ ih =>
    obtain ⟨c, cs', hbc, hrest, rfl⟩ := List.forall₂_cons_left_iff.mp h'
    exact .cons (hT a b c hab hbc) (ih hrest)

theorem exists_left_of_forall₂ (h : List.Forall₂ R as bs) {b : β} (hb : b ∈ bs) :
    ∃ a ∈ as, R a b := by
  induction h with
  | nil => cases hb
  | @cons a b' as bs hab _ ih =>
    rcases List.mem_cons.mp hb with rfl | hb
    · exact ⟨a, List.mem_cons_self, hab⟩
    · obtain ⟨a', ha', hab'⟩ := ih hb
      exact ⟨a', List.mem_cons_of_mem a ha', hab'⟩

theorem exists_right_of_forall₂ (h : List.Forall₂ R as bs) {a : α} (ha : a ∈ as) :
    ∃ b ∈ bs, R a b := by
  obtain ⟨b, hb, hab⟩ := exists_left_of_forall₂ (R := fun b a => R a b) h.flip ha
  exact ⟨b, hb, hab⟩

/-- Of comparable rows the first ones are those of the first table. -/
theorem forall₂_mem (h : List.Forall₂ R as bs) : List.Forall₂ (fun a b => a ∈ as ∧ R a b) as bs :=
  (List.forall₂_and_left _ _).mpr ⟨fun _ ha => ha, h⟩

/-- Where comparable rows meet a condition alike, the first ones that do are comparable. -/
theorem find?_of_forall₂ (h : List.Forall₂ R as bs) {p : α → Bool} {q : β → Bool}
    (hpq : ∀ a b, R a b → q b = p a) :
    (as.find? p = none ∧ bs.find? q = none) ∨
      ∃ a b, as.find? p = some a ∧ bs.find? q = some b ∧ R a b := by
  induction h with
  | nil => exact .inl ⟨rfl, rfl⟩
  | @cons a b as bs hab _ ih =>
    have hsame := hpq a b hab
    by_cases hp : p a = true
    · exact .inr ⟨a, b, List.find?_cons_of_pos hp, List.find?_cons_of_pos (hsame.trans hp), hab⟩
    · rw [List.find?_cons_of_neg hp, List.find?_cons_of_neg (by rwa [hsame])]
      exact ih

end RowByRow

/-! ## Reading -/

section Reading

variable {ρ α : Type} {read : ρ → Option α}

theorem orUnreadable_eq_ok {o : Option α} {a : α} : orUnreadable o = .ok a ↔ o = some a := by
  cases o <;> simp [orUnreadable]

/-- What was read is what a row says that is there. -/
theorem readRow_eq_ok_some {row : Option ρ} {a : α} :
    readRow read row = .ok (some a) ↔ ∃ r, row = some r ∧ read r = some a := by
  cases row with
  | none => simp [readRow]
  | some r =>
    cases hread : read r with
    | none => simp [readRow, orUnreadable, hread, Except.map]
    | some b => simp [readRow, orUnreadable, hread, Except.map]

theorem readRows_eq_ok {rows : List ρ} {as : List α} :
    readRows read rows = .ok as ↔ List.Forall₂ (fun r a => read r = some a) rows as := by
  rw [readRows, orUnreadable_eq_ok, Option.mapM_eq_some]

/-- Rows that can be read are read. -/
theorem exists_readRows {rows : List ρ} (h : ∀ r ∈ rows, (read r).isSome = true) :
    ∃ as, readRows read rows = .ok as := by
  induction rows with
  | nil => exact ⟨[], rfl⟩
  | cons r rows ih =>
    rw [List.forall_mem_cons] at h
    obtain ⟨a, ha⟩ := Option.isSome_iff_exists.mp h.1
    obtain ⟨as, has⟩ := ih h.2
    exact ⟨a :: as, readRows_eq_ok.mpr (.cons ha (readRows_eq_ok.mp has))⟩

/-- Each of several things that were read is what one of the rows says. -/
theorem exists_row_of_mem_readRows {rows : List ρ} {as : List α} {a : α}
    (h : readRows read rows = .ok as) (ha : a ∈ as) : ∃ r ∈ rows, read r = some a := by
  obtain ⟨r, hr, hread⟩ := exists_left_of_forall₂ (readRows_eq_ok.mp h) ha
  exact ⟨r, hr, hread⟩

end Reading

theorem DefinitionRow.isAt_iff {tenant id : Int} {r : DefinitionRow} :
    r.isAt tenant id = true ↔ r.tenant = tenant ∧ r.id = id := by
  simp [isAt]

theorem ScheduleRow.isAt_iff {tenant id : Int} {r : ScheduleRow} :
    r.isAt tenant id = true ↔ r.tenant = tenant ∧ r.id = id := by
  simp [isAt]

/-- What a row says of a report it says in clear, the layout and the times apart. -/
theorem DefinitionRow.info_of_read? {r : DefinitionRow} {d : Definition} (h : r.read? = some d) :
    d.toReportInfo = r.toReportInfo := by
  simp only [read?, Option.bind_eq_bind, Option.bind_eq_some_iff, Option.pure_def,
    Option.some.injEq] at h
  obtain ⟨_, -, _, -, _, -, _, -, rfl⟩ := h
  rfl

/-- What a row becomes when a report is made the default one of a category. -/
def DefinitionRow.afterSetDefault (tenant id : Int) (category : Option String)
    (r : DefinitionRow) : DefinitionRow :=
  if r.isAt tenant id then { r with isDefault := true }
  else if r.tenant == tenant && r.category == category then { r with isDefault := false }
  else r

/-- It changes no more than the mark. -/
theorem DefinitionRow.afterSetDefault_eq (tenant id : Int) (category : Option String)
    (r : DefinitionRow) :
    ∃ isDefault, r.afterSetDefault tenant id category = { r with isDefault } := by
  unfold afterSetDefault
  split
  · exact ⟨true, rfl⟩
  · split
    · exact ⟨false, rfl⟩
    · exact ⟨r.isDefault, rfl⟩

/-- The recurrence that the row of a schedule states. -/
def ScheduleRow.recurrence? (r : ScheduleRow) : Option Recurrence :=
  (Json.parse? r.recurrence).bind Recurrence.ofJson?

/-- A schedule that was read is the one of its row. -/
theorem ScheduleRow.info_of_read? {r : ScheduleRow} {s : Schedule} (h : r.read? = some s) :
    s.toScheduleInfo = r.toScheduleInfo ∧ r.recurrence? = some s.recurrence := by
  simp only [read?, Option.bind_eq_bind, Option.bind_eq_some_iff, Option.pure_def,
    Option.some.injEq] at h
  obtain ⟨recurrence, hrecurrence, _, -, _, -, _, -, _, -, _, -, _, -, rfl⟩ := h
  exact ⟨rfl, Option.bind_eq_some_iff.mpr hrecurrence⟩

namespace Store

variable {s : Store} {tenant id : Int}

/-! ## Reports -/

/-- The row behind a report that was read. -/
theorem row_of_getDefinition {d : Definition} (h : s.getDefinition tenant id = .ok (some d)) :
    ∃ r ∈ s.definitions, r.isAt tenant id = true ∧ r.read? = some d := by
  obtain ⟨r, hfind, hread⟩ := readRow_eq_ok_some.mp h
  exact ⟨r, List.mem_of_find?_eq_some hfind, List.find?_some hfind, hread⟩

/-- A report that was read is one of the tenant. -/
theorem isAt_of_getDefinition {d : Definition} (h : s.getDefinition tenant id = .ok (some d)) :
    d.tenant = tenant ∧ d.id = id := by
  obtain ⟨row, -, hat, hread⟩ := row_of_getDefinition h
  rw [DefinitionRow.info_of_read? hread]
  exact DefinitionRow.isAt_iff.mp hat

theorem needDefinition_eq_ok {d : Definition} :
    s.needDefinition tenant id = .ok d ↔ s.getDefinition tenant id = .ok (some d) := by
  unfold needDefinition
  rcases s.getDefinition tenant id with e | _ | d' <;> simp [bind, Except.bind]

/-- Where no row is of a report, nothing is changed for it. -/
theorem changeDefinition_of_none (h : s.definitionRow? tenant id = none)
    (f : DefinitionRow → DefinitionRow) : s.changeDefinition tenant id f = s := by
  have hrows : (s.definitions.map fun r => if r.isAt tenant id then f r else r)
      = s.definitions.map fun r => r :=
    List.map_congr_left fun r hr => if_neg (List.find?_eq_none.mp h r hr)
  rw [changeDefinition, hrows, List.map_id']

/-- A new report is added under the next id. -/
theorem insertDefinition_snd (s : Store) (d : Definition) : (s.insertDefinition d).2 = { s with
    definitions := s.definitions ++ [.ofDefinition { d with id := s.lastDefinition + 1 }]
    lastDefinition := s.lastDefinition + 1 } := by
  dsimp only [insertDefinition, DefinitionRow.ofDefinition]

theorem toggleFavorite_snd : (s.toggleFavorite tenant id).2
    = s.changeDefinition tenant id fun r => { r with favorite := !r.favorite } := by
  unfold toggleFavorite
  cases h : s.definitionRow? tenant id with
  | none => rw [changeDefinition_of_none h]
  | some r => rfl

theorem recordAttempt_snd (now : Instant) : (s.recordAttempt tenant id now).2
    = s.changeDefinition tenant id fun r =>
        { r with
          executionCount := r.executionCount + 1
          lastExecutedAt := some (Time.rfc3339Micros now) } := by
  unfold recordAttempt
  cases h : s.definitionRow? tenant id with
  | none => rw [changeDefinition_of_none h]
  | some r => rfl

/-- An update of a report that can be read writes what can be edited to its row. -/
theorem updateDefinition_of_read {d current : Definition}
    (h : s.getDefinition d.tenant d.id = .ok (some current)) (now : Instant) :
    ∃ version, (s.updateDefinition d now).2 = s.changeDefinition d.tenant d.id fun r =>
      { r with
        name := d.name, description := d.description, category := d.category
        layout := d.layout.text, shared := d.shared, favorite := d.favorite
        version, hash := d.layout.hash, updatedAt := Time.rfc3339Micros now } := by
  rw [updateDefinition, needDefinition_eq_ok.mpr h]
  exact ⟨_, rfl⟩

/-- A report that cannot be read is not updated. -/
theorem updateDefinition_of_error {d : Definition} {e : StoreError}
    (h : s.needDefinition d.tenant d.id = .error e) (now : Instant) :
    s.updateDefinition d now = (.error e, s) := by
  rw [updateDefinition, h]

/-- So an update writes a row or leaves the store as it is. -/
theorem updateDefinition_cases (s : Store) (d : Definition) (now : Instant) :
    (s.updateDefinition d now).2 = s ∨
      ∃ version, (s.updateDefinition d now).2 = s.changeDefinition d.tenant d.id fun r =>
        { r with
          name := d.name, description := d.description, category := d.category
          layout := d.layout.text, shared := d.shared, favorite := d.favorite
          version, hash := d.layout.hash, updatedAt := Time.rfc3339Micros now } := by
  cases h : s.needDefinition d.tenant d.id with
  | error e =>
    rw [updateDefinition_of_error h]
    exact .inl rfl
  | ok current => exact .inr (updateDefinition_of_read (needDefinition_eq_ok.mp h) now)

/-- A report that can be read is made the default one of its category. -/
theorem setDefault_of_read {d : Definition} (h : s.getDefinition tenant id = .ok (some d)) :
    (s.setDefault tenant id).2 = { s with
      definitions := s.definitions.map (DefinitionRow.afterSetDefault tenant id d.category) } := by
  rw [setDefault, needDefinition_eq_ok.mpr h]
  rfl

/-- A report is made the default one of the category of its row, or the store stays as it is. -/
theorem setDefault_cases (s : Store) (tenant id : Int) :
    (s.setDefault tenant id).2 = s ∨
      ∃ row ∈ s.definitions, row.isAt tenant id = true ∧ (s.setDefault tenant id).2 = { s with
        definitions := s.definitions.map (DefinitionRow.afterSetDefault tenant id row.category) }
      := by
  cases h : s.needDefinition tenant id with
  | error e =>
    rw [setDefault, h]
    exact .inl rfl
  | ok current =>
    have hread := needDefinition_eq_ok.mp h
    obtain ⟨row, hrow, hat, hrowread⟩ := row_of_getDefinition hread
    have hcategory : current.category = row.category := by
      rw [DefinitionRow.info_of_read? hrowread]
    refine .inr ⟨row, hrow, hat, ?_⟩
    rw [setDefault_of_read hread, hcategory]

theorem hasActiveSchedule_iff {report : Int} : s.hasActiveSchedule tenant report = true ↔
    ∃ r ∈ s.schedules, r.tenant = tenant ∧ r.report = report ∧ r.active = true := by
  simp [hasActiveSchedule, and_assoc]

/-! ## Runs -/

/-- Moving a run on changes nothing but the records of runs. -/
theorem moveExecution_snd (s : Store) (execution : String) (status : Status)
    (f : ExecutionRow → ExecutionRow) :
    ∃ executions, (s.moveExecution execution status f).2 = { s with executions } := by
  unfold moveExecution
  split
  · exact ⟨s.executions, rfl⟩
  · split
    · exact ⟨_, rfl⟩
    · exact ⟨s.executions, rfl⟩

/-! ## Schedules -/

/-- The rows of schedules that meet a condition, changed. -/
def mapSchedules (s : Store) (p : ScheduleRow → Bool) (f : ScheduleRow → ScheduleRow) : Store :=
  { s with schedules := s.schedules.map fun r => if p r then f r else r }

/-- Where no row meets the condition, nothing is changed. -/
theorem changeSchedules_getD (s : Store) (p : ScheduleRow → Bool)
    (f : ScheduleRow → ScheduleRow) : (s.changeSchedules p f).getD s = s.mapSchedules p f := by
  unfold changeSchedules mapSchedules
  split
  · rfl
  · rename_i hnone
    have hrows : (s.schedules.map fun r => if p r then f r else r)
        = s.schedules.map fun r => r :=
      List.map_congr_left fun r hr => if_neg fun hp => hnone (List.any_eq_true.mpr ⟨r, hr, hp⟩)
    rw [hrows, List.map_id']
    rfl

theorem changeSchedules_eq_some {p : ScheduleRow → Bool} {f : ScheduleRow → ScheduleRow}
    {t : Store} (h : s.changeSchedules p f = some t) : t = s.mapSchedules p f := by
  rw [← changeSchedules_getD, h, Option.getD_some]

theorem changeSchedules_eq_none {p : ScheduleRow → Bool} {f : ScheduleRow → ScheduleRow}
    (h : s.changeSchedules p f = none) : s = s.mapSchedules p f := by
  rw [← changeSchedules_getD, h, Option.getD_none]

theorem updateSchedule_snd (s : Store) (new : Schedule) (now : Instant) :
    (s.updateSchedule new now).2 = s.mapSchedules (ScheduleRow.isAt new.tenant new.id) fun r =>
      { r with
        recurrence := new.recurrence.toJson.compact, preset := new.preset.text
        recipients := (Json.ofStrings new.recipients).compact, exportAs := new.exportAs
        active := new.active, nextRunAt := Time.rfc3339Micros new.nextRunAt
        updatedAt := Time.rfc3339Micros now } := by
  unfold updateSchedule
  dsimp only
  split
  · rename_i h
    exact changeSchedules_eq_none h
  · rename_i h
    exact changeSchedules_eq_some h

theorem setScheduleActive_snd (s : Store) (tenant id : Int) (active : Bool) (now : Instant) :
    (s.setScheduleActive tenant id active now).2
      = s.mapSchedules (ScheduleRow.isAt tenant id) fun r =>
          { r with active, updatedAt := Time.rfc3339Micros now } := by
  unfold setScheduleActive
  split
  · rename_i h
    exact changeSchedules_eq_none h
  · rename_i h
    exact changeSchedules_eq_some h

theorem markScheduleRun_snd (s : Store) (id : Int) (execution : Option String)
    (runAt now : Instant) : (s.markScheduleRun id execution runAt now).2
      = s.mapSchedules (·.id == id) fun r =>
          { r with
            lastRunAt := some (Time.rfc3339Micros runAt)
            lastExecution := execution <|> r.lastExecution
            updatedAt := Time.rfc3339Micros now } := by
  unfold markScheduleRun
  split
  · rename_i h
    exact changeSchedules_eq_none h
  · rename_i h
    exact changeSchedules_eq_some h

theorem reschedule_snd (s : Store) (id : Int) (nextRunAt now : Instant) :
    (s.reschedule id nextRunAt now).2 = s.mapSchedules (·.id == id) fun r =>
      { r with
        nextRunAt := Time.rfc3339Micros nextRunAt, updatedAt := Time.rfc3339Micros now } := by
  unfold reschedule
  split
  · rename_i h
    exact changeSchedules_eq_none h
  · rename_i h
    exact changeSchedules_eq_some h

/-- A stop answers whether there is such a schedule. -/
theorem setScheduleActive_eq_ok {tenant id : Int} {active : Bool} {now : Instant} :
    (s.setScheduleActive tenant id active now).1 = .ok () ↔
      ∃ r ∈ s.schedules, r.isAt tenant id = true := by
  unfold setScheduleActive changeSchedules
  split
  · rename_i hnone
    split at hnone
    · cases hnone
    · rename_i hany
      simpa using hany
  · rename_i hsome
    split at hsome
    · rename_i hany
      simpa using hany
    · cases hsome

theorem setScheduleActive_of_error {active : Bool} {now : Instant} {e : StoreError}
    (h : (s.setScheduleActive tenant id active now).1 = .error e) :
    (s.setScheduleActive tenant id active now).2 = s := by
  unfold setScheduleActive at h ⊢
  split at h
  · rfl
  · cases h

/-- A new schedule is added under the next id while its tenant has room for it, or none is told of
and the store stays as it is. -/
theorem insertScheduleWithinCap_cases (s : Store) (new : Schedule) (cap : Nat) :
    ((∀ saved, (s.insertScheduleWithinCap new cap).1 ≠ .ok (some saved)) ∧
        (s.insertScheduleWithinCap new cap).2 = s) ∨
      s.countActive new.tenant < cap ∧
        (∃ saved, (s.insertScheduleWithinCap new cap).1 = .ok (some saved)) ∧
        (s.insertScheduleWithinCap new cap).2 = { s with
          schedules := s.schedules ++ [{ ScheduleRow.ofSchedule new with id := s.lastSchedule + 1 }]
          lastSchedule := s.lastSchedule + 1 } := by
  unfold insertScheduleWithinCap
  by_cases hcap : cap ≤ s.countActive new.tenant
  · rw [if_pos hcap]
    exact .inl ⟨by simp, rfl⟩
  · rw [if_neg hcap]
    rcases hinsert : s.insertSchedule new with ⟨_ | saved, t⟩
    · exact .inl ⟨by simp, rfl⟩
    · have ht : (s.insertSchedule new).2 = t := by rw [hinsert]
      exact .inr ⟨Nat.lt_of_not_le hcap, ⟨saved, rfl⟩, ht.symm⟩

/-- New schedules leave the reports alone. -/
theorem insertScheduleWithinCap_definitions (s : Store) (new : Schedule) (cap : Nat) :
    (s.insertScheduleWithinCap new cap).2.definitions = s.definitions := by
  rcases insertScheduleWithinCap_cases s new cap with ⟨-, heq⟩ | ⟨-, -, heq⟩
  · rw [heq]
  · rw [heq]

theorem insertScheduleWithinCap_of_not_saved {new : Schedule} {cap : Nat}
    (h : ∀ saved, (s.insertScheduleWithinCap new cap).1 ≠ .ok (some saved)) :
    (s.insertScheduleWithinCap new cap).2 = s := by
  rcases insertScheduleWithinCap_cases s new cap with ⟨-, hsame⟩ | ⟨-, ⟨saved, hsaved⟩, -⟩
  · exact hsame
  · exact absurd hsaved (h saved)

/-- The row behind a schedule that was read. -/
theorem row_of_getSchedule {d : Schedule} (h : s.getSchedule tenant id = .ok (some d)) :
    ∃ r ∈ s.schedules, r.isAt tenant id = true ∧ r.read? = some d := by
  obtain ⟨r, hfind, hread⟩ := readRow_eq_ok_some.mp h
  exact ⟨r, List.mem_of_find?_eq_some hfind, List.find?_some hfind, hread⟩

theorem isAt_of_getSchedule {d : Schedule} (h : s.getSchedule tenant id = .ok (some d)) :
    d.tenant = tenant ∧ d.id = id := by
  obtain ⟨row, -, hat, hread⟩ := row_of_getSchedule h
  rw [(ScheduleRow.info_of_read? hread).1]
  exact ScheduleRow.isAt_iff.mp hat

/-- The row behind a schedule that is due. -/
theorem row_of_mem_dueSchedules {now : Instant} {found : List Schedule} {d : Schedule}
    (h : s.dueSchedules now = .ok found) (hd : d ∈ found) :
    ∃ r ∈ s.schedules, r.active = true ∧ r.read? = some d := by
  obtain ⟨r, hr, hread⟩ := exists_row_of_mem_readRows h hd
  rw [List.mem_mergeSort, List.mem_filter, Bool.and_eq_true] at hr
  exact ⟨r, hr.1, hr.2.1, hread⟩

/-- The row behind a schedule that was not moved on. -/
theorem row_of_mem_staleSchedules {now : Instant} {found : List Schedule} {d : Schedule}
    (h : s.staleSchedules now = .ok found) (hd : d ∈ found) :
    ∃ r ∈ s.schedules, r.active = true ∧ r.read? = some d := by
  obtain ⟨r, hr, hread⟩ := exists_row_of_mem_readRows h hd
  rw [List.mem_filter, Bool.and_eq_true, Bool.and_eq_true] at hr
  exact ⟨r, hr.1, hr.2.1.1, hread⟩

end Store

end TenantReports
