import Mathlib.Data.List.Forall2
import Mathlib.Data.List.Nodup
import TenantReports.Proofs.Store.Rows

/-!
# Stores that agree

Most operations on the store change no more than a few fields of a few rows. A view of a row says
which fields matter; two stores agree if the views of their rows are the same, row by row.

## Main definitions

* `Store.Agree`: two stores agree in a view of reports and a view of schedules
* `DefinitionRow.standing`: the fields of a report that no draft changes
* `Numbered`: ids that were given one after the other, and some of them taken away

## Main results

* `Store.agree_changeDefinition`, `Store.agree_mapSchedules`: a change that the views do not show
* `Store.agree_updateDefinition`, `Store.agree_setDefault`: what an update and a mark leave alone
* `Store.map_definitionRow?_eq`: the view of a row that is looked for
* `Numbered.concat`, `Numbered.sublist`: an id given, ids taken away
* `Store.insertDefinition_eq`, `Store.insertScheduleWithinCap_eq`: the operations that add rows
-/

namespace TenantReports

open Time (Instant)

/-! ## Views -/

namespace Store

variable {τ υ τ' υ' : Type} {report : DefinitionRow → τ} {schedule : ScheduleRow → υ}
  {s t u : Store}

/-- The rows of two stores have the same views, row by row, and both stores go on with the same
ids. -/
structure Agree (report : DefinitionRow → τ) (schedule : ScheduleRow → υ) (s t : Store) :
    Prop where
  definitions : t.definitions.map report = s.definitions.map report
  schedules : t.schedules.map schedule = s.schedules.map schedule
  lastDefinition : t.lastDefinition = s.lastDefinition
  lastSchedule : t.lastSchedule = s.lastSchedule

theorem Agree.refl (s : Store) : Agree report schedule s s := ⟨rfl, rfl, rfl, rfl⟩

theorem Agree.trans (h : Agree report schedule s t) (h' : Agree report schedule t u) :
    Agree report schedule s u :=
  ⟨h'.definitions.trans h.definitions, h'.schedules.trans h.schedules,
    h'.lastDefinition.trans h.lastDefinition, h'.lastSchedule.trans h.lastSchedule⟩

/-- Stores that agree in two views agree in what follows from them. -/
theorem Agree.comp (h : Agree report schedule s t) (f : τ → τ') (g : υ → υ') :
    Agree (fun r => f (report r)) (fun r => g (schedule r)) s t where
  definitions := by simpa [Function.comp_def] using congrArg (List.map f) h.definitions
  schedules := by simpa [Function.comp_def] using congrArg (List.map g) h.schedules
  lastDefinition := h.lastDefinition
  lastSchedule := h.lastSchedule

theorem Agree.exists_definition (h : Agree report schedule s t) {d : DefinitionRow}
    (hd : d ∈ t.definitions) : ∃ d' ∈ s.definitions, report d' = report d := by
  rw [← List.mem_map, ← h.definitions]
  exact List.mem_map_of_mem hd

theorem Agree.exists_schedule (h : Agree report schedule s t) {r : ScheduleRow}
    (hr : r ∈ t.schedules) : ∃ r' ∈ s.schedules, schedule r' = schedule r := by
  rw [← List.mem_map, ← h.schedules]
  exact List.mem_map_of_mem hr

/-- Agreement, row by row. -/
theorem Agree.forall₂_definitions (h : Agree report schedule s t) :
    List.Forall₂ (fun r r' => report r' = report r) s.definitions t.definitions := by
  have hviews : List.Forall₂ (fun a b => b = a) (s.definitions.map report)
      (t.definitions.map report) := by
    rw [h.definitions]
    exact List.forall₂_same.mpr fun _ _ => rfl
  rw [List.forall₂_map_left_iff, List.forall₂_map_right_iff] at hviews
  exact hviews

theorem Agree.symm (h : Agree report schedule s t) : Agree report schedule t s :=
  ⟨h.definitions.symm, h.schedules.symm, h.lastDefinition.symm, h.lastSchedule.symm⟩

theorem agree_changeDefinition (s : Store) (tenant id : Int) {f : DefinitionRow → DefinitionRow}
    (hf : ∀ r, report (f r) = report r) :
    Agree report schedule s (s.changeDefinition tenant id f) where
  definitions := by
    rw [changeDefinition, List.map_map]
    refine List.map_congr_left fun r _ => ?_
    by_cases hr : r.isAt tenant id = true <;> simp [hr, hf]
  schedules := rfl
  lastDefinition := rfl
  lastSchedule := rfl

theorem agree_mapSchedules (s : Store) {p : ScheduleRow → Bool} {f : ScheduleRow → ScheduleRow}
    (hf : ∀ r ∈ s.schedules, p r = true → schedule (f r) = schedule r) :
    Agree report schedule s (s.mapSchedules p f) where
  definitions := rfl
  schedules := by
    rw [mapSchedules, List.map_map]
    refine List.map_congr_left fun r hr => ?_
    by_cases hp : p r = true
    · simp [hp, hf r hr hp]
    · simp [hp]
  lastDefinition := rfl
  lastSchedule := rfl

end Store

/-- What a report has from its runs, its schedules and its category: the columns that an update
does not write. -/
def DefinitionRow.standing (r : DefinitionRow) :
    Int × Int × Bool × Bool × Int × Option String :=
  (r.tenant, r.id, r.isDefault, r.scheduled, r.executionCount, r.lastExecutedAt)

namespace Store

variable {τ υ : Type} {report : DefinitionRow → τ} {schedule : ScheduleRow → υ} {s t : Store}

/-- **An update writes none of these columns.** -/
theorem agree_updateDefinition (s : Store) (d : Definition) (now : Instant) :
    Agree DefinitionRow.standing id s (s.updateDefinition d now).2 := by
  rcases updateDefinition_cases s d now with heq | ⟨version, heq⟩
  · rw [heq]
    exact .refl s
  · rw [heq]
    exact agree_changeDefinition s _ _ fun _ => rfl

/-- A report that is made the default one: nothing else changes in any row. -/
theorem agree_setDefault (s : Store) (tenant id : Int)
    (hmark : ∀ r isDefault, report { r with isDefault } = report r) :
    Agree report schedule s (s.setDefault tenant id).2 := by
  rcases setDefault_cases s tenant id with heq | ⟨row, -, -, heq⟩
  · rw [heq]
    exact .refl s
  rw [heq]
  refine ⟨?_, rfl, rfl, rfl⟩
  rw [List.map_map]
  apply List.map_congr_left
  intro r _
  obtain ⟨isDefault, hafter⟩ := r.afterSetDefault_eq tenant id row.category
  rw [Function.comp_apply, hafter]
  exact hmark r isDefault

/-- Where a view shows which report a row is, the row that is found has the same view. -/
theorem map_definitionRow?_eq {tenant id : Int} {p : τ → Bool}
    (h : t.definitions.map report = s.definitions.map report)
    (hp : ∀ r, r.isAt tenant id = p (report r)) :
    (t.definitionRow? tenant id).map report = (s.definitionRow? tenant id).map report := by
  have hfind : ∀ u : Store,
      (u.definitionRow? tenant id).map report = (u.definitions.map report).find? p := by
    intro u
    rw [List.find?_map]
    unfold definitionRow?
    congr 2
    funext r
    exact hp r
  rw [hfind, hfind, h]

/-- A change of all rows that keeps them in their places. -/
theorem definitionRow?_map {tenant id : Int} (s : Store) {f : DefinitionRow → DefinitionRow}
    (hf : ∀ r, (f r).isAt tenant id = r.isAt tenant id) :
    definitionRow? { s with definitions := s.definitions.map f } tenant id
      = (s.definitionRow? tenant id).map f := by
  unfold definitionRow?
  rw [List.find?_map]
  congr 2
  funext r
  exact hf r

/-- A change that keeps the ids of rows keeps the ids of a table. -/
theorem changeDefinition_ids (s : Store) (tenant id : Int) {f : DefinitionRow → DefinitionRow}
    (hf : ∀ r, (f r).id = r.id) :
    (s.changeDefinition tenant id f).definitions.map (·.id) = s.definitions.map (·.id) := by
  have hagree : Agree (·.id) (·.id) s (s.changeDefinition tenant id f) :=
    agree_changeDefinition s tenant id hf
  exact hagree.definitions

theorem mapSchedules_ids (s : Store) (p : ScheduleRow → Bool) {f : ScheduleRow → ScheduleRow}
    (hf : ∀ r, (f r).id = r.id) :
    (s.mapSchedules p f).schedules.map (·.id) = s.schedules.map (·.id) := by
  have hagree : Agree (·.id) (·.id) s (s.mapSchedules p f) :=
    agree_mapSchedules s fun r _ _ => hf r
  exact hagree.schedules

end Store

/-! ## Ids -/

/-- No id was given twice, and none is above the last one. -/
structure Numbered (ids : List Int) (last : Int) : Prop where
  nodup : ids.Nodup
  le_last : ∀ id ∈ ids, id ≤ last

namespace Numbered

variable {ids ids' : List Int} {last : Int}

theorem nil : Numbered [] last := ⟨List.nodup_nil, by simp⟩

/-- The next id is given. -/
theorem concat (h : Numbered ids last) : Numbered (ids ++ [last + 1]) (last + 1) where
  nodup := by
    refine List.nodup_append.mpr ⟨h.nodup, List.nodup_singleton _, fun id hid id' hid' => ?_⟩
    have hle := h.le_last id hid
    rw [List.mem_singleton] at hid'
    omega
  le_last := by
    intro id hid
    rcases List.mem_append.mp hid with hid | hid
    · have hle := h.le_last id hid
      omega
    · rw [List.mem_singleton] at hid
      exact Int.le_of_eq hid

/-- Ids are taken away. -/
theorem sublist (h : Numbered ids last) (hsub : ids'.Sublist ids) : Numbered ids' last :=
  ⟨h.nodup.sublist hsub, fun id hid => h.le_last id (hsub.subset hid)⟩

/-- A row is known by its id. -/
theorem eq_of_id {ρ : Type} {id : ρ → Int} {rows : List ρ} (h : Numbered (rows.map id) last)
    {r r' : ρ} (hr : r ∈ rows) (hr' : r' ∈ rows) (heq : id r = id r') : r = r' :=
  List.inj_on_of_nodup_map h.nodup hr hr' heq

end Numbered

/-! ## Rows that are read again -/

namespace Store

variable {s : Store} {tenant id : Int}

/-- A report that has to be there is what its row says. -/
theorem needDefinition_of_find {r : DefinitionRow} (h : s.definitionRow? tenant id = some r) :
    s.needDefinition tenant id = orUnreadable r.read? := by
  rw [needDefinition, getDefinition, h, readRow]
  cases r.read? <;> rfl

theorem needSchedule_of_find {r : ScheduleRow}
    (h : s.schedules.find? (ScheduleRow.isAt tenant id) = some r) :
    s.needSchedule tenant id = orUnreadable r.read? := by
  rw [needSchedule, getSchedule, h, readRow]
  cases r.read? <;> rfl

/-- An update answers with what is read after it. -/
theorem updateSchedule_fst (s : Store) (new : Schedule) (now : Instant) :
    (s.updateSchedule new now).1
      = (s.updateSchedule new now).2.needSchedule new.tenant new.id := by
  unfold updateSchedule changeSchedules
  dsimp only
  by_cases hany : s.schedules.any (ScheduleRow.isAt new.tenant new.id) = true
  · rw [if_pos hany]
  · have hnone : s.schedules.find? (ScheduleRow.isAt new.tenant new.id) = none :=
      List.find?_eq_none.mpr fun r hr hat => hany (List.any_eq_true.mpr ⟨r, hr, hat⟩)
    rw [if_neg hany, needSchedule, getSchedule, hnone]
    rfl

/-- A row under a new id is found by that id. -/
theorem find?_concat_of_fresh {ρ : Type} {rows : List ρ} {row : ρ} {q : ρ → Bool}
    (hrows : ∀ r ∈ rows, q r = false) (hrow : q row = true) :
    (rows ++ [row]).find? q = some row := by
  have hnone : rows.find? q = none :=
    List.find?_eq_none.mpr fun r hr => Bool.eq_false_iff.mp (hrows r hr)
  rw [List.find?_append, hnone, Option.none_or, List.find?_singleton, if_pos hrow]

/-- So is the row of a report under the next id. -/
theorem find?_concat_of_numbered {r : DefinitionRow}
    (hids : Numbered (s.definitions.map (·.id)) s.lastDefinition)
    (hid : r.id = s.lastDefinition + 1) :
    (s.definitions ++ [r]).find? (DefinitionRow.isAt r.tenant r.id) = some r := by
  refine find?_concat_of_fresh (fun r' hr' => ?_) (DefinitionRow.isAt_iff.mpr ⟨rfl, rfl⟩)
  have hle := hids.le_last r'.id (List.mem_map_of_mem hr')
  rw [DefinitionRow.isAt, Bool.and_eq_false_iff]
  refine .inr (beq_eq_false_iff_ne.mpr ?_)
  omega

/-- A new report answers with what its row says, whatever rows there are. -/
theorem insertDefinition_eq (d : Definition)
    (hids : Numbered (s.definitions.map (·.id)) s.lastDefinition) :
    s.insertDefinition d
      = (orUnreadable (DefinitionRow.ofDefinition { d with id := s.lastDefinition + 1 }).read?,
        { s with
          definitions := s.definitions ++ [.ofDefinition { d with id := s.lastDefinition + 1 }]
          lastDefinition := s.lastDefinition + 1 }) := by
  have hfind : (s.insertDefinition d).2.definitionRow? d.tenant (s.lastDefinition + 1)
      = some (.ofDefinition { d with id := s.lastDefinition + 1 }) := by
    rw [insertDefinition_snd]
    exact find?_concat_of_numbered (r := .ofDefinition { d with id := s.lastDefinition + 1 })
      hids rfl
  rw [← needDefinition_of_find hfind, ← insertDefinition_snd]
  rfl

theorem insertSchedule_eq (new : Schedule)
    (hids : Numbered (s.schedules.map (·.id)) s.lastSchedule) :
    s.insertSchedule new
      = (orUnreadable (ScheduleRow.ofSchedule { new with id := s.lastSchedule + 1 }).read?,
        { s with
          schedules := s.schedules ++ [.ofSchedule { new with id := s.lastSchedule + 1 }]
          lastSchedule := s.lastSchedule + 1 }) := by
  have hfind : (s.insertSchedule new).2.schedules.find?
      (ScheduleRow.isAt new.tenant (s.lastSchedule + 1))
      = some (.ofSchedule { new with id := s.lastSchedule + 1 }) := by
    refine find?_concat_of_fresh (fun r hr => ?_) (ScheduleRow.isAt_iff.mpr ⟨rfl, rfl⟩)
    have hle := hids.le_last r.id (List.mem_map_of_mem hr)
    rw [ScheduleRow.isAt, Bool.and_eq_false_iff]
    refine .inr (beq_eq_false_iff_ne.mpr ?_)
    omega
  rw [← needSchedule_of_find hfind]
  rfl

/-- So does a new schedule, if its tenant has room for it. One that cannot be read is not kept. -/
theorem insertScheduleWithinCap_eq (new : Schedule) (cap : Nat)
    (hids : Numbered (s.schedules.map (·.id)) s.lastSchedule) :
    s.insertScheduleWithinCap new cap = if cap ≤ s.countActive new.tenant then (.ok none, s)
      else match (ScheduleRow.ofSchedule { new with id := s.lastSchedule + 1 }).read? with
        | none => (.error .unreadable, s)
        | some saved => (.ok (some saved), { s with
          schedules := s.schedules ++ [.ofSchedule { new with id := s.lastSchedule + 1 }]
          lastSchedule := s.lastSchedule + 1 }) := by
  rw [insertScheduleWithinCap, insertSchedule_eq new hids]
  cases (ScheduleRow.ofSchedule { new with id := s.lastSchedule + 1 }).read? <;> rfl

end Store

end TenantReports
