import TenantReports.Proofs.Scheduling.Coherence

/-!
# Updates and deactivations in stages

An update of a schedule reads it and then writes the wish and all else that it has read, whether
the schedule is active included. A deactivation reads the schedule, stops it and refreshes the mark
of its report. How far each has come is a stage, which says what is left of its process.

## Main definitions

* `ScheduleRow.revised`, `ScheduleRow.stopped`: what the two write to a row
* `Store.Runs`: a schedule is active
* `Scheduler.UpdateStage`, `Scheduler.StopStage`: the stages, and the process at each

## Main results

* `Scheduler.UpdateStage.step_cases`, `Scheduler.StopStage.step_cases`: all that a step can do
* `Scheduler.stopped_revised`, `Scheduler.refreshed_revised`: writes that may change places
-/

namespace TenantReports

open Process (Interleaved Step)
open Time (Instant)

/-! ## Rows -/

namespace ScheduleRow

/-- A row with another wish and next run, written back. -/
def revised (spec : ScheduleSpec) (next : Instant) (active : Bool) (now : Instant)
    (r : ScheduleRow) : ScheduleRow :=
  { r with
    recurrence := spec.recurrence.toJson.compact, preset := spec.preset.text
    recipients := (Json.ofStrings spec.recipients).compact, exportAs := spec.exportAs, active
    nextRunAt := Time.rfc3339Micros next, updatedAt := Time.rfc3339Micros now }

/-- What is written back can be read whether it is active or not, and at any time that can be. -/
theorem isSome_read?_revised {spec : ScheduleSpec} {next now at_ : Instant} {active active' : Bool}
    {r : ScheduleRow} (hnow : (Time.parseRfc3339? (Time.rfc3339Micros now)).isSome = true)
    (h : (r.revised spec next active at_).read?.isSome = true) :
    (r.revised spec next active' now).read?.isSome = true := by
  refine isSome_read?_of_texts ?_ ?_ h
  · simp only [revised]
  · simpa only [revised] using hnow

/-- A row that is made inactive. -/
def stopped (now : Instant) (r : ScheduleRow) : ScheduleRow :=
  { r with active := false, updatedAt := Time.rfc3339Micros now }

end ScheduleRow

namespace Store

variable {s : Store} {tenant id : Int}

/-- A schedule is active. -/
def Runs (s : Store) (tenant id : Int) : Prop :=
  ∃ r ∈ s.schedules, r.isAt tenant id = true ∧ r.active = true

theorem not_runs_iff :
    ¬ s.Runs tenant id ↔ ∀ r ∈ s.schedules, r.isAt tenant id = true → r.active = false := by
  simp [Runs]

theorem updateSchedule_withSpec (d : Schedule) (spec : ScheduleSpec) (next now : Instant) :
    (s.updateSchedule (d.withSpec spec next) now).2
      = s.mapSchedules (ScheduleRow.isAt d.tenant d.id) (.revised spec next d.active now) :=
  updateSchedule_snd s _ now

theorem mapSchedules_mapSchedules (s : Store) {p : ScheduleRow → Bool}
    {f g : ScheduleRow → ScheduleRow} (hp : ∀ r, p (f r) = p r) :
    (s.mapSchedules p f).mapSchedules p g = s.mapSchedules p fun r => g (f r) := by
  have hrows : ∀ r, (if p (if p r then f r else r) then g (if p r then f r else r)
      else if p r then f r else r) = if p r then g (f r) else r := by
    intro r
    by_cases hr : p r = true
    · rw [if_pos hr, if_pos hr, if_pos (by rw [hp, hr])]
    · rw [if_neg hr, if_neg hr, if_neg hr]
  rw [mapSchedules, mapSchedules, mapSchedules, List.map_map]
  exact congrArg (fun schedules => { s with schedules }) (List.map_congr_left fun r _ => hrows r)

theorem find?_mapSchedules (s : Store) {p : ScheduleRow → Bool} {f : ScheduleRow → ScheduleRow}
    (hp : ∀ r, p (f r) = p r) :
    (s.mapSchedules p f).schedules.find? p = (s.schedules.find? p).map f := by
  have hpred : (p ∘ fun r => if p r then f r else r) = p := by
    funext r
    rw [Function.comp_apply]
    split
    · exact hp r
    · rfl
  rw [mapSchedules, List.find?_map, hpred]
  cases hfind : s.schedules.find? p with
  | none => rfl
  | some r => rw [Option.map_some, Option.map_some, if_pos (List.find?_some hfind)]

end Store

namespace Scheduler

variable {δ : Type} (sch : Scheduler δ) (tenant id : Int)

/-- The world after a schedule was written back with another wish. -/
def revised (spec : ScheduleSpec) (next : Instant) (active : Bool) (w : World δ) : World δ :=
  { w with
    readings := w.readings + 1
    store := w.store.mapSchedules (ScheduleRow.isAt tenant id)
      (.revised spec next active (sch.engine.host.clock w.readings)) }

variable {sch tenant id} {spec : ScheduleSpec} {next : Instant}

theorem stopped_eq (w : World δ) : sch.stopped tenant id w = { w with
    readings := w.readings + 1
    store := w.store.mapSchedules (ScheduleRow.isAt tenant id)
      (.stopped (sch.engine.host.clock w.readings)) } := by
  rw [stopped, World.run_onStoreNow]
  dsimp only
  rw [Store.setScheduleActive_snd]
  rfl

theorem find?_stopped (w : World δ) :
    (sch.stopped tenant id w).store.schedules.find? (ScheduleRow.isAt tenant id)
      = (w.store.schedules.find? (ScheduleRow.isAt tenant id)).map
        (.stopped (sch.engine.host.clock w.readings)) := by
  rw [stopped_eq]
  exact Store.find?_mapSchedules _ fun _ => rfl

theorem find?_revised (active : Bool) (w : World δ) :
    (sch.revised tenant id spec next active w).store.schedules.find? (ScheduleRow.isAt tenant id)
      = (w.store.schedules.find? (ScheduleRow.isAt tenant id)).map
        (.revised spec next active (sch.engine.host.clock w.readings)) :=
  Store.find?_mapSchedules _ fun _ => rfl

/-- Whether a schedule is stopped before or after it is written back as inactive makes no
difference. -/
theorem stopped_revised (active : Bool) (w : World δ) :
    sch.stopped tenant id (sch.revised tenant id spec next active w)
      = sch.revised tenant id spec next false (sch.stopped tenant id w) := by
  rw [stopped_eq, stopped_eq]
  unfold revised
  dsimp only
  rw [Store.mapSchedules_mapSchedules, Store.mapSchedules_mapSchedules]
  · rfl
  · exact fun _ => rfl
  · exact fun _ => rfl

/-- Who writes back what is there of whether a schedule is active leaves all marks as they are. -/
theorem agree_revised {active : Bool} {w : World δ}
    (hactive : ∀ r ∈ w.store.schedules, r.isAt tenant id = true → r.active = active) :
    Store.Agree DefinitionRow.mark ScheduleRow.mark w.store
      (sch.revised tenant id spec next active w).store := by
  refine w.store.agree_mapSchedules fun r hr hat => ?_
  rw [ScheduleRow.mark, ScheduleRow.mark, hactive r hr hat]
  rfl

/-- Nor does it matter for the mark of its report when an inactive schedule is written back. -/
theorem refreshed_revised {report : Int} {w : World δ} (hstopped : ¬ w.store.Runs tenant id) :
    refreshed tenant report (sch.revised tenant id spec next false w)
      = sch.revised tenant id spec next false (refreshed tenant report w) := by
  have hagree : Store.Agree _ _ w.store (sch.revised tenant id spec next false w).store :=
    agree_revised (Store.not_runs_iff.mp hstopped)
  have hmark := hagree.hasActiveSchedule tenant report
  unfold refreshed Store.refreshScheduled
  rw [hmark]
  rfl

theorem not_runs_stopped (w : World δ) : ¬ (sch.stopped tenant id w).store.Runs tenant id := by
  rw [stopped_eq]
  rintro ⟨r', hr', hat, hactive⟩
  obtain ⟨r, hr, rfl⟩ := List.mem_map.mp hr'
  by_cases hp : r.isAt tenant id = true
  · rw [if_pos hp] at hactive
    cases hactive
  · rw [if_neg hp] at hat
    exact hp hat

/-! ## Stages -/

/-- How far an update has come: it has read whether the schedule is active, it has written. -/
inductive UpdateStage where
  | asked
  | read (next : Instant) (active : Bool)
  | written (next : Instant)
  | refused

/-- How far a deactivation has come: it has read the report of the schedule, it has stopped the
schedule, it has refreshed the mark of the report. -/
inductive StopStage where
  | asked
  | read (report : Int)
  | stopped (report : Int)
  | refreshed
  | refused

variable (sch tenant id spec) (now : Instant)

/-- The process of an update at a stage. -/
def UpdateStage.IsAt : UpdateStage → Process (World δ) Bool → Prop
  | .asked, p => p = succeeds (sch.update tenant id spec now)
  | .read next active, p => ∃ s : Schedule, s.tenant = tenant ∧ s.id = id ∧ s.active = active ∧
      p = succeeds (World.orFail .store (World.onStoreNow sch.engine.host fun at_ store =>
        store.updateSchedule (s.withSpec spec next) at_))
  | .written _, p => p = .done true
  | .refused, p => p = .done false

/-- The process of a deactivation at a stage. -/
def StopStage.IsAt : StopStage → Process (World δ) Bool → Prop
  | .asked, p => p = succeeds (sch.deactivate tenant id)
  | .read report, p => p = succeeds (do
      World.orFail .store (World.onStoreNow sch.engine.host fun at_ store =>
        store.setScheduleActive tenant id false at_)
      World.always (refreshScheduled tenant report))
  | .stopped report, p => p = succeeds (World.always (refreshScheduled tenant report))
  | .refreshed, p => p = .done true
  | .refused, p => p = .done false

variable {sch tenant id spec now} {p p' : Process (World δ) Bool} {w w' : World δ}

/-- **All that a step of an update can do**: it reads the schedule, or it writes the wish and what
it has read of whether the schedule is active. -/
theorem UpdateStage.step_cases {u : UpdateStage} (hp : u.IsAt sch tenant id spec now p)
    (h : Step p w p' w') :
    (u = .asked ∧ w' = w ∧ (UpdateStage.refused.IsAt sch tenant id spec now p' ∨
      ∃ s next, spec.check = .ok () ∧ spec.recurrence.next now = .ok next ∧
        w.store.getSchedule tenant id = .ok (some s) ∧
        (UpdateStage.read next s.active).IsAt sch tenant id spec now p')) ∨
    ∃ next active, u = .read next active ∧ w' = sch.revised tenant id spec next active w ∧
      (UpdateStage.refused.IsAt sch tenant id spec now p' ∨
        (UpdateStage.written next).IsAt sch tenant id spec now p' ∧
          ∃ saved, w'.store.getSchedule tenant id = .ok (some saved)) := by
  cases u with
  | asked =>
    left
    obtain rfl : p = _ := hp
    unfold update nextRun at h
    rw [succeeds_ofExcept_bind] at h
    cases hcheck : spec.check with
    | error e =>
      rw [hcheck] at h
      exact absurd h Process.not_step_done
    | ok _ =>
      rw [hcheck] at h
      dsimp only at h
      rw [succeeds_get_bind] at h
      obtain ⟨rfl, hw⟩ := h.eq
      refine ⟨rfl, hw, ?_⟩
      dsimp only
      rcases hget : w.store.getSchedule tenant id with e | _ | s
      · exact .inl rfl
      · exact .inl rfl
      dsimp only
      rw [succeeds_ofExcept_bind]
      cases hnext : spec.recurrence.next now with
      | error e => exact .inl rfl
      | ok next =>
        obtain ⟨htenant, hid⟩ := Store.isAt_of_getSchedule hget
        exact .inr ⟨s, next, rfl, rfl, rfl, s, htenant, hid, rfl, rfl⟩
  | read next active =>
    right
    obtain ⟨s, rfl, rfl, rfl, rfl⟩ := hp
    rw [succeeds_onStoreNow] at h
    obtain ⟨rfl, rfl⟩ := h.eq
    rw [World.run_onStoreNow]
    refine ⟨next, s.active, rfl, ?_, ?_⟩
    · dsimp only
      rw [Store.updateSchedule_withSpec]
      rfl
    · dsimp only
      rcases hanswer : (w.store.updateSchedule (s.withSpec spec next)
        (sch.engine.host.clock w.readings)).1 with e | saved
      · exact .inl rfl
      · exact .inr ⟨rfl, saved, Store.updateSchedule_eq_ok.mp hanswer⟩
  | written next =>
    obtain rfl : p = _ := hp
    exact absurd h Process.not_step_done
  | refused =>
    obtain rfl : p = _ := hp
    exact absurd h Process.not_step_done

/-- **All that a step of a deactivation can do**: it reads the schedule, stops it, and refreshes
the mark of the report that it has read. -/
theorem StopStage.step_cases {d : StopStage} (hp : d.IsAt sch tenant id p) (h : Step p w p' w') :
    (d = .asked ∧ w' = w ∧ (StopStage.refused.IsAt sch tenant id p' ∨
      ∃ s, w.store.getSchedule tenant id = .ok (some s) ∧
        (StopStage.read s.report).IsAt sch tenant id p')) ∨
    (∃ report, d = .read report ∧ w' = sch.stopped tenant id w ∧
      (StopStage.refused.IsAt sch tenant id p' ∨
        (StopStage.stopped report).IsAt sch tenant id p' ∧
          ∃ r ∈ w.store.schedules, r.isAt tenant id = true)) ∨
    ∃ report, d = .stopped report ∧ w' = Scheduler.refreshed tenant report w ∧
      StopStage.refreshed.IsAt sch tenant id p' := by
  cases d with
  | asked =>
    left
    obtain rfl : p = _ := hp
    unfold deactivate at h
    rw [succeeds_get_bind] at h
    obtain ⟨rfl, hw⟩ := h.eq
    refine ⟨rfl, hw, ?_⟩
    dsimp only
    rcases hget : w.store.getSchedule tenant id with e | _ | s
    · exact .inl rfl
    · exact .inl rfl
    · exact .inr ⟨s, rfl, rfl⟩
  | read report =>
    right; left
    obtain rfl : p = _ := hp
    rw [succeeds_onStoreNow_bind] at h
    obtain ⟨rfl, rfl⟩ := h.eq
    refine ⟨report, rfl, rfl, ?_⟩
    rw [World.run_onStoreNow]
    dsimp only
    rcases hanswer : (w.store.setScheduleActive tenant id false
      (sch.engine.host.clock w.readings)).1 with e | _
    · exact .inl rfl
    · exact .inr ⟨rfl, Store.setScheduleActive_eq_ok.mp hanswer⟩
  | stopped report =>
    right; right
    obtain rfl : p = _ := hp
    rw [succeeds_refresh] at h
    obtain ⟨rfl, rfl⟩ := h.eq
    exact ⟨report, rfl, rfl, rfl⟩
  | refreshed =>
    obtain rfl : p = _ := hp
    exact absurd h Process.not_step_done
  | refused =>
    obtain rfl : p = _ := hp
    exact absurd h Process.not_step_done

/-- An update that has succeeded has written. -/
theorem UpdateStage.written_of_succeeded {u : UpdateStage}
    (hp : u.IsAt sch tenant id spec now (.done true)) : ∃ next, u = .written next := by
  cases u with
  | asked =>
    have hasked : Process.done true = succeeds (sch.update tenant id spec now) := hp
    unfold update at hasked
    rw [succeeds_ofExcept_bind] at hasked
    cases hcheck : spec.check with
    | error e =>
      rw [hcheck] at hasked
      cases hasked
    | ok _ =>
      rw [hcheck] at hasked
      dsimp only at hasked
      rw [succeeds_get_bind] at hasked
      cases hasked
  | read next active =>
    obtain ⟨s, -, -, -, hread⟩ := hp
    rw [succeeds_onStoreNow] at hread
    cases hread
  | written next => exact ⟨next, rfl⟩
  | refused => cases hp

/-- A deactivation that has succeeded has refreshed the mark. -/
theorem StopStage.refreshed_of_succeeded {d : StopStage}
    (hp : d.IsAt sch tenant id (.done true)) : d = .refreshed := by
  cases d with
  | asked =>
    have hasked : Process.done true = succeeds (sch.deactivate tenant id) := hp
    unfold deactivate at hasked
    rw [succeeds_get_bind] at hasked
    cases hasked
  | read report =>
    have hread : Process.done true = succeeds _ := hp
    rw [succeeds_onStoreNow_bind] at hread
    cases hread
  | stopped report => cases hp
  | refreshed => rfl
  | refused => cases hp

/-- The schedule is stopped. -/
def StopStage.hasStopped : StopStage → Bool
  | .stopped _ => true
  | .refreshed => true
  | _ => false

end Scheduler

end TenantReports
