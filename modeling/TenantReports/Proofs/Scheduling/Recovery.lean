import TenantReports.Proofs.Scheduling.Cuts

/-!
# Recovery after a sweep that was cut short

A recovery looks for stale rows and moves them on. Where a sweep was cut short, these are the rows
that were left half done, so nothing is run that is already recorded. The next sweep runs all that
is due but has not been recorded, and leaves nothing stale behind.

## Main definitions

* `Scheduler.Recovered`: a store after a recovery
* `Scheduler.Completed`: a store after a recovery and the next sweep

## Main results

* `Scheduler.perform_recover`: what a recovery does
* `Scheduler.runsOf_halfDone`, `Scheduler.runsOf_unrecorded`: what the next sweep runs
* `Scheduler.recovery_completes`: a recovery and the next sweep together
-/

namespace TenantReports

open Process (Each Interleaved Maintains)
open Time (Instant)
open World (Storewise)

/-! ## A recovery -/

namespace ScheduleRow

variable {δ : Type} {host : Host δ} {now : Instant} {r r' : ScheduleRow}

/-- What a recovery makes of a row: one that is stale is moved on, any other one stays as it is. -/
structure Recovered (host : Host δ) (now : Instant) (r r' : ScheduleRow) : Prop where
  stale : r.isStale now = true →
    ∃ d, r.read? = some d ∧ (r.movedOn (d.recurrence.next now)).Rewritten host r'
  other : r.isStale now = false → r' = r

/-- A row with a later next run is not stale. -/
theorem isStale_eq_false_of_lt
    (h : r.active = true → Time.rfc3339Micros now < r.nextRunAt) : r.isStale now = false := by
  rw [Bool.eq_false_iff]
  intro hstale
  obtain ⟨hactive, -, hle⟩ := isStale_iff.mp hstale
  exact absurd hle (String.not_le.mpr (h hactive))

namespace Recovered

variable (h : r.Recovered host now r')

include h

theorem key_eq : r'.key = r.key := by
  cases hstale : r.isStale now with
  | true =>
    obtain ⟨d, -, hwritten⟩ := h.stale hstale
    rw [hwritten.key_eq, key_movedOn]
  | false => rw [h.other hstale]

variable (hnow : now.Plain) (hyear : now.date.year ≤ 9998)

include hnow hyear

/-- A row that was stale is neither stale nor due any more. -/
theorem lt_nextRunAt (hstale : r.isStale now = true) (hactive : r'.active = true) :
    Time.rfc3339Micros now < r'.nextRunAt := by
  obtain ⟨d, -, hwritten⟩ := h.stale hstale
  exact Scheduler.lt_nextRunAt_of_movedOn hnow hyear hwritten hactive

/-- **After a recovery no row is stale.** -/
theorem isStale_eq_false : r'.isStale now = false := by
  cases hstale : r.isStale now with
  | true => exact isStale_eq_false_of_lt (h.lt_nextRunAt hnow hyear hstale)
  | false => rwa [h.other hstale]

/-- A row that is due after a recovery was not touched by it. -/
theorem eq_of_isDue (hdue : r'.isDue now = true) : r.isStale now = false ∧ r' = r := by
  obtain ⟨hactive, hle⟩ := isDue_iff.mp hdue
  cases hstale : r.isStale now with
  | true => exact absurd hle (String.not_le.mpr (h.lt_nextRunAt hnow hyear hstale hactive))
  | false => exact ⟨rfl, h.other hstale⟩

end Recovered

end ScheduleRow

/-- A schedule of a report without a further run. -/
def Schedule.StopsFor (now : Instant) (d : Schedule) (tenant report : Int) : Prop :=
  tenant = d.tenant ∧ report = d.report ∧ ∃ e, d.recurrence.next now = .error e

namespace Store

variable {δ : Type} {host : Host δ} {p q : Int → Int → Prop} {s t u : Store} {now : Instant}
  {found : List Schedule}

/-- Of the rows of reports only marks have changed, and only those of reports with a property. -/
def Remarks (p : Int → Int → Prop) (s t : Store) : Prop :=
  List.Forall₂ (fun d d' => d' = d ∨ p d.tenant d.id ∧ d' = { d with scheduled := d'.scheduled })
    s.definitions t.definitions

theorem Remarks.refl (s : Store) : s.Remarks p s := List.forall₂_same.mpr fun _ _ => .inl rfl

theorem Remarks.mono (h : s.Remarks p t)
    (hpq : ∀ tenant report, p tenant report → q tenant report) : s.Remarks q t := by
  refine List.Forall₂.imp (fun d d' hd => ?_) h
  rcases hd with hsame | ⟨hp, hmark⟩
  · exact .inl hsame
  · exact .inr ⟨hpq _ _ hp, hmark⟩

theorem Remarks.trans (h : s.Remarks p t) (h' : t.Remarks p u) : s.Remarks p u := by
  refine forall₂_comp (fun d d' d'' hd hd' => ?_) h h'
  rcases hd with rfl | ⟨hp, hmark⟩
  · exact hd'
  rcases hd' with rfl | ⟨-, hmark'⟩
  · exact .inr ⟨hp, hmark⟩
  · exact .inr ⟨hp, by rw [hmark', hmark]⟩

theorem Remarks.onward (h : s.Remarks p t) : s.Onward host t := by
  refine List.Forall₂.imp (fun d d' hd => ?_) h
  rcases hd with rfl | ⟨-, hmark⟩
  · exact .refl _
  · rw [hmark]
    exact ⟨rfl, .inl rfl⟩

theorem finds_of_staleSchedules (h : s.staleSchedules now = .ok found) :
    s.Finds (ScheduleRow.isStale now) found :=
  ⟨_, .refl _, readRows_eq_ok.mp h⟩

theorem exists_staleSchedules
    (hread : ∀ r ∈ s.schedules, r.isStale now = true → r.read?.isSome = true) :
    ∃ found, s.staleSchedules now = .ok found := by
  refine exists_readRows fun r hr => ?_
  obtain ⟨hmem, hstale⟩ := List.mem_filter.mp hr
  exact hread r hmem hstale

theorem staleSchedules_eq_nil (h : ∀ r ∈ s.schedules, r.isStale now = false) :
    s.staleSchedules now = .ok [] := by
  have hnone : s.schedules.filter (ScheduleRow.isStale now) = [] :=
    List.filter_eq_nil_iff.mpr fun r hr => Bool.eq_false_iff.mp (h r hr)
  refine readRows_eq_ok.mpr ?_
  change List.Forall₂ _ (s.schedules.filter (ScheduleRow.isStale now)) []
  rw [hnone]
  exact .nil

/-- A report has a stale schedule without a further run. -/
def Stopping (now : Instant) (s : Store) (tenant report : Int) : Prop :=
  ∃ r ∈ s.schedules, r.isStale now = true ∧
    ∃ d, r.read? = some d ∧ d.StopsFor now tenant report

end Store

namespace Scheduler

variable {δ : Type} {sch : Scheduler δ} {now now' : Instant} {found : List Schedule}
  {w w₁ w₂ w₃ : World δ} {s t u v : Store}

/-- A store after a recovery. The rows of stale schedules were moved on, at a time of the clock, and
nothing else was changed but the marks of reports whose schedules have no further run. -/
structure Recovered (sch : Scheduler δ) (now : Instant) (s t : Store) : Prop where
  executions : t.executions = s.executions
  rows : List.Forall₂ (ScheduleRow.Recovered sch.engine.host now) s.schedules t.schedules
  reports : s.Remarks (s.Stopping now) t

/-- Moving a schedule on changes the mark of a report only if there is no further run. -/
theorem each_advance_remarks (sch : Scheduler δ) (d : Schedule) (now : Instant) :
    (sch.advance d now).Each (Storewise (Store.Remarks (d.StopsFor now))) := by
  have hsame : ∀ {s t : Store}, t.definitions = s.definitions → s.Remarks (d.StopsFor now) t := by
    intro s t heq
    unfold Store.Remarks
    rw [heq]
    exact Store.Remarks.refl s
  unfold advance
  cases hnext : d.recurrence.next now with
  | ok run =>
    refine Each.bind (World.each_onStoreNow fun at_ s => hsame ?_) fun _ => trivial
    rw [Store.reschedule_snd]
    rfl
  | error e =>
    refine Each.bind (World.each_onStoreNow fun at_ s => hsame ?_) fun answer => ?_
    · rw [Store.setScheduleActive_snd]
      rfl
    cases answer with
    | error e => trivial
    | ok _ =>
      refine World.each_onStore fun s => ?_
      refine List.forall₂_map_right_iff.mpr (List.forall₂_same.mpr fun r _ => ?_)
      split
      · next hat =>
        obtain ⟨htenant, hid⟩ := DefinitionRow.isAt_iff.mp hat
        exact .inr ⟨⟨htenant, hid, e, hnext⟩, rfl⟩
      · exact .inl rfl

section Pool

variable {ps : List (Process (World δ) Unit)}
  (hfinds : w.store.Finds (ScheduleRow.isStale now) found)
  (hruns : Interleaved (found.map fun d => sch.advance d now) w ps w₁)

include hfinds hruns

omit hfinds in
/-- The records of runs stay as they are. -/
theorem executions_of_advances :
    w₁.store.executions = w.store.executions ∧ w.issued ≤ w₁.issued := by
  refine (hruns.keeps (I := fun w' => w'.store.executions = w.store.executions ∧
    w.issued ≤ w'.issued) (fun p hp => ?_) ⟨rfl, Nat.le_refl _⟩).1
  obtain ⟨d, -, rfl⟩ := List.mem_map.mp hp
  refine (each_advance_uncounted sch d now).mono fun w' w'' huncounted hsame => ?_
  exact ⟨huncounted.executions.trans hsame.1, Nat.le_trans hsame.2 huncounted.issued⟩

/-- Only marks of reports change, and only if a schedule is stopped. -/
theorem remarks_of_advances : w.store.Remarks (w.store.Stopping now) w₁.store := by
  refine (hruns.keeps (I := fun w' => w.store.Remarks (w.store.Stopping now) w'.store)
    (fun p hp => ?_) (.refl _)).1
  obtain ⟨d, hd, rfl⟩ := List.mem_map.mp hp
  obtain ⟨r, hr, hstale, hread⟩ := hfinds.exists_row hd
  refine (each_advance_remarks sch d now).mono fun w' w'' hremarks hsofar => ?_
  exact hsofar.trans (hremarks.mono fun tenant report hstops => ⟨r, hr, hstale, d, hread, hstops⟩)

/-- At the end each row that was stale has been moved on. -/
theorem rows_of_advances (hnumbered : (w.store.schedules.map (·.id)).Nodup)
    (hended : ∀ p ∈ ps, p.Ended) :
    List.Forall₂ (ScheduleRow.Recovered sch.engine.host now) w.store.schedules
      w₁.store.schedules := by
  have hroster := hfinds.roster hnumbered
  have hturns : List.Forall₂ (Maintains (Turning sch.engine.host now (fun _ => True) found w.store)
      fun _ k => k.moved = true ∧ k.recorded = none) (found.map fun d => ⟨d, none, false⟩)
      (found.map fun d => sch.advance d now) := by
    rw [List.forall₂_map_left_iff, List.forall₂_map_right_iff, List.forall₂_same]
    intro d _
    have hmoves : Maintains (Turning sch.engine.host now (fun _ => True) found w.store)
        (fun _ k => k = ⟨d, none, true⟩) ⟨d, none, false⟩ (sch.advance d now) :=
      maintains_moveOn d hroster trivial
    refine hmoves.mono ?_
    rintro _ _ rfl
    exact ⟨rfl, rfl⟩
  obtain ⟨turns, hmaintains, hturning⟩ := hruns.maintains hturns
    (turning_start w (by simp [Function.comp_def]) (by simp) (by simp))
  refine (forall₂_mem hturning.rows).imp fun r r' hrow => ?_
  obtain ⟨hr, htaken⟩ := hrow
  constructor
  · intro hstale
    obtain ⟨d, hd, hread⟩ := hfinds.exists_schedule hr hstale
    obtain ⟨k, hk, rfl⟩ := hturning.exists_turn hd
    obtain ⟨-, hmoved, hunrecorded⟩ := Process.exists_post_of_ended hmaintains hended k
      (Multiset.mem_coe.mp hk)
    have hwritten := htaken.turn k hk (by rw [(ScheduleRow.info_of_read? hread).1])
    rw [Turn.applied, if_pos hmoved, hunrecorded] at hwritten
    exact ⟨k.schedule, hread, hwritten⟩
  · intro hfine
    refine htaken.other fun k hk hid => ?_
    obtain ⟨hstale, -⟩ := hfinds.of_id_eq hnumbered hr (hturning.schedule_mem hk) hid
    rw [hfine] at hstale
    cases hstale

end Pool

/-- **A recovery moves on what is stale**, and tells how many schedules that were. -/
theorem perform_recover (sch : Scheduler δ) (hnumbered : (w.store.schedules.map (·.id)).Nodup)
    (hread : ∀ r ∈ w.store.schedules, r.isStale now = true → r.read?.isSome = true) :
    ∃ w', World.perform (sch.recover now) w
        = (.ok (w.store.schedules.countP (ScheduleRow.isStale now)), w') ∧
      sch.Recovered now w.store w'.store ∧ w.issued ≤ w'.issued := by
  obtain ⟨found, hstale⟩ := Store.exists_staleSchedules hread
  have hfinds := Store.finds_of_staleSchedules hstale
  have hruns := interleaved_sequence [] (found.map fun d => sch.advance d now) w
  rw [List.nil_append, List.nil_append] at hruns
  obtain ⟨hexecutions, hissued⟩ := executions_of_advances hruns
  have hrows := rows_of_advances hfinds hruns hnumbered fun _ => Process.ended_of_mem_results
  refine ⟨_, ?_, ⟨hexecutions, hrows, remarks_of_advances hfinds hruns⟩, hissued⟩
  unfold World.perform recover
  rw [World.run_op_bind, World.run_orFail, World.run_ofStore, hstale]
  change (World.always _ >>= _ : Op δ Nat).run.run w = _
  rw [World.run_op_bind, World.run_always]
  dsimp only
  rw [World.run_op_pure, hfinds.length_eq]

/-- Where nothing is stale, a recovery does nothing. -/
theorem perform_recover_of_none (sch : Scheduler δ)
    (h : ∀ r ∈ w.store.schedules, r.isStale now = false) :
    World.perform (sch.recover now) w = (.ok 0, w) := by
  unfold World.perform recover
  rw [World.run_op_bind, World.run_orFail, World.run_ofStore, Store.staleSchedules_eq_nil h]
  rfl

/-! ## The sweep after a recovery -/

section AfterRecovery

variable (hinterrupted : sch.Interrupted now s t) (hrecovered : sch.Recovered now' t u)
  (horder : s.InOrder) (hsteady : sch.Steady) (hnow : now.Plain) (hyear : now.date.year ≤ 9998)
  (hnow' : now'.Plain) (hyear' : now'.date.year ≤ 9998)
  (hle : Time.rfc3339Micros now ≤ Time.rfc3339Micros now')

/-- After a recovery the ids are still the same. -/
theorem Recovered.ids_eq {sch : Scheduler δ} (h : sch.Recovered now s t) :
    t.schedules.map (·.id) = s.schedules.map (·.id) :=
  Store.ids_eq_of_forall₂ h.rows fun _ _ hrow => (ScheduleRow.key_eq_iff.mp hrow.key_eq).1

include hrecovered hnow' hyear'

/-- A row that is due after a recovery was not touched by it. -/
theorem Recovered.exists_of_isDue {r : ScheduleRow} (hr : r ∈ u.schedules)
    (hdue : r.isDue now' = true) : r ∈ t.schedules ∧ r.isStale now' = false := by
  obtain ⟨r', hr', hrow⟩ := exists_left_of_forall₂ hrecovered.rows hr
  obtain ⟨hfine, rfl⟩ := hrow.eq_of_isDue hnow' hyear' hdue
  exact ⟨hr', hfine⟩

include hinterrupted horder hsteady hnow hyear

/-- All that the next sweep has to read can be read. -/
theorem readable_of_recovered : Readable now' u := by
  intro r hr hdue
  obtain ⟨hmem, -⟩ := hrecovered.exists_of_isDue hnow' hyear' hr hdue
  have hactive := (ScheduleRow.isDue_iff.mp hdue).1
  refine ⟨hinterrupted.readable horder hsteady hnow hyear r hmem hactive, ?_⟩
  obtain ⟨r₀, hr₀, hwasActive, hcut⟩ := hinterrupted.exists_active hmem hactive
  obtain ⟨answer, hanswer⟩ := horder.reports r₀ hr₀ hwasActive
  obtain ⟨-, htenant, hreport⟩ := ScheduleRow.key_eq_iff.mp hcut.key_eq
  rw [htenant, hreport]
  obtain ⟨hnone, hsome⟩ := (hinterrupted.reports.trans hrecovered.reports.onward).getDefinition
    hsteady.clock r₀.tenant r₀.report
  cases answer with
  | none => exact ⟨none, hnone hanswer⟩
  | some d =>
    obtain ⟨d', hd', -⟩ := hsome d hanswer
    exact ⟨some d', hd'⟩

include hle

omit hsteady in
/-- What was left half done is not run again. -/
theorem runsOf_halfDone {news : List ExecutionRow} (hswept : sch.Swept now' u v news) {id : Int}
    (hhalf : s.HalfDone now t id) : runsOf id news = [] := by
  unfold runsOf
  rw [List.filter_eq_nil_iff]
  intro x hx hschedule
  obtain ⟨r, hr, hdue, hof⟩ := hswept.started x hx
  rw [decide_eq_true_eq, hof, Option.some.injEq] at hschedule
  -- what is due was not stale, and so it was not left half done
  obtain ⟨hmem, hfine⟩ := hrecovered.exists_of_isDue hnow' hyear' hr hdue
  rw [← hschedule, ← hinterrupted.isStale_iff_halfDone horder hnow hyear hle hmem, hfine] at hhalf
  cases hhalf

omit hnow' hyear' in
/-- What was due and not recorded is run once. -/
theorem runsOf_unrecorded {news : List ExecutionRow} (hswept : sch.Swept now' u v news)
    {r r' : ScheduleRow} (hr : r ∈ s.schedules) (hr' : r' ∈ t.schedules) (hid : r'.id = r.id)
    (hdue : r.isDue now' = true) (hsame : r'.lastRunAt = r.lastRunAt) {d : Definition}
    (hreport : s.getDefinition r.tenant r.report = .ok (some d)) :
    ∃ x, runsOf r.id news = [x] ∧ x.status.isTerminal = true := by
  have hcut := hinterrupted.cut_of_id_eq horder hr hr' hid
  have hdue' := hcut.isDue_of_unrecorded (horder.later r hr) hdue hsame hreport
  -- the recovery has left the row alone
  have hfine : r'.isStale now' = false := by
    rw [Bool.eq_false_iff]
    intro hstale
    have hhalf := (hcut.isStale_iff hnow hyear (horder.later r hr) hle).mp hstale
    exact hhalf.unrecorded (hsame.symm.trans hhalf.recorded)
  obtain ⟨r₂, hr₂, hrow⟩ := exists_right_of_forall₂ hrecovered.rows hr'
  obtain rfl := hrow.other hfine
  obtain ⟨r₃, -, hrowSwept⟩ := exists_right_of_forall₂ hswept.due hr₂
  have hactive := (ScheduleRow.isDue_iff.mp hdue').1
  obtain ⟨a, hread⟩ := Option.isSome_iff_exists.mp
    (hinterrupted.readable horder hsteady hnow hyear _ hr' hactive)
  obtain ⟨d', hd', -⟩ := ((hinterrupted.reports.trans hrecovered.reports.onward).getDefinition
    hsteady.clock r.tenant r.report).2 d hreport
  obtain ⟨-, htenant, hreport'⟩ := ScheduleRow.key_eq_iff.mp hcut.key_eq
  rw [← htenant, ← hreport'] at hd'
  obtain ⟨x, hruns, -, hterminal, -⟩ := (hrowSwept hdue').ran a d' hread hd'
  rw [hid] at hruns
  exact ⟨x, hruns, hterminal⟩

end AfterRecovery

/-- A store after a recovery and the sweep that followed it, where an earlier sweep at `now` had
been cut short. -/
structure Completed (now now' : Instant) (s t v : Store) (news : List ExecutionRow) : Prop where
  records : v.executions = t.executions ++ news
  halfDone : ∀ id, s.HalfDone now t id → runsOf id news = []
  unrecorded : ∀ r ∈ s.schedules, ∀ r' ∈ t.schedules, r'.id = r.id → r.isDue now' = true →
    r'.lastRunAt = r.lastRunAt → ∀ d, s.getDefinition r.tenant r.report = .ok (some d) →
      ∃ x, runsOf r.id news = [x] ∧ x.status.isTerminal = true
  later : ∀ r ∈ v.schedules, r.active = true → Time.rfc3339Micros now' < r.nextRunAt

/-- **A recovery completes a sweep that was cut short**, wherever that was. What is stale then are
the schedules that were left half done. The recovery moves these on and changes nothing else, so a
second one finds none. The sweep after it does not run them again; it runs once whatever is due and
was not recorded, if its report is there. Then all next runs are later than the time of the sweep,
and a recovery still finds none. -/
theorem recovery_completes {sch : Scheduler δ} (hsteady : sch.Steady) (hnow : now.Plain)
    (hyear : now.date.year ≤ 9998) (hnow' : now'.Plain) (hyear' : now'.date.year ≤ 9998)
    (hle : now ≤ now') (horder : w.store.InOrder)
    (hfresh : ∀ row ∈ w.store.executions, ¬ sch.engine.host.coming w.issued row.id)
    (hcut : sch.CutShort now w w₁) :
    (∀ r ∈ w₁.store.schedules,
      r.isStale now' = true ↔ w.store.HalfDone now w₁.store r.id) ∧
    ∃ w₂, World.perform (sch.recover now') w₁
        = (.ok (w₁.store.schedules.countP (ScheduleRow.isStale now')), w₂) ∧
      sch.Recovered now' w₁.store w₂.store ∧
      World.perform (sch.recover now') w₂ = (.ok 0, w₂) ∧
      ∀ answer w₃, sch.SweepsTo now' w₂ answer w₃ →
        ∃ (summary : SweepSummary) (news : List ExecutionRow), answer = .ok summary ∧
          Completed now now' w.store w₁.store w₃.store news ∧
          World.perform (sch.recover now') w₃ = (.ok 0, w₃) := by
  have htext := Time.rfc3339Micros_le hnow hnow' hle
  obtain ⟨hinterrupted, hfresh₁⟩ := hcut.interrupted hsteady hfresh horder
  have hnumbered := hinterrupted.numbered horder
  obtain ⟨w₂, hperform, hrecovered, hissued⟩ := sch.perform_recover hnumbered fun r hr hstale =>
    hinterrupted.readable horder hsteady hnow hyear r hr (ScheduleRow.isStale_iff.mp hstale).1
  refine ⟨fun r hr => hinterrupted.isStale_iff_halfDone horder hnow hyear htext hr,
    w₂, hperform, hrecovered, ?_, fun answer w₃ hsweep => ?_⟩
  · refine sch.perform_recover_of_none fun r hr => ?_
    obtain ⟨r₁, -, hrow⟩ := exists_left_of_forall₂ hrecovered.rows hr
    exact hrow.isStale_eq_false hnow' hyear'
  -- the next sweep starts from a store that can be read, and from ids that are still fresh
  have hreadable := readable_of_recovered hinterrupted hrecovered horder hsteady hnow hyear hnow'
    hyear'
  obtain ⟨summary, news, hanswer, hswept, -, -⟩ := hsweep.swept_of_readable hsteady
    (by rwa [hrecovered.ids_eq])
    (fun row hrow hcoming => by
      rw [hrecovered.executions] at hrow
      exact hfresh₁ row hrow (Host.coming_mono hissued hcoming))
    hreadable
  have hlater := hswept.lt_nextRunAt hreadable hnow' hyear'
  refine ⟨summary, news, hanswer, ⟨?_, ?_, ?_, hlater⟩, ?_⟩
  · rw [hswept.records, hrecovered.executions]
  · intro id hhalf
    exact runsOf_halfDone hinterrupted hrecovered horder hnow hyear hnow' hyear' htext hswept hhalf
  · intro r hr r' hr' hid hdue hsame d hreport
    exact runsOf_unrecorded hinterrupted hrecovered horder hsteady hnow hyear htext hswept hr hr'
      hid hdue hsame hreport
  · exact sch.perform_recover_of_none fun r hr => ScheduleRow.isStale_eq_false_of_lt (hlater r hr)

/-! ### The shop's recovery -/

theorem isDue_office : ∀ r ∈ office.store.schedules, r.isDue firstMorning = true := by
  intro r hr
  rw [List.mem_singleton.mp hr]
  exact ScheduleRow.isDue_iff.mpr ⟨rfl, String.le_refl _⟩

theorem inOrder_office : office.store.InOrder where
  numbered := by decide
  readable r hr _ := (readable_office firstMorning r hr (isDue_office r hr)).1
  reports r hr _ := (readable_office firstMorning r hr (isDue_office r hr)).2
  later r hr _ last hlast := by
    rw [List.mem_singleton.mp hr] at hlast
    cases hlast

/-- The shop's sweep is cut short after the first run was recorded, and recovered at once. -/
theorem recovery_completes_office :
    shopScheduler.Steady ∧ firstMorning.Plain ∧ firstMorning.date.year ≤ 9998 ∧
      firstMorning ≤ firstMorning ∧ office.store.InOrder ∧
      (∀ row ∈ office.store.executions, ¬ quietHost.coming office.issued row.id) ∧
      ∃ w₁ : World Unit, shopScheduler.CutShort firstMorning office w₁ ∧
        office.store.HalfDone firstMorning w₁.store 1 ∧
        ∃ (count : Nat) (w₂ : World Unit),
          World.perform (shopScheduler.recover firstMorning) w₁ = (.ok count, w₂) ∧ 0 < count ∧
          ∃ news, Completed firstMorning firstMorning office.store w₁.store
            (World.perform (shopScheduler.sweep firstMorning) w₂).2.store news ∧
            runsOf 1 news = [] := by
  have hyear : firstMorning.date.year ≤ 9998 := by decide
  have hle : firstMorning ≤ firstMorning := by decide
  have hfresh : ∀ row ∈ office.store.executions, ¬ quietHost.coming office.issued row.id :=
    fun row hrow => absurd hrow List.not_mem_nil
  refine ⟨steady_shopScheduler, firstMorning_plain, hyear, hle, inOrder_office, hfresh, ?_⟩
  have hrow : ScheduleRow.ofSchedule everyMorning ∈ office.store.schedules := List.mem_cons_self
  obtain ⟨w₁, hcut, hhalf⟩ := exists_halfDone steady_shopScheduler.channel inOrder_office hrow
    (isDue_office _ hrow) getDefinition_office
  obtain ⟨hstale, w₂, hperform, -, -, hsweep⟩ := recovery_completes steady_shopScheduler
    firstMorning_plain hyear firstMorning_plain hyear hle inOrder_office hfresh hcut
  obtain ⟨-, news, -, hcompleted, -⟩ := hsweep _ _ (sweepsTo_sweep shopScheduler firstMorning w₂)
  refine ⟨w₁, hcut, hhalf, _, w₂, hperform, List.countP_pos_iff.mpr ?_, news, hcompleted,
    hcompleted.halfDone 1 hhalf⟩
  obtain ⟨r, hr, r₁, hr₁, hid, hid₁, hrow₁⟩ := hhalf
  exact ⟨r₁, hr₁, (hstale r₁ hr₁).mpr ⟨r, hr, r₁, hr₁, hid.trans hid₁.symm, rfl, hrow₁⟩⟩

end Scheduler

end TenantReports
