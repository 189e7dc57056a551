import TenantReports.Proofs.Scheduling.Sweeps

/-!
# Sweeps that are cut short

A turn records its run first and moves the row on afterwards. If a sweep is cut short between the
two, the row holds a last run that is not before its next one. No other row does: a row that has
not been touched has a next run after its last one, and a row that was moved on has a next run after
the time of the sweep. So the rows that were left half done can be told from all others.

## Main definitions

* `ScheduleRow.isStale`: what a recovery looks for
* `Store.HalfDone`: a run was recorded, and the row was not moved on
* `Store.InOrder`: schedules that can be read, with next runs after their last ones
* `ScheduleRow.Cut`: what a cut can leave of a row
* `Scheduler.CutShort`: a sweep that was cut short

## Main results

* `Scheduler.CutShort.interrupted`: how a cut leaves the rows
* `Scheduler.Interrupted.isStale_iff_halfDone`: what is stale is what was left half done
* `ScheduleRow.Cut.isDue_of_unrecorded`: what was due and not recorded still is due
-/

namespace TenantReports

open Process (Interleaved)
open Time (Instant)

/-! ## Rows -/

namespace ScheduleRow

variable {δ : Type} {host : Host δ} {now : Instant} {r r' : ScheduleRow}

/-- An active schedule that ran but was not given a next run after that. -/
def isStale (now : Instant) (r : ScheduleRow) : Bool :=
  r.active && r.lastRunAt.any (fun last => decide (r.nextRunAt ≤ last))
    && decide (r.nextRunAt ≤ Time.rfc3339Micros now)

theorem isStale_iff : r.isStale now = true ↔ r.active = true ∧
    (∃ last ∈ r.lastRunAt, r.nextRunAt ≤ last) ∧ r.nextRunAt ≤ Time.rfc3339Micros now := by
  simp only [isStale, Bool.and_eq_true, Option.any_eq_true, decide_eq_true_eq, and_assoc,
    Option.mem_def]

/-- A sweep at `now` has recorded a run in the row, and has not moved the row on. -/
structure HalfDone (now : Instant) (r r' : ScheduleRow) : Prop where
  active : r'.active = true
  recorded : r'.lastRunAt = some (Time.rfc3339Micros now)
  unrecorded : r.lastRunAt ≠ some (Time.rfc3339Micros now)
  unmoved : r'.nextRunAt = r.nextRunAt

/-- A row that is due does not hold a run at the time of the sweep yet. -/
theorem lastRunAt_ne_of_isDue (hdue : r.isDue now = true)
    (hlater : r.active = true → ∀ last ∈ r.lastRunAt, last < r.nextRunAt) :
    r.lastRunAt ≠ some (Time.rfc3339Micros now) := by
  intro hsame
  obtain ⟨hactive, hle⟩ := isDue_iff.mp hdue
  exact absurd hle (String.not_le.mpr (hlater hactive _ hsame))

theorem lastRunAt_movedOn (next : Except RecurrenceError Instant) (r : ScheduleRow) :
    (r.movedOn next).lastRunAt = r.lastRunAt := by
  unfold movedOn
  cases next <;> rfl

/-- After the turn of a row that was due, its last run is not after the time of the sweep. -/
theorem lastRunAt_recording_le (hdue : r.isDue now = true)
    (hlater : r.active = true → ∀ last ∈ r.lastRunAt, last < r.nextRunAt)
    (execution : Option String) :
    ∀ last ∈ (r.recording now execution).lastRunAt, last ≤ Time.rfc3339Micros now := by
  intro last hlast
  cases execution with
  | none =>
    obtain ⟨hactive, hle⟩ := isDue_iff.mp hdue
    exact String.le_trans (Std.le_of_lt (hlater hactive last hlast)) hle
  | some x =>
    obtain rfl : Time.rfc3339Micros now = last := Option.some.inj hlast
    exact String.le_refl _

section Readable

variable (h : r.read?.isSome = true)

include h

theorem isSome_read?_recording (hnow : now.Plain) (execution : Option String) :
    (r.recording now execution).read?.isSome = true := by
  cases execution with
  | none => exact h
  | some x =>
    obtain ⟨h₁, h₂, h₃, h₄, -, h₆, h₇⟩ := isSome_read?_iff.mp h
    refine isSome_read?_iff.mpr ⟨h₁, h₂, h₃, h₄, ?_, h₆, h₇⟩
    obtain ⟨t, ht⟩ := Option.isSome_iff_exists.mp (Time.isSome_parseRfc3339? hnow)
    dsimp only [recording]
    rw [readOptional?, ht]
    rfl

theorem isSome_read?_movedOn {recurrence : Recurrence} (hnow : now.Plain)
    (hyear : now.date.year ≤ 9998) : (r.movedOn (recurrence.next now)).read?.isSome = true := by
  obtain ⟨h₁, h₂, h₃, h₄, h₅, h₆, h₇⟩ := isSome_read?_iff.mp h
  unfold movedOn
  cases hnext : recurrence.next now with
  | ok run =>
    have hrun := (Recurrence.text_lt_of_next hnow hyear hnext).1
    exact isSome_read?_iff.mpr ⟨h₁, h₂, h₃, Time.isSome_parseRfc3339? hrun, h₅, h₆, h₇⟩
  | error e => exact isSome_read?_iff.mpr ⟨h₁, h₂, h₃, h₄, h₅, h₆, h₇⟩

theorem Rewritten.isSome_read?
    (hclock : ∀ n, (Time.parseRfc3339? (Time.rfc3339Micros (host.clock n))).isSome = true)
    (hwritten : r.Rewritten host r') : r'.read?.isSome = true := by
  rcases hwritten with rfl | ⟨n, rfl⟩
  · exact h
  · obtain ⟨h₁, h₂, h₃, h₄, h₅, h₆, -⟩ := isSome_read?_iff.mp h
    exact isSome_read?_iff.mpr ⟨h₁, h₂, h₃, h₄, h₅, h₆, hclock n⟩

end Readable

/-- What a sweep and a recovery ask of a row does not depend on when it was written. -/
theorem Rewritten.marks (h : r.Rewritten host r') :
    r'.active = r.active ∧ r'.lastRunAt = r.lastRunAt ∧ r'.nextRunAt = r.nextRunAt := by
  rcases h with rfl | ⟨n, rfl⟩ <;> exact ⟨rfl, rfl, rfl⟩

end ScheduleRow

/-- A sweep at `now` that began with one store has left a schedule half done in another one. -/
def Store.HalfDone (now : Instant) (s t : Store) (id : Int) : Prop :=
  ∃ r ∈ s.schedules, ∃ r' ∈ t.schedules, r.id = id ∧ r'.id = id ∧ r.HalfDone now r'

/-- All active schedules and their reports can be read, and their next runs are after their last
ones. -/
structure Store.InOrder (s : Store) : Prop where
  numbered : (s.schedules.map (·.id)).Nodup
  readable : ∀ r ∈ s.schedules, r.active = true → r.read?.isSome = true
  reports : ∀ r ∈ s.schedules, r.active = true →
    ∃ answer, s.getDefinition r.tenant r.report = .ok answer
  later : ∀ r ∈ s.schedules, r.active = true → ∀ last ∈ r.lastRunAt, last < r.nextRunAt

/-! ## The cut -/

/-- How a cut leaves the row of a schedule: as it was, with its run recorded, or moved on. A row is
moved on after its run was recorded, or if there is no report to run. -/
inductive ScheduleRow.Cut {δ : Type} (host : Host δ) (now : Instant) (s : Store)
    (r r' : ScheduleRow) : Prop
  | untouched (h : r.Rewritten host r')
  | recorded (x : String) (hdue : r.isDue now = true)
      (h : (r.recording now (some x)).Rewritten host r')
  | moved (execution : Option String) (recurrence : Recurrence) (hdue : r.isDue now = true)
      (hgone : execution = none → s.getDefinition r.tenant r.report = .ok none)
      (h : ((r.recording now execution).movedOn (recurrence.next now)).Rewritten host r')

namespace ScheduleRow.Cut

variable {δ : Type} {host : Host δ} {now now' : Instant} {s : Store} {r r' : ScheduleRow}
  (hcut : r.Cut host now s r')

include hcut

theorem key_eq : r'.key = r.key := by
  cases hcut with
  | untouched h => exact h.key_eq
  | recorded x _ h => rw [h.key_eq, key_recording]
  | moved execution recurrence _ _ h => rw [h.key_eq, key_movedOn, key_recording]

/-- No schedule is made active. -/
theorem active (hactive : r'.active = true) : r.active = true := by
  cases hcut with
  | untouched h => rwa [← h.marks.1]
  | recorded x hdue _ => exact (isDue_iff.mp hdue).1
  | moved execution recurrence hdue _ _ => exact (isDue_iff.mp hdue).1

variable (hnow : now.Plain) (hyear : now.date.year ≤ 9998)

include hnow hyear

/-- A row that could be read still can. -/
theorem isSome_read?
    (hclock : ∀ n, (Time.parseRfc3339? (Time.rfc3339Micros (host.clock n))).isSome = true)
    (hread : r.read?.isSome = true) : r'.read?.isSome = true := by
  cases hcut with
  | untouched h => exact h.isSome_read? hread hclock
  | recorded x _ h => exact h.isSome_read? (isSome_read?_recording hread hnow _) hclock
  | moved execution recurrence _ _ h =>
    exact h.isSome_read? (isSome_read?_movedOn (isSome_read?_recording hread hnow _) hnow hyear)
      hclock

variable (hlater : r.active = true → ∀ last ∈ r.lastRunAt, last < r.nextRunAt)

include hlater

/-- **What is stale is what was left half done.** -/
theorem isStale_iff (hle : Time.rfc3339Micros now ≤ Time.rfc3339Micros now') :
    r'.isStale now' = true ↔ r.HalfDone now r' := by
  rw [ScheduleRow.isStale_iff]
  cases hcut with
  | untouched h =>
    -- the next run is after the last one, as it was
    obtain ⟨hactive, hlast, hnext⟩ := h.marks
    rw [hactive, hlast, hnext]
    constructor
    · rintro ⟨hactive', ⟨last, hmem, hle⟩, -⟩
      exact absurd hle (String.not_le.mpr (hlater hactive' last hmem))
    · intro hhalf
      exact absurd (hlast.symm.trans hhalf.recorded) hhalf.unrecorded
  | recorded x hdue h =>
    -- the last run is the time of the sweep, and the next one was due then
    obtain ⟨hactive, hlast, hnext⟩ := h.marks
    obtain ⟨hwasActive, hwasDue⟩ := isDue_iff.mp hdue
    constructor
    · intro _
      exact ⟨hactive.trans hwasActive, hlast, lastRunAt_ne_of_isDue hdue hlater, hnext⟩
    · intro _
      rw [hactive, hlast, hnext]
      exact ⟨hwasActive, ⟨_, rfl, hwasDue⟩, String.le_trans hwasDue hle⟩
  | moved execution recurrence hdue _ h =>
    -- the next run is after the time of the sweep, or the schedule was stopped
    obtain ⟨hwasActive, hwasDue⟩ := isDue_iff.mp hdue
    have hmoved := fun hactive => Scheduler.lt_nextRunAt_of_movedOn hnow hyear h hactive
    have hlast : ∀ last ∈ r'.lastRunAt, last ≤ Time.rfc3339Micros now := by
      rw [h.marks.2.1, lastRunAt_movedOn]
      exact lastRunAt_recording_le hdue hlater execution
    constructor
    · rintro ⟨hactive, ⟨last, hmem, hle⟩, -⟩
      have hlt := Std.lt_of_le_of_lt (hlast last hmem) (hmoved hactive)
      exact absurd hle (String.not_le.mpr hlt)
    · intro hhalf
      have hlt := hmoved hhalf.active
      rw [hhalf.unmoved] at hlt
      exact absurd hwasDue (String.not_le.mpr hlt)

omit hnow hyear in
/-- **A schedule that is due and has not been run is left as it was.** -/
theorem isDue_of_unrecorded (hdue : r.isDue now' = true) (hsame : r'.lastRunAt = r.lastRunAt)
    {d : Definition} (hreport : s.getDefinition r.tenant r.report = .ok (some d)) :
    r'.isDue now' = true := by
  cases hcut with
  | untouched h =>
    obtain ⟨hactive, -, hnext⟩ := h.marks
    rw [isDue_iff, hactive, hnext]
    exact isDue_iff.mp hdue
  | recorded x hwasDue h =>
    rw [h.marks.2.1] at hsame
    exact absurd hsame.symm (lastRunAt_ne_of_isDue hwasDue hlater)
  | moved execution recurrence hwasDue hgone h =>
    cases execution with
    | none =>
      rw [hgone rfl] at hreport
      cases hreport
    | some x =>
      rw [h.marks.2.1, lastRunAt_movedOn] at hsame
      exact absurd hsame.symm (lastRunAt_ne_of_isDue hwasDue hlater)

end ScheduleRow.Cut

/-! ## The cut of a sweep -/

namespace Store

variable {s t : Store}

/-- Rows that are compared one by one are also found by their ids. -/
theorem rel_of_forall₂_of_id_eq {R : ScheduleRow → ScheduleRow → Prop}
    (h : List.Forall₂ R s.schedules t.schedules) (hid : ∀ r r', R r r' → r'.id = r.id)
    (hnumbered : (s.schedules.map (·.id)).Nodup) {r r' : ScheduleRow} (hr : r ∈ s.schedules)
    (hr' : r' ∈ t.schedules) (hsame : r'.id = r.id) : R r r' := by
  obtain ⟨r₂, hr₂, hrel⟩ := exists_left_of_forall₂ h hr'
  obtain rfl := List.inj_on_of_nodup_map hnumbered hr hr₂ (hsame.symm.trans (hid _ _ hrel))
  exact hrel

theorem ids_eq_of_forall₂ {R : ScheduleRow → ScheduleRow → Prop}
    (h : List.Forall₂ R s.schedules t.schedules) (hid : ∀ r r', R r r' → r'.id = r.id) :
    t.schedules.map (·.id) = s.schedules.map (·.id) := by
  rw [eq_comm, ← List.forall₂_eq_eq_eq, List.forall₂_map_left_iff, List.forall₂_map_right_iff]
  exact h.imp fun r r' hrel => (hid r r' hrel).symm

end Store

namespace Scheduler

variable {δ : Type} {sch : Scheduler δ} {now now' : Instant} {found : List Schedule}
  {w w₁ w₂ w₃ : World δ} {s t u : Store}

/-- A sweep that was cut short: its turns have taken some of their steps, in any order. -/
def CutShort (sch : Scheduler δ) (now : Instant) (w w' : World δ) : Prop :=
  ∃ found ps, w.store.dueSchedules now = .ok found ∧
    Interleaved (found.map (sch.runSchedule now)) w ps w'

/-- A store that a sweep was cut short in. -/
structure Interrupted (sch : Scheduler δ) (now : Instant) (s t : Store) : Prop where
  rows : List.Forall₂ (ScheduleRow.Cut sch.engine.host now s) s.schedules t.schedules
  reports : s.Onward sch.engine.host t

/-- What the turn of a row has made of it, wherever it stands. -/
theorem Turning.cut {turns : Multiset Turn} {host : Host δ}
    (h : Turning host now (InTurn w.store) found w.store turns w₁)
    (hnumbered : (w.store.schedules.map (·.id)).Nodup) (hdue : w.store.dueSchedules now = .ok found)
    {r r' : ScheduleRow} (hr : r ∈ w.store.schedules) (htaken : r.Taken host now turns r') :
    r.Cut host now w.store r' := by
  by_cases hturn : ∃ k ∈ turns, k.schedule.id = r.id
  · obtain ⟨k, hk, hid⟩ := hturn
    have hs := h.schedule_mem hk
    obtain ⟨hrdue, hread⟩ := (Store.finds_of_dueSchedules hdue).of_id_eq hnumbered hr hs hid
    have hwritten := htaken.turn k hk hid
    unfold Turn.applied at hwritten
    -- the note says whether the row was moved on, and if not, whether its run was recorded
    cases hmoved : k.moved with
    | true =>
      rw [if_pos hmoved] at hwritten
      refine .moved k.recorded _ hrdue (fun hnone => ?_) hwritten
      have hgone := h.allowed k hk hmoved hnone
      rwa [(ScheduleRow.info_of_read? hread).1] at hgone
    | false =>
      rw [if_neg (Bool.eq_false_iff.mp hmoved)] at hwritten
      cases hrecorded : k.recorded with
      | none =>
        rw [hrecorded] at hwritten
        exact .untouched hwritten
      | some x =>
        rw [hrecorded] at hwritten
        exact .recorded x hrdue hwritten
  · -- a schedule that was not due has no turn
    exact .untouched (.inl (htaken.other fun k hk hid => hturn ⟨k, hk, hid⟩))

/-- **Wherever a sweep is cut short**, each row is as the turn of its schedule has left it, and no
id is given twice afterwards. -/
theorem CutShort.interrupted (hcut : sch.CutShort now w w₁) (hsteady : sch.Steady)
    (hfresh : ∀ row ∈ w.store.executions, ¬ sch.engine.host.coming w.issued row.id)
    (horder : w.store.InOrder) :
    sch.Interrupted now w.store w₁.store ∧
      ∀ row ∈ w₁.store.executions, ¬ sch.engine.host.coming w₁.issued row.id := by
  obtain ⟨found, ps, hdue, hruns⟩ := hcut
  have hreports : ∀ s ∈ found, ∃ answer, w.store.getDefinition s.tenant s.report = .ok answer := by
    intro s hs
    obtain ⟨r, hr, hrdue, hread⟩ := (Store.finds_of_dueSchedules hdue).exists_row hs
    rw [(ScheduleRow.info_of_read? hread).1]
    exact horder.reports r hr (ScheduleRow.isDue_iff.mp hrdue).1
  obtain ⟨notes, -, hbooks, hturning⟩ := exists_notes hsteady horder.numbered hfresh hdue hreports
    hruns
  refine ⟨⟨?_, hturning.reports⟩, hbooks.fresh⟩
  refine (forall₂_mem hturning.rows).imp fun r r' hrow => ?_
  obtain ⟨hr, htaken⟩ := hrow
  exact hturning.cut horder.numbered hdue hr htaken

namespace Interrupted

variable (h : sch.Interrupted now s t)

include h

theorem ids_eq : t.schedules.map (·.id) = s.schedules.map (·.id) :=
  Store.ids_eq_of_forall₂ h.rows fun _ _ hcut => (ScheduleRow.key_eq_iff.mp hcut.key_eq).1

variable (horder : s.InOrder)

include horder

theorem numbered : (t.schedules.map (·.id)).Nodup := by
  rw [h.ids_eq]
  exact horder.numbered

theorem cut_of_id_eq {r r' : ScheduleRow} (hr : r ∈ s.schedules) (hr' : r' ∈ t.schedules)
    (hid : r'.id = r.id) : r.Cut sch.engine.host now s r' :=
  Store.rel_of_forall₂_of_id_eq h.rows (fun _ _ hcut => (ScheduleRow.key_eq_iff.mp hcut.key_eq).1)
    horder.numbered hr hr' hid

omit horder in
/-- The row that an active row was made of. -/
theorem exists_active {r' : ScheduleRow} (hr' : r' ∈ t.schedules) (hactive : r'.active = true) :
    ∃ r ∈ s.schedules, r.active = true ∧ r.Cut sch.engine.host now s r' := by
  obtain ⟨r, hr, hcut⟩ := exists_left_of_forall₂ h.rows hr'
  exact ⟨r, hr, hcut.active hactive, hcut⟩

/-- All that could be read can still be read. -/
theorem readable (hsteady : sch.Steady) (hnow : now.Plain) (hyear : now.date.year ≤ 9998) :
    ∀ r' ∈ t.schedules, r'.active = true → r'.read?.isSome = true := by
  intro r' hr' hactive
  obtain ⟨r, hr, hwasActive, hcut⟩ := h.exists_active hr' hactive
  exact hcut.isSome_read? hnow hyear hsteady.clock (horder.readable r hr hwasActive)

/-- **What is stale is what was left half done.** -/
theorem isStale_iff_halfDone (hnow : now.Plain) (hyear : now.date.year ≤ 9998)
    (hle : Time.rfc3339Micros now ≤ Time.rfc3339Micros now') {r' : ScheduleRow}
    (hr' : r' ∈ t.schedules) : r'.isStale now' = true ↔ s.HalfDone now t r'.id := by
  constructor
  · intro hstale
    obtain ⟨r, hr, hcut⟩ := exists_left_of_forall₂ h.rows hr'
    refine ⟨r, hr, r', hr', (ScheduleRow.key_eq_iff.mp hcut.key_eq).1.symm, rfl, ?_⟩
    exact (hcut.isStale_iff hnow hyear (horder.later r hr) hle).mp hstale
  · rintro ⟨r, hr, r'', hr'', hid, hid', hhalf⟩
    obtain rfl := List.inj_on_of_nodup_map (h.numbered horder) hr'' hr' hid'
    have hcut := h.cut_of_id_eq horder hr hr' hid.symm
    exact (hcut.isStale_iff hnow hyear (horder.later r hr) hle).mpr hhalf

end Interrupted

/-! ### Between the two writes -/

/-- The world after a run was delivered and recorded, before its schedule is moved on. -/
def halfway (sch : Scheduler δ) (now : Instant) (d : Schedule) (report : Definition)
    (w : World δ) : World δ :=
  let delivered := (sch.runAndDeliver d report).run w
  ((World.onStoreNow sch.engine.host fun at_ store =>
    store.markScheduleRun d.id (some delivered.1.1) now at_).run delivered.2).2

/-- A turn may get there while all others wait. -/
theorem interleaved_halfway (sch : Scheduler δ) (now : Instant) {d : Schedule} {report : Definition}
    (hreport : w.store.getDefinition d.tenant d.report = .ok (some report))
    (before after : List (Process (World δ) Bool)) :
    ∃ p, Interleaved (before ++ sch.runSchedule now d :: after) w (before ++ p :: after)
      (sch.halfway now d report w) := by
  refine ⟨do sch.advance d now; return ((sch.runAndDeliver d report).run w).1.2, ?_⟩
  unfold runSchedule
  refine (Process.interleaved_bind before after _ _ w).trans ?_
  rw [World.run_ofStore, hreport]
  exact (Process.interleaved_bind before after (sch.runAndDeliver d report) _ w).trans
    (Process.interleaved_bind before after _ _ _)

/-- The run has left the row of the schedule alone, and the record has changed its last run only. -/
theorem exists_row_halfway (hchannel : sch.channel.Quiet) (now : Instant) (d : Schedule)
    (report : Definition) {r : ScheduleRow} (hr : r ∈ w.store.schedules) (hid : r.id = d.id) :
    ∃ r' ∈ (sch.halfway now d report w).store.schedules, r'.id = r.id ∧ r'.active = r.active ∧
      r'.nextRunAt = r.nextRunAt ∧ r'.lastRunAt = some (Time.rfc3339Micros now) := by
  have hbeside := (each_runAndDeliver_beside hchannel d report).run (fun _ => ⟨rfl, .refl _⟩)
    (fun h h' => ⟨h'.schedules.trans h.schedules, h.reports.trans h'.reports⟩) w
  unfold halfway
  dsimp only
  rw [World.run_onStoreNow, Store.markScheduleRun_snd, Store.mapSchedules]
  dsimp only
  rw [hbeside.schedules]
  refine ⟨_, List.mem_map_of_mem hr, ?_⟩
  rw [if_pos (beq_iff_eq.mpr hid)]
  exact ⟨rfl, rfl, rfl, rfl⟩

/-- **Any schedule that is due can be left half done**, if its report is there. -/
theorem exists_halfDone (hchannel : sch.channel.Quiet) (horder : w.store.InOrder)
    {r : ScheduleRow} (hr : r ∈ w.store.schedules) (hdue : r.isDue now = true) {report : Definition}
    (hreport : w.store.getDefinition r.tenant r.report = .ok (some report)) :
    ∃ w₁, sch.CutShort now w w₁ ∧ w.store.HalfDone now w₁.store r.id := by
  obtain ⟨found, hfound⟩ := Store.exists_dueSchedules fun r hr hdue =>
    horder.readable r hr (ScheduleRow.isDue_iff.mp hdue).1
  obtain ⟨d, hd, hread⟩ := (Store.finds_of_dueSchedules hfound).exists_schedule hr hdue
  obtain ⟨before, after, rfl⟩ := List.append_of_mem hd
  have hinfo := (ScheduleRow.info_of_read? hread).1
  have hreport' : w.store.getDefinition d.tenant d.report = .ok (some report) := by rwa [hinfo]
  obtain ⟨p, hruns⟩ := interleaved_halfway sch now hreport'
    (before.map (sch.runSchedule now)) (after.map (sch.runSchedule now))
  rw [← List.map_cons, ← List.map_append] at hruns
  obtain ⟨r', hr', hid, hactive, hnext, hlast⟩ := exists_row_halfway hchannel now d report hr
    (by rw [hinfo])
  refine ⟨_, ⟨_, _, hfound, hruns⟩, r, hr, r', hr', rfl, hid, ?_, hlast, ?_, hnext⟩
  · exact hactive.trans (ScheduleRow.isDue_iff.mp hdue).1
  · exact ScheduleRow.lastRunAt_ne_of_isDue hdue (horder.later r hr)

end Scheduler

end TenantReports
