import TenantReports.Proofs.Recurrence.RoundTrip
import TenantReports.Proofs.Scheduling.Coherence

/-!
# Sweeps beside updates

A sweep reads the schedules that are due, runs their reports, and moves each on to the next run of
the recurrence that it read. An update that lands in between replaces the recurrence and finds a
next run of its own, which the sweep then overwrites. So next runs belong to the recurrences of
their rows, but for schedules that were due and whose recurrence was replaced while they ran.

## Main definitions

* `ScheduleRow.Timely`: the next run of a row is one of its own recurrence
* `ScheduleRow.Overtaken`: it is one of a recurrence that a sweep read and an update replaced
* `Store.Punctual`: active schedules are one or the other
* `ScheduleRow.terms`: what a sweep leaves alone

## Main results

* `Scheduler.each_update`, `Scheduler.each_runSchedule`: every step keeps a store punctual
* `Scheduler.run_runSchedule`: a run ends with the next run of the recurrence that was read
* `Scheduler.timely_or_overtaken`: a sweep beside updates, in any order of the steps
* `clock_nextDaily`: a daily recurrence fires at its time of day
* `Scheduler.exists_untimely`: an update that is overtaken
-/

namespace TenantReports

open Process (Interleaved Keeps)
open Time (Clock Date Instant)
open World (Storewise)

/-- The next run of a row is one of the recurrence of the row. -/
def ScheduleRow.Timely (r : ScheduleRow) : Prop :=
  ∃ recurrence start run, r.recurrence? = some recurrence ∧ recurrence.next start = .ok run ∧
    r.nextRunAt = Time.rfc3339Micros run

/-- The next run of a row was found, from `now`, for the recurrence that the row had before,
which is another one. -/
def ScheduleRow.Overtaken (r before : ScheduleRow) (now : Instant) : Prop :=
  before.id = r.id ∧ before.recurrence? ≠ r.recurrence? ∧
    ∃ recurrence run, before.recurrence? = some recurrence ∧ recurrence.next now = .ok run ∧
      r.nextRunAt = Time.rfc3339Micros run

/-- What of the row of a schedule a sweep leaves alone, where there is a next run. -/
def ScheduleRow.terms (r : ScheduleRow) : Int × Int × String × Bool :=
  (r.tenant, r.id, r.recurrence, r.active)

namespace Store

variable {rows : List ScheduleRow} {now : Instant} {s t : Store}

/-- Every active schedule is timely, or a sweep at `now` that read one of `rows` has overtaken
it. -/
def Punctual (rows : List ScheduleRow) (now : Instant) (s : Store) : Prop :=
  ∀ r ∈ s.schedules, r.active = true → r.Timely ∨ ∃ before ∈ rows, r.Overtaken before now

theorem Punctual.of_schedules_eq (h : s.Punctual rows now) (heq : t.schedules = s.schedules) :
    t.Punctual rows now := by
  unfold Punctual
  rw [heq]
  exact h

/-- Rows that meet a condition are changed, and every changed row that is active is timely or
overtaken. -/
theorem Punctual.mapSchedules (h : s.Punctual rows now) {p : ScheduleRow → Bool}
    {f : ScheduleRow → ScheduleRow}
    (hf : ∀ r, p r = true →
      (r.active = true → r.Timely ∨ ∃ before ∈ rows, r.Overtaken before now) →
      (f r).active = true → (f r).Timely ∨ ∃ before ∈ rows, (f r).Overtaken before now) :
    (s.mapSchedules p f).Punctual rows now := by
  intro r' hr' hactive
  obtain ⟨r, hr, rfl⟩ := List.mem_map.mp hr'
  by_cases hp : p r = true
  · rw [if_pos hp] at hactive ⊢
    exact hf r hp (h r hr) hactive
  · rw [if_neg hp] at hactive ⊢
    exact h r hr hactive

end Store

namespace Scheduler

variable {δ : Type} {sch : Scheduler δ} {rows : List ScheduleRow} {now : Instant}

/-- A wish that passes its check has a recurrence that makes sense. -/
theorem validate_of_check {spec : ScheduleSpec} (h : spec.check = .ok ()) :
    spec.recurrence.validate = .ok () := by
  unfold ScheduleSpec.check at h
  cases hvalid : spec.recurrence.validate with
  | ok _ => rfl
  | error e =>
    rw [hvalid] at h
    cases h

/-- A step leaves a punctual store punctual. -/
abbrev KeepsPunctual (rows : List ScheduleRow) (now : Instant) (s t : Store) : Prop :=
  s.Punctual rows now → t.Punctual rows now

/-- **An update writes a recurrence and a next run of that recurrence.** -/
theorem each_update (tenant id : Int) (spec : ScheduleSpec) (start : Instant) :
    (sch.update tenant id spec start).run.Each (Storewise (KeepsPunctual rows now)) := by
  unfold update nextRun
  refine each_ofExcept_bind fun _ hcheck => ?_
  refine World.each_op_bind (each_get (fun _ h => h) tenant id) fun s => ?_
  refine each_ofExcept_bind fun next hnext => ?_
  refine World.each_orFail (World.each_onStoreNow fun at_ store h => ?_)
  rw [Store.updateSchedule_snd]
  refine h.mapSchedules fun r _ _ _ => .inl ⟨spec.recurrence, start, next, ?_, ?_, rfl⟩
  · exact Recurrence.ofJson?_parse? (Recurrence.fits_of_validate (validate_of_check hcheck))
  · cases hrun : spec.recurrence.next start with
    | ok run =>
      rw [hrun] at hnext
      cases hnext
      rfl
    | error e =>
      rw [hrun] at hnext
      cases hnext

/-- Moving a schedule on writes a next run of the recurrence that was read. Where that is still the
recurrence of the row, the row is timely. -/
theorem each_advance {before : ScheduleRow} (hbefore : before ∈ rows) {s : Schedule}
    (hread : before.read? = some s) :
    (sch.advance s now).Each (Storewise (KeepsPunctual rows now)) := by
  obtain ⟨hinfo, hrecurrence⟩ := ScheduleRow.info_of_read? hread
  unfold advance
  cases hnext : s.recurrence.next now with
  | ok next =>
    refine Process.Each.bind (World.each_onStoreNow fun at_ store h => ?_) fun _ => trivial
    rw [Store.reschedule_snd]
    refine h.mapSchedules fun r hat _ _ => ?_
    have hid : before.id = r.id := by
      rw [beq_iff_eq.mp hat, ← hinfo]
    by_cases hsame : before.recurrence? = r.recurrence?
    · exact .inl ⟨s.recurrence, now, next, hsame ▸ hrecurrence, hnext, rfl⟩
    · exact .inr ⟨before, hbefore, hid, hsame, s.recurrence, next, hrecurrence, hnext, rfl⟩
  | error e =>
    refine Process.Each.bind (World.each_onStoreNow fun at_ store h => ?_) fun answer => ?_
    · rw [Store.setScheduleActive_snd]
      exact h.mapSchedules fun r _ _ hactive => nomatch hactive
    · cases answer with
      | error e => trivial
      | ok _ => exact World.each_onStore fun store h => h.of_schedules_eq rfl

theorem each_runSchedule (hchannel : sch.channel.Confined) {before : ScheduleRow}
    (hbefore : before ∈ rows) {s : Schedule} (hread : before.read? = some s) :
    (sch.runSchedule now s).Each (Storewise (KeepsPunctual rows now)) := by
  unfold runSchedule
  refine Process.Each.bind (World.each_ofStore fun _ h => h) fun answer => ?_
  rcases answer with e | _ | d
  · exact (each_advance hbefore hread).bind fun _ => trivial
  · exact (each_advance hbefore hread).bind fun _ => trivial
  -- the run and its delivery leave schedules alone
  refine Process.Each.bind ((each_runAndDeliver hchannel s d).mono fun w w' hran h => ?_)
    fun result => ?_
  · exact h.of_schedules_eq (by simpa using hran.schedules)
  refine Process.Each.bind (World.each_onStoreNow fun at_ store h => ?_) fun _ => ?_
  · rw [Store.markScheduleRun_snd]
    exact h.mapSchedules fun r _ hr => hr
  · exact (each_advance hbefore hread).bind fun _ => trivial

/-- **A run ends with the next run of the recurrence that was read**, whatever the row says by
then. -/
theorem run_runSchedule (hchannel : sch.channel.Confined) {s : Schedule} {next : Instant}
    (hnext : s.recurrence.next now = .ok next) (w : World δ) :
    let w' := ((sch.runSchedule now s).run w).2
    Store.Agree (fun _ => ()) ScheduleRow.terms w.store w'.store ∧
      ∀ r ∈ w'.store.schedules, r.id = s.id → r.nextRunAt = Time.rfc3339Micros next := by
  -- the last step writes the next run to the row
  have hadvance : ∀ w : World δ, Store.Agree (fun _ => ()) ScheduleRow.terms w.store
      ((sch.advance s now).run w).2.store ∧ ∀ r ∈ ((sch.advance s now).run w).2.store.schedules,
        r.id = s.id → r.nextRunAt = Time.rfc3339Micros next := by
    intro w
    unfold advance
    rw [hnext]
    dsimp only
    rw [Process.run_bind, World.run_onStoreNow, Process.run_pure]
    dsimp only
    rw [Store.reschedule_snd]
    refine ⟨Store.agree_mapSchedules w.store fun _ _ _ => rfl, fun r' hr' hid => ?_⟩
    obtain ⟨r, hr, rfl⟩ := List.mem_map.mp hr'
    by_cases hat : (r.id == s.id) = true
    · rw [if_pos hat]
    · rw [if_neg hat] at hid
      exact absurd (beq_iff_eq.mpr hid) hat
  have hfinish : ∀ (ok : Bool) (v : World δ),
      Store.Agree (fun _ => ()) ScheduleRow.terms w.store v.store →
      let w' := ((do sch.advance s now; return ok : Process (World δ) Bool).run v).2
      Store.Agree (fun _ => ()) ScheduleRow.terms w.store w'.store ∧
        ∀ r ∈ w'.store.schedules, r.id = s.id → r.nextRunAt = Time.rfc3339Micros next := by
    intro ok v hv
    rw [Process.run_bind, Process.run_pure]
    exact ⟨hv.trans (hadvance v).1, (hadvance v).2⟩
  unfold runSchedule
  rw [Process.run_bind, World.run_ofStore]
  dsimp only
  rcases w.store.getDefinition s.tenant s.report with e | _ | d
  · exact hfinish false w (.refl _)
  · exact hfinish false w (.refl _)
  have hran : w.store.Ran ((sch.runAndDeliver s d).run w).2.store :=
    (each_runAndDeliver hchannel s d).run (fun w => .refl w.store) (fun h h' => h.trans h') w
  dsimp only
  rw [Process.run_bind, Process.run_bind, World.run_onStoreNow]
  refine hfinish _ _ ((hran.comp (fun _ => ()) ScheduleRow.terms).trans ?_)
  dsimp only
  rw [Store.markScheduleRun_snd]
  exact Store.agree_mapSchedules _ fun _ _ _ => rfl

/-- **A sweep beside updates.** The updates may have begun before the sweep reads the schedules
that are due, and all steps may come in any order. Where all active schedules were timely at
first, they are timely at any time afterwards, but for those whose recurrence has been replaced
since the sweep read it and which the sweep has then moved on. -/
theorem timely_or_overtaken (hchannel : sch.channel.Confined) {w₀ w₁ w : World δ}
    {updates pending ps : List (Process (World δ) Unit)} {found : List Schedule}
    (hupdates : ∀ p ∈ updates, ∃ tenant id spec start,
      p = (sch.update tenant id spec start).run.forget)
    (hstart : ∀ r ∈ w₀.store.schedules, r.active = true → r.Timely)
    (hbefore : Interleaved updates w₀ pending w₁)
    (hdue : w₁.store.dueSchedules now = .ok found)
    (hbeside : Interleaved (found.map (fun s => (sch.runSchedule now s).forget) ++ pending) w₁
      ps w) :
    ∀ r ∈ w.store.schedules, r.active = true →
      r.Timely ∨ ∃ before ∈ w₁.store.schedules, r.Overtaken before now := by
  let I : World δ → Prop := fun w => w.store.Punctual w₁.store.schedules now
  have hkeeps : ∀ p ∈ updates, p.Keeps I := by
    intro p hp
    obtain ⟨tenant, id, spec, start, rfl⟩ := hupdates p hp
    exact Process.each_forget (each_update tenant id spec start)
  obtain ⟨hread, hpending⟩ := hbefore.keeps hkeeps fun r hr hactive =>
    .inl (hstart r hr hactive)
  refine (hbeside.keeps (fun p hp => ?_) hread).1
  rcases List.mem_append.mp hp with hp | hp
  · obtain ⟨s, hs, rfl⟩ := List.mem_map.mp hp
    obtain ⟨before, hrow, -, hread⟩ := Store.row_of_mem_dueSchedules hdue hs
    exact Process.each_forget (each_runSchedule hchannel hrow hread)
  · exact hpending p hp

end Scheduler

/-! ## Times of day -/

theorem clock_addDays (t : Instant) (days : Int) :
    (t.addSeconds (86400 * days)).clock = t.clock := by
  have hmod : (t.seconds + 86400 * days) % 86400 = t.seconds % 86400 := by omega
  rw [Instant.clock, Instant.clock, Instant.addSeconds, hmod]

theorem clock_ofDateClock (d : Date) {c : Clock} (h : c.seconds < 86400) :
    (Instant.ofDateClock d c).clock = .ofSeconds c.seconds c.nanos := by
  have hmod : ((d.dayNumber * 86400 + c.seconds) % 86400).toNat = c.seconds := by omega
  rw [Instant.clock, Instant.ofDateClock, hmod]

/-- **A daily recurrence fires at its time of day.** -/
theorem clock_nextDaily {time : Clock} (h : time.seconds < 86400) (start : Instant) :
    (nextDaily time start).clock = .ofSeconds time.seconds time.nanos := by
  unfold nextDaily
  dsimp only
  split
  · exact clock_ofDateClock start.date h
  · exact (clock_addDays _ 1).trans (clock_ofDateClock start.date h)

/-- A time of day with six fraction digits, as it stands at the end of an instant. -/
def clockText (c : Clock) : List Char :=
  'T' :: Time.clockChars c ++ '.' :: Time.padded 6 (Time.nanosShown c / 1000) ++ ['Z']

/-- Instants with one text have one text of their times of day, unless these differ in length. -/
theorem clockText_eq_of_rfc3339Micros_eq {t t' : Instant}
    (hlength : (clockText t.clock).length = (clockText t'.clock).length)
    (h : Time.rfc3339Micros t = Time.rfc3339Micros t') :
    clockText t.clock = clockText t'.clock := by
  have hchars : ∀ t : Instant, (Time.rfc3339Micros t).toList = Time.dateChars t.date ++ clockText t.clock := by
    intro t
    rw [Time.rfc3339Micros, String.toList_ofList, Time.dateClockChars, clockText]
    simp
  have hlists := congrArg String.toList h
  rw [hchars, hchars] at hlists
  exact List.append_inj_right' hlists hlength

namespace Scheduler

/-! ## A sweep overtaken -/

theorem due_office : office.store.dueSchedules firstMorning = .ok [everyMorning] := by
  have hrows : office.store.schedules.filter (fun r =>
      r.active && decide (r.nextRunAt ≤ Time.rfc3339Micros firstMorning))
      = [.ofSchedule everyMorning] := by
    have hdue : (ScheduleRow.ofSchedule everyMorning).nextRunAt
        ≤ Time.rfc3339Micros firstMorning := String.le_refl _
    have hactive : (ScheduleRow.ofSchedule everyMorning).active = true := rfl
    simp only [office, List.filter_cons, List.filter_nil, hdue, hactive, decide_true,
      Bool.and_self, if_true]
  rw [Store.dueSchedules, hrows, List.mergeSort_singleton, readRows_eq_ok]
  exact .cons (ScheduleRow.read?_ofSchedule everyMorning_legible) .nil

theorem run_update_office :
    ((shopScheduler.update 1 1 dailyAtSeven firstMorning).run.forget.run office).2
      = movedToSeven :=
  (Process.run_forget _ office).trans (congrArg Prod.snd perform_update_office)

/-- A sweep that has read the schedule, and the update. -/
def sweepAndUpdate : List (Process (World Unit) Unit) :=
  [(shopScheduler.runSchedule firstMorning everyMorning).forget,
    (shopScheduler.update 1 1 dailyAtSeven firstMorning).run.forget]

/-- The update comes first, and the sweep then moves the schedule on as it had read it. -/
theorem interleaved_sweepAndUpdate : ∃ (ps : List (Process (World Unit) Unit)) (w : World Unit),
    Interleaved sweepAndUpdate office ps w ∧ (∀ p ∈ ps, p.Ended) ∧
      Store.Agree (fun _ => ()) ScheduleRow.terms movedToSeven.store w.store ∧
      ∀ r ∈ w.store.schedules, r.id = 1 → r.nextRunAt = Time.rfc3339Micros secondMorning := by
  have hnext : everyMorning.recurrence.next firstMorning = .ok secondMorning := rfl
  have hchannel : shopScheduler.channel.Confined := Channel.log_confined
  have hrun := run_runSchedule hchannel hnext movedToSeven
  obtain ⟨ps, hps, hended⟩ := Process.interleaved_second_first
    (shopScheduler.runSchedule firstMorning everyMorning).forget
    (shopScheduler.update 1 1 dailyAtSeven firstMorning).run.forget office
  rw [run_update_office, Process.run_forget] at hps
  exact ⟨ps, _, hps, hended, hrun⟩

theorem timely_office : ∀ r ∈ office.store.schedules, r.active = true → r.Timely := by
  intro r hr _
  rw [List.mem_singleton.mp hr]
  have hread := ScheduleRow.read?_ofSchedule everyMorning_legible
  exact ⟨everyMorning.recurrence, newYear, firstMorning, (ScheduleRow.info_of_read? hread).2, rfl,
    rfl⟩

/-- What runs every day at seven is not due at eight. -/
theorem not_timely_of_seven {r : ScheduleRow}
    (hrecurrence : r.recurrence = dailyAtSeven.recurrence.toJson.compact)
    (hnext : r.nextRunAt = Time.rfc3339Micros secondMorning) : ¬ r.Timely := by
  rintro ⟨recurrence, start, run, hread, hrun, hat⟩
  have hseven : r.recurrence? = some dailyAtSeven.recurrence := by
    rw [ScheduleRow.recurrence?, hrecurrence]
    exact Recurrence.ofJson?_parse? trivial
  rw [hseven, Option.some.injEq] at hread
  subst hread
  -- the recurrence fires at seven, and the text says eight
  have htime : timeOfDay "07:00" = .ok ⟨7, 0, 0, 0⟩ := rfl
  have hdaily : dailyAtSeven.recurrence.next start = .ok (nextDaily ⟨7, 0, 0, 0⟩ start) := rfl
  have hclock : (nextDaily ⟨7, 0, 0, 0⟩ start).clock = _ := clock_nextDaily (by decide) start
  rw [hdaily, Except.ok.injEq] at hrun
  rw [hrun] at hclock
  have height : secondMorning.clock = ⟨8, 0, 0, 0⟩ := rfl
  have htext := clockText_eq_of_rfc3339Micros_eq (by rw [height, hclock]; decide)
    (hnext.symm.trans hat)
  rw [height, hclock] at htext
  exact absurd htext (by decide)

/-- The sweep overtakes the update of a schedule that was due: the next run is at eight then, and
the recurrence says seven. -/
theorem exists_untimely : ∃ (found : List Schedule) (ps : List (Process (World Unit) Unit))
    (w : World Unit), (∀ r ∈ office.store.schedules, r.active = true → r.Timely) ∧
      office.store.dueSchedules firstMorning = .ok found ∧
      Interleaved (found.map (fun s => (shopScheduler.runSchedule firstMorning s).forget)
        ++ [(shopScheduler.update 1 1 dailyAtSeven firstMorning).run.forget]) office ps w ∧
      (∀ p ∈ ps, p.Ended) ∧ ∃ r ∈ w.store.schedules, r.active = true ∧ ¬ r.Timely := by
  obtain ⟨ps, w, hps, hended, hagree, hnext⟩ := interleaved_sweepAndUpdate
  refine ⟨[everyMorning], ps, w, timely_office, due_office, hps, hended, ?_⟩
  have hrow : ScheduleRow.ofSchedule everyMorningAtSeven ∈ movedToSeven.store.schedules := by
    rw [schedules_movedToSeven]
    exact List.mem_cons_self
  obtain ⟨r, hr, hterms⟩ := hagree.symm.exists_schedule hrow
  simp only [ScheduleRow.terms, Prod.mk.injEq] at hterms
  obtain ⟨-, hid, hrecurrence, hactive⟩ := hterms
  exact ⟨r, hr, hactive, not_timely_of_seven hrecurrence (hnext r hr hid)⟩

/-- In that run the schedule has been overtaken. -/
theorem overtaken_office : ∃ (ps : List (Process (World Unit) Unit)) (w : World Unit),
    Interleaved sweepAndUpdate office ps w ∧ ∀ r ∈ w.store.schedules, r.active = true →
      r.Timely ∨ ∃ before ∈ office.store.schedules, r.Overtaken before firstMorning := by
  obtain ⟨ps, w, hps, -⟩ := interleaved_sweepAndUpdate
  have hchannel : shopScheduler.channel.Confined := Channel.log_confined
  refine ⟨ps, w, hps, timely_or_overtaken hchannel (fun p hp => ?_) timely_office (.refl _ _)
    due_office hps⟩
  exact ⟨1, 1, dailyAtSeven, firstMorning, List.mem_singleton.mp hp⟩

end Scheduler

end TenantReports
