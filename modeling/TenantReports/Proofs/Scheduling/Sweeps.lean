import TenantReports.Proofs.Scheduling.Timeliness
import TenantReports.Proofs.Scheduling.Turns

/-!
# What a sweep does

When all turns of a sweep are over, every schedule that was due has been run once if its report is
there, and not at all otherwise; its row records that run and holds the next one. This is so for
every order of the steps, since no turn can undo what another one writes. The next run is later than
the time of the sweep, so nothing is due any more.

## Main definitions

* `ScheduleRow.isDue`: a schedule is due
* `Store.Finds`: the schedules of the rows with a property
* `Scheduler.Swept`: a store after a sweep
* `Scheduler.SweepsTo`: what a sweep answers, in any order of its steps

## Main results

* `Scheduler.exists_notes`: where a sweep stands at any time
* `Scheduler.swept_of_interleaved`: what it has done at its end
* `Scheduler.sweep_accounts`: the books of a sweep
-/

namespace TenantReports

open Process (Both Interleaved Maintains)
open Time (Instant)

/-- A schedule is due: it is active, and its next run is not after an instant. -/
def ScheduleRow.isDue (now : Instant) (r : ScheduleRow) : Bool :=
  r.active && decide (r.nextRunAt ≤ Time.rfc3339Micros now)

theorem ScheduleRow.isDue_iff {now : Instant} {r : ScheduleRow} :
    r.isDue now = true ↔ r.active = true ∧ r.nextRunAt ≤ Time.rfc3339Micros now := by
  rw [isDue, Bool.and_eq_true, decide_eq_true_eq]

/-- The runs that a schedule started, among new records. -/
def runsOf (id : Int) (news : List ExecutionRow) : List ExecutionRow :=
  news.filter fun x => x.schedule = some id

namespace Store

variable {base : Store} {now : Instant} {p : ScheduleRow → Bool} {found : List Schedule}

/-- Schedules that were read from the rows with a property, each once. -/
def Finds (p : ScheduleRow → Bool) (base : Store) (found : List Schedule) : Prop :=
  ∃ rows : List ScheduleRow, rows.Perm (base.schedules.filter p) ∧
    List.Forall₂ (fun r s => r.read? = some s) rows found

theorem Finds.exists_schedule (h : base.Finds p found) {r : ScheduleRow}
    (hr : r ∈ base.schedules) (hp : p r = true) : ∃ s ∈ found, r.read? = some s := by
  obtain ⟨rows, hperm, hread⟩ := h
  exact exists_right_of_forall₂ hread (hperm.mem_iff.mpr (List.mem_filter.mpr ⟨hr, hp⟩))

theorem Finds.exists_row (h : base.Finds p found) {s : Schedule} (hs : s ∈ found) :
    ∃ r ∈ base.schedules, p r = true ∧ r.read? = some s := by
  obtain ⟨rows, hperm, hread⟩ := h
  obtain ⟨r, hr, hrs⟩ := exists_left_of_forall₂ hread hs
  obtain ⟨hmem, hp⟩ := List.mem_filter.mp (hperm.mem_iff.mp hr)
  exact ⟨r, hmem, hp, hrs⟩

theorem Finds.length_eq (h : base.Finds p found) : found.length = base.schedules.countP p := by
  obtain ⟨rows, hperm, hread⟩ := h
  rw [← hread.length_eq, hperm.length_eq, List.countP_eq_length_filter]

theorem Finds.roster (h : base.Finds p found) (hnumbered : (base.schedules.map (·.id)).Nodup) :
    base.Roster found where
  numbered := hnumbered
  distinct := by
    obtain ⟨rows, hperm, hread⟩ := h
    have hids : List.Forall₂ (· = ·) (rows.map (·.id)) (found.map (·.id)) := by
      rw [List.forall₂_map_left_iff, List.forall₂_map_right_iff]
      refine hread.imp fun r s hs => ?_
      rw [(ScheduleRow.info_of_read? hs).1]
    rw [List.forall₂_eq_eq_eq] at hids
    rw [← hids]
    refine (hperm.map _).nodup_iff.mpr ?_
    exact hnumbered.sublist (List.filter_sublist.map _)
  rows := by
    intro s hs
    obtain ⟨r, hr, -, hread⟩ := h.exists_row hs
    exact ⟨r, hr, hread⟩

/-- The row with the id of a schedule that was found is the one it was read from. -/
theorem Finds.of_id_eq (h : base.Finds p found) (hnumbered : (base.schedules.map (·.id)).Nodup)
    {r : ScheduleRow} (hr : r ∈ base.schedules) {s : Schedule} (hs : s ∈ found)
    (hid : s.id = r.id) : p r = true ∧ r.read? = some s := by
  obtain ⟨r', hr', hp, hread⟩ := h.exists_row hs
  have hsame : r = r' := by
    refine List.inj_on_of_nodup_map hnumbered hr hr' ?_
    rw [← hid, (ScheduleRow.info_of_read? hread).1]
  rw [hsame]
  exact ⟨hp, hread⟩

theorem finds_of_dueSchedules (h : base.dueSchedules now = .ok found) :
    base.Finds (ScheduleRow.isDue now) found := by
  unfold dueSchedules at h
  exact ⟨_, List.mergeSort_perm _ _, readRows_eq_ok.mp h⟩

/-- Where all rows that are due can be read, so can the schedules. -/
theorem exists_dueSchedules
    (hread : ∀ r ∈ base.schedules, r.isDue now = true → r.read?.isSome = true) :
    ∃ found, base.dueSchedules now = .ok found := by
  unfold dueSchedules
  refine exists_readRows fun r hr => ?_
  obtain ⟨hmem, hdue⟩ := List.mem_filter.mp (List.mem_mergeSort.mp hr)
  exact hread r hmem hdue

/-- Where nothing is due, nothing is found. -/
theorem dueSchedules_eq_nil (h : ∀ r ∈ base.schedules, r.isDue now = false) :
    base.dueSchedules now = .ok [] := by
  have hnone : base.schedules.filter (fun r =>
      r.active && decide (r.nextRunAt ≤ Time.rfc3339Micros now)) = [] :=
    List.filter_eq_nil_iff.mpr fun r hr hdue => Bool.false_ne_true ((h r hr).symm.trans hdue)
  rw [dueSchedules, hnone, List.mergeSort_nil, readRows_eq_ok]
  exact .nil

end Store

/-- A record is that of a run of a report that counts. -/
def Engine.countsFor {δ : Type} (e : Engine δ) (base : Store) (tenant report : Int)
    (x : ExecutionRow) : Bool :=
  x.tenant == tenant && x.report == report && match base.getDefinition tenant report with
    | .ok (some d) => e.counts d tenant x
    | _ => false

namespace Scheduler

variable {δ : Type} {sch : Scheduler δ} {now : Instant} {found : List Schedule} {base : Store}
  {w w' : World δ} {notes others : Multiset (Attempt × Turn)} {n : Attempt × Turn}

/-! ## The notes of turns that are over -/

/-- The record of a turn is one of its schedule and report. -/
theorem TurnOver.record (h : sch.TurnOver base n) {x : ExecutionRow} (hx : n.1.record = some x) :
    ∃ d, base.getDefinition n.2.schedule.tenant n.2.schedule.report = .ok (some d) ∧
      n.1 = ⟨(d.tenant, d.id), some x, sch.engine.counts d n.2.schedule.tenant x⟩ ∧
      x.IsOf d (.ofSchedule n.2.schedule) ∧ x.status.isTerminal = true ∧
      n.2.recorded = some x.id := by
  obtain ⟨-, ⟨-, hnone, -, -⟩ | ⟨d, hd, y, hnote, hof, hterminal, hrecorded⟩⟩ := h
  · rw [hnone] at hx
    cases hx
  · rw [hnote, Option.some.injEq] at hx
    subst hx
    exact ⟨d, hd, hnote, hof, hterminal, hrecorded⟩

/-- A turn counts for a report if the record of its run says so. -/
theorem TurnOver.counted_iff (h : sch.TurnOver base n) {x : ExecutionRow}
    (hx : n.1.record = some x) (tenant report : Int) :
    (n.1.report = (tenant, report) ∧ n.1.counted = true) ↔
      sch.engine.countsFor base tenant report x = true := by
  obtain ⟨d, hd, hnote, hof, -, -⟩ := h.record hx
  obtain ⟨r, -, hat, hread⟩ := Store.row_of_getDefinition hd
  obtain ⟨htenant, hid⟩ := DefinitionRow.isAt_iff.mp hat
  have hinfo := DefinitionRow.info_of_read? hread
  have hdt : d.tenant = n.2.schedule.tenant := by rw [hinfo, htenant]
  have hdi : d.id = n.2.schedule.report := by rw [hinfo, hid]
  have hxt : x.tenant = n.2.schedule.tenant := hof.2.1
  have hxr : x.report = n.2.schedule.report := hof.1.trans hdi
  rw [hnote, Engine.countsFor, hxt, hxr, hdt, hdi]
  simp only [Prod.mk.injEq, Bool.and_eq_true, beq_iff_eq]
  constructor
  · rintro ⟨⟨rfl, rfl⟩, hcounts⟩
    refine ⟨⟨rfl, rfl⟩, ?_⟩
    rw [hd]
    exact hcounts
  · rintro ⟨⟨rfl, rfl⟩, hcounts⟩
    rw [hd] at hcounts
    exact ⟨⟨rfl, rfl⟩, hcounts⟩

/-- **The runs that were counted are those whose records say so**: none is lost, and none is counted
twice. -/
theorem countFor_eq (hover : ∀ n ∈ notes, sch.TurnOver base n) (tenant report : Int) :
    countFor (notes.map Prod.fst) (tenant, report)
      = ((notes.map Prod.fst).filterMap Attempt.record).countP fun x =>
          sch.engine.countsFor base tenant report x = true := by
  induction notes using Multiset.induction_on with
  | empty => simp
  | cons n notes ih =>
    have hn := hover n (Multiset.mem_cons_self _ _)
    rw [Multiset.map_cons, countFor_cons, ih fun n' hn' => hover n' (Multiset.mem_cons_of_mem hn')]
    cases hrecord : n.1.record with
    | none =>
      obtain ⟨-, ⟨-, -, hcounted, -⟩ | ⟨d, -, x, hnote, -⟩⟩ := hn
      · rw [Multiset.filterMap_cons_none _ _ hrecord, hcounted,
          if_neg fun hboth => Bool.false_ne_true hboth.2, Nat.add_zero]
      · rw [hnote] at hrecord
        cases hrecord
    | some x =>
      rw [Multiset.filterMap_cons_some _ _ _ hrecord, Multiset.countP_cons]
      simp only [hn.counted_iff hrecord]

/-- The runs of a schedule are those of its own turn. -/
theorem filter_records (hover : ∀ n' ∈ n ::ₘ others, sch.TurnOver base n')
    (hother : ∀ n' ∈ others, n'.2.schedule.id ≠ n.2.schedule.id) :
    (((n ::ₘ others).map Prod.fst).filterMap Attempt.record).filter
        (fun x => x.schedule = some n.2.schedule.id)
      = (n.1.record.toList : Multiset ExecutionRow) := by
  have hnone : ((others.map Prod.fst).filterMap Attempt.record).filter
      (fun x => x.schedule = some n.2.schedule.id) = 0 := by
    rw [Multiset.filter_eq_nil]
    intro x hx hschedule
    obtain ⟨a, ha, hrecord⟩ := (Multiset.mem_filterMap _ _).mp hx
    obtain ⟨n', hn', rfl⟩ := Multiset.mem_map.mp ha
    obtain ⟨d, -, -, hof, -⟩ := (hover n' (Multiset.mem_cons_of_mem hn')).record hrecord
    have hown : x.schedule = some n'.2.schedule.id := hof.2.2.2.2
    rw [hown, Option.some.injEq] at hschedule
    exact hother n' hn' hschedule
  rw [Multiset.map_cons]
  cases hrecord : n.1.record with
  | none =>
    rw [Multiset.filterMap_cons_none _ _ hrecord, hnone]
    rfl
  | some x =>
    obtain ⟨d, -, -, hof, -⟩ := (hover n (Multiset.mem_cons_self _ _)).record hrecord
    have hown : x.schedule = some n.2.schedule.id := hof.2.2.2.2
    rw [Multiset.filterMap_cons_some _ _ _ hrecord, Multiset.filter_cons, hnone, if_pos hown]
    rfl

/-! ## A store after a sweep -/

/-- What a sweep makes of the row of a schedule that was due. If its report is there, it is run
once, and the row records that run; in any case it is moved on. -/
structure RowSwept (sch : Scheduler δ) (now : Instant) (base : Store) (news : List ExecutionRow)
    (r r' : ScheduleRow) : Prop where
  ran : ∀ s d, r.read? = some s → base.getDefinition r.tenant r.report = .ok (some d) →
    ∃ x, runsOf r.id news = [x] ∧ x.IsOf d (.ofSchedule s) ∧ x.status.isTerminal = true ∧
      ((r.recording now (some x.id)).movedOn (s.recurrence.next now)).Rewritten sch.engine.host r'
  gone : ∀ s, r.read? = some s → base.getDefinition r.tenant r.report = .ok none →
    runsOf r.id news = [] ∧ (r.movedOn (s.recurrence.next now)).Rewritten sch.engine.host r'

/-- A store after a sweep, with the records of the runs that the sweep has started. -/
structure Swept (sch : Scheduler δ) (now : Instant) (base t : Store) (news : List ExecutionRow) :
    Prop where
  records : t.executions = base.executions ++ news
  started : ∀ x ∈ news, ∃ r ∈ base.schedules, r.isDue now = true ∧ x.schedule = some r.id
  due : List.Forall₂ (fun r r' => r.isDue now = true → sch.RowSwept now base news r r')
    base.schedules t.schedules
  others : List.Forall₂ (fun r r' => r.isDue now = false → r' = r) base.schedules t.schedules
  reports : base.Onward sch.engine.host t
  counts : List.Forall₂ (fun d d' => d'.executionCount = d.executionCount
    + ((news.countP (sch.engine.countsFor base d.tenant d.id) : Nat) : Int))
    base.definitions t.definitions

/-- The records that a schedule has among all are those of its turn. -/
theorem runsOf_eq {news : List ExecutionRow} (hover : ∀ n' ∈ n ::ₘ others, sch.TurnOver base n')
    (hother : ∀ n' ∈ others, n'.2.schedule.id ≠ n.2.schedule.id)
    (hnews : (news : Multiset ExecutionRow)
      = ((n ::ₘ others).map Prod.fst).filterMap Attempt.record) :
    runsOf n.2.schedule.id news = n.1.record.toList := by
  have hfilter := filter_records hover hother
  rw [← hnews, Multiset.filter_coe] at hfilter
  unfold runsOf
  -- a list of at most one record is known by its members
  cases hrecord : n.1.record with
  | none =>
    rw [hrecord] at hfilter
    exact Multiset.coe_eq_zero _ |>.mp hfilter
  | some x =>
    rw [hrecord] at hfilter
    exact Multiset.coe_eq_singleton.mp hfilter

/-- What a turn that is over has made of the row of its schedule. -/
theorem rowSwept_of_turnOver {news : List ExecutionRow} {r r' : ScheduleRow}
    (hover : sch.TurnOver base n) (hread : r.read? = some n.2.schedule)
    (hwritten : (n.2.applied now r).Rewritten sch.engine.host r')
    (hruns : runsOf r.id news = n.1.record.toList) : sch.RowSwept now base news r r' := by
  have hinfo := (ScheduleRow.info_of_read? hread).1
  have hreport : base.getDefinition r.tenant r.report
      = base.getDefinition n.2.schedule.tenant n.2.schedule.report := by rw [hinfo]
  rw [Turn.applied, if_pos hover.1] at hwritten
  obtain ⟨-, ⟨hgone, hnone, -, hunrecorded⟩ | ⟨d, hd, x, hnote, hof, hterminal, hrecorded⟩⟩ := hover
  · -- there was no report
    rw [hnone] at hruns
    rw [hunrecorded] at hwritten
    constructor
    · intro s d _ hd
      rw [hreport, hgone] at hd
      cases hd
    · intro s hs _
      rw [hread, Option.some.injEq] at hs
      subst hs
      exact ⟨hruns, hwritten⟩
  · -- the report was run
    rw [hnote] at hruns
    rw [hrecorded] at hwritten
    constructor
    · intro s d' hs hd'
      rw [hread, Option.some.injEq] at hs
      subst hs
      rw [hreport, hd, Except.ok.injEq, Option.some.injEq] at hd'
      subst hd'
      exact ⟨x, hruns, hof, hterminal, hwritten⟩
    · intro s _ hnone
      rw [hreport, hd] at hnone
      cases hnone

/-- The conditions on the surroundings of a sweep: deliveries leave the store alone, the host gives
no id twice, and its clock shows times that can be read back. -/
structure Steady (sch : Scheduler δ) : Prop where
  channel : sch.channel.Quiet
  ids : Function.Injective sch.engine.host.executionId
  clock : ∀ n, (Time.parseRfc3339? (Time.rfc3339Micros (sch.engine.host.clock n))).isSome = true

section AtEnd

variable (hover : ∀ n ∈ notes, sch.TurnOver base n) (hdue : base.dueSchedules now = .ok found)
  (hturning : Turning sch.engine.host now (InTurn base) found base (notes.map Prod.snd) w')

include hover hdue hturning

/-- A record is that of a turn, and the schedule of the turn was due. -/
theorem exists_row_of_record (hn : n ∈ notes) {x : ExecutionRow} (hrecord : n.1.record = some x) :
    ∃ r ∈ base.schedules, r.isDue now = true ∧ x.schedule = some r.id := by
  obtain ⟨d, -, -, hof, -⟩ := (hover n hn).record hrecord
  have hs := hturning.schedule_mem (Multiset.mem_map_of_mem Prod.snd hn)
  obtain ⟨r, hr, hrdue, hread⟩ := (Store.finds_of_dueSchedules hdue).exists_row hs
  refine ⟨r, hr, hrdue, ?_⟩
  rw [show x.schedule = some n.2.schedule.id from hof.2.2.2.2,
    (ScheduleRow.info_of_read? hread).1]

/-- The row of a schedule that was due is what the turn of that schedule has made of it. -/
theorem rowSwept_of_isDue (hnumbered : (base.schedules.map (·.id)).Nodup)
    {news : List ExecutionRow}
    (hnoted : (news : Multiset ExecutionRow) = (notes.map Prod.fst).filterMap Attempt.record)
    {r r' : ScheduleRow} (hr : r ∈ base.schedules) (hrdue : r.isDue now = true)
    (htaken : r.Taken sch.engine.host now (notes.map Prod.snd) r') :
    sch.RowSwept now base news r r' := by
  have hfinds := Store.finds_of_dueSchedules hdue
  obtain ⟨s, hs, hread⟩ := hfinds.exists_schedule hr hrdue
  obtain ⟨k, hk, rfl⟩ := hturning.exists_turn hs
  obtain ⟨n, hn, rfl⟩ := Multiset.mem_map.mp hk
  have hid : n.2.schedule.id = r.id := by rw [(ScheduleRow.info_of_read? hread).1]
  refine rowSwept_of_turnOver (hover n hn) hread (htaken.turn n.2 hk hid) ?_
  -- no other turn has records of this schedule
  obtain ⟨others, rfl⟩ := Multiset.exists_cons_of_mem hn
  rw [Multiset.map_cons] at hturning
  rw [← hid]
  refine runsOf_eq hover (fun n' hn' => ?_) hnoted
  exact hturning.distinct (hfinds.roster hnumbered) n'.2 (Multiset.mem_map_of_mem _ hn')

omit hover in
/-- A schedule that was not due had no turn. -/
theorem eq_of_not_isDue (hnumbered : (base.schedules.map (·.id)).Nodup) {r r' : ScheduleRow}
    (hr : r ∈ base.schedules) (hrdue : r.isDue now = false)
    (htaken : r.Taken sch.engine.host now (notes.map Prod.snd) r') : r' = r := by
  refine htaken.other fun k hk hid => ?_
  have hs := hturning.schedule_mem hk
  rw [((Store.finds_of_dueSchedules hdue).of_id_eq hnumbered hr hs hid).1] at hrdue
  cases hrdue

end AtEnd

section Pool

variable {ps : List (Process (World δ) Bool)} (hsteady : sch.Steady)
  (hnumbered : (w.store.schedules.map (·.id)).Nodup)
  (hfresh : ∀ row ∈ w.store.executions, ¬ sch.engine.host.coming w.issued row.id)
  (hdue : w.store.dueSchedules now = .ok found)
  (hreports : ∀ s ∈ found, ∃ answer, w.store.getDefinition s.tenant s.report = .ok answer)
  (hruns : Interleaved (found.map (sch.runSchedule now)) w ps w')

include hsteady hnumbered hfresh hdue hreports hruns

/-- **Where a sweep stands at any time**: each turn has a note of what it has done so far, and the
store is what the notes say. -/
theorem exists_notes : ∃ notes : List (Attempt × Turn),
    List.Forall₂ (Maintains (sch.Progress now found w.store) fun _ n => sch.TurnOver w.store n)
      notes ps ∧
    sch.Progress now found w.store notes w' := by
  have hroster := (Store.finds_of_dueSchedules hdue).roster hnumbered
  have hturns : List.Forall₂ (Maintains (sch.Progress now found w.store)
      fun _ n => sch.TurnOver w.store n) (found.map beginning)
      (found.map (sch.runSchedule now)) := by
    rw [List.forall₂_map_left_iff, List.forall₂_map_right_iff, List.forall₂_same]
    intro s hs
    obtain ⟨answer, hanswer⟩ := hreports s hs
    exact maintains_turn hsteady.channel hsteady.ids hsteady.clock hroster hanswer
  have hbegun : ∀ n ∈ (found.map beginning : Multiset (Attempt × Turn)),
      ∃ s, n = beginning s := by
    intro n hn
    obtain ⟨s, -, rfl⟩ := List.mem_map.mp (Multiset.mem_coe.mp hn)
    exact ⟨s, rfl⟩
  -- before the first step nothing has been noted
  refine hruns.maintains hturns ⟨?_, ?_⟩
  · refine Store.books_start (fun a ha => ?_) hfresh
    obtain ⟨n, hn, rfl⟩ := Multiset.mem_map.mp ha
    obtain ⟨s, rfl⟩ := hbegun n hn
    exact ⟨rfl, rfl⟩
  · refine turning_start w ?_ (fun k hk => ?_) fun k hk => ?_
    · simp [Function.comp_def, beginning]
    · obtain ⟨n, hn, rfl⟩ := Multiset.mem_map.mp hk
      obtain ⟨s, rfl⟩ := hbegun n hn
      exact ⟨rfl, rfl⟩
    · obtain ⟨n, hn, rfl⟩ := Multiset.mem_map.mp hk
      obtain ⟨s, rfl⟩ := hbegun n hn
      intro hmoved
      cases hmoved

/-- **What a sweep has done at its end**, whatever the order of its steps. -/
theorem swept_of_interleaved (hended : ∀ p ∈ ps, p.Ended) :
    ∃ news, sch.Swept now w.store w'.store news := by
  obtain ⟨notes, hmaintains, hbooks, hturning⟩ := exists_notes hsteady hnumbered hfresh hdue
    hreports hruns
  have hover : ∀ n ∈ (notes : Multiset (Attempt × Turn)), sch.TurnOver w.store n := by
    intro n hn
    obtain ⟨-, h⟩ := Process.exists_post_of_ended hmaintains hended n (Multiset.mem_coe.mp hn)
    exact h
  have hrows := forall₂_mem hturning.rows
  obtain ⟨news, hnews⟩ := hbooks.records
  refine ⟨news, hnews.executions, ?_, ?_, ?_, hturning.reports, ?_⟩
  · intro x hx
    rw [← Multiset.mem_coe, hnews.noted] at hx
    obtain ⟨a, ha, hrecord⟩ := (Multiset.mem_filterMap _ _).mp hx
    obtain ⟨n, hn, rfl⟩ := Multiset.mem_map.mp ha
    exact exists_row_of_record hover hdue hturning hn hrecord
  · refine hrows.imp fun r r' hrow hrdue => ?_
    exact rowSwept_of_isDue hover hdue hturning hnumbered hnews.noted hrow.1 hrdue hrow.2
  · refine hrows.imp fun r r' hrow hrdue => ?_
    exact eq_of_not_isDue hdue hturning hnumbered hrow.1 hrdue hrow.2
  · refine hbooks.counts.imp fun d d' hgrown => ?_
    rw [hgrown.executionCount, countFor_eq hover, ← hnews.noted, Multiset.coe_countP]
    simp only [Bool.decide_eq_true]

end Pool

/-! ## After a sweep -/

/-- A row that is moved on is not due any more. -/
theorem lt_nextRunAt_of_movedOn {host : Host δ} (hnow : now.Plain) (hyear : now.date.year ≤ 9998)
    {recurrence : Recurrence} {r r' : ScheduleRow}
    (h : (r.movedOn (recurrence.next now)).Rewritten host r') (hactive : r'.active = true) :
    Time.rfc3339Micros now < r'.nextRunAt := by
  cases hnext : recurrence.next now with
  | ok run =>
    rw [hnext] at h
    have hlater := (Recurrence.text_lt_of_next hnow hyear hnext).2
    rcases h with rfl | ⟨n, rfl⟩ <;> exact hlater
  | error e =>
    rw [hnext] at h
    rcases h with rfl | ⟨n, rfl⟩ <;> cases hactive

/-- All that a sweep has to read can be read: the schedules that are due, and their reports. -/
def Readable (now : Instant) (base : Store) : Prop :=
  ∀ r ∈ base.schedules, r.isDue now = true → r.read?.isSome = true ∧
    ∃ answer, base.getDefinition r.tenant r.report = .ok answer

/-- **After a sweep no active schedule is due.** -/
theorem Swept.lt_nextRunAt {t : Store} {news : List ExecutionRow}
    (h : sch.Swept now base t news) (hreadable : Readable now base) (hnow : now.Plain)
    (hyear : now.date.year ≤ 9998) :
    ∀ r' ∈ t.schedules, r'.active = true → Time.rfc3339Micros now < r'.nextRunAt := by
  intro r' hr' hactive
  have hboth : List.Forall₂ (fun r r' => (r.isDue now = true → sch.RowSwept now base news r r') ∧
      (r.isDue now = false → r' = r)) base.schedules t.schedules :=
    List.Forall₂.mp (fun _ _ hdue hother => ⟨hdue, hother⟩) h.due h.others
  obtain ⟨r, hr, hdue, hother⟩ := exists_left_of_forall₂ hboth hr'
  cases hcase : r.isDue now with
  | true =>
    obtain ⟨hread, answer, hanswer⟩ := hreadable r hr hcase
    obtain ⟨s, hs⟩ := Option.isSome_iff_exists.mp hread
    cases answer with
    | none => exact lt_nextRunAt_of_movedOn hnow hyear ((hdue hcase).gone s hs hanswer).2 hactive
    | some d =>
      obtain ⟨x, -, -, -, hwritten⟩ := (hdue hcase).ran s d hs hanswer
      exact lt_nextRunAt_of_movedOn hnow hyear hwritten hactive
  | false =>
    obtain rfl := hother hcase
    rw [← String.not_le]
    intro hle
    rw [ScheduleRow.isDue_iff.mpr ⟨hactive, hle⟩] at hcase
    cases hcase

/-- What a sweep answers and leaves behind, if its turns take their steps in any order. -/
inductive SweepsTo (sch : Scheduler δ) (now : Instant) (w : World δ) :
    Except ScheduleError SweepSummary → World δ → Prop
  | unreadable {e : StoreError} (hdue : w.store.dueSchedules now = .error e) :
    SweepsTo sch now w (.error (.store e)) w
  | swept {found : List Schedule} {results : List Bool} {w' : World δ}
      (hdue : w.store.dueSchedules now = .ok found)
      (hruns : Interleaved (found.map (sch.runSchedule now)) w (results.map .done) w') :
    SweepsTo sch now w
      (.ok ⟨found.length, results.countP id, found.length - results.countP id⟩) w'

/-- One turn after the other is one such order. -/
theorem sweepsTo_sweep (sch : Scheduler δ) (now : Instant) (w : World δ) :
    sch.SweepsTo now w (World.perform (sch.sweep now) w).1 (World.perform (sch.sweep now) w).2 := by
  unfold World.perform sweep due
  rw [World.run_op_bind, World.run_orFail, World.run_ofStore]
  dsimp only
  cases hfound : w.store.dueSchedules now with
  | error e => exact .unreadable hfound
  | ok found =>
    have hruns := interleaved_sequence [] (found.map (sch.runSchedule now)) w
    change sch.SweepsTo now w ((World.always _ >>= _ : Op δ SweepSummary).run.run w).1
      ((World.always _ >>= _ : Op δ SweepSummary).run.run w).2
    rw [World.run_op_bind, World.run_always]
    exact .swept hfound hruns

theorem SweepsTo.sweeps {answer : Except ScheduleError SweepSummary}
    (h : sch.SweepsTo now w answer w') : sch.Sweeps now w w' := by
  cases h with
  | unreadable hdue => exact .unreadable hdue
  | swept hdue hruns =>
    exact .swept hdue hruns fun _ => Process.ended_of_mem_results

/-- A sweep that can read what it has to answers with a summary, and does what a sweep does. -/
theorem SweepsTo.swept_of_readable {answer : Except ScheduleError SweepSummary}
    (h : sch.SweepsTo now w answer w') (hsteady : sch.Steady)
    (hnumbered : (w.store.schedules.map (·.id)).Nodup)
    (hfresh : ∀ row ∈ w.store.executions, ¬ sch.engine.host.coming w.issued row.id)
    (hreadable : Readable now w.store) :
    ∃ (summary : SweepSummary) (news : List ExecutionRow), answer = .ok summary ∧
      sch.Swept now w.store w'.store news ∧
      summary.due = w.store.schedules.countP (ScheduleRow.isDue now) ∧
      summary.due = summary.succeeded + summary.failed := by
  cases h with
  | unreadable hdue =>
    obtain ⟨found, hfound⟩ := Store.exists_dueSchedules fun r hr hrdue => (hreadable r hr hrdue).1
    rw [hdue] at hfound
    cases hfound
  | @swept found results w' hdue hruns =>
    have hreports : ∀ s ∈ found, ∃ answer,
        w.store.getDefinition s.tenant s.report = .ok answer := by
      intro s hs
      obtain ⟨r, hr, hrdue, hread⟩ := (Store.finds_of_dueSchedules hdue).exists_row hs
      rw [(ScheduleRow.info_of_read? hread).1]
      exact (hreadable r hr hrdue).2
    obtain ⟨news, hswept⟩ := swept_of_interleaved hsteady hnumbered hfresh hdue hreports hruns
      fun _ => Process.ended_of_mem_results
    refine ⟨_, news, rfl, hswept, (Store.finds_of_dueSchedules hdue).length_eq, ?_⟩
    -- every turn has a result
    have hlength := hruns.length_eq
    rw [List.length_map, List.length_map] at hlength
    have hle : results.countP id ≤ results.length := List.countP_le_length
    dsimp only
    omega

/-- **The books of a sweep.** Whatever the order of the steps: each schedule that was due is run
once if its report is there, and not at all otherwise; its row records that run at `now`, and holds
the next run of its recurrence from `now` on, or is stopped if there is none. Other schedules are as
they were. The count of a report grows by those of its runs that count. The summary tells of all
schedules that were due, the marks of scheduled reports are right, and nothing is due any more. -/
theorem sweep_accounts {answer : Except ScheduleError SweepSummary} (hsteady : sch.Steady)
    (hnow : now.Plain) (hyear : now.date.year ≤ 9998)
    (hnumbered : (w.store.schedules.map (·.id)).Nodup)
    (hfresh : ∀ row ∈ w.store.executions, ¬ sch.engine.host.coming w.issued row.id)
    (hreadable : Readable now w.store) (hsweep : sch.SweepsTo now w answer w') :
    ∃ (summary : SweepSummary) (news : List ExecutionRow), answer = .ok summary ∧
      sch.Swept now w.store w'.store news ∧
      summary.due = w.store.schedules.countP (ScheduleRow.isDue now) ∧
      summary.due = summary.succeeded + summary.failed ∧
      (∀ cap, w.store.Settled cap → ∀ d ∈ w'.store.definitions,
        d.scheduled = w'.store.hasActiveSchedule d.tenant d.id) ∧
      w'.store.dueSchedules now = .ok [] := by
  obtain ⟨summary, news, hanswer, hswept, hdue, hsum⟩ :=
    hsweep.swept_of_readable hsteady hnumbered hfresh hreadable
  refine ⟨summary, news, hanswer, hswept, hdue, hsum, ?_, ?_⟩
  · intro cap hsettled d hd
    exact (settled_sweep hsteady.channel.confined hsettled hsweep.sweeps).marked d hd not_false
  · refine Store.dueSchedules_eq_nil fun r hr => ?_
    rw [Bool.eq_false_iff]
    intro hstill
    obtain ⟨hactive, hle⟩ := ScheduleRow.isDue_iff.mp hstill
    have hlater := hswept.lt_nextRunAt hreadable hnow hyear r hr hactive
    exact absurd hle (String.not_le.mpr hlater)

/-! ### The shop's sweep -/

theorem steady_shopScheduler : shopScheduler.Steady where
  channel := Channel.log_quiet
  ids := executionId_injective
  clock := fun _ => by
    have hread : Time.parseRfc3339? (Time.rfc3339Micros newYear) = some newYear := newYear_legible
    exact Option.isSome_iff_exists.mpr ⟨newYear, hread⟩

theorem firstMorning_plain : firstMorning.Plain := ⟨by decide, by decide, by decide, by decide⟩

theorem getDefinition_office :
    office.store.getDefinition 1 1 = .ok (some { salesReport 1 none with scheduled := true }) := by
  have hlegible := salesReport_legible 1 none
  exact Store.getDefinition_of_find rfl (DefinitionRow.read?_ofDefinition
    ⟨hlegible.hash, hlegible.layout, hlegible.lastExecutedAt, hlegible.createdAt,
      hlegible.updatedAt⟩)

theorem readable_office (now : Instant) : Readable now office.store := by
  intro r hr _
  rw [List.mem_singleton.mp hr]
  refine ⟨?_, _, getDefinition_office⟩
  rw [ScheduleRow.read?_ofSchedule everyMorning_legible]
  rfl

/-- The shop's sweep on the first morning, one turn after the other. -/
theorem sweep_accounts_office :
    shopScheduler.Steady ∧ firstMorning.Plain ∧ firstMorning.date.year ≤ 9998 ∧
      (office.store.schedules.map (·.id)).Nodup ∧
      (∀ row ∈ office.store.executions, ¬ quietHost.coming office.issued row.id) ∧
      Readable firstMorning office.store ∧
      ∃ (summary : SweepSummary) (news : List ExecutionRow),
        (World.perform (shopScheduler.sweep firstMorning) office).1 = .ok summary ∧
        shopScheduler.Swept firstMorning office.store
          (World.perform (shopScheduler.sweep firstMorning) office).2.store news ∧
        summary.due = 1 := by
  have hyear : firstMorning.date.year ≤ 9998 := by decide
  have hnumbered : (office.store.schedules.map (·.id)).Nodup := by decide
  have hfresh : ∀ row ∈ office.store.executions, ¬ quietHost.coming office.issued row.id :=
    fun row hrow => absurd hrow List.not_mem_nil
  obtain ⟨summary, news, hanswer, hswept, hdue, -, -, -⟩ := sweep_accounts steady_shopScheduler
    firstMorning_plain hyear hnumbered hfresh (readable_office firstMorning)
    (sweepsTo_sweep shopScheduler firstMorning office)
  refine ⟨steady_shopScheduler, firstMorning_plain, hyear, hnumbered, hfresh,
    readable_office firstMorning, summary, news, hanswer, hswept, ?_⟩
  rw [hdue, ← (Store.finds_of_dueSchedules due_office).length_eq]
  rfl

end Scheduler

end TenantReports
