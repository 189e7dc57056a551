import TenantReports.Proofs.Json.Keys
import TenantReports.Proofs.Scheduling.Recovery
import TenantReports.Proofs.Time.Reading

/-!
# Schedules found by their times

What a sweep and a recovery look for is told by texts: a row is due if the text of its next run
does not come after that of the time asked for. Texts are ordered as the instants, to the
microsecond. A next run is known to the microsecond, since it is a whole second, so what is cut off
of the other instant makes no difference: the rows that are found are those of the schedules whose
times say so. Those that are due come by time and then by id, those that are stale by id alone.

## Main definitions

* `Schedule.Timed`: a schedule whose times can be written
* `Schedule.isDue`, `Schedule.isStale`: what a sweep and a recovery look for, told by instants
* `Schedule.Sooner`: the order of time and then of ids

## Main results

* `Store.exists_dueSchedules_written`: the schedules that are due, by time and then by id
* `Store.staleSchedules_written`: the schedules that are stale
* `Store.found_by_time`: the texts of instants, and what is found by them
-/

namespace TenantReports

open Time (Instant parseRfc3339? rfc3339Micros)

namespace Schedule

/-- The times of a schedule can be written, and the next run is known to the microsecond. Whole
seconds are. -/
structure Timed (d : Schedule) : Prop where
  nextRunAt : d.nextRunAt.Plain
  micros : d.nextRunAt.truncateMicros = d.nextRunAt
  lastRunAt : ∀ t ∈ d.lastRunAt, t.Plain

/-- A schedule is due: it is active, and its next run is not after an instant. -/
def isDue (now : Instant) (d : Schedule) : Bool := d.active && decide (d.nextRunAt ≤ now)

/-- A schedule is stale: it is active and ran, but its next run is neither after that nor after an
instant. -/
def isStale (now : Instant) (d : Schedule) : Bool :=
  d.active && d.lastRunAt.any (fun last => decide (d.nextRunAt ≤ last))
    && decide (d.nextRunAt ≤ now)

/-- The next run of a schedule is earlier than that of another one, or at the same time and the id
is lower. -/
def Sooner (a b : Schedule) : Prop :=
  a.nextRunAt < b.nextRunAt ∨ a.nextRunAt = b.nextRunAt ∧ a.id < b.id

namespace Timed

variable {a b d : Schedule} {t : Instant}

/-- The text of the next run comes no later than that of an instant if the run does not. -/
theorem text_le_iff (h : d.Timed) (ht : t.Plain) :
    rfc3339Micros d.nextRunAt ≤ rfc3339Micros t ↔ d.nextRunAt ≤ t := by
  rw [Time.rfc3339Micros_le_iff h.nextRunAt ht, h.micros, Instant.le_truncateMicros_iff h.micros]

theorem text_lt_iff (ha : a.Timed) (hb : b.Timed) :
    rfc3339Micros a.nextRunAt < rfc3339Micros b.nextRunAt ↔ a.nextRunAt < b.nextRunAt := by
  rw [Time.rfc3339Micros_lt_iff ha.nextRunAt hb.nextRunAt, ha.micros, hb.micros]

theorem text_inj (ha : a.Timed) (hb : b.Timed) :
    rfc3339Micros a.nextRunAt = rfc3339Micros b.nextRunAt ↔ a.nextRunAt = b.nextRunAt := by
  rw [Time.rfc3339Micros_inj ha.nextRunAt hb.nextRunAt, ha.micros, hb.micros]

end Timed

end Schedule

/-! ## Rows -/

namespace ScheduleRow

variable {d : Schedule} {now : Instant} (h : d.Timed) (hnow : now.Plain)

include h hnow

theorem isDue_ofSchedule : (ofSchedule d).isDue now = d.isDue now := by
  show (d.active && decide (rfc3339Micros d.nextRunAt ≤ rfc3339Micros now)) = _
  rw [Schedule.isDue, decide_eq_decide.mpr (h.text_le_iff hnow)]

theorem isStale_ofSchedule : (ofSchedule d).isStale now = d.isStale now := by
  show (d.active
    && (d.lastRunAt.map rfc3339Micros).any (fun last => decide (rfc3339Micros d.nextRunAt ≤ last))
    && decide (rfc3339Micros d.nextRunAt ≤ rfc3339Micros now)) = _
  rw [Schedule.isStale, decide_eq_decide.mpr (h.text_le_iff hnow)]
  cases hlast : d.lastRunAt with
  | none => rfl
  | some last =>
    have hplain : last.Plain := h.lastRunAt last hlast
    rw [Option.map_some, Option.any_some, Option.any_some,
      decide_eq_decide.mpr (h.text_le_iff hplain)]

omit h hnow

/-- The order of rows by the texts of their next runs and then by their ids. -/
def sooner (a b : ScheduleRow) : Bool :=
  decide (a.nextRunAt < b.nextRunAt) || (a.nextRunAt == b.nextRunAt && decide (a.id ≤ b.id))

theorem sooner_iff {a b : ScheduleRow} : a.sooner b = true ↔
    a.nextRunAt < b.nextRunAt ∨ a.nextRunAt = b.nextRunAt ∧ a.id ≤ b.id := by
  simp [sooner]

theorem sooner_trans (a b c : ScheduleRow) (hab : a.sooner b = true) (hbc : b.sooner c = true) :
    a.sooner c = true := by
  rw [sooner_iff] at hab hbc ⊢
  rcases hab with hab | ⟨hab, hid⟩ <;> rcases hbc with hbc | ⟨hbc, hid'⟩
  · exact .inl (String.lt_trans hab hbc)
  · exact .inl (hbc ▸ hab)
  · exact .inl (hab ▸ hbc)
  · exact .inr ⟨hab.trans hbc, Int.le_trans hid hid'⟩

theorem sooner_total (a b : ScheduleRow) : (a.sooner b || b.sooner a) = true := by
  rw [Bool.or_eq_true, sooner_iff, sooner_iff]
  by_cases hlt : a.nextRunAt < b.nextRunAt
  · exact .inl (.inl hlt)
  by_cases hgt : b.nextRunAt < a.nextRunAt
  · exact .inr (.inl hgt)
  · -- neither text comes before the other one, so the ids decide
    have hsame : a.nextRunAt = b.nextRunAt :=
      String.le_antisymm (String.not_lt.mp hgt) (String.not_lt.mp hlt)
    rcases Int.le_total a.id b.id with hid | hid
    · exact .inl (.inr ⟨hsame, hid⟩)
    · exact .inr (.inr ⟨hsame.symm, hid⟩)

end ScheduleRow

/-- The order of the rows of schedules. -/
def Schedule.sooner (a b : Schedule) : Bool :=
  (ScheduleRow.ofSchedule a).sooner (ScheduleRow.ofSchedule b)

theorem Schedule.sooner_trans (a b c : Schedule) (hab : a.sooner b = true)
    (hbc : b.sooner c = true) : a.sooner c = true := ScheduleRow.sooner_trans _ _ _ hab hbc

theorem Schedule.sooner_total (a b : Schedule) : (a.sooner b || b.sooner a) = true :=
  ScheduleRow.sooner_total _ _

theorem Schedule.map_mergeSort_sooner (ds : List Schedule) :
    (ds.mergeSort sooner).map ScheduleRow.ofSchedule
      = (ds.map ScheduleRow.ofSchedule).mergeSort ScheduleRow.sooner :=
  List.map_mergeSort fun _ _ _ _ => rfl

/-! ## The store -/

namespace Store

variable {s : Store} {ds : List Schedule} {now : Instant}

/-- A selection among rows is one among the schedules that were written. -/
theorem filter_written {p : ScheduleRow → Bool} {q : Schedule → Bool}
    (hwritten : s.schedules = ds.map ScheduleRow.ofSchedule)
    (hpq : ∀ d ∈ ds, p (ScheduleRow.ofSchedule d) = q d) :
    s.schedules.filter p = (ds.filter q).map ScheduleRow.ofSchedule := by
  rw [hwritten, List.filter_map]
  exact congrArg _ (List.filter_congr hpq)

variable (hwritten : s.schedules = ds.map ScheduleRow.ofSchedule) (htimed : ∀ d ∈ ds, d.Timed)
  (hnow : now.Plain)

include hwritten htimed hnow

/-- **The schedules that are due**, by time and then by id. -/
theorem exists_dueSchedules_written (hids : (ds.map (·.id)).Nodup) :
    ∃ due : List Schedule, due.Perm (ds.filter (Schedule.isDue now)) ∧
      due.Pairwise Schedule.Sooner ∧
      s.dueSchedules now = readRows ScheduleRow.read? (due.map ScheduleRow.ofSchedule) := by
  have hperm : ((ds.filter (Schedule.isDue now)).mergeSort Schedule.sooner).Perm
      (ds.filter (Schedule.isDue now)) := List.mergeSort_perm _ _
  refine ⟨(ds.filter (Schedule.isDue now)).mergeSort Schedule.sooner, hperm, ?_, ?_⟩
  · have hsorted := List.pairwise_mergeSort Schedule.sooner_trans Schedule.sooner_total
      (ds.filter (Schedule.isDue now))
    have hdistinct := (hperm.map (·.id)).nodup_iff.mpr (hids.sublist (List.filter_sublist.map _))
    refine (hsorted.and (List.pairwise_map.mp hdistinct)).imp_of_mem fun {a b} ha hb hab => ?_
    have hta := htimed a (List.mem_of_mem_filter (hperm.mem_iff.mp ha))
    have htb := htimed b (List.mem_of_mem_filter (hperm.mem_iff.mp hb))
    rcases ScheduleRow.sooner_iff.mp hab.1 with hlt | ⟨hsame, hid⟩
    · exact .inl ((hta.text_lt_iff htb).mp hlt)
    · exact .inr ⟨(hta.text_inj htb).mp hsame, Int.lt_iff_le_and_ne.mpr ⟨hid, hab.2⟩⟩
  · have hrows := filter_written hwritten fun d hd =>
      ScheduleRow.isDue_ofSchedule (htimed d hd) hnow
    show readRows _ ((s.schedules.filter (ScheduleRow.isDue now)).mergeSort ScheduleRow.sooner) = _
    rw [hrows, Schedule.map_mergeSort_sooner]

/-- **The schedules that are stale**, in the order in which they were added. -/
theorem staleSchedules_written : s.staleSchedules now = readRows ScheduleRow.read?
    ((ds.filter (Schedule.isStale now)).map ScheduleRow.ofSchedule) := by
  have hrows : s.schedules.filter (ScheduleRow.isStale now) = _ := filter_written hwritten
    fun d hd => ScheduleRow.isStale_ofSchedule (htimed d hd) hnow
  show readRows _ (s.schedules.filter (ScheduleRow.isStale now)) = _
  rw [hrows]

end Store

/-- **Instants by their texts.** In the years of four digits, the bytes of the texts of instants are
ordered as the instants to the microsecond, and a text is read as its instant to the microsecond;
all instants that are read are of this kind, leap seconds included. So what a sweep and a recovery
find are the schedules that are due or stale, each once, by time and then by id or by id alone. -/
theorem Store.found_by_time :
    (∀ a b : Instant, a.Plain → b.Plain →
      (keyBytes (rfc3339Micros a) < keyBytes (rfc3339Micros b)
        ↔ a.truncateMicros < b.truncateMicros) ∧
      (keyBytes (rfc3339Micros a) = keyBytes (rfc3339Micros b)
        ↔ a.truncateMicros = b.truncateMicros) ∧
      parseRfc3339? (rfc3339Micros a) = some a.truncateMicros) ∧
    (∀ (text : String) (t : Instant), parseRfc3339? text = some t →
      0 ≤ t.date.year → t.date.year ≤ 9999 → t.Plain) ∧
    ∀ (s : Store) (ds : List Schedule) (now : Instant),
      s.schedules = ds.map ScheduleRow.ofSchedule → (∀ d ∈ ds, d.Timed) → now.Plain →
      (ds.map (·.id)).Pairwise (· < ·) →
      (∃ due : List Schedule, due.Perm (ds.filter (Schedule.isDue now)) ∧
        due.Pairwise Schedule.Sooner ∧
        s.dueSchedules now = readRows ScheduleRow.read? (due.map ScheduleRow.ofSchedule)) ∧
      ∃ stale : List Schedule, stale = ds.filter (Schedule.isStale now) ∧
        stale.Pairwise (fun a b => a.id < b.id) ∧
        s.staleSchedules now = readRows ScheduleRow.read? (stale.map ScheduleRow.ofSchedule) := by
  refine ⟨fun a b ha hb => ⟨?_, ?_, Time.parseRfc3339?_rfc3339Micros ha⟩,
    fun _ _ => Time.plain_of_parseRfc3339?, fun s ds now hwritten htimed hnow hids => ⟨?_, ?_⟩⟩
  · rw [← lt_iff_keyBytes_lt, Time.rfc3339Micros_lt_iff ha hb]
  · rw [keyBytes_inj, Time.rfc3339Micros_inj ha hb]
  · exact exists_dueSchedules_written hwritten htimed hnow (hids.imp Int.ne_of_lt)
  · refine ⟨_, rfl, ?_, staleSchedules_written hwritten htimed hnow⟩
    exact (List.pairwise_map.mp hids).sublist List.filter_sublist

/-! ## Two schedules that were not moved on -/

/-- A daily report that ran on the second morning, but was not given a next run after that. -/
def unmoved (id : Int) (nextRunAt : Instant) : Schedule :=
  { Schedule.new 1 1 1 dailyAtEight nextRunAt newYear with id, lastRunAt := some secondMorning }

/-- Two such schedules. The one that was added first has the later run. -/
def unmovedStore : Store where
  schedules := [unmoved 1 secondMorning, unmoved 2 firstMorning].map ScheduleRow.ofSchedule
  lastSchedule := 2

theorem secondMorning_plain : secondMorning.Plain := ⟨by decide, by decide, by decide, by decide⟩

theorem timed_unmoved {id : Int} {t : Instant} (ht : t.Plain) (hmicros : t.truncateMicros = t) :
    (unmoved id t).Timed where
  nextRunAt := ht
  micros := hmicros
  lastRunAt := by
    rintro _ ⟨⟩
    exact secondMorning_plain

theorem timed_of_mem_unmovedStore :
    ∀ d ∈ [unmoved 1 secondMorning, unmoved 2 firstMorning], d.Timed := by
  intro d hd
  rcases List.mem_pair.mp hd with rfl | rfl
  · exact timed_unmoved secondMorning_plain rfl
  · exact timed_unmoved Scheduler.firstMorning_plain rfl

theorem read?_unmoved {id : Int} {t : Instant} (ht : t.Legible) :
    (ScheduleRow.ofSchedule (unmoved id t)).read? = some (unmoved id t) :=
  ScheduleRow.read?_ofSchedule
    { recurrence := trivial
      preset := FilterValues.ofText?_nil
      nextRunAt := ht
      lastRunAt := by
        rintro _ ⟨⟩
        exact Time.parseRfc3339?_rfc3339Micros secondMorning_plain
      createdAt := newYear_legible
      updatedAt := newYear_legible }

theorem Store.found_by_time_unmovedStore :
    (firstMorning.Plain ∧ secondMorning.Plain ∧
      keyBytes (rfc3339Micros firstMorning) < keyBytes (rfc3339Micros secondMorning)) ∧
    unmovedStore.schedules
      = [unmoved 1 secondMorning, unmoved 2 firstMorning].map ScheduleRow.ofSchedule ∧
    (∀ d ∈ [unmoved 1 secondMorning, unmoved 2 firstMorning], d.Timed) ∧
    ([unmoved 1 secondMorning, unmoved 2 firstMorning].map (·.id)).Pairwise (· < ·) ∧
    ∃ due : List Schedule, due.Perm [unmoved 1 secondMorning, unmoved 2 firstMorning] ∧
      due.Pairwise Schedule.Sooner ∧ unmovedStore.dueSchedules secondMorning
        = readRows ScheduleRow.read? (due.map ScheduleRow.ofSchedule) := by
  obtain ⟨htexts, -, hfound⟩ := found_by_time
  have hids : ([unmoved 1 secondMorning, unmoved 2 firstMorning].map (·.id)).Pairwise (· < ·) := by
    decide
  refine ⟨⟨Scheduler.firstMorning_plain, secondMorning_plain, ?_⟩, rfl, timed_of_mem_unmovedStore,
    hids, ?_⟩
  · exact (htexts _ _ Scheduler.firstMorning_plain secondMorning_plain).1.mpr (by decide)
  · exact (hfound unmovedStore _ secondMorning rfl timed_of_mem_unmovedStore secondMorning_plain
      hids).1

/-- Stale schedules that are not found by time: the later run comes first, as it was added first. -/
theorem Store.exists_stale_out_of_order : ∃ (s : Store) (ds : List Schedule) (now : Instant)
    (found : List Schedule), s.schedules = ds.map ScheduleRow.ofSchedule ∧ (∀ d ∈ ds, d.Timed) ∧
      now.Plain ∧ (ds.map (·.id)).Pairwise (· < ·) ∧ s.staleSchedules now = .ok found ∧
      ¬ found.Pairwise Schedule.Sooner := by
  refine ⟨unmovedStore, [unmoved 1 secondMorning, unmoved 2 firstMorning], secondMorning,
    [unmoved 1 secondMorning, unmoved 2 firstMorning], rfl, timed_of_mem_unmovedStore,
    secondMorning_plain, by decide, ?_, fun hsorted => ?_⟩
  · rw [staleSchedules_written rfl timed_of_mem_unmovedStore secondMorning_plain, readRows_eq_ok]
    exact .cons (read?_unmoved (Time.parseRfc3339?_rfc3339Micros secondMorning_plain))
      (.cons (read?_unmoved firstMorning_legible) .nil)
  · rcases List.rel_of_pairwise_cons hsorted List.mem_cons_self with hlt | ⟨hsame, -⟩
    · exact absurd hlt (by decide)
    · exact absurd hsame (by decide)

end TenantReports
