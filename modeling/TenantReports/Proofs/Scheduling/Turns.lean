import TenantReports.Proofs.Recurrence.Later
import TenantReports.Proofs.Run.Accounts

/-!
# The turns of schedules

A sweep gives each schedule that is due a turn: its report is run, the run is recorded in the row
of the schedule, and the row is moved on. These are separate steps, and the turns of a sweep take
theirs in any order. The note of a turn says what it has written so far. At any time each row is
what the turn of its schedule has made of the row at the start, and no step of another turn shows
in it.

## Main definitions

* `Turn`, `Turn.applied`: the note of a turn, and what it has made of a row
* `Store.Onward`: reports of which only the counts and marks have changed
* `Scheduler.Turning`: the rows of schedules while a sweep goes on
* `Scheduler.TurnOver`: the notes of a turn at its end
* `Scheduler.Progress`: the books and the rows together

## Main results

* `Scheduler.Turning.write`: a turn writes to its own row, and to no other one
* `Scheduler.maintains_record`, `Scheduler.maintains_moveOn`: what a turn writes
* `Scheduler.maintains_turn`: a whole turn, beside all others
-/

namespace TenantReports

open Process (Both Each Maintains)
open Time (Instant)
open World (Storewise)

/-! ## Rows of schedules -/

namespace ScheduleRow

variable {δ : Type} {host : Host δ} {r r' : ScheduleRow}

/-- A row that records a run at an instant, if there was one. -/
def recording (now : Instant) (execution : Option String) (r : ScheduleRow) : ScheduleRow :=
  match execution with
  | none => r
  | some x => { r with lastRunAt := some (Time.rfc3339Micros now), lastExecution := some x }

/-- A row that is moved on to a next run. If there is none, it is stopped. -/
def movedOn (next : Except RecurrenceError Instant) (r : ScheduleRow) : ScheduleRow :=
  match next with
  | .ok run => { r with nextRunAt := Time.rfc3339Micros run }
  | .error _ => { r with active := false }

/-- The same row, perhaps written again at a time of the clock. -/
def Rewritten (host : Host δ) (r r' : ScheduleRow) : Prop :=
  r' = r ∨ ∃ n, r' = { r with updatedAt := Time.rfc3339Micros (host.clock n) }

theorem Rewritten.refl (r : ScheduleRow) : r.Rewritten host r := .inl rfl

/-- Whatever is written to a row, it is written at a time of the clock. -/
theorem Rewritten.write (h : r.Rewritten host r') {f g : ScheduleRow → ScheduleRow} {n : Nat}
    (hf : ∀ r at_, f { r with updatedAt := at_ } = f r)
    (hg : ∀ r, f r = { g r with updatedAt := Time.rfc3339Micros (host.clock n) }) :
    (g r).Rewritten host (f r') := by
  right
  rcases h with rfl | ⟨m, rfl⟩
  · exact ⟨n, hg r'⟩
  · exact ⟨n, (hf r _).trans (hg r)⟩

end ScheduleRow

/-- The note of a turn: its schedule, the run recorded in the row, and whether the row has been
moved on. -/
structure Turn where
  schedule : Schedule
  recorded : Option String := none
  moved : Bool := false

/-- What a turn has made of the row of its schedule. -/
def Turn.applied (now : Instant) (k : Turn) (r : ScheduleRow) : ScheduleRow :=
  if k.moved then (r.recording now k.recorded).movedOn (k.schedule.recurrence.next now)
  else r.recording now k.recorded

namespace ScheduleRow

variable {δ : Type} {host : Host δ} {now : Instant} {k : Turn} {turns : Multiset Turn}
  {r r' : ScheduleRow}

/-- The schedule and the report of a row. -/
def key (r : ScheduleRow) : Int × Int × Int := (r.id, r.tenant, r.report)

theorem key_eq_iff :
    r'.key = r.key ↔ r'.id = r.id ∧ r'.tenant = r.tenant ∧ r'.report = r.report := by
  rw [key, key, Prod.mk.injEq, Prod.mk.injEq]

theorem key_recording (now : Instant) (execution : Option String) (r : ScheduleRow) :
    (r.recording now execution).key = r.key := by
  cases execution <;> rfl

theorem key_movedOn (next : Except RecurrenceError Instant) (r : ScheduleRow) :
    (r.movedOn next).key = r.key := by
  unfold movedOn
  cases next <;> rfl

theorem key_applied (now : Instant) (k : Turn) (r : ScheduleRow) :
    (k.applied now r).key = r.key := by
  unfold Turn.applied
  split
  · rw [key_movedOn, key_recording]
  · rw [key_recording]

theorem Rewritten.key_eq (h : r.Rewritten host r') : r'.key = r.key := by
  rcases h with rfl | ⟨n, rfl⟩ <;> rfl

/-- What has become of a row: what the turn of its schedule has made of it. Without a turn it is as
it was. -/
structure Taken (host : Host δ) (now : Instant) (turns : Multiset Turn) (r r' : ScheduleRow) :
    Prop where
  turn : ∀ k ∈ turns, k.schedule.id = r.id → (k.applied now r).Rewritten host r'
  other : (∀ k ∈ turns, k.schedule.id ≠ r.id) → r' = r

/-- A turn never changes which schedule a row is of. -/
theorem Taken.key_eq (h : r.Taken host now turns r') : r'.key = r.key := by
  by_cases hturn : ∃ k ∈ turns, k.schedule.id = r.id
  · obtain ⟨k, hk, hid⟩ := hturn
    rw [(h.turn k hk hid).key_eq, key_applied]
  · rw [h.other fun k hk hid => hturn ⟨k, hk, hid⟩]

end ScheduleRow

/-! ## Rows of reports -/

/-- The row of a report of which only the count of runs, the time of the last one and the mark have
changed, that time to one of the clock. -/
def DefinitionRow.Onward {δ : Type} (host : Host δ) (r r' : DefinitionRow) : Prop :=
  r' = { r with
    executionCount := r'.executionCount, scheduled := r'.scheduled
    lastExecutedAt := r'.lastExecutedAt } ∧
  (r'.lastExecutedAt = r.lastExecutedAt ∨
    ∃ n, r'.lastExecutedAt = some (Time.rfc3339Micros (host.clock n)))

/-- The reports are the same, and of their rows no more than that has changed. -/
def Store.Onward {δ : Type} (host : Host δ) (s t : Store) : Prop :=
  List.Forall₂ (DefinitionRow.Onward host) s.definitions t.definitions

namespace DefinitionRow

variable {δ : Type} {host : Host δ} {r r' r'' : DefinitionRow}

theorem Onward.refl (r : DefinitionRow) : r.Onward host r := ⟨rfl, .inl rfl⟩

theorem Onward.trans (h : r.Onward host r') (h' : r'.Onward host r'') : r.Onward host r'' := by
  constructor
  · rw [h'.1, h.1]
  · rcases h'.2 with hsame | hread
    · rw [hsame]
      exact h.2
    · exact .inr hread

theorem Onward.isAt (h : r.Onward host r') (tenant id : Int) :
    r'.isAt tenant id = r.isAt tenant id := by
  rw [h.1]
  rfl

/-- If the clock can be read, so can the row, and it holds the same report. -/
theorem Onward.read? (h : r.Onward host r')
    (hclock : ∀ n, (Time.parseRfc3339? (Time.rfc3339Micros (host.clock n))).isSome = true)
    {d : Definition} (hread : r.read? = some d) :
    ∃ d' : Definition, r'.read? = some d' ∧ d'.tenant = d.tenant ∧ d'.id = d.id ∧
      d'.layout = d.layout := by
  simp only [DefinitionRow.read?, Option.bind_eq_bind, Option.bind_eq_some_iff, Option.pure_def,
    Option.some.injEq] at hread
  obtain ⟨layout, ⟨json, hjson, hlayout⟩, last, hlast, created, hcreated, updated, hupdated, rfl⟩ :=
    hread
  -- the time of the last run is as it was, or a time of the clock
  have hread' : ∃ last', readOptional? Time.parseRfc3339? r'.lastExecutedAt = some last' := by
    rcases h.2 with hsame | ⟨n, hn⟩
    · exact ⟨last, by rw [hsame, hlast]⟩
    · obtain ⟨t, ht⟩ := Option.isSome_iff_exists.mp (hclock n)
      exact ⟨some t, by rw [hn, readOptional?, ht, Option.map_some]⟩
  obtain ⟨last', hlast'⟩ := hread'
  refine ⟨⟨r'.toReportInfo, layout, last', created, updated⟩, ?_, ?_, ?_, rfl⟩
  · rw [h.1] at hlast' ⊢
    simp only [DefinitionRow.read?, hjson, hlayout, hlast', hcreated, hupdated,
      Option.bind_eq_bind, Option.bind_some, Option.pure_def]
  · rw [h.1]
  · rw [h.1]

end DefinitionRow

namespace Store

variable {δ : Type} {host : Host δ} {s t u : Store}

theorem Onward.refl (s : Store) : s.Onward host s :=
  List.forall₂_same.mpr fun r _ => .refl r

theorem Onward.trans (h : s.Onward host t) (h' : t.Onward host u) : s.Onward host u :=
  forall₂_comp (R := DefinitionRow.Onward host) (fun _ _ _ hr hr' => hr.trans hr') h h'

theorem onward_of_definitions_eq (h : t.definitions = s.definitions) : s.Onward host t := by
  unfold Onward
  rw [h]
  exact Onward.refl s

theorem onward_changeDefinition (s : Store) (tenant id : Int) {f : DefinitionRow → DefinitionRow}
    (hf : ∀ r : DefinitionRow, r.Onward host (f r)) :
    s.Onward host (s.changeDefinition tenant id f) := by
  unfold Onward
  rw [changeDefinition, List.forall₂_map_right_iff, List.forall₂_same]
  intro r _
  split
  · exact hf r
  · exact .refl r

/-- The steps of runs count for reports and do nothing else to them. -/
theorem RunStep.onward (h : RunStep host s t) : s.Onward host t := by
  cases h with
  | stays => exact .refl s
  | opens row => exact onward_of_definitions_eq rfl
  | moves execution status f =>
    obtain ⟨executions, heq⟩ := moveExecution_snd s execution status f
    rw [heq]
    exact onward_of_definitions_eq rfl
  | counts tenant id reading =>
    rw [recordAttempt_snd]
    exact onward_changeDefinition s tenant id fun r => ⟨rfl, .inr ⟨reading, rfl⟩⟩

/-- A report that could be read can be read later on, and one that was not there still is not. -/
theorem Onward.getDefinition (h : s.Onward host t)
    (hclock : ∀ n, (Time.parseRfc3339? (Time.rfc3339Micros (host.clock n))).isSome = true)
    (tenant id : Int) :
    (s.getDefinition tenant id = .ok none → t.getDefinition tenant id = .ok none) ∧
    ∀ d, s.getDefinition tenant id = .ok (some d) →
      ∃ d', t.getDefinition tenant id = .ok (some d') ∧ d'.tenant = d.tenant ∧ d'.id = d.id ∧
        d'.layout = d.layout := by
  have hrows : (s.definitionRow? tenant id = none ∧ t.definitionRow? tenant id = none) ∨
      ∃ r r', s.definitionRow? tenant id = some r ∧ t.definitionRow? tenant id = some r' ∧
        r.Onward host r' := find?_of_forall₂ h fun r r' hr => hr.isAt tenant id
  unfold Store.getDefinition
  rcases hrows with ⟨hnone, hnone'⟩ | ⟨r, r', hr, hr', honward⟩
  · rw [hnone, hnone']
    refine ⟨fun h => h, fun d hd => ?_⟩
    simp [readRow] at hd
  · rw [hr, hr']
    constructor
    · intro hnone
      cases hread : r.read? <;> simp [readRow, orUnreadable, hread, Except.map] at hnone
    · intro d hd
      obtain ⟨_, hsame, hread⟩ := readRow_eq_ok_some.mp hd
      cases hsame
      obtain ⟨d', hread', hinfo⟩ := honward.read? hclock hread
      exact ⟨d', readRow_eq_ok_some.mpr ⟨r', rfl, hread'⟩, hinfo⟩

end Store

/-! ## Steps that do not concern each other -/

/-- Schedules stay as they are, and reports go on. -/
structure Store.Beside {δ : Type} (host : Host δ) (s t : Store) : Prop where
  schedules : t.schedules = s.schedules
  reports : s.Onward host t

/-- Records and counts stay as they are, and no id is given back. -/
structure World.Uncounted {δ : Type} (w w' : World δ) : Prop where
  executions : w'.store.executions = w.store.executions
  counts : List.Forall₂ (fun r r' => r'.counts = r.counts) w.store.definitions w'.store.definitions
  issued : w.issued ≤ w'.issued

theorem World.Uncounted.of_store {δ : Type} {w w' : World δ} (hstore : w'.store = w.store)
    (hissued : w.issued ≤ w'.issued) : w.Uncounted w' := by
  refine ⟨by rw [hstore], ?_, hissued⟩
  rw [hstore]
  exact List.forall₂_same.mpr fun _ _ => rfl

theorem Host.coming_mono {δ : Type} {host : Host δ} {n m : Nat} (h : n ≤ m) {id : String}
    (hid : host.coming m id) : host.coming n id := by
  obtain ⟨k, hk, heq⟩ := hid
  exact ⟨k, Nat.le_trans h hk, heq⟩

/-- Such steps leave the books of runs alone. -/
theorem Engine.Keeping.of_uncounted {δ : Type} {host : Host δ} {base : Store}
    {notes : Multiset Attempt} {w w' : World δ} (huncounted : w.Uncounted w')
    (h : Engine.Keeping host.coming base notes w) : Engine.Keeping host.coming base notes w' :=
  Store.Books.of_counts h huncounted.executions huncounted.counts fun _ =>
    Host.coming_mono huncounted.issued

/-- Deliveries have no access to the store and give no id back. -/
structure Channel.Quiet {δ : Type} (c : Channel δ) : Prop where
  confined : c.Confined
  issued_le : ∀ d w, w.issued ≤ (c d w).2.issued

theorem Channel.log_quiet {δ : Type} : (Channel.log : Channel δ).Quiet :=
  ⟨log_confined, fun _ _ => Nat.le_refl _⟩

theorem Channel.directory_quiet {δ : Type} (root : String) :
    (Channel.directory root : Channel δ).Quiet := by
  refine ⟨directory_confined root, fun d w => ?_⟩
  unfold directory
  cases d.artifact with
  | none => exact Nat.le_refl _
  | some a =>
    have hissued := (World.saveFile_elsewhere (scheduleDir root d.schedule.id) a.filename
      a.content w).2
    rcases hsave : w.saveFile (scheduleDir root d.schedule.id) a.filename a.content
      with ⟨_ | path, w'⟩
    all_goals
      rw [hsave] at hissued
      simp only [hsave]
      exact Nat.le_of_eq hissued.symm

/-! ## Turns -/

/-- Schedules that were read from rows of a table, each once. -/
structure Store.Roster (base : Store) (found : List Schedule) : Prop where
  numbered : (base.schedules.map (·.id)).Nodup
  distinct : (found.map (·.id)).Nodup
  rows : ∀ s ∈ found, ∃ r ∈ base.schedules, r.read? = some s

theorem Store.Roster.tenant_eq {base : Store} {found : List Schedule} (h : base.Roster found)
    {s : Schedule} (hs : s ∈ found) {r : ScheduleRow} (hr : r ∈ base.schedules)
    (hid : r.id = s.id) : r.tenant = s.tenant := by
  obtain ⟨r', hr', hread⟩ := h.rows s hs
  have hinfo := (ScheduleRow.info_of_read? hread).1
  have hsame : r = r' := List.inj_on_of_nodup_map h.numbered hr hr' (by rw [hid, hinfo])
  rw [hsame, hinfo]

namespace Scheduler

variable {δ : Type} {sch : Scheduler δ} {host : Host δ} {now : Instant} {may : Turn → Prop}
  {found : List Schedule} {base : Store} {s : Schedule}

/-- The rows while schedules take turns. Each is what the turn of its schedule has made of the row
at the start. The notes of the turns are such as they may be. -/
structure Turning (host : Host δ) (now : Instant) (may : Turn → Prop) (found : List Schedule)
    (base : Store) (turns : Multiset Turn) (w : World δ) : Prop where
  schedules_eq : turns.map Turn.schedule = found
  allowed : ∀ k ∈ turns, may k
  reports : base.Onward host w.store
  rows : List.Forall₂ (ScheduleRow.Taken host now turns) base.schedules w.store.schedules

/-- At the start no turn has written anything. -/
theorem turning_start (w : World δ) {turns : Multiset Turn}
    (hschedules : turns.map Turn.schedule = found)
    (hturns : ∀ k ∈ turns, k.recorded = none ∧ k.moved = false) (hmay : ∀ k ∈ turns, may k) :
    Turning host now may found w.store turns w where
  schedules_eq := hschedules
  allowed := hmay
  reports := .refl _
  rows := by
    refine List.forall₂_same.mpr fun r _ => ⟨fun k hk _ => .inl ?_, fun _ => rfl⟩
    obtain ⟨hrecorded, hmoved⟩ := hturns k hk
    unfold Turn.applied ScheduleRow.recording
    rw [hrecorded, hmoved]
    rfl

theorem Turning.of_beside {turns : Multiset Turn} {w w' : World δ}
    (hbeside : Storewise (Store.Beside host) w w') (h : Turning host now may found base turns w) :
    Turning host now may found base turns w' where
  schedules_eq := h.schedules_eq
  allowed := h.allowed
  reports := h.reports.trans hbeside.reports
  rows := by
    rw [hbeside.schedules]
    exact h.rows

/-- Turns are those of the schedules that were found. -/
theorem Turning.schedule_mem {turns : Multiset Turn} {w : World δ}
    (h : Turning host now may found base turns w) {k : Turn} (hk : k ∈ turns) :
    k.schedule ∈ found := by
  rw [← Multiset.mem_coe, ← h.schedules_eq]
  exact Multiset.mem_map_of_mem _ hk

theorem Turning.exists_turn {turns : Multiset Turn} {w : World δ}
    (h : Turning host now may found base turns w) {d : Schedule} (hd : d ∈ found) :
    ∃ k ∈ turns, k.schedule = d := by
  rw [← Multiset.mem_map, h.schedules_eq]
  exact Multiset.mem_coe.mpr hd

/-- All other turns are of other schedules. -/
theorem Turning.distinct {k : Turn} {others : Multiset Turn} {w : World δ}
    (hroster : base.Roster found) (h : Turning host now may found base (k ::ₘ others) w) :
    ∀ k' ∈ others, k'.schedule.id ≠ k.schedule.id := by
  intro k' hk' hsame
  have hnodup : ((found.map (·.id) : List Int) : Multiset Int).Nodup := hroster.distinct
  rw [← Multiset.map_coe, ← h.schedules_eq, Multiset.map_cons, Multiset.map_cons,
    Multiset.nodup_cons, Multiset.map_map] at hnodup
  exact hnodup.1 (Multiset.mem_map.mpr ⟨k', hk', hsame⟩)

/-- **A turn writes to the row of its schedule**, and no other turn has that row. -/
theorem Turning.write {k k' : Turn} {others : Multiset Turn} {w w' : World δ}
    (hroster : base.Roster found) (h : Turning host now may found base (k ::ₘ others) w)
    (hschedule : k'.schedule = k.schedule) (hmay : may k') {p : ScheduleRow → Bool}
    {f : ScheduleRow → ScheduleRow}
    (hp : ∀ r, r.id = k.schedule.id → r.tenant = k.schedule.tenant → p r = true)
    (hother : ∀ r, r.id ≠ k.schedule.id → p r = false)
    (hf : ∀ r r' : ScheduleRow, (k.applied now r).Rewritten host r' →
      (k'.applied now r).Rewritten host (f r'))
    (hstore : w'.store = w.store.mapSchedules p f) :
    Turning host now may found base (k' ::ₘ others) w' := by
  have hschedules := h.schedules_eq
  rw [Multiset.map_cons] at hschedules
  have hmem := h.schedule_mem (Multiset.mem_cons_self _ _)
  have hdistinct := h.distinct hroster
  -- of the four parts only the rows depend on what was written
  refine ⟨?_, ?_, ?_, ?_⟩
  · rw [Multiset.map_cons, hschedule, hschedules]
  · intro k₂ hk₂
    rcases Multiset.mem_cons.mp hk₂ with rfl | hk₂
    · exact hmay
    · exact h.allowed k₂ (Multiset.mem_cons_of_mem hk₂)
  · have hreports := h.reports
    rw [hstore]
    exact hreports
  rw [hstore, Store.mapSchedules, List.forall₂_map_right_iff]
  refine (forall₂_mem h.rows).imp fun r r' hrow => ?_
  obtain ⟨hr, htaken⟩ := hrow
  obtain ⟨hid, htenant, -⟩ := ScheduleRow.key_eq_iff.mp htaken.key_eq
  by_cases hat : r.id = k.schedule.id
  · -- the row of the schedule
    have hwritten : p r' = true := by
      refine hp r' (hid.trans hat) (htenant.trans ?_)
      exact hroster.tenant_eq hmem hr hat
    rw [if_pos hwritten]
    constructor
    · intro k₂ hk₂ hid₂
      rcases Multiset.mem_cons.mp hk₂ with rfl | hk₂
      · exact hf r r' (htaken.turn k (Multiset.mem_cons_self _ _) hat.symm)
      · exact absurd (hid₂.trans hat) (hdistinct k₂ hk₂)
    · intro hnone
      refine absurd ?_ (hnone k' (Multiset.mem_cons_self _ _))
      rw [hschedule, hat]
  · -- the row of another schedule, which is as its own turn has left it
    rw [hother r' fun hsame => hat (hid.symm.trans hsame), if_neg Bool.false_ne_true]
    constructor
    · intro k₂ hk₂ hid₂
      rcases Multiset.mem_cons.mp hk₂ with rfl | hk₂
      · rw [hschedule] at hid₂
        exact absurd hid₂.symm hat
      · exact htaken.turn k₂ (Multiset.mem_cons_of_mem hk₂) hid₂
    · intro hnone
      refine htaken.other fun k₂ hk₂ => ?_
      rcases Multiset.mem_cons.mp hk₂ with rfl | hk₂
      · exact fun hsame => hat hsame.symm
      · exact hnone k₂ (Multiset.mem_cons_of_mem hk₂)

section Steps

variable (hroster : base.Roster found) (s)

include hroster

/-- A run is recorded. -/
theorem maintains_record (host : Host δ) {x : String} (hmay : may ⟨s, some x, false⟩) :
    Maintains (Turning host now may found base) (fun _ k => k = ⟨s, some x, false⟩) ⟨s, none, false⟩
      (World.onStoreNow host fun at_ store => store.markScheduleRun s.id (some x) now at_) := by
  refine Process.maintains_atomically fun others w hw => ⟨_, ?_, rfl⟩
  refine hw.write hroster rfl hmay (p := (·.id == s.id)) (fun r hid _ => beq_iff_eq.mpr hid)
    (fun r hid => beq_eq_false_iff_ne.mpr hid) ?_ (Store.markScheduleRun_snd _ _ _ _ _)
  intro r r' h
  exact h.write (n := w.readings) (g := .recording now (some x)) (fun _ _ => rfl) fun _ => rfl

/-- The next run is written. -/
theorem maintains_reschedule (host : Host δ) (recorded : Option String) {run : Instant}
    (hnext : s.recurrence.next now = .ok run) (hmay : may ⟨s, recorded, true⟩) :
    Maintains (Turning host now may found base) (fun _ k => k = ⟨s, recorded, true⟩)
      ⟨s, recorded, false⟩
      (World.onStoreNow host fun at_ store => store.reschedule s.id run at_) := by
  refine Process.maintains_atomically fun others w hw => ⟨_, ?_, rfl⟩
  refine hw.write hroster rfl hmay (p := (·.id == s.id)) (fun r hid _ => beq_iff_eq.mpr hid)
    (fun r hid => beq_eq_false_iff_ne.mpr hid) ?_ (Store.reschedule_snd _ _ _ _)
  intro r r' h
  unfold Turn.applied at h ⊢
  rw [if_neg Bool.false_ne_true] at h
  rw [if_pos rfl, hnext]
  exact h.write (n := w.readings) (g := .movedOn (.ok run)) (fun _ _ => rfl) fun _ => rfl

/-- A schedule without a next run is stopped. -/
theorem maintains_setInactive (host : Host δ) (recorded : Option String) {e : RecurrenceError}
    (hnext : s.recurrence.next now = .error e) (hmay : may ⟨s, recorded, true⟩) :
    Maintains (Turning host now may found base) (fun _ k => k = ⟨s, recorded, true⟩)
      ⟨s, recorded, false⟩ (World.onStoreNow host fun at_ store =>
        store.setScheduleActive s.tenant s.id false at_) := by
  refine Process.maintains_atomically fun others w hw => ⟨_, ?_, rfl⟩
  refine hw.write hroster rfl hmay (p := ScheduleRow.isAt s.tenant s.id)
    (fun r hid htenant => ScheduleRow.isAt_iff.mpr ⟨htenant, hid⟩) (fun r hid => ?_) ?_
    (Store.setScheduleActive_snd _ _ _ _ _)
  · rw [Bool.eq_false_iff]
    exact fun hat => hid (ScheduleRow.isAt_iff.mp hat).2
  intro r r' h
  unfold Turn.applied at h ⊢
  rw [if_neg Bool.false_ne_true] at h
  rw [if_pos rfl, hnext]
  exact h.write (n := w.readings) (g := .movedOn (.error e)) (fun _ _ => rfl) fun _ => rfl

omit hroster in
/-- The mark of a report says nothing of schedules. -/
theorem each_refreshScheduled_beside (tenant report : Int) :
    (refreshScheduled tenant report : Process (World δ) Unit).Each
      (Storewise (Store.Beside host)) :=
  World.each_onStore fun s =>
    ⟨rfl, Store.onward_changeDefinition s tenant report fun _ => ⟨rfl, .inl rfl⟩⟩

/-- **A schedule is moved on**, or stopped if it has no next run. -/
theorem maintains_moveOn {recorded : Option String} (hmay : may ⟨s, recorded, true⟩) :
    Maintains (Turning sch.engine.host now may found base) (fun _ k => k = ⟨s, recorded, true⟩)
      ⟨s, recorded, false⟩ (sch.advance s now) := by
  unfold advance
  cases hnext : s.recurrence.next now with
  | ok run =>
    exact (maintains_reschedule s hroster sch.engine.host recorded hnext hmay).bind fun _ _ hk => hk
  | error e =>
    refine (maintains_setInactive s hroster sch.engine.host recorded hnext hmay).bind ?_
    intro answer k hk
    subst hk
    cases answer with
    | error e => exact rfl
    | ok _ =>
      exact (each_refreshScheduled_beside s.tenant s.report).maintains
        (fun hbeside hw => hw.of_beside hbeside) _

end Steps

/-! ## What turns leave alone -/

theorem each_onStoreNow_uncounted {α : Type} {f : Instant → Store → α × Store}
    (hf : ∀ at_ s, ∃ schedules, (f at_ s).2 = { s with schedules }) :
    (World.onStoreNow host f).Each World.Uncounted := by
  rw [World.onStoreNow, Process.each_atomically]
  intro w
  obtain ⟨schedules, hstore⟩ := hf (host.clock w.readings) w.store
  change World.Uncounted w
    { w with readings := w.readings + 1, store := (f (host.clock w.readings) w.store).2 }
  rw [hstore]
  exact ⟨rfl, List.forall₂_same.mpr fun _ _ => rfl, Nat.le_refl _⟩

theorem each_record_uncounted (s : Schedule) (x : String) :
    (World.onStoreNow host fun at_ store =>
      store.markScheduleRun s.id (some x) now at_).Each World.Uncounted :=
  each_onStoreNow_uncounted fun _ _ => ⟨_, Store.markScheduleRun_snd _ _ _ _ _⟩

theorem each_advance_uncounted (sch : Scheduler δ) (s : Schedule) (now : Instant) :
    (sch.advance s now).Each World.Uncounted := by
  unfold advance
  cases s.recurrence.next now with
  | ok run =>
    exact Each.bind (each_onStoreNow_uncounted fun _ _ => ⟨_, Store.reschedule_snd _ _ _ _⟩)
      fun _ => trivial
  | error e =>
    refine Each.bind (each_onStoreNow_uncounted fun _ _ =>
      ⟨_, Store.setScheduleActive_snd _ _ _ _ _⟩) fun answer => ?_
    cases answer with
    | error e => trivial
    | ok _ =>
      refine Process.each_atomically.mpr fun w => ⟨rfl, ?_, Nat.le_refl _⟩
      refine List.forall₂_map_right_iff.mpr (List.forall₂_same.mpr fun r _ => ?_)
      split <;> rfl

/-- A run and its delivery do not concern schedules. -/
theorem each_runAndDeliver_beside (hchannel : sch.channel.Quiet) (s : Schedule) (d : Definition) :
    (sch.runAndDeliver s d).Each (Storewise (Store.Beside sch.engine.host)) := by
  unfold runAndDeliver
  refine ((sch.engine.each_execute_runStep d _).mono fun w w' h =>
    ⟨by simpa using h.ran.schedules, h.onward⟩).bind fun answer => ?_
  cases answer with
  | error failure => trivial
  | ok outcome =>
    refine (World.each_elsewhere (fun s => ⟨rfl, .refl s⟩) ?_).bind fun _ => trivial
    exact hchannel.confined _

/-! ## A whole turn -/

/-- A run has ended, and its record is the one that was told of. -/
def Delivered (sch : Scheduler δ) (s : Schedule) (d : Definition) (told : String × Bool)
    (a : Attempt) : Prop :=
  ∃ x : ExecutionRow, a = ⟨(d.tenant, d.id), some x, sch.engine.counts d s.tenant x⟩ ∧
    x.IsOf d (.ofSchedule s) ∧ x.status.isTerminal = true ∧ told.1 = x.id

/-- A delivery is none of the books' business. -/
theorem maintains_deliver (hchannel : sch.channel.Quiet) (delivery : Delivery) (a : Attempt) :
    Maintains (Engine.Keeping host.coming base) (fun _ a' => a' = a) a
      (Process.atomically (sch.channel delivery)) := by
  have huncounted : (Process.atomically (sch.channel delivery)).Each World.Uncounted :=
    Process.each_atomically.mpr fun w =>
      .of_store (hchannel.confined delivery w) (hchannel.issued_le delivery w)
  refine huncounted.maintains ?_ a
  exact Engine.Keeping.of_uncounted

/-- A run and its delivery keep the books. -/
theorem maintains_runAndDeliver (hchannel : sch.channel.Quiet)
    (hids : Function.Injective sch.engine.host.executionId) (s : Schedule) (d : Definition) :
    Maintains (Engine.Keeping sch.engine.host.coming base) (sch.Delivered s d)
      ⟨(d.tenant, d.id), none, false⟩ (sch.runAndDeliver s d) := by
  unfold runAndDeliver
  refine (sch.engine.maintains_execute hids d _).bind fun answer a ha => ?_
  obtain ⟨x, rfl, hof, htells, -⟩ := ha
  cases answer with
  | error failure =>
    obtain ⟨hstatus, hid, -⟩ := htells
    exact ⟨x, rfl, hof, by rw [hstatus]; rfl, hid.symm⟩
  | ok outcome =>
    obtain ⟨hstatus, hid, -⟩ := htells
    refine (maintains_deliver hchannel _ _).bind ?_
    rintro delivered _ rfl
    exact ⟨x, rfl, hof, by rw [hstatus]; rfl, hid.symm⟩

/-- The notes of a turn at its end. The row has been moved on. If there was a report, one run of it
has ended and is recorded; otherwise there was no run. -/
def TurnOver (sch : Scheduler δ) (base : Store) (n : Attempt × Turn) : Prop :=
  n.2.moved = true ∧
  ((base.getDefinition n.2.schedule.tenant n.2.schedule.report = .ok none ∧
      n.1.record = none ∧ n.1.counted = false ∧ n.2.recorded = none) ∨
    ∃ d, base.getDefinition n.2.schedule.tenant n.2.schedule.report = .ok (some d) ∧
      ∃ x : ExecutionRow, n.1 = ⟨(d.tenant, d.id), some x,
          sch.engine.counts d n.2.schedule.tenant x⟩ ∧
        x.IsOf d (.ofSchedule n.2.schedule) ∧ x.status.isTerminal = true ∧
        n.2.recorded = some x.id)

/-- In a sweep, a row is moved on after its run was recorded, or if there is no report to run. -/
def InTurn (base : Store) (k : Turn) : Prop :=
  k.moved = true → k.recorded = none →
    base.getDefinition k.schedule.tenant k.schedule.report = .ok none

/-- Where the turns of a sweep stand: the books of their runs, and the rows of their schedules. -/
abbrev Progress (sch : Scheduler δ) (now : Instant) (found : List Schedule) (base : Store) :
    Multiset (Attempt × Turn) → World δ → Prop :=
  Both (Engine.Keeping sch.engine.host.coming base)
    (Turning sch.engine.host now (InTurn base) found base)

/-- The notes of a turn that has not begun. -/
def beginning (s : Schedule) : Attempt × Turn :=
  (⟨(s.tenant, s.report), none, false⟩, ⟨s, none, false⟩)

/-- What is written to the row of a schedule the books do not show. -/
theorem maintains_beside_books {α : Type} {p : Process (World δ) α} {post : α → Turn → Prop}
    {k : Turn} (hp : Maintains (Turning host now may found base) post k p)
    (heach : p.Each World.Uncounted) (a : Attempt) :
    Maintains (Both (Engine.Keeping host.coming base) (Turning host now may found base))
      (fun answer n => n.1 = a ∧ post answer n.2) (a, k) p :=
  hp.second heach Engine.Keeping.of_uncounted

/-- What is put into the books the rows of schedules do not show. -/
theorem maintains_beside_rows {α : Type} {p : Process (World δ) α} {post : α → Attempt → Prop}
    {a : Attempt} (hp : Maintains (Engine.Keeping host.coming base) post a p)
    (heach : p.Each (Storewise (Store.Beside host))) (k : Turn) :
    Maintains (Both (Engine.Keeping host.coming base) (Turning host now may found base))
      (fun answer n => post answer n.1 ∧ n.2 = k) (a, k) p :=
  hp.first heach Turning.of_beside

/-- A turn ends by moving the row on. -/
theorem maintains_turnOver (hroster : base.Roster found) {a : Attempt} {recorded : Option String}
    {ok : Bool} (hover : sch.TurnOver base (a, ⟨s, recorded, true⟩)) :
    Maintains (sch.Progress now found base) (fun _ n => sch.TurnOver base n)
      (a, ⟨s, recorded, false⟩) (do sch.advance s now; return ok) := by
  have hmay : InTurn base ⟨s, recorded, true⟩ := by
    intro _ hunrecorded
    obtain ⟨-, ⟨hnone, -⟩ | ⟨d, -, x, -, -, -, hrecorded⟩⟩ := hover
    · exact hnone
    · rw [hrecorded] at hunrecorded
      cases hunrecorded
  refine (maintains_beside_books (maintains_moveOn s hroster hmay)
    (each_advance_uncounted sch s now) a).bind ?_
  rintro _ ⟨_, _⟩ ⟨rfl, rfl⟩
  exact hover

/-- **A turn, whatever the others do**: if its report is there, it is run once and the run is
recorded; in any case the schedule is moved on. -/
theorem maintains_turn (hchannel : sch.channel.Quiet)
    (hids : Function.Injective sch.engine.host.executionId)
    (hclock : ∀ n, (Time.parseRfc3339? (Time.rfc3339Micros (sch.engine.host.clock n))).isSome = true)
    (hroster : base.Roster found) {answer : Option Definition}
    (hreport : base.getDefinition s.tenant s.report = .ok answer) :
    Maintains (sch.Progress now found base) (fun _ n => sch.TurnOver base n)
      (beginning s) (sch.runSchedule now s) := by
  unfold runSchedule
  -- the report is as it was at the start, but for its counts and its mark
  have hread : Maintains (sch.Progress now found base) (fun read n => n = beginning s ∧
      ∃ t, base.Onward sch.engine.host t ∧ read = t.getDefinition s.tenant s.report)
      (beginning s) (World.ofStore fun store => store.getDefinition s.tenant s.report) :=
    Process.maintains_atomically fun others w hw =>
      ⟨_, hw, rfl, w.store, (Process.both_cons.mp hw).2.reports, rfl⟩
  refine hread.bind ?_
  rintro read _ ⟨rfl, t, honward, rfl⟩
  obtain ⟨hnone, hsome⟩ := honward.getDefinition hclock s.tenant s.report
  cases answer with
  | none =>
    rw [hnone hreport]
    exact maintains_turnOver hroster ⟨rfl, .inl ⟨hreport, rfl, rfl, rfl⟩⟩
  | some d =>
    obtain ⟨d', hthere, htenant, hid, hlayout⟩ := hsome d hreport
    rw [hthere]
    have hbeginning : beginning s = (⟨(d'.tenant, d'.id), none, false⟩, ⟨s, none, false⟩) := by
      obtain ⟨r, -, hat, hrow⟩ := Store.row_of_getDefinition hreport
      obtain ⟨htenant', hid'⟩ := DefinitionRow.isAt_iff.mp hat
      have hinfo := DefinitionRow.info_of_read? hrow
      rw [beginning, htenant, hid, hinfo, htenant', hid']
    rw [hbeginning]
    refine (maintains_beside_rows (maintains_runAndDeliver hchannel hids s d')
      (each_runAndDeliver_beside hchannel s d') _).bind ?_
    rintro ⟨execution, ok⟩ ⟨_, _⟩ ⟨⟨x, rfl, hof, hterminal, htold⟩, rfl⟩
    have hmay : InTurn base ⟨s, some execution, false⟩ := by
      intro hmoved
      cases hmoved
    refine (maintains_beside_books (maintains_record s hroster sch.engine.host hmay)
      (each_record_uncounted s execution) _).bind ?_
    rintro _ ⟨_, _⟩ ⟨rfl, rfl⟩
    refine maintains_turnOver hroster ⟨rfl, .inr ⟨d, hreport, x, ?_, ?_, hterminal, ?_⟩⟩
    · have hcounts : sch.engine.counts d' s.tenant x = sch.engine.counts d s.tenant x := by
        rw [Engine.counts, Engine.counts, hlayout]
      rw [htenant, hid, hcounts]
    · exact ⟨hof.1.trans hid, hof.2⟩
    · exact congrArg some htold

end Scheduler

end TenantReports
