import TenantReports.Proofs.Scheduling.Serial

/-!
# Updates, stops and new schedules

Beside an update and a deactivation of one schedule, other clients may create schedules. Their
rows have ids of their own, so what the first two have read stays true; and between its two writes
each of them owes its report a refresh, as the deactivation does. All ends as it should unless the
update has read that the schedule is active, the deactivation stops it, and then the update writes
what it has read. From then on the schedule is active, its report may not be marked, and there may
be more active schedules than the limit.

## Main definitions

* `Scheduler.Creating`: a process that creates schedules, and the report that it owes a refresh
* `Scheduler.Orderly`: the store while no stop is lost
* `Scheduler.Resumed`: a stop is lost

## Main results

* `Scheduler.Orderly.update_step`, `Scheduler.Orderly.stop_step`, `Scheduler.Orderly.create_step`:
  what a step of each client preserves
* `Scheduler.together_of_interleaved`: all three, in any order of their steps
* `Scheduler.stop_kept_or_lost`: the schedule is active at the end, or all is as it should be
* `Scheduler.exists_lost_stop`: a stop that is lost
-/

namespace TenantReports

open Process (Interleaved Step)
open Time (Instant)

/-! ## New rows -/

namespace Store

variable {s t : Store} {cap : Nat} {owed : Int × Int → Prop} {tenant id : Int}

theorem mem_insertScheduleWithinCap {r : ScheduleRow} (hr : r ∈ s.schedules) (new : Schedule)
    (cap : Nat) : r ∈ (s.insertScheduleWithinCap new cap).2.schedules := by
  rcases insertScheduleWithinCap_cases s new cap with ⟨-, heq⟩ | ⟨-, -, heq⟩
  · rwa [heq]
  · rw [heq]
    exact List.mem_append_left _ hr

/-- The rows of a schedule that exists are the old ones. -/
theorem CoherentExcept.mem_of_insertScheduleWithinCap (h : s.CoherentExcept cap owed)
    (hfound : ∃ r ∈ s.schedules, r.isAt tenant id = true) {new : Schedule} {r : ScheduleRow}
    (hr : r ∈ (s.insertScheduleWithinCap new cap).2.schedules) (hat : r.isAt tenant id = true) :
    r ∈ s.schedules := by
  rcases insertScheduleWithinCap_cases s new cap with ⟨-, heq⟩ | ⟨-, -, heq⟩
  · rwa [heq] at hr
  rw [heq] at hr
  rcases List.mem_append.mp hr with hr | hr
  · exact hr
  -- the new row has a new id
  rw [List.mem_singleton] at hr
  obtain ⟨r', hr', hat'⟩ := hfound
  have hle := h.numbered.le_last r'.id (List.mem_map_of_mem hr')
  rw [(ScheduleRow.isAt_iff.mp hat').2, ← (ScheduleRow.isAt_iff.mp hat).2, hr] at hle
  dsimp only at hle
  omega

theorem exists_definition_refreshScheduled {k : Int × Int}
    (h : ∃ d ∈ s.definitions, d.tenant = k.1 ∧ d.id = k.2) (tenant id : Int) :
    ∃ d ∈ (s.refreshScheduled tenant id).2.definitions, d.tenant = k.1 ∧ d.id = k.2 := by
  obtain ⟨d, hd, htenant, hid⟩ := h
  refine ⟨_, List.mem_map_of_mem hd, ?_, ?_⟩
  · split <;> exact htenant
  · split <;> exact hid

theorem Runs.mono (h : s.Runs tenant id) (hsub : ∀ r ∈ s.schedules, r ∈ t.schedules) :
    t.Runs tenant id := by
  obtain ⟨r, hr, hruns⟩ := h
  exact ⟨r, hsub r hr, hruns⟩

theorem Runs.of_agree (h : s.Runs tenant id)
    (hagree : Agree DefinitionRow.mark ScheduleRow.mark s t) : t.Runs tenant id := by
  obtain ⟨r, hr, hat, hactive⟩ := h
  obtain ⟨r', hr', hmark⟩ := hagree.symm.exists_schedule hr
  simp only [ScheduleRow.mark, Prod.mk.injEq] at hmark
  obtain ⟨htenant, hid, -, hsame⟩ := hmark
  refine ⟨r', hr', ScheduleRow.isAt_iff.mpr ?_, hsame.trans hactive⟩
  rw [htenant, hid]
  exact ScheduleRow.isAt_iff.mp hat

end Store

namespace Scheduler

variable {δ : Type} {sch : Scheduler δ} {tenant id : Int} {spec : ScheduleSpec} {now : Instant}

/-! ## Creating -/

/-- A process that creates a schedule of one of `reports`, each given by its tenant and id, or has
done so; and the report that it owes a refresh. -/
inductive Creating (sch : Scheduler δ) (reports : Int × Int → Prop) :
    Option (Int × Int) → Process (World δ) Bool → Prop
  | asked {d : Definition} (user : Int) (spec : ScheduleSpec) (now : Instant)
      (hd : reports (d.tenant, d.id)) : Creating sch reports none (succeeds (sch.create d user spec now))
  | saved (tenant report : Int) : Creating sch reports (some (tenant, report))
      (.step (refreshScheduled tenant report).run fun _ => .done true)
  | ended (ok : Bool) : Creating sch reports none (.done ok)

/-- **All that a step of a creation can do**: it saves a new schedule of a report that it owes a
refresh from then on, or saves nothing, or refreshes. -/
theorem Creating.step_cases {reports : Int × Int → Prop} {owed : Option (Int × Int)}
    {p p' : Process (World δ) Bool} {w w' : World δ} (hp : Creating sch reports owed p)
    (h : Step p w p' w') :
    (owed = none ∧ w' = w ∧ Creating sch reports none p') ∨
    (∃ new : Schedule, owed = none ∧ reports (new.tenant, new.report) ∧
      w'.store = (w.store.insertScheduleWithinCap new sch.engine.limits.maxActiveSchedules).2 ∧
      Creating sch reports (some (new.tenant, new.report)) p') ∨
    ∃ tenant report, owed = some (tenant, report) ∧ w' = Scheduler.refreshed tenant report w ∧
      Creating sch reports none p' := by
  cases hp with
  | @asked d user spec now hd =>
    unfold create nextRun at h
    rw [succeeds_ofExcept_bind] at h
    cases hcheck : spec.check with
    | error e =>
      rw [hcheck] at h
      exact absurd h Process.not_step_done
    | ok _ =>
      rw [hcheck] at h
      dsimp only at h
      rw [succeeds_ofExcept_bind] at h
      cases hnext : spec.recurrence.next now with
      | error e =>
        rw [hnext] at h
        exact absurd h Process.not_step_done
      | ok next =>
        rw [hnext] at h
        change Step (succeeds (World.orFail _ (World.onStore _) >>= _)) w p' w' at h
        rw [succeeds_onStore_bind] at h
        obtain ⟨rfl, rfl⟩ := h.eq
        rw [World.run_onStore]
        dsimp only
        rcases hanswer : (w.store.insertScheduleWithinCap (.new d.id d.tenant user spec next now)
          sch.engine.limits.maxActiveSchedules).1 with e | _ | saved
        · rw [Store.insertScheduleWithinCap_of_not_saved fun saved => by simp [hanswer]]
          exact .inl ⟨rfl, rfl, .ended false⟩
        · rw [Store.insertScheduleWithinCap_of_not_saved fun saved => by simp [hanswer]]
          exact .inl ⟨rfl, rfl, .ended false⟩
        · exact .inr (.inl ⟨_, rfl, hd, rfl, .saved d.tenant d.id⟩)
  | saved tenant report =>
    obtain ⟨rfl, rfl⟩ := h.eq
    exact .inr (.inr ⟨tenant, report, rfl, rfl, .ended true⟩)
  | ended ok => exact absurd h Process.not_step_done

/-- What has ended owes nothing. -/
theorem Creating.owed_of_ended {reports : Int × Int → Prop} {notes : List (Option (Int × Int))}
    {ps : List (Process (World δ) Bool)} (h : List.Forall₂ (Creating sch reports) notes ps)
    (hended : ∀ p ∈ ps, p.Ended) : ∀ owed ∈ notes, owed = none := by
  induction h with
  | nil => simp
  | cons hp _ ih =>
    rw [List.forall_mem_cons] at hended ⊢
    refine ⟨?_, ih hended.2⟩
    cases hp with
    | asked => rfl
    | saved =>
      obtain ⟨ok, hdone⟩ := hended.1
      cases hdone
    | ended => rfl

/-! ## The store in between -/

/-- The report that a deactivation owes a refresh. -/
def StopStage.Owes (tenant : Int) (d : StopStage) (k : Int × Int) : Prop :=
  ∃ report, d = .stopped report ∧ k = (tenant, report)

/-- The store beside an update, a deactivation and others that create schedules, while no stop is
lost: what the update and the deactivation have read of the schedule is still so. -/
structure Orderly (cap : Nat) (reports : Int × Int → Prop) (tenant id : Int) (u : UpdateStage)
    (d : StopStage) (notes : List (Option (Int × Int))) (w : World δ) : Prop where
  coherent : w.store.CoherentExcept cap fun k => some k ∈ notes ∨ d.Owes tenant k
  reports : ∀ k, reports k → ∃ row ∈ w.store.definitions, row.tenant = k.1 ∧ row.id = k.2
  found : u = .asked ∧ d = .asked ∨ ∃ r ∈ w.store.schedules, r.isAt tenant id = true
  ties : ∀ report, d = .read report → w.store.Ties tenant id report
  read : ∀ next active, u = .read next active → d.hasStopped = false →
    ∀ r ∈ w.store.schedules, r.isAt tenant id = true → r.active = active
  stopped : d.hasStopped = true → ¬ w.store.Runs tenant id

/-- The schedule was stopped, and the update has made it active again. -/
def Resumed (tenant id : Int) (u : UpdateStage) (d : StopStage) (w : World δ) : Prop :=
  w.store.Runs tenant id ∧ (∃ next, u = .written next) ∧ d.hasStopped = true

section Steps

variable {cap : Nat} {reports : Int × Int → Prop} {u : UpdateStage} {d : StopStage}
  {notes : List (Option (Int × Int))} {p p' : Process (World δ) Bool} {w w' : World δ}

/-- **A step of the update** loses the stop only if it writes that the schedule is active after
the schedule was stopped. -/
theorem Orderly.update_step (h : Orderly cap reports tenant id u d notes w)
    (hp : u.IsAt sch tenant id spec now p) (hstep : Step p w p' w') :
    UpdateStage.refused.IsAt sch tenant id spec now p' ∨
      ∃ u' : UpdateStage, u'.IsAt sch tenant id spec now p' ∧
        (Orderly cap reports tenant id u' d notes w' ∨ Resumed tenant id u' d w') := by
  rcases UpdateStage.step_cases hp hstep with ⟨rfl, rfl, hp' | ⟨s, next, -, -, hget, hp'⟩⟩
    | ⟨next, active, rfl, rfl, hp' | ⟨hp', saved, hsaved⟩⟩
  · exact .inl hp'
  -- the schedule is read
  · obtain ⟨row, hrow, hat, hread⟩ := Store.row_of_getSchedule hget
    refine .inr ⟨_, hp', .inl { h with
      found := .inr ⟨row, hrow, hat⟩
      read := fun next' active heq _ r hr hrat => ?_ }⟩
    cases heq
    have hsame : r = row := by
      refine h.coherent.numbered.eq_of_id hr hrow ?_
      rw [(ScheduleRow.isAt_iff.mp hrat).2, (ScheduleRow.isAt_iff.mp hat).2]
    rw [hsame, (ScheduleRow.info_of_read? hread).1]
  · exact .inl hp'
  -- the schedule is written
  · refine .inr ⟨_, hp', ?_⟩
    obtain ⟨row, hrow, hat, -⟩ := Store.row_of_getSchedule hsaved
    by_cases hlost : d.hasStopped = true ∧ active = true
    · obtain ⟨hstopped, rfl⟩ := hlost
      obtain ⟨r, hr, rfl⟩ := List.mem_map.mp hrow
      refine .inr ⟨⟨_, hrow, hat, ?_⟩, ⟨next, rfl⟩, hstopped⟩
      split at hat
      · rename_i hrat
        rw [if_pos hrat]
        rfl
      · contradiction
    -- otherwise it is as active as it was
    have hactive : ∀ r ∈ w.store.schedules, r.isAt tenant id = true → r.active = active := by
      cases hd : d.hasStopped with
      | false => exact h.read next active rfl hd
      | true =>
        obtain rfl : active = false := Bool.eq_false_iff.mpr fun hactive => hlost ⟨hd, hactive⟩
        exact Store.not_runs_iff.mp (h.stopped hd)
    have hagree : Store.Agree _ _ w.store (sch.revised tenant id spec next active w).store :=
      agree_revised hactive
    exact .inl {
      coherent := h.coherent.of_agree hagree
      reports := h.reports
      found := .inr ⟨row, hrow, hat⟩
      ties := fun report hreport => (h.ties report hreport).of_agree hagree
      read := nofun
      stopped := fun hd hruns => h.stopped hd (hruns.of_agree hagree.symm) }

/-- **A step of the deactivation.** -/
theorem Orderly.stop_step (h : Orderly cap reports tenant id u d notes w)
    (hp : d.IsAt sch tenant id p) (hstep : Step p w p' w') :
    StopStage.refused.IsAt sch tenant id p' ∨
      ∃ d' : StopStage, d'.IsAt sch tenant id p' ∧ Orderly cap reports tenant id u d' notes w' := by
  rcases StopStage.step_cases hp hstep with ⟨rfl, rfl, hp' | ⟨s, hget, hp'⟩⟩
    | ⟨report, rfl, rfl, hp' | ⟨hp', r, hr, hat⟩⟩ | ⟨report, rfl, rfl, hp'⟩
  · exact .inl hp'
  -- the schedule is read
  · obtain ⟨row, hrow, hat, -⟩ := Store.row_of_getSchedule hget
    refine .inr ⟨_, hp', {
      coherent := h.coherent.mono fun k hk => ?_
      reports := h.reports
      found := .inr ⟨row, hrow, hat⟩
      ties := fun report hreport => ?_
      read := fun next active hread _ => h.read next active hread rfl
      stopped := nofun }⟩
    · exact hk.imp_right fun ⟨_, heq, _⟩ => nomatch heq
    · cases hreport
      exact Store.ties_of_getSchedule h.coherent.numbered hget
  · exact .inl hp'
  -- the schedule is stopped
  · refine .inr ⟨_, hp', {
      coherent := (h.coherent.stopSchedule (h.ties report rfl) _).mono fun k hk => ?_
      reports := by
        rw [stopped_eq]
        exact h.reports
      found := .inr ?_
      ties := nofun
      read := nofun
      stopped := fun _ => not_runs_stopped w }⟩
    · rcases hk with (hk | ⟨_, heq, -⟩) | rfl
      · exact .inl hk
      · cases heq
      · exact .inr ⟨report, rfl, rfl⟩
    · rw [stopped_eq]
      refine ⟨_, List.mem_map_of_mem hr, ?_⟩
      rw [if_pos hat]
      exact hat
  -- the mark is refreshed
  · refine .inr ⟨_, hp', {
      coherent := (h.coherent.refreshScheduled tenant report).mono fun k hk => ?_
      reports := fun k hk => Store.exists_definition_refreshScheduled (h.reports k hk) tenant report
      found := .inr (h.found.resolve_left nofun)
      ties := nofun
      read := nofun
      stopped := fun _ => h.stopped rfl }⟩
    obtain ⟨howed | ⟨_, heq, rfl⟩, hne⟩ := hk
    · exact .inl howed
    · cases heq
      exact absurd rfl hne

/-- A new schedule is saved. It is another one, so what was read stays true. -/
theorem Orderly.insertScheduleWithinCap {before after : List (Option (Int × Int))}
    (h : Orderly cap reports tenant id u d (before ++ none :: after) w) {new : Schedule}
    (hnew : reports (new.tenant, new.report))
    (hstore : w'.store = (w.store.insertScheduleWithinCap new cap).2) :
    Orderly cap reports tenant id u d (before ++ some (new.tenant, new.report) :: after) w' := by
  have hold : ¬ (u = .asked ∧ d = .asked) → ∀ r ∈ w'.store.schedules,
      r.isAt tenant id = true → r ∈ w.store.schedules := by
    intro hread r hr hat
    rw [hstore] at hr
    exact h.coherent.mem_of_insertScheduleWithinCap (h.found.resolve_left hread) hr hat
  exact {
    coherent := by
      rw [hstore]
      refine (h.coherent.insertScheduleWithinCap (h.reports _ hnew)).mono fun k hk => ?_
      simp only [List.mem_append, List.mem_cons, reduceCtorEq, false_or] at hk ⊢
      rcases hk with ((hk | hk) | hk) | rfl
      · exact .inl (.inl hk)
      · exact .inl (.inr (.inr hk))
      · exact .inr hk
      · exact .inl (.inr (.inl rfl))
    reports := by
      rw [hstore, Store.insertScheduleWithinCap_definitions]
      exact h.reports
    found := by
      refine h.found.imp_right fun ⟨r, hr, hat⟩ => ⟨r, ?_, hat⟩
      rw [hstore]
      exact Store.mem_insertScheduleWithinCap hr new cap
    ties := by
      intro report hreport r hr hat
      exact h.ties report hreport r (hold (by simp [hreport]) r hr hat) hat
    read := by
      intro next active hread hd r hr hat
      exact h.read next active hread hd r (hold (by simp [hread]) r hr hat) hat
    stopped := by
      rintro hd ⟨r, hr, hat, hactive⟩
      have hread : ¬ (u = .asked ∧ d = .asked) := by
        rintro ⟨-, rfl⟩
        cases hd
      exact h.stopped hd ⟨r, hold hread r hr hat, hat, hactive⟩ }

/-- **A step of a creation.** -/
theorem Orderly.create_step {before after : List (Option (Int × Int))}
    {owed : Option (Int × Int)}
    (h : Orderly sch.engine.limits.maxActiveSchedules reports tenant id u d
      (before ++ owed :: after) w) (hp : Creating sch reports owed p) (hstep : Step p w p' w') :
    ∃ owed', Creating sch reports owed' p' ∧
      Orderly sch.engine.limits.maxActiveSchedules reports tenant id u d
        (before ++ owed' :: after) w' := by
  rcases Creating.step_cases hp hstep with ⟨rfl, rfl, hp'⟩ | ⟨new, rfl, hnew, hstore, hp'⟩
    | ⟨tenant', report, rfl, rfl, hp'⟩
  · exact ⟨_, hp', h⟩
  · exact ⟨_, hp', h.insertScheduleWithinCap hnew hstore⟩
  -- the mark is refreshed
  · refine ⟨_, hp', { h with
      coherent := (h.coherent.refreshScheduled tenant' report).mono fun k hk => ?_
      reports := fun k hk =>
        Store.exists_definition_refreshScheduled (h.reports k hk) tenant' report }⟩
    obtain ⟨howed, hne⟩ := hk
    simp only [List.mem_append, List.mem_cons, reduceCtorEq, false_or, Option.some.injEq, hne]
      at howed ⊢
    exact howed

/-- **A lost stop stays lost**, whatever the others do. -/
theorem Resumed.others_step {owed : Option (Int × Int)} (h : Resumed tenant id u d w)
    (hp : Creating sch reports owed p) (hstep : Step p w p' w') :
    ∃ owed', Creating sch reports owed' p' ∧ Resumed tenant id u d w' := by
  obtain ⟨hruns, hdone⟩ := h
  rcases Creating.step_cases hp hstep with ⟨-, rfl, hp'⟩ | ⟨new, -, -, hstore, hp'⟩
    | ⟨tenant', report, -, rfl, hp'⟩
  · exact ⟨_, hp', hruns, hdone⟩
  · refine ⟨_, hp', hruns.mono fun r hr => ?_, hdone⟩
    rw [hstore]
    exact Store.mem_insertScheduleWithinCap hr new _
  · exact ⟨_, hp', hruns, hdone⟩

theorem Resumed.stop_step (h : Resumed tenant id u d w) (hp : d.IsAt sch tenant id p)
    (hstep : Step p w p' w') :
    ∃ d' : StopStage, d'.IsAt sch tenant id p' ∧ Resumed tenant id u d' w' := by
  obtain ⟨hruns, hwritten, hstopped⟩ := h
  rcases StopStage.step_cases hp hstep with ⟨rfl, -⟩ | ⟨report, rfl, -⟩ | ⟨report, rfl, rfl, hp'⟩
  · cases hstopped
  · cases hstopped
  · exact ⟨.refreshed, hp', hruns, hwritten, rfl⟩

theorem Resumed.not_update_step (h : Resumed tenant id u d w)
    (hp : u.IsAt sch tenant id spec now p) : ¬ Step p w p' w' := by
  obtain ⟨-, ⟨next, rfl⟩, -⟩ := h
  obtain rfl : p = _ := hp
  exact Process.not_step_done

end Steps

/-! ## Any order of the steps -/

variable {w₀ w : World δ}

/-- An update, a deactivation and creations, each as far as it has come. Where one of the first two
was refused, nothing is said. -/
def Together (sch : Scheduler δ) (tenant id : Int) (spec : ScheduleSpec) (now : Instant)
    (reports : Int × Int → Prop) (p q : Process (World δ) Bool)
    (creates : List (Process (World δ) Bool)) (w : World δ) : Prop :=
  UpdateStage.refused.IsAt sch tenant id spec now p ∨ StopStage.refused.IsAt sch tenant id q ∨
    ∃ (u : UpdateStage) (d : StopStage) (notes : List (Option (Int × Int))),
      u.IsAt sch tenant id spec now p ∧ d.IsAt sch tenant id q ∧
      List.Forall₂ (Creating sch reports) notes creates ∧
      (Orderly sch.engine.limits.maxActiveSchedules reports tenant id u d notes w ∨
        Resumed tenant id u d w)

/-- **An update, a deactivation and creations**, in any order of their steps. -/
theorem together_of_interleaved {reports : Int × Int → Prop} {p q : Process (World δ) Bool}
    {creates ps : List (Process (World δ) Bool)}
    (hstart : w₀.store.Settled sch.engine.limits.maxActiveSchedules)
    (hreports : ∀ k, reports k → ∃ row ∈ w₀.store.definitions, row.tenant = k.1 ∧ row.id = k.2)
    (hcreates : ∀ p ∈ creates, Creating sch reports none p)
    (h : Interleaved (succeeds (sch.update tenant id spec now) :: succeeds (sch.deactivate tenant id)
      :: creates) w₀ (p :: q :: ps) w) :
    Together sch tenant id spec now reports p q ps w := by
  refine Interleaved.beside (fun {p q rs p' s t} hP hstep => ?_)
    (fun {p q rs q' s t} hP hstep => ?_)
    (fun {p q before after r r' s t} hP hstep => ?_) h ?_
  · obtain hrefused | hrefused | ⟨u, d, notes, hu, hd, hnotes, horderly | hresumed⟩ := hP
    · obtain rfl : p = _ := hrefused
      exact absurd hstep Process.not_step_done
    · exact .inr (.inl hrefused)
    · rcases horderly.update_step hu hstep with hrefused | ⟨u', hu', hw⟩
      · exact .inl hrefused
      · exact .inr (.inr ⟨u', d, notes, hu', hd, hnotes, hw⟩)
    · exact absurd hstep (hresumed.not_update_step hu)
  · obtain hrefused | hrefused | ⟨u, d, notes, hu, hd, hnotes, horderly | hresumed⟩ := hP
    · exact .inl hrefused
    · obtain rfl : q = _ := hrefused
      exact absurd hstep Process.not_step_done
    · rcases horderly.stop_step hd hstep with hrefused | ⟨d', hd', hw⟩
      · exact .inr (.inl hrefused)
      · exact .inr (.inr ⟨u, d', notes, hu, hd', hnotes, .inl hw⟩)
    · obtain ⟨d', hd', hw⟩ := hresumed.stop_step hd hstep
      exact .inr (.inr ⟨u, d', notes, hu, hd', hnotes, .inr hw⟩)
  · obtain hrefused | hrefused | ⟨u, d, notes, hu, hd, hnotes, hw⟩ := hP
    · exact .inl hrefused
    · exact .inr (.inl hrefused)
    obtain ⟨notesBefore, owed, notesAfter, rfl, hbefore, hr, hafter⟩ :=
      Process.forall₂_append_cons hnotes
    obtain horderly | hresumed := hw
    · obtain ⟨owed', hr', hw'⟩ := horderly.create_step hr hstep
      exact .inr (.inr ⟨u, d, _, hu, hd, List.rel_append hbefore (.cons hr' hafter), .inl hw'⟩)
    · obtain ⟨owed', hr', hw'⟩ := hresumed.others_step hr hstep
      exact .inr (.inr ⟨u, d, _, hu, hd, List.rel_append hbefore (.cons hr' hafter), .inr hw'⟩)
  · refine .inr (.inr ⟨.asked, .asked, creates.map fun _ => none, rfl, rfl, ?_, .inl ?_⟩)
    · rw [List.forall₂_map_left_iff, List.forall₂_same]
      exact hcreates
    · exact {
        coherent := hstart.mono fun _ => False.elim
        reports := hreports
        found := .inl ⟨rfl, rfl⟩
        ties := nofun
        read := nofun
        stopped := nofun }

/-- **What an update and a deactivation of a schedule that both succeed leave behind**, while
others create schedules. Either the stop is lost: the schedule is active, and where nobody creates a
schedule, it was so before. Or the schedule is not active and the store is coherent, and where
nobody creates a schedule, it is what the two leave one after the other. -/
theorem stop_kept_or_lost
    (hclock : ∀ n, (Time.parseRfc3339? (Time.rfc3339Micros (sch.engine.host.clock n))).isSome = true)
    (hstart : w₀.store.Settled sch.engine.limits.maxActiveSchedules)
    {creates ended : List (Process (World δ) Bool)}
    (hcreates : ∀ p ∈ creates, ∃ (d : Definition) (user : Int) (spec : ScheduleSpec) (now : Instant),
      (∃ row ∈ w₀.store.definitions, row.tenant = d.tenant ∧ row.id = d.id) ∧
        p = succeeds (sch.create d user spec now))
    (h : Interleaved (succeeds (sch.update tenant id spec now) :: succeeds (sch.deactivate tenant id)
      :: creates) w₀ (.done true :: .done true :: ended) w) (hended : ∀ p ∈ ended, p.Ended) :
    (w.store.Runs tenant id ∧ (creates = [] → w₀.store.Runs tenant id)) ∨
      ¬ w.store.Runs tenant id ∧ w.store.Coherent sch.engine.limits.maxActiveSchedules ∧
      (creates = [] → w = (World.perform (sch.deactivate tenant id)
        (World.perform (sch.update tenant id spec now) w₀).2).2) := by
  have hboth := fun halone : creates = [] => by
    obtain rfl := halone
    obtain rfl : ended = [] := List.length_eq_zero_iff.mp (by simpa using h.length_eq)
    exact sequential_or_runs hclock h
  let reports : Int × Int → Prop := fun k =>
    ∃ row ∈ w₀.store.definitions, row.tenant = k.1 ∧ row.id = k.2
  have hcreating : ∀ p ∈ creates, Creating sch reports none p := by
    intro p hp
    obtain ⟨d, user, spec, now, hd, rfl⟩ := hcreates p hp
    exact .asked user spec now hd
  rcases together_of_interleaved hstart (fun _ hk => hk) hcreating h with hrefused | hrefused
    | ⟨u, d, notes, -, hd, hnotes, horderly | ⟨hruns, -⟩⟩
  · cases hrefused
  · cases hrefused
  · obtain rfl := StopStage.refreshed_of_succeeded hd
    have hstopped := horderly.stopped rfl
    -- all have ended, so nothing is owed any more
    have hsettled : w.store.Settled sch.engine.limits.maxActiveSchedules := by
      refine horderly.coherent.mono fun k hk => ?_
      rcases hk with hk | ⟨_, heq, -⟩
      · cases Creating.owed_of_ended hnotes hended _ hk
      · cases heq
    refine .inr ⟨hstopped, hsettled.coherent, fun halone => ?_⟩
    exact ((hboth halone).resolve_left fun hruns => hstopped hruns.2).2
  · refine .inl ⟨hruns, fun halone => ?_⟩
    exact ((hboth halone).resolve_right fun hstopped => hstopped.1 hruns).1

/-! ## A stop lost -/

/-- An operation that succeeds alone, while others wait. -/
theorem interleaved_succeeds {α : Type} {op : Op δ α} {a : α} {w w' : World δ}
    (h : World.perform op w = (.ok a, w')) (before after : List (Process (World δ) Bool)) :
    Interleaved (before ++ succeeds op :: after) w (before ++ .done true :: after) w' := by
  have hrun : (succeeds op).run w = (true, w') := by
    rw [run_succeeds, ← World.perform, h]
    rfl
  have hinterleaved := Process.interleaved_run before after (succeeds op) w
  rw [hrun] at hinterleaved
  exact hinterleaved

/-- An update may read the schedule before others take their steps and write it after them. -/
theorem interleaved_update {others others' : List (Process (World δ) Bool)} {w w' : World δ}
    {s saved : Schedule} {next : Instant} (hcheck : spec.check = .ok ())
    (hget : w.store.getSchedule tenant id = .ok (some s))
    (hnext : spec.recurrence.next now = .ok next) (hothers : Interleaved others w others' w')
    (hsaved : (sch.revised tenant id spec next s.active w').store.getSchedule tenant id
      = .ok (some saved)) :
    Interleaved (succeeds (sch.update tenant id spec now) :: others) w (.done true :: others')
      (sch.revised tenant id spec next s.active w') := by
  obtain ⟨rfl, rfl⟩ := Store.isAt_of_getSchedule hget
  unfold update nextRun
  rw [succeeds_ofExcept_bind, hcheck]
  dsimp only
  rw [succeeds_get_bind]
  refine .head (.mk _ _ w) ?_
  dsimp only
  rw [hget]
  dsimp only
  rw [succeeds_ofExcept_bind, hnext]
  refine (hothers.cons _).trans ?_
  change Interleaved (succeeds (World.orFail _ (World.onStoreNow _ _)) :: others') w' _ _
  rw [succeeds_onStoreNow]
  refine .head (.mk _ _ w') ?_
  rw [World.run_onStoreNow]
  dsimp only
  have hwritten : (w'.store.updateSchedule (s.withSpec spec next)
      (sch.engine.host.clock w'.readings)).2
      = (sch.revised s.tenant s.id spec next s.active w').store :=
    Store.updateSchedule_withSpec s spec next _
  have hanswer : (w'.store.updateSchedule (s.withSpec spec next)
      (sch.engine.host.clock w'.readings)).1 = .ok saved := by
    rw [Store.updateSchedule_eq_ok, hwritten]
    exact hsaved
  rw [hanswer, hwritten]
  exact .refl _ _

/-- The schedule of the first report is stopped. -/
def closed (w : World Unit) : World Unit := refreshed 1 1 (shopScheduler.stopped 1 1 w)

/-- The second report, every day at eight. -/
def everyMorningInstead : Schedule :=
  { Schedule.new 2 1 1 dailyAtEight firstMorning newYear with id := 2 }

/-- The second report is scheduled. -/
def replaced (w : World Unit) : World Unit := refreshed 1 2 { w with store := { w.store with
  schedules := w.store.schedules ++ [.ofSchedule everyMorningInstead], lastSchedule := 2 } }

section Closed

variable {w : World Unit} {r : ScheduleRow} (hrows : w.store.schedules = [r])
  (hat : r.isAt 1 1 = true)

include hrows hat

theorem schedules_closed : (closed w).store.schedules = [r.stopped newYear] := by
  rw [closed, stopped_eq]
  change w.store.schedules.map _ = _
  rw [hrows, List.map_singleton, if_pos hat]
  rfl

/-- There is room for a schedule once the first one is stopped. -/
theorem perform_create_closed (hlast : w.store.lastSchedule = 1) :
    World.perform (shopScheduler.create (salesReport 2 none) 1 dailyAtEight newYear) (closed w)
      = (.ok everyMorningInstead, replaced (closed w)) := by
  have hclosed := schedules_closed hrows hat
  have hlastClosed : (closed w).store.lastSchedule = 1 := by
    rw [closed, stopped_eq]
    exact hlast
  have hids : Numbered ((closed w).store.schedules.map (·.id)) (closed w).store.lastSchedule := by
    rw [hclosed, hlastClosed, List.map_singleton]
    change Numbered [r.id] 1
    rw [(ScheduleRow.isAt_iff.mp hat).2]
    exact ⟨by decide, by decide⟩
  have hroom : (closed w).store.countActive 1 < 1 := by
    rw [Store.countActive, hclosed, List.countP_singleton, if_neg (by simp [ScheduleRow.stopped])]
    exact Nat.one_pos
  have hsaved : (closed w).store.insertScheduleWithinCap
      (.new 2 1 1 dailyAtEight firstMorning newYear) 1 = (.ok (some everyMorningInstead),
        { (closed w).store with
          schedules := (closed w).store.schedules ++ [.ofSchedule everyMorningInstead]
          lastSchedule := 2 }) := by
    rw [Store.insertScheduleWithinCap_of_legible hids hroom (legible_new_dailyAtEight 2),
      hlastClosed]
    rfl
  have hnext : dailyAtEight.recurrence.next newYear = .ok firstMorning := rfl
  have hperform : World.perform (shopScheduler.create (salesReport 2 none) 1 dailyAtEight newYear)
      (closed w) = _ := perform_create rfl hnext (congrArg Prod.fst hsaved)
  have hreplaced : replaced (closed w) = refreshed 1 2 { closed w with
      store := ((closed w).store.insertScheduleWithinCap
        (.new 2 1 1 dailyAtEight firstMorning newYear) 1).2 } := by
    rw [hsaved, replaced]
  rw [hperform, hreplaced]
  rfl

end Closed

/-- The update has read that the schedule is active, and writes that at the end. -/
theorem interleaved_lost {others others' : List (Process (World Unit) Bool)} {w : World Unit}
    {rows : List ScheduleRow} (hothers : Interleaved others office others' w)
    (hrows : w.store.schedules = (ScheduleRow.ofSchedule everyMorning).stopped newYear :: rows) :
    Interleaved (succeeds (shopScheduler.update 1 1 dailyAtSeven firstMorning) :: others) office
      (.done true :: others') (shopScheduler.revised 1 1 dailyAtSeven secondSeven true w) := by
  have hnext : dailyAtSeven.recurrence.next firstMorning = .ok secondSeven := rfl
  have hsaved : (shopScheduler.revised 1 1 dailyAtSeven secondSeven true w).store.getSchedule 1 1
      = .ok (some everyMorningAtSeven) := by
    refine Store.getSchedule_of_find ?_ (ScheduleRow.read?_ofSchedule everyMorningAtSeven_legible)
    rw [find?_revised, hrows, List.find?_cons_of_pos]
    · rfl
    · rfl
  exact interleaved_update rfl getSchedule_office hnext hothers hsaved

theorem schedules_revised {w : World Unit} {rows : List ScheduleRow}
    (hrows : w.store.schedules = (ScheduleRow.ofSchedule everyMorning).stopped newYear :: rows)
    (hothers : ∀ r ∈ rows, ¬ r.isAt 1 1 = true) :
    (shopScheduler.revised 1 1 dailyAtSeven secondSeven true w).store.schedules
      = .ofSchedule everyMorningAtSeven :: rows := by
  change w.store.schedules.map _ = _
  rw [hrows, List.map_cons, List.map_congr_left fun r hr => if_neg (hothers r hr), List.map_id']
  rfl

/-- The schedule is stopped while others wait. -/
theorem interleaved_closed (after : List (Process (World Unit) Bool)) :
    Interleaved (succeeds (shopScheduler.deactivate 1 1) :: after) office (.done true :: after)
      (closed office) :=
  interleaved_succeeds (perform_deactivate getSchedule_office) [] after

theorem schedules_closed_office :
    (closed office).store.schedules = [(ScheduleRow.ofSchedule everyMorning).stopped newYear] :=
  schedules_closed rfl rfl

/-- No report is marked once the schedule is stopped. -/
theorem scheduled_closed_office : ∀ d ∈ (closed office).store.definitions, d.scheduled = false := by
  intro d hd
  have hstopped : (shopScheduler.stopped 1 1 office).store.hasActiveSchedule 1 1 = false := by
    rw [Store.hasActiveSchedule, ← show (closed office).store.schedules
      = (shopScheduler.stopped 1 1 office).store.schedules from rfl, schedules_closed_office]
    rfl
  obtain ⟨d₀, hd₀, rfl⟩ := List.mem_map.mp hd
  rw [hstopped]
  rcases List.mem_cons.mp hd₀ with rfl | hd₀
  · rfl
  · rw [List.mem_singleton.mp hd₀]
    rfl

/-- The schedule of the second report is created once the first one is stopped. -/
theorem interleaved_replaced : Interleaved [succeeds (shopScheduler.deactivate 1 1),
    succeeds (shopScheduler.create (salesReport 2 none) 1 dailyAtEight newYear)] office
    [.done true, .done true] (replaced (closed office)) :=
  (interleaved_closed _).trans
    (interleaved_succeeds (perform_create_closed rfl rfl rfl) [.done true] [])

theorem schedules_replaced_office : (replaced (closed office)).store.schedules
    = (ScheduleRow.ofSchedule everyMorning).stopped newYear :: [.ofSchedule everyMorningInstead] := by
  change (closed office).store.schedules ++ _ = _
  rw [schedules_closed_office]
  rfl

/-- The update and the deactivation of a schedule may both succeed and leave it active, with a
report that is not marked; and where a schedule is created in between, there is one more than the
limit allows. -/
theorem exists_lost_stop : office.store.Settled 1 ∧
    (∃ w : World Unit, Interleaved [succeeds (shopScheduler.update 1 1 dailyAtSeven firstMorning),
        succeeds (shopScheduler.deactivate 1 1)] office [.done true, .done true] w ∧
      w.store.Runs 1 1 ∧ ∀ d ∈ w.store.definitions, d.scheduled = false) ∧
    ∃ w : World Unit, Interleaved [succeeds (shopScheduler.update 1 1 dailyAtSeven firstMorning),
        succeeds (shopScheduler.deactivate 1 1),
        succeeds (shopScheduler.create (salesReport 2 none) 1 dailyAtEight newYear)] office
        [.done true, .done true, .done true] w ∧
      w.store.countActive 1 = 2 := by
  refine ⟨settled_office, ⟨_, interleaved_lost (interleaved_closed []) schedules_closed_office,
    ⟨.ofSchedule everyMorningAtSeven, ?_, rfl, rfl⟩, scheduled_closed_office⟩,
    _, interleaved_lost interleaved_replaced schedules_replaced_office, ?_⟩
  · rw [schedules_revised schedules_closed_office (by simp)]
    exact List.mem_cons_self
  · rw [Store.countActive, schedules_revised schedules_replaced_office (by
      simp [ScheduleRow.ofSchedule, everyMorningInstead, ScheduleRow.isAt])]
    rfl

/-- In that run, too, the stop is lost or all is as it should be. -/
theorem lost_stop_office : ∃ w : World Unit,
    Interleaved [succeeds (shopScheduler.update 1 1 dailyAtSeven firstMorning),
      succeeds (shopScheduler.deactivate 1 1),
      succeeds (shopScheduler.create (salesReport 2 none) 1 dailyAtEight newYear)] office
      [.done true, .done true, .done true] w ∧
    (w.store.Runs 1 1 ∨ ¬ w.store.Runs 1 1 ∧ w.store.Coherent 1) := by
  have hlost := interleaved_lost interleaved_replaced schedules_replaced_office
  have hcreates : ∀ p ∈ [succeeds (shopScheduler.create (salesReport 2 none) 1 dailyAtEight newYear)],
      ∃ (d : Definition) (user : Int) (spec : ScheduleSpec) (now : Instant),
        (∃ row ∈ office.store.definitions, row.tenant = d.tenant ∧ row.id = d.id) ∧
          p = succeeds (shopScheduler.create d user spec now) := by
    intro p hp
    exact ⟨salesReport 2 none, 1, dailyAtEight, newYear,
      ⟨_, List.mem_cons_of_mem _ List.mem_cons_self, rfl, rfl⟩, List.mem_singleton.mp hp⟩
  have hclock : ∀ n, (Time.parseRfc3339? (Time.rfc3339Micros
      (shopScheduler.engine.host.clock n))).isSome = true := fun _ =>
    Option.isSome_of_eq_some newYear_legible
  have hended : ∀ p ∈ [(.done true : Process (World Unit) Bool)], p.Ended := by simp [Process.Ended]
  refine ⟨_, hlost, ?_⟩
  rcases stop_kept_or_lost hclock settled_office hcreates hlost hended with
    ⟨hruns, -⟩ | ⟨hstopped, hcoherent, -⟩
  · exact .inl hruns
  · exact .inr ⟨hstopped, hcoherent⟩

end Scheduler

end TenantReports
