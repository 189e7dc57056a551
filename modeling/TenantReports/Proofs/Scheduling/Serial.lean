import TenantReports.Proofs.Scheduling.Stages

/-!
# An update beside a deactivation

As long as the update has not written, only the deactivation has done anything. What the update
writes after a stop it might as well have written before, but for whether the schedule is active:
that is what it read, and the schedule is active again if that was before the stop. Otherwise the
two leave what they leave one after the other.

## Main definitions

* `Scheduler.StopStage.after`: what a deactivation at a stage makes of a world
* `Scheduler.Standing`: where the two stand, and the world in between

## Main results

* `Scheduler.Standing.update_step`, `Scheduler.Standing.stop_step`: what their steps preserve
* `Scheduler.sequential_or_runs`: the schedule is active at the end, or the two took their turns
-/

namespace TenantReports.Scheduler

open Process (Interleaved Step)
open Time (Instant)

variable {δ : Type} (sch : Scheduler δ) (tenant id : Int) (spec : ScheduleSpec) (now : Instant)
  (w₀ : World δ) (r₀ : ScheduleRow)

/-- What a deactivation at a stage makes of a world. -/
def StopStage.after (report : Int) : StopStage → World δ → World δ
  | .stopped _, w => sch.stopped tenant id w
  | .refreshed, w => Scheduler.refreshed tenant report (sch.stopped tenant id w)
  | _, w => w

/-- The deactivation is about the report of a row. -/
def StopStage.IsOf (report : Int) (d : StopStage) : Prop :=
  ∀ report', d = .read report' ∨ d = .stopped report' → report' = report

/-- A wish that is accepted, and its next run. -/
def Accepted (next : Instant) : Prop :=
  spec.check = .ok () ∧ spec.recurrence.next now = .ok next

/-- Where an update and a deactivation stand that began in `w₀`, where the row of the schedule was
`r₀`. As long as the update has not written, only the deactivation has done anything. Afterwards
the world is as if the update had written first, unless the schedule is active although it was
stopped. Of refused updates nothing is said. -/
def Standing (d : StopStage) (w : World δ) : UpdateStage → Prop
  | .asked => w = d.after sch tenant id r₀.report w₀ ∧ (d ≠ .asked → r₀.read?.isSome = true)
  | .read next active => w = d.after sch tenant id r₀.report w₀ ∧ r₀.read?.isSome = true ∧
      Accepted spec now next ∧ (active = r₀.active ∨ active = false ∧ d.hasStopped = true)
  | .written next => r₀.read?.isSome = true ∧ Accepted spec now next ∧
      (∃ active at_, (r₀.revised spec next active at_).read?.isSome = true) ∧
      (w = d.after sch tenant id r₀.report (sch.revised tenant id spec next r₀.active w₀) ∨
        (r₀.active = true ∧ w.store.Runs tenant id) ∧ d.hasStopped = true)
  | .refused => False

variable {sch tenant id spec now w₀ r₀} {p p' : Process (World δ) Bool} {w w' : World δ}
  {u : UpdateStage} {d : StopStage}

theorem StopStage.after_of_not_hasStopped (h : d.hasStopped = false) (report : Int) (w : World δ) :
    d.after sch tenant id report w = w := by
  cases d <;> first | rfl | cases h

/-- What is written back as inactive after a stop might as well have been written before it. -/
theorem revised_after (h : d.hasStopped = true) (report : Int) (next : Instant) (active : Bool)
    (w : World δ) :
    sch.revised tenant id spec next false (d.after sch tenant id report w)
      = d.after sch tenant id report (sch.revised tenant id spec next active w) := by
  cases d with
  | stopped _ => exact (stopped_revised active w).symm
  | refreshed =>
    change sch.revised tenant id spec next false (refreshed tenant report (sch.stopped tenant id w))
      = refreshed tenant report (sch.stopped tenant id (sch.revised tenant id spec next active w))
    rw [stopped_revised, refreshed_revised (not_runs_stopped w)]
  | _ => cases h

section Found

variable (hfind : w₀.store.schedules.find? (ScheduleRow.isAt tenant id) = some r₀)

include hfind

/-- The row of the schedule beside a deactivation. -/
theorem find?_after (d : StopStage) (report : Int) :
    (d.after sch tenant id report w₀).store.schedules.find? (ScheduleRow.isAt tenant id)
      = some (if d.hasStopped then r₀.stopped (sch.engine.host.clock w₀.readings) else r₀) := by
  have hstopped : (sch.stopped tenant id w₀).store.schedules.find? (ScheduleRow.isAt tenant id)
      = some (r₀.stopped (sch.engine.host.clock w₀.readings)) := by
    rw [find?_stopped, hfind, Option.map_some]
  cases d with
  | stopped _ => exact hstopped
  | refreshed => exact hstopped
  | _ => exact hfind

/-- **A step of the update.** -/
theorem Standing.update_step (h : Standing sch tenant id spec now w₀ r₀ d w u)
    (hp : u.IsAt sch tenant id spec now p) (hstep : Step p w p' w') :
    UpdateStage.refused.IsAt sch tenant id spec now p' ∨
      ∃ u' : UpdateStage, u'.IsAt sch tenant id spec now p' ∧
        Standing sch tenant id spec now w₀ r₀ d w' u' := by
  rcases UpdateStage.step_cases hp hstep with ⟨rfl, rfl, hp' | ⟨s, next, hcheck, hnext, hget, hp'⟩⟩
    | ⟨next, active, rfl, rfl, hp' | ⟨hp', saved, hsaved⟩⟩
  · exact .inl hp'
  -- the schedule is read: it is stopped by then, or its row is the first one
  · obtain ⟨hw, hreadable⟩ := h
    obtain ⟨r, hrow, hread⟩ := readRow_eq_ok_some.mp hget
    have hinfo := (ScheduleRow.info_of_read? hread).1
    rw [hw, find?_after hfind, Option.some.injEq] at hrow
    refine .inr ⟨_, hp', hw, ?_⟩
    cases hd : d.hasStopped with
    | true =>
      rw [if_pos hd] at hrow
      refine ⟨hreadable fun hasked => ?_, ⟨hcheck, hnext⟩, .inr ⟨?_, rfl⟩⟩
      · rw [hasked] at hd
        cases hd
      · rw [hinfo, ← hrow]
        rfl
    | false =>
      rw [if_neg (by simp [hd])] at hrow
      subst hrow
      refine ⟨Option.isSome_of_eq_some hread, ⟨hcheck, hnext⟩, .inl ?_⟩
      rw [hinfo]
  · exact .inl hp'
  -- the schedule is written
  · obtain ⟨rfl, hreadable, haccepted, hactive⟩ := h
    obtain ⟨r, hrow, hread⟩ := readRow_eq_ok_some.mp hsaved
    obtain ⟨at_, hr⟩ : ∃ at_, r = r₀.revised spec next active at_ := by
      rw [find?_revised, find?_after hfind, Option.map_some, Option.some.injEq] at hrow
      refine ⟨sch.engine.host.clock (d.after sch tenant id r₀.report w₀).readings,
        hrow.symm.trans ?_⟩
      split <;> rfl
    refine .inr ⟨_, hp', hreadable, haccepted, ⟨active, at_, ?_⟩, ?_⟩
    · rw [← hr]
      exact Option.isSome_of_eq_some hread
    cases hd : d.hasStopped with
    | false =>
      left
      rw [hd] at hactive
      rw [StopStage.after_of_not_hasStopped hd, StopStage.after_of_not_hasStopped hd,
        hactive.resolve_right (by simp)]
    | true =>
      cases active with
      | false => exact .inl (revised_after hd r₀.report next r₀.active w₀)
      | true =>
        have hfirst : r₀.active = true := (hactive.resolve_right (by simp)).symm
        refine .inr ⟨⟨hfirst, r, List.mem_of_find?_eq_some hrow, List.find?_some hrow, ?_⟩, rfl⟩
        rw [hr]
        rfl

/-- **A step of the deactivation.** -/
theorem Standing.stop_step (h : Standing sch tenant id spec now w₀ r₀ d w u)
    (hof : d.IsOf r₀.report) (hp : d.IsAt sch tenant id p) (hstep : Step p w p' w') :
    StopStage.refused.IsAt sch tenant id p' ∨
      ∃ d' : StopStage, d'.IsAt sch tenant id p' ∧ d'.IsOf r₀.report ∧
        Standing sch tenant id spec now w₀ r₀ d' w' u := by
  rcases StopStage.step_cases hp hstep with ⟨rfl, rfl, hp' | ⟨s, hget, hp'⟩⟩
    | ⟨report, rfl, rfl, hp' | ⟨hp', -⟩⟩ | ⟨report, rfl, rfl, hp'⟩
  · exact .inl hp'
  -- the schedule is read: it is written back by then, or its row is the first one
  · obtain ⟨r, hrow, hread⟩ := readRow_eq_ok_some.mp hget
    have hinfo := (ScheduleRow.info_of_read? hread).1
    have hstands : r.report = r₀.report ∧
        Standing sch tenant id spec now w₀ r₀ (.read s.report) w' u := by
      cases u with
      | asked =>
        obtain ⟨rfl, -⟩ := h
        rw [hfind, Option.some.injEq] at hrow
        subst hrow
        exact ⟨rfl, rfl, fun _ => Option.isSome_of_eq_some hread⟩
      | read next active =>
        obtain ⟨rfl, hreadable, haccepted, hactive⟩ := h
        rw [hfind, Option.some.injEq] at hrow
        subst hrow
        exact ⟨rfl, rfl, hreadable, haccepted, hactive⟩
      | written next =>
        obtain ⟨hreadable, haccepted, hlegible, hworld | ⟨-, hstopped⟩⟩ := h
        · rw [hworld, StopStage.after_of_not_hasStopped rfl, find?_revised, hfind,
            Option.map_some, Option.some.injEq] at hrow
          subst hrow
          exact ⟨rfl, hreadable, haccepted, hlegible, .inl hworld⟩
        · cases hstopped
      | refused => exact h.elim
    refine .inr ⟨_, hp', ?_, hstands.2⟩
    rintro report (heq | heq)
    · cases heq
      rw [hinfo, hstands.1]
    · cases heq
  · exact .inl hp'
  -- the schedule is stopped
  · refine .inr ⟨_, hp', fun report' hreport' => ?_, ?_⟩
    · rcases hreport' with heq | heq
      · cases heq
      · cases heq
        exact hof report (.inl rfl)
    cases u with
    | asked =>
      obtain ⟨rfl, hreadable⟩ := h
      exact ⟨rfl, fun _ => hreadable nofun⟩
    | read next active =>
      obtain ⟨rfl, hreadable, haccepted, hactive | ⟨-, hstopped⟩⟩ := h
      · exact ⟨rfl, hreadable, haccepted, .inl hactive⟩
      · cases hstopped
    | written next =>
      obtain ⟨hreadable, haccepted, hlegible, rfl | ⟨-, hstopped⟩⟩ := h
      · exact ⟨hreadable, haccepted, hlegible, .inl rfl⟩
      · cases hstopped
    | refused => exact h.elim
  -- the mark is refreshed
  · obtain rfl : report = r₀.report := hof report (.inr rfl)
    refine .inr ⟨_, hp', by simp [StopStage.IsOf], ?_⟩
    cases u with
    | asked =>
      obtain ⟨rfl, hreadable⟩ := h
      exact ⟨rfl, fun _ => hreadable nofun⟩
    | read next active =>
      obtain ⟨rfl, hreadable, haccepted, hactive⟩ := h
      exact ⟨rfl, hreadable, haccepted, hactive⟩
    | written next =>
      obtain ⟨hreadable, haccepted, hlegible, rfl | hruns⟩ := h
      · exact ⟨hreadable, haccepted, hlegible, .inl rfl⟩
      · exact ⟨hreadable, haccepted, hlegible, .inr hruns⟩
    | refused => exact h.elim

/-- **An update and a deactivation**, in any order of their steps. -/
theorem standing_of_interleaved {q' : Process (World δ) Bool}
    (h : Interleaved [succeeds (sch.update tenant id spec now), succeeds (sch.deactivate tenant id)]
      w₀ [p', q'] w) :
    UpdateStage.refused.IsAt sch tenant id spec now p' ∨ StopStage.refused.IsAt sch tenant id q' ∨
      ∃ (u : UpdateStage) (d : StopStage), u.IsAt sch tenant id spec now p' ∧
        d.IsAt sch tenant id q' ∧ d.IsOf r₀.report ∧
        Standing sch tenant id spec now w₀ r₀ d w u := by
  let P : Process (World δ) Bool → Process (World δ) Bool → List (Process (World δ) Bool) →
      World δ → Prop := fun p q rs w => rs = [] ∧ (UpdateStage.refused.IsAt sch tenant id spec now p
    ∨ StopStage.refused.IsAt sch tenant id q ∨ ∃ (u : UpdateStage) (d : StopStage),
      u.IsAt sch tenant id spec now p ∧ d.IsAt sch tenant id q ∧ d.IsOf r₀.report ∧
        Standing sch tenant id spec now w₀ r₀ d w u)
  have hend : P p' q' [] w := by
    refine Interleaved.beside (fun {p q rs p' s t} hP hstep => ?_)
      (fun {p q rs q' s t} hP hstep => ?_) (fun {p q before after r r' s t} hP _ => ?_) h ?_
    · obtain ⟨hnil, hrefused | hrefused | ⟨u, d, hu, hd, hof, hstands⟩⟩ := hP
      · obtain rfl : p = _ := hrefused
        exact absurd hstep Process.not_step_done
      · exact ⟨hnil, .inr (.inl hrefused)⟩
      · refine ⟨hnil, (hstands.update_step hfind hu hstep).imp_right fun ⟨u', hu', hstands'⟩ => ?_⟩
        exact .inr ⟨u', d, hu', hd, hof, hstands'⟩
    · obtain ⟨hnil, hrefused | hrefused | ⟨u, d, hu, hd, hof, hstands⟩⟩ := hP
      · exact ⟨hnil, .inl hrefused⟩
      · obtain rfl : q = _ := hrefused
        exact absurd hstep Process.not_step_done
      · rcases hstands.stop_step hfind hof hd hstep with hrefused | ⟨d', hd', hof', hstands'⟩
        · exact ⟨hnil, .inr (.inl hrefused)⟩
        · exact ⟨hnil, .inr (.inr ⟨u, d', hu, hd', hof', hstands'⟩)⟩
    · exact absurd hP.1 (by simp)
    · exact ⟨rfl, .inr (.inr ⟨.asked, .asked, rfl, rfl, by simp [StopStage.IsOf], rfl, nofun⟩)⟩
  exact hend.2

/-- One after the other, the update first. -/
theorem perform_deactivate_perform_update {next : Instant} (hreadable : r₀.read?.isSome = true)
    (haccepted : Accepted spec now next)
    (hrevised : (r₀.revised spec next r₀.active
      (sch.engine.host.clock w₀.readings)).read?.isSome = true) :
    (World.perform (sch.deactivate tenant id)
      (World.perform (sch.update tenant id spec now) w₀).2).2
      = StopStage.refreshed.after sch tenant id r₀.report
        (sch.revised tenant id spec next r₀.active w₀) := by
  obtain ⟨s, hread⟩ := Option.isSome_iff_exists.mp hreadable
  obtain ⟨saved, hsaved⟩ := Option.isSome_iff_exists.mp hrevised
  have hget := Store.getSchedule_of_find hfind hread
  obtain ⟨rfl, rfl⟩ := Store.isAt_of_getSchedule hget
  have hactive : s.active = r₀.active := by rw [(ScheduleRow.info_of_read? hread).1]
  have hwritten : sch.written (s.withSpec spec next) w₀
      = sch.revised s.tenant s.id spec next r₀.active w₀ := by
    rw [written, World.run_onStoreNow, revised, ← hactive]
    dsimp only
    rw [Store.updateSchedule_withSpec]
  -- the row after the update is found and read back
  have hfind' : (sch.revised s.tenant s.id spec next r₀.active w₀).store.schedules.find?
      (ScheduleRow.isAt s.tenant s.id) = some (r₀.revised spec next r₀.active
        (sch.engine.host.clock w₀.readings)) := by
    rw [find?_revised, hfind, Option.map_some]
  have hget' := Store.getSchedule_of_find hfind' hsaved
  have hanswer : (w₀.store.updateSchedule (s.withSpec spec next)
      (sch.engine.host.clock w₀.readings)).1 = .ok saved := by
    rw [Store.updateSchedule_eq_ok, Store.updateSchedule_withSpec, hactive]
    exact hget'
  rw [perform_update haccepted.1 hget haccepted.2 hanswer, hwritten,
    perform_deactivate hget']
  dsimp only
  rw [(ScheduleRow.info_of_read? hsaved).1]
  rfl

end Found

/-- Who can update a schedule has found its row. -/
theorem exists_find?_of_interleaved {q' : Process (World δ) Bool}
    (h : Interleaved [succeeds (sch.update tenant id spec now), succeeds (sch.deactivate tenant id)]
      w₀ [.done true, q'] w) :
    ∃ r₀, w₀.store.schedules.find? (ScheduleRow.isAt tenant id) = some r₀ := by
  by_contra hnone
  have hget : ∀ s, w₀.store.getSchedule tenant id ≠ .ok (some s) := by
    intro s hs
    obtain ⟨r, hrow, -⟩ := readRow_eq_ok_some.mp hs
    exact hnone ⟨r, hrow⟩
  -- both operations begin, and nothing ever happens
  let P : Process (World δ) Bool → Process (World δ) Bool → List (Process (World δ) Bool) →
      World δ → Prop := fun p q rs w => rs = [] ∧ w = w₀ ∧
    (UpdateStage.asked.IsAt sch tenant id spec now p ∨
      UpdateStage.refused.IsAt sch tenant id spec now p) ∧
    (StopStage.asked.IsAt sch tenant id q ∨ StopStage.refused.IsAt sch tenant id q)
  have hend : P (.done true) q' [] w := by
    refine Interleaved.beside (fun {p q rs p' s t} hP hstep => ?_)
      (fun {p q rs q' s t} hP hstep => ?_) (fun {p q before after r r' s t} hP _ => ?_) h ?_
    · obtain ⟨hnil, rfl, hp | hp, hq⟩ := hP
      · rcases UpdateStage.step_cases hp hstep with ⟨-, rfl, hp' | ⟨s, -, -, -, hs, -⟩⟩
          | ⟨_, _, heq, -⟩
        · exact ⟨hnil, rfl, .inr hp', hq⟩
        · exact absurd hs (hget s)
        · cases heq
      · obtain rfl : p = _ := hp
        exact absurd hstep Process.not_step_done
    · obtain ⟨hnil, rfl, hp, hq | hq⟩ := hP
      · rcases StopStage.step_cases hq hstep with ⟨-, rfl, hq' | ⟨s, hs, -⟩⟩ | ⟨_, heq, -⟩
          | ⟨_, heq, -⟩
        · exact ⟨hnil, rfl, hp, .inr hq'⟩
        · exact absurd hs (hget s)
        · cases heq
        · cases heq
      · obtain rfl : q = _ := hq
        exact absurd hstep Process.not_step_done
    · exact absurd hP.1 (by simp)
    · exact ⟨rfl, rfl, .inl rfl, .inl rfl⟩
  obtain ⟨-, -, hdone | hdone, -⟩ := hend
  · obtain ⟨next, hwritten⟩ := UpdateStage.written_of_succeeded hdone
    cases hwritten
  · cases hdone

/-- **An update beside a deactivation leaves what they leave one after the other**, unless the
schedule is active at the end as it was at first. -/
theorem sequential_or_runs
    (hclock : ∀ n, (Time.parseRfc3339? (Time.rfc3339Micros (sch.engine.host.clock n))).isSome = true)
    (h : Interleaved [succeeds (sch.update tenant id spec now), succeeds (sch.deactivate tenant id)]
      w₀ [.done true, .done true] w) :
    (w₀.store.Runs tenant id ∧ w.store.Runs tenant id) ∨
      ¬ w.store.Runs tenant id ∧ w = (World.perform (sch.deactivate tenant id)
        (World.perform (sch.update tenant id spec now) w₀).2).2 := by
  obtain ⟨r₀, hfind⟩ := exists_find?_of_interleaved h
  rcases standing_of_interleaved hfind h with hrefused | hrefused | ⟨u, d, hu, hd, -, hstands⟩
  · cases hrefused
  · cases hrefused
  obtain ⟨next, rfl⟩ := UpdateStage.written_of_succeeded hu
  obtain rfl := StopStage.refreshed_of_succeeded hd
  obtain ⟨hreadable, haccepted, ⟨active, at_, hlegible⟩, hworld | ⟨⟨hfirst, hruns⟩, -⟩⟩ := hstands
  · right
    refine ⟨?_, ?_⟩
    · rw [hworld]
      exact not_runs_stopped (sch.revised tenant id spec next r₀.active w₀)
    rw [perform_deactivate_perform_update hfind hreadable haccepted]
    · exact hworld
    · exact ScheduleRow.isSome_read?_revised (hclock _) hlegible
  · exact .inl ⟨⟨r₀, List.mem_of_find?_eq_some hfind, List.find?_some hfind, hfirst⟩, hruns⟩

end TenantReports.Scheduler
