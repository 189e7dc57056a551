import TenantReports.Proofs.Reports.Steps

/-!
# Marks that are owed

A request that makes, stops or takes away a schedule does so in one step and brings the mark of its
report up to date in a later one. In between the report is owed a refresh, and other requests take
steps of their own. So each request has an errand: it may know a schedule that it has read, and it
may owe a report its refresh. At any time the mark of a report is right unless it is owed a refresh.

## Main definitions

* `Store.Marked`: the mark of a report is right
* `Errand`: what a request knows and owes
* `Errand.After`, `Errand.AfterSome`: the errand that comes of a step
* `Attended`: a report while requests go on their errands

## Main results

* `Attended.insert`, `Attended.stop`, `Attended.remove`, `Attended.refresh`: what the calls of
  requests do to it
* `Reports.maintains_insert`, `Reports.maintains_stop`, …: the steps of requests, whatever goes on
  beside them
* `Reports.maintains_errands`: a request owes nothing at its end
-/

namespace TenantReports

open Process (Maintains)
open Time (Instant)

/-! ## Marks -/

namespace Store

variable {s t : Store} {tenant report : Int}

/-- The mark of a scheduled report is right. -/
def Marked (s : Store) (tenant report : Int) : Prop :=
  ∃ row, s.definitionRow? tenant report = some row ∧
    row.scheduled = s.hasActiveSchedule tenant report

/-- The row that is found in a store that agrees. -/
theorem Agree.exists_definitionRow? (h : s.Agree DefinitionRow.mark ScheduleRow.mark t)
    {row : DefinitionRow} (hrow : s.definitionRow? tenant report = some row) :
    ∃ row', t.definitionRow? tenant report = some row' ∧ row'.mark = row.mark := by
  let p : Int × Int × Bool → Bool := fun m => m.1 == tenant && m.2.1 == report
  have hp : ∀ r : DefinitionRow, r.isAt tenant report = p r.mark := fun _ => rfl
  have hsame := map_definitionRow?_eq h.definitions hp
  rw [hrow, Option.map_some, Option.map_eq_some_iff] at hsame
  exact hsame

theorem Marked.of_agree (h : s.Marked tenant report)
    (hagree : s.Agree DefinitionRow.mark ScheduleRow.mark t) : t.Marked tenant report := by
  obtain ⟨row, hrow, hmark⟩ := h
  obtain ⟨row', hrow', hsame⟩ := hagree.exists_definitionRow? hrow
  refine ⟨row', hrow', ?_⟩
  simp only [DefinitionRow.mark, Prod.mk.injEq] at hsame
  rw [hsame.2.2, hmark, hagree.hasActiveSchedule]

/-- A mark is right as long as neither the reports change nor whether one has active schedules. -/
theorem Marked.of_hasActiveSchedule (h : s.Marked tenant report)
    (hdefinitions : t.definitions = s.definitions)
    (hactive : t.hasActiveSchedule tenant report = s.hasActiveSchedule tenant report) :
    t.Marked tenant report := by
  obtain ⟨row, hrow, hmark⟩ := h
  refine ⟨row, ?_, hmark.trans hactive.symm⟩
  unfold definitionRow?
  rw [hdefinitions]
  exact hrow

/-- The row of a report after a refresh of some report. -/
theorem definitionRow?_refreshScheduled (s : Store) (tenant report tenant' report' : Int) :
    (s.refreshScheduled tenant' report').2.definitionRow? tenant report
      = (s.definitionRow? tenant report).map fun r => if r.isAt tenant' report' then
          { r with scheduled := s.hasActiveSchedule tenant' report' } else r := by
  apply definitionRow?_map
  intro r
  split <;> rfl

/-- A refresh makes the mark of its report right, -/
theorem marked_refreshScheduled (h : (s.definitionRow? tenant report).isSome = true) :
    (s.refreshScheduled tenant report).2.Marked tenant report := by
  obtain ⟨row, hrow⟩ := Option.isSome_iff_exists.mp h
  have hat : row.isAt tenant report = true := List.find?_some hrow
  refine ⟨{ row with scheduled := s.hasActiveSchedule tenant report }, ?_, rfl⟩
  rw [definitionRow?_refreshScheduled, hrow, Option.map_some, if_pos hat]

/-- and leaves the others as they are. -/
theorem Marked.refreshScheduled (h : s.Marked tenant report) {tenant' report' : Int}
    (hother : (tenant', report') ≠ (tenant, report)) :
    (s.refreshScheduled tenant' report').2.Marked tenant report := by
  obtain ⟨row, hrow, hmark⟩ := h
  have hat : row.isAt tenant report = true := List.find?_some hrow
  have hnot : ¬ row.isAt tenant' report' = true := by
    intro hat'
    obtain ⟨htenant, hid⟩ := DefinitionRow.isAt_iff.mp hat
    obtain ⟨htenant', hid'⟩ := DefinitionRow.isAt_iff.mp hat'
    apply hother
    rw [← htenant, ← hid, ← htenant', ← hid']
  refine ⟨row, ?_, hmark⟩
  rw [definitionRow?_refreshScheduled, hrow, Option.map_some, if_neg hnot]

end Store

/-! ## Errands -/

/-- What a request about a schedule of a tenant has to keep in mind: which report a schedule that it
read belongs to, or which report it owes a refresh. -/
inductive Errand where
  | idle
  | knows (schedule report : Int)
  | owes (report : Int)

/-- No refresh is owed. -/
def Errand.IsSettled (g : Errand) : Prop := ∀ i, g ≠ .owes i

theorem Errand.isSettled_idle : Errand.idle.IsSettled := fun _ => nofun

/-- The errand after a step that succeeded or failed. -/
def Errand.After {ε α : Type} (note : α → Errand) : Except ε α → Errand → Prop
  | .ok a, g => g = note a
  | .error _, g => g.IsSettled

/-- The same, where nothing may have come of a step that succeeded. -/
def Errand.AfterSome {ε α : Type} (note : α → Errand) : Except ε (Option α) → Errand → Prop
  | .ok (some a), g => g = note a
  | _, g => g.IsSettled

/-- The report is there, and its mark is right unless a request owes it a refresh. What requests
know of schedules stays true. -/
structure Attended {δ : Type} (tenant report : Int) (notes : Multiset Errand) (w : World δ) :
    Prop where
  numbered : Numbered (w.store.schedules.map (·.id)) w.store.lastSchedule
  tied : ∀ id i, .knows id i ∈ notes → w.store.Tied tenant id i
  present : (w.store.definitionRow? tenant report).isSome = true
  marked : .owes report ∉ notes → w.store.Marked tenant report

namespace Attended

variable {δ : Type} {tenant report : Int} {g : Errand} {notes others : Multiset Errand}
  {w w' : World δ}

/-- A step that the marks do not show. -/
theorem of_agree (h : Attended tenant report notes w)
    (hagree : w.store.Agree DefinitionRow.mark ScheduleRow.mark w'.store) :
    Attended tenant report notes w' where
  numbered := by
    have hids := hagree.comp (fun m => m.2.1) fun m => m.2.1
    rw [show w'.store.schedules.map (·.id) = w.store.schedules.map (·.id) from hids.schedules,
      hagree.lastSchedule]
    exact h.numbered
  tied id i hnote := (h.tied id i hnote).of_agree hagree
  present := by
    obtain ⟨row, hrow⟩ := Option.isSome_iff_exists.mp h.present
    obtain ⟨row', hrow', -⟩ := hagree.exists_definitionRow? hrow
    rw [hrow']
    rfl
  marked hnot := (h.marked hnot).of_agree hagree

/-- A step of a request, which brings its note up to date. -/
theorem change (h : Attended tenant report (g ::ₘ others) w) (g' : Errand)
    (hnumbered : Numbered (w'.store.schedules.map (·.id)) w'.store.lastSchedule)
    (htied : ∀ id i, w.store.Tied tenant id i → w'.store.Tied tenant id i)
    (hknows : ∀ id i, g' = .knows id i → w'.store.Tied tenant id i)
    (hpresent : (w'.store.definitionRow? tenant report).isSome = true)
    (hmarked : g' ≠ .owes report → .owes report ∉ others → w'.store.Marked tenant report) :
    Attended tenant report (g' ::ₘ others) w' where
  numbered := hnumbered
  tied id i hnote := by
    rcases Multiset.mem_cons.mp hnote with heq | hmem
    · exact hknows id i heq.symm
    · exact htied id i (h.tied id i (Multiset.mem_cons_of_mem hmem))
  present := hpresent
  marked hnot := by
    rw [Multiset.mem_cons, not_or] at hnot
    exact hmarked (Ne.symm hnot.1) hnot.2

/-- The mark is right if neither the request itself nor another one owes a refresh. -/
theorem marked_of (h : Attended tenant report (g ::ₘ others) w) (hg : g ≠ .owes report)
    (hothers : .owes report ∉ others) : w.store.Marked tenant report := by
  apply h.marked
  rw [Multiset.mem_cons, not_or]
  exact ⟨Ne.symm hg, hothers⟩

/-- A request that owes nothing notes what it knows. -/
theorem note (h : Attended tenant report (g ::ₘ others) w) (hg : g.IsSettled) (g' : Errand)
    (hknows : ∀ id i, g' = .knows id i → w.store.Tied tenant id i) :
    Attended tenant report (g' ::ₘ others) w :=
  h.change g' h.numbered (fun _ _ htied => htied) hknows h.present fun _ hothers =>
    h.marked_of (hg report) hothers

/-- A step that changes the schedules of one report: it is owed a refresh. -/
theorem owe (h : Attended tenant report (g ::ₘ others) w) (hg : g.IsSettled) (i : Int)
    (hdefinitions : w'.store.definitions = w.store.definitions)
    (hnumbered : Numbered (w'.store.schedules.map (·.id)) w'.store.lastSchedule)
    (htied : ∀ id j, w.store.Tied tenant id j → w'.store.Tied tenant id j)
    (hactive : (tenant, report) ≠ (tenant, i) →
      w'.store.hasActiveSchedule tenant report = w.store.hasActiveSchedule tenant report) :
    Attended tenant report (.owes i ::ₘ others) w' := by
  apply h.change _ hnumbered htied
  · exact fun _ _ => nofun
  · unfold Store.definitionRow?
    rw [hdefinitions]
    exact h.present
  · intro hother hothers
    refine (h.marked_of (hg report) hothers).of_hasActiveSchedule hdefinitions (hactive ?_)
    intro heq
    rw [Prod.mk.injEq] at heq
    exact hother (by rw [heq.2])

/-- A new schedule: its report is owed a refresh. -/
theorem insert (h : Attended tenant report (.idle ::ₘ others) w) {new : Schedule}
    (htenant : new.tenant = tenant) {cap : Nat}
    (hstore : w'.store = (w.store.insertScheduleWithinCap new cap).2) :
    Attended tenant report (.owes new.report ::ₘ others) w' := by
  apply h.owe Errand.isSettled_idle
  all_goals rw [hstore]
  · exact Store.insertScheduleWithinCap_definitions _ new cap
  · exact Store.numbered_insertScheduleWithinCap new h.numbered
  · exact fun _ _ htied => htied.insertScheduleWithinCap new cap
  · intro hother
    apply Store.hasActiveSchedule_insertScheduleWithinCap
    rw [htenant]
    exact hother

/-- A schedule is stopped: its report is owed a refresh. -/
theorem stop {id i : Int} (h : Attended tenant report (.knows id i ::ₘ others) w) {now : Instant}
    (hstore : w'.store = (w.store.setScheduleActive tenant id false now).2) :
    Attended tenant report (.owes i ::ₘ others) w' := by
  have htied := h.tied id i (Multiset.mem_cons_self _ _)
  apply h.owe fun _ => nofun
  all_goals rw [hstore]
  · rw [Store.setScheduleActive_snd]
    rfl
  · exact Store.numbered_stopSchedule now h.numbered
  · exact fun _ _ htied' => htied'.stopSchedule tenant id now
  · exact fun hother => htied.ties.hasActiveSchedule_stopSchedule hother now

/-- A schedule is taken away: its report is owed a refresh. -/
theorem remove {id i : Int} (h : Attended tenant report (.knows id i ::ₘ others) w)
    (hstore : w'.store = (w.store.deleteSchedule tenant id).2) :
    Attended tenant report (.owes i ::ₘ others) w' := by
  have htied := h.tied id i (Multiset.mem_cons_self _ _)
  apply h.owe fun _ => nofun
  all_goals rw [hstore]
  · rfl
  · exact h.numbered.sublist (List.filter_sublist.map _)
  · exact fun _ _ htied' => htied'.deleteSchedule tenant id
  · exact htied.ties.hasActiveSchedule_deleteSchedule

/-- A report gets the refresh that it is owed. -/
theorem refresh {i : Int} (h : Attended tenant report (.owes i ::ₘ others) w)
    (hstore : w'.store = (w.store.refreshScheduled tenant i).2) :
    Attended tenant report (.idle ::ₘ others) w' := by
  apply h.change
  · rw [hstore]
    exact h.numbered
  · intro id' i' htied
    rw [hstore]
    exact htied.refreshScheduled tenant i
  · exact fun _ _ => nofun
  · rw [hstore, Store.definitionRow?_refreshScheduled, Option.isSome_map]
    exact h.present
  · intro _ hothers
    rw [hstore]
    by_cases hi : i = report
    · subst hi
      exact Store.marked_refreshScheduled h.present
    · -- the refresh of another report
      apply (h.marked_of (by simpa using hi) hothers).refreshScheduled
      rw [ne_eq, Prod.mk.injEq]
      exact fun heq => hi heq.2

end Attended

namespace Reports

variable {δ : Type} {r : Reports δ} {q : Request} {tenant report : Int}

/-- What follows from a step that succeeded goes on with the errand that came of it. -/
theorem maintains_after_bind {ε α β : Type} {x : World.Op δ ε α} {f : α → World.Op δ ε β}
    {note : α → Errand} {g : Errand}
    (hx : Maintains (Attended tenant report) (Errand.After note) g x.run)
    (hf : ∀ a, Maintains (Attended tenant report) (fun _ g => g.IsSettled) (note a) (f a).run) :
    Maintains (Attended tenant report) (fun _ g => g.IsSettled) g (x >>= f).run := by
  apply World.maintains_op_bind _ hx
  · exact fun _ _ h => h
  · rintro a _ rfl
    exact hf a

/-- A schedule that was read is known. -/
theorem maintains_getSchedule (tenant report id : Int) :
    Maintains (Attended tenant report) (Errand.After fun s => .knows id s.report) .idle
      (Scheduler.get tenant id : Scheduler.Op δ Schedule).run := by
  unfold Scheduler.get
  apply World.maintains_op_bind (Errand.AfterSome fun s => .knows id s.report)
  · refine World.maintains_orFail (Process.maintains_atomically fun others w hw => ?_)
    show ∃ g', Attended tenant report (g' ::ₘ others) w ∧
      Errand.AfterSome (fun s => .knows id s.report)
        ((w.store.getSchedule tenant id).mapError ScheduleError.store) g'
    rcases hread : w.store.getSchedule tenant id with e | _ | s
    · exact ⟨.idle, hw, Errand.isSettled_idle⟩
    · exact ⟨.idle, hw, Errand.isSettled_idle⟩
    · refine ⟨.knows id s.report, hw.note Errand.isSettled_idle _ ?_, rfl⟩
      rintro _ _ ⟨⟩
      exact Store.tied_of_getSchedule hw.numbered hread
  · exact fun _ _ h => h
  · intro found g hg
    cases found with
    | none => exact hg
    | some s => exact hg

/-- The refresh that a report is owed, at the end of a request. -/
theorem maintains_refresh (tenant report i : Int) :
    Maintains (Attended tenant report) (fun _ g => g.IsSettled) (.owes i)
      (World.always (Scheduler.refreshScheduled tenant i) : Scheduler.Op δ Unit).run :=
  World.maintains_always (Process.maintains_atomically fun _ _ hw =>
    ⟨.idle, hw.refresh rfl, Errand.isSettled_idle⟩)

/-- The step that stops a schedule which is known. If it fails, nothing was stopped. -/
theorem maintains_stop (host : Host δ) (tenant report id i : Int) :
    Maintains (Attended tenant report) (Errand.After fun _ => .owes i) (.knows id i)
      (World.orFail ScheduleError.store (World.onStoreNow host fun now store =>
        store.setScheduleActive tenant id false now)).run := by
  refine World.maintains_orFail (Process.maintains_atomically fun others w hw => ?_)
  let now := host.clock w.readings
  let w' : World δ := { w with
    readings := w.readings + 1, store := (w.store.setScheduleActive tenant id false now).2 }
  show ∃ g', Attended tenant report (g' ::ₘ others) w' ∧ Errand.After (fun _ => .owes i)
    ((w.store.setScheduleActive tenant id false now).1.mapError ScheduleError.store) g'
  cases hstop : (w.store.setScheduleActive tenant id false now).1 with
  | ok _ => exact ⟨.owes i, hw.stop rfl, rfl⟩
  | error e =>
    have hsame : w'.store = w.store := Store.setScheduleActive_of_error hstop
    have hnoted := hw.note (fun _ => nofun) .idle fun _ _ => nofun
    refine ⟨.idle, hnoted.of_agree ?_, Errand.isSettled_idle⟩
    rw [hsame]
    exact .refl _

/-- A schedule is stopped, and its report gets its refresh. -/
theorem maintains_deactivate (sch : Scheduler δ) (tenant report id : Int) :
    Maintains (Attended tenant report) (fun _ g => g.IsSettled) .idle
      (sch.deactivate tenant id).run := by
  unfold Scheduler.deactivate
  apply maintains_after_bind (maintains_getSchedule tenant report id)
  intro s
  apply maintains_after_bind (maintains_stop sch.engine.host tenant report id s.report)
  exact fun _ => maintains_refresh tenant report s.report

/-- A schedule is taken away, and its report gets its refresh. -/
theorem maintains_delete (tenant report id : Int) :
    Maintains (Attended tenant report) (fun _ g => g.IsSettled) .idle
      (Scheduler.delete tenant id : Scheduler.Op δ Unit).run := by
  unfold Scheduler.delete
  apply maintains_after_bind (maintains_getSchedule tenant report id)
  intro s
  have hremoves : Maintains (Attended tenant report) (Errand.After fun _ => .owes s.report)
      (.knows id s.report) (World.always (World.onStore fun store =>
        store.deleteSchedule tenant id) : Scheduler.Op δ Bool).run :=
    World.maintains_always (Process.maintains_atomically fun others w hw =>
      ⟨_, hw.remove rfl, rfl⟩)
  exact maintains_after_bind hremoves fun _ => maintains_refresh tenant report s.report

/-- The step that makes a schedule. If there is no room for it, none is made. -/
theorem maintains_insert (report : Int) {new : Schedule} (htenant : new.tenant = tenant)
    (cap : Nat) :
    Maintains (Attended tenant report) (Errand.AfterSome fun _ => .owes new.report) .idle
      (World.orFail ScheduleError.store (World.onStore fun store =>
        store.insertScheduleWithinCap new cap) : Scheduler.Op δ (Option Schedule)).run := by
  refine World.maintains_orFail (Process.maintains_atomically fun others w hw => ?_)
  let w' : World δ := { w with store := (w.store.insertScheduleWithinCap new cap).2 }
  show ∃ g', Attended tenant report (g' ::ₘ others) w' ∧
    Errand.AfterSome (fun _ => .owes new.report)
      ((w.store.insertScheduleWithinCap new cap).1.mapError ScheduleError.store) g'
  by_cases hsaved : ∃ saved, (w.store.insertScheduleWithinCap new cap).1 = .ok (some saved)
  · obtain ⟨saved, hsaved⟩ := hsaved
    rw [hsaved]
    exact ⟨.owes new.report, hw.insert htenant rfl, rfl⟩
  · have hnot : ∀ saved, (w.store.insertScheduleWithinCap new cap).1 ≠ .ok (some saved) :=
      fun saved heq => hsaved ⟨saved, heq⟩
    have hsame : w'.store = w.store := Store.insertScheduleWithinCap_of_not_saved hnot
    refine ⟨.idle, hw.of_agree ?_, ?_⟩
    · rw [hsame]
      exact .refl _
    · rcases hanswer : (w.store.insertScheduleWithinCap new cap).1 with e | _ | saved
      · exact Errand.isSettled_idle
      · exact Errand.isSettled_idle
      · exact absurd hanswer (hnot saved)

/-- A schedule is made, if there is room for it, and its report gets its refresh. -/
theorem maintains_create (sch : Scheduler δ) (report : Int) {d : Definition}
    (htenant : d.tenant = tenant) (user : Int) (spec : ScheduleSpec) (now : Instant) :
    Maintains (Attended tenant report) (fun _ g => g.IsSettled) .idle
      (sch.create d user spec now).run := by
  subst htenant
  unfold Scheduler.create
  -- the wish is checked, and its next run found
  apply Scheduler.maintains_ofExcept_bind fun _ _ => Errand.isSettled_idle
  intro _ _
  apply Scheduler.maintains_ofExcept_bind fun _ _ => Errand.isSettled_idle
  intro next _
  let new := Schedule.new d.id d.tenant user spec next now
  have hnew : new.tenant = d.tenant := rfl
  apply World.maintains_op_bind _ (maintains_insert report hnew _)
  · exact fun _ _ h => h
  · intro saved g hg
    cases saved with
    | none => exact hg
    | some s =>
      obtain rfl : g = .owes d.id := hg
      refine World.maintains_op_bind _ (maintains_refresh d.tenant report d.id) ?_ ?_
      · exact fun _ _ h => h
      · exact fun _ _ h => h

/-- The same for the request. -/
theorem maintains_createSchedule (r : Reports δ) (tenant user report : Int) (spec : ScheduleSpec) :
    Maintains (Attended tenant report) (fun _ g => g.IsSettled) .idle
      (r.createSchedule tenant user report spec).run := by
  unfold createSchedule
  apply World.maintains_op_bind _ (maintains_get tenant report Errand.idle)
  · rintro _ _ ⟨rfl, -⟩
    exact Errand.isSettled_idle
  rintro d _ ⟨rfl, htenant, -⟩
  have hclock : Maintains (Attended tenant report) (Errand.After fun _ => .idle) .idle
      (World.always r.now : Op δ Instant).run :=
    World.maintains_always (Process.maintains_atomically fun others w hw =>
      ⟨.idle, hw.of_agree (.refl _), rfl⟩)
  apply maintains_after_bind hclock
  intro now
  exact World.maintains_orFail (maintains_create r.scheduler report htenant user spec now)

/-- **A request leaves no report without the refresh that it is owed.** -/
theorem maintains_errands (r : Reports δ) (hq : q.Concerns tenant report) :
    Maintains (Attended tenant report) (fun _ g => g.IsSettled) .idle (r.answering q) := by
  by_cases hschedule : q.IsSchedule
  case neg =>
    -- other requests leave schedules and marks alone
    apply maintains_beside hq
    · intro notes w w' hsteps hw
      exact hw.of_agree (hsteps.store.marks hschedule)
    · exact fun _ => Errand.isSettled_idle
  have hsettled : Maintains (Attended tenant report) (fun _ g => g.IsSettled) .idle
      (r.operation q).run := by
    cases q with
    | createSchedule t user i spec =>
      obtain ⟨rfl, rfl⟩ := hq
      exact r.maintains_createSchedule t user i spec
    | deactivateSchedule t id =>
      obtain rfl : t = tenant := hq
      exact World.maintains_orFail (maintains_deactivate r.scheduler t report id)
    | deleteSchedule t id =>
      obtain rfl : t = tenant := hq
      exact World.maintains_orFail (maintains_delete t report id)
    | _ => exact hschedule.elim
  exact hsettled.bind fun _ _ hg => Process.maintains_pure hg

end Reports

end TenantReports
