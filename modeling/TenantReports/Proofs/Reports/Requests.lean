import TenantReports.Proofs.Run.Steps
import TenantReports.Reports

/-!
# Requests

What clients ask of the reports of a tenant, as data. Most requests do no more to the store than
one of a few edits, step by step; an update of a report and the requests about schedules read the
store first and write what follows from that.

## Main definitions

* `Request`, `Request.Answer`: what can be asked, and what it answers
* `Reports.operation`: a request as an operation
* `Reports.process`, `Reports.handle`: a request as a process, and the world after it
* `Store.Edit`: the edits
* `Request.IsEdit`: the requests that do nothing but such edits

## Main results

* `Reports.handle_save`, `Reports.store_handle_update`, …: requests that succeed
* `Reports.each_edit`: every step of such a request is an edit
-/

namespace TenantReports

open Time (Instant)
open Process (each_forget)
open World (Storewise)

/-- What clients can ask. -/
inductive Request where
  | save (tenant user : Int) (draft : Draft)
  | update (tenant report : Int) (draft : Draft)
  | clone (tenant user report : Int) (name : Option String)
  | delete (tenant report : Int)
  | get (tenant report : Int)
  | list (tenant user : Int)
  | setDefault (tenant report : Int)
  | toggleFavorite (tenant report : Int)
  | analyze (tenant report : Int)
  | test (tenant : Int) (draft : Draft)
  | run (report : Int) (request : RunRequest)
  | executions (tenant report : Int) (limit : Nat)
  | createSchedule (tenant user report : Int) (spec : ScheduleSpec)
  | updateSchedule (tenant id : Int) (spec : ScheduleSpec)
  | deactivateSchedule (tenant id : Int)
  | deleteSchedule (tenant id : Int)
  | listSchedules (tenant : Int) (report : Option Int)

/-- What a request answers if it succeeds. -/
def Request.Answer : Request → Type
  | .save .. | .update .. | .clone .. | .get .. | .setDefault .. => Definition
  | .delete .. | .deactivateSchedule .. | .deleteSchedule .. => Unit
  | .list .. => List Definition
  | .toggleFavorite .. => Bool
  | .analyze .. => Analysis
  | .test .. => Preview
  | .run .. => RunOutcome
  | .executions .. => List Execution
  | .createSchedule .. | .updateSchedule .. => Schedule
  | .listSchedules .. => List Schedule

namespace Reports

variable {δ : Type} (r : Reports δ)

/-- A request as an operation. -/
def operation : (q : Request) → Op δ q.Answer
  | .save tenant user draft => r.save tenant user draft
  | .update tenant report draft => r.update tenant report draft
  | .clone tenant user report name => r.clone tenant user report name
  | .delete tenant report => delete tenant report
  | .get tenant report => get tenant report
  | .list tenant user => list tenant user
  | .setDefault tenant report => setDefault tenant report
  | .toggleFavorite tenant report => toggleFavorite tenant report
  | .analyze tenant report => r.analyze tenant report
  | .test tenant draft => r.test tenant draft
  | .run report request => r.run report request
  | .executions tenant report limit => executions tenant report limit
  | .createSchedule tenant user report spec => r.createSchedule tenant user report spec
  | .updateSchedule tenant id spec => r.updateSchedule tenant id spec
  | .deactivateSchedule tenant id => r.deactivateSchedule tenant id
  | .deleteSchedule tenant id => deleteSchedule tenant id
  | .listSchedules tenant report => listSchedules tenant report

/-- A request as a process. -/
def process : Request → Process (World δ) Unit
  | .save tenant user draft => (r.save tenant user draft).run.forget
  | .update tenant report draft => (r.update tenant report draft).run.forget
  | .clone tenant user report name => (r.clone tenant user report name).run.forget
  | .delete tenant report => (delete tenant report : Op δ Unit).run.forget
  | .get tenant report => (get tenant report : Op δ Definition).run.forget
  | .list tenant user => (list tenant user : Op δ (List Definition)).run.forget
  | .setDefault tenant report => (setDefault tenant report : Op δ Definition).run.forget
  | .toggleFavorite tenant report => (toggleFavorite tenant report : Op δ Bool).run.forget
  | .analyze tenant report => (r.analyze tenant report).run.forget
  | .test tenant draft => (r.test tenant draft).run.forget
  | .run report request => (r.run report request).run.forget
  | .executions tenant report limit =>
    (executions tenant report limit : Op δ (List Execution)).run.forget
  | .createSchedule tenant user report spec =>
    (r.createSchedule tenant user report spec).run.forget
  | .updateSchedule tenant id spec => (r.updateSchedule tenant id spec).run.forget
  | .deactivateSchedule tenant id => (r.deactivateSchedule tenant id).run.forget
  | .deleteSchedule tenant id => (deleteSchedule tenant id : Op δ Unit).run.forget
  | .listSchedules tenant report =>
    (listSchedules tenant report : Op δ (List Schedule)).run.forget

/-- The world after a request that nothing else interrupts. -/
def handle (q : Request) (w : World δ) : World δ := ((r.process q).run w).2

end Reports

/-! ## Requests alone -/

namespace Reports

variable {δ : Type} {r : Reports δ} {w : World δ} {tenant report : Int}

/-- Reading a report leaves the world as it is. -/
theorem run_get (tenant report : Int) (w : World δ) :
    (get tenant report : Op δ Definition).run.run w
      = (match w.store.getDefinition tenant report with
        | .ok (some d) => .ok d
        | .ok none => .error (.notFound report)
        | .error e => .error (.store e), w) := by
  unfold get onStore
  rw [World.run_op_bind, World.run_orFail, World.run_onStore]
  dsimp only
  rcases w.store.getDefinition tenant report with e | _ | d <;> rfl

/-- What follows from a report that was read. -/
theorem leaves_get_bind {α : Type} {P : World δ → Prop} {f : Definition → Op δ α} (herror : P w)
    (hok : ∀ d, w.store.getDefinition tenant report = .ok (some d) → World.Leaves (f d) w P) :
    World.Leaves (get tenant report >>= f) w P := by
  refine World.leaves_bind (fun e _ => ?_) fun d hd => ?_
  · rw [run_get]
    exact herror
  rw [run_get] at hd ⊢
  refine hok d ?_
  rcases hread : w.store.getDefinition tenant report with e | _ | d'
  all_goals
    rw [hread] at hd
    cases hd
  rfl

/-- A draft without problems is saved. -/
theorem handle_save {user : Int} {draft : Draft} {layout : Layout}
    (hbuild : r.validator.build draft true = .ok layout) :
    r.handle (.save tenant user draft) w = { w with
      readings := w.readings + 1
      store := (w.store.insertDefinition (applyDraft (.new tenant user (draft.name.getD "") layout
        (r.engine.host.clock w.readings)) draft)).2 } := by
  unfold handle process
  rw [Process.run_forget]
  unfold save build
  rw [World.run_op_bind, World.run_orFail, hbuild]
  rfl

section Read

variable {d : Definition} (hget : w.store.getDefinition tenant report = .ok (some d))

include hget

/-- A draft without problems replaces a report that can be read. -/
theorem store_handle_update {draft : Draft} {layout : Layout}
    (hbuild : r.validator.build draft true = .ok layout) :
    (r.handle (.update tenant report draft) w).store
      = (w.store.updateDefinition { applyDraft d draft with layout }
        (r.engine.host.clock w.readings)).2 := by
  unfold handle process
  rw [Process.run_forget]
  unfold update build
  rw [World.run_op_bind, World.run_orFail, hbuild]
  change ((get tenant report >>= _ : Op δ Definition).run.run w).2.store = _
  rw [World.run_op_bind, run_get, hget]
  change ((World.orFail _ _ : Op δ Definition).run.run w).2.store = _
  rw [World.run_orFail, World.run_onStoreNow]

theorem store_handle_setDefault :
    (r.handle (.setDefault tenant report) w).store = (w.store.setDefault tenant report).2 := by
  unfold handle process
  rw [Process.run_forget]
  unfold setDefault
  rw [World.run_op_bind, run_get, hget]
  change ((World.orFail _ _ : Op δ Definition).run.run w).2.store = _
  rw [World.run_orFail, World.run_onStore]

/-- A schedule is made of a report that can be read. -/
theorem handle_createSchedule {user : Int} {spec : ScheduleSpec} :
    r.handle (.createSchedule tenant user report spec) w
      = (World.perform (r.scheduler.create d user spec (r.engine.host.clock w.readings))
        { w with readings := w.readings + 1 }).2 := by
  unfold handle process
  rw [Process.run_forget]
  unfold createSchedule
  rw [World.run_op_bind, run_get, hget]
  change ((World.always _ >>= _ : Op δ Schedule).run.run w).2 = _
  rw [World.run_op_bind, World.run_always]
  change ((World.orFail _ _ : Op δ Schedule).run.run _).2 = _
  rw [World.run_orFail]
  rfl

end Read

end Reports

/-! ## Edits -/

/-- What most requests do to the store in a step: a run goes on, a report is added that is neither
a default one nor scheduled, a report is taken away or marked. -/
inductive Store.Edit (s : Store) : Store → Prop
  | ran {t : Store} (h : s.Ran t) : Edit s t
  | insert {d : Definition} (hdefault : d.isDefault = false) (hscheduled : d.scheduled = false) :
    Edit s (s.insertDefinition d).2
  | delete (tenant id : Int) : Edit s (s.deleteDefinition tenant id).2
  | setDefault (tenant id : Int) : Edit s (s.setDefault tenant id).2
  | toggleFavorite (tenant id : Int) : Edit s (s.toggleFavorite tenant id).2

/-- A request that does nothing but edits. -/
def Request.IsEdit : Request → Prop
  | .update .. | .createSchedule .. | .updateSchedule .. | .deactivateSchedule ..
  | .deleteSchedule .. => False
  | _ => True

namespace Reports

variable {δ α : Type} {R : World δ → World δ → Prop}

theorem each_onStore {f : Store → Except StoreError α × Store} {R : Store → Store → Prop}
    (h : ∀ s, R s (f s).2) : (onStore f : Op δ α).run.Each (Storewise R) :=
  World.each_orFail (World.each_onStore h)

theorem each_onSchedules {op : Scheduler.Op δ α} (h : op.run.Each R) :
    (onSchedules op).run.Each R :=
  World.each_orFail h

theorem each_build {R : World δ → World δ → Prop} (r : Reports δ) (d : Draft) (full : Bool) :
    (r.build d full).run.Each R :=
  World.each_orFail trivial

theorem each_now {R : Store → Store → Prop} (hrefl : ∀ s, R s s) (r : Reports δ) :
    (r.now).Each (Storewise R) :=
  World.each_elsewhere hrefl fun _ => rfl

theorem each_get (hrefl : ∀ w, R w w) (tenant report : Int) :
    (get tenant report : Op δ Definition).run.Each R := by
  unfold get onStore
  refine World.each_op_bind (World.each_orFail (Process.each_atomically.mpr hrefl)) fun found => ?_
  cases found <;> trivial

theorem edit_refl (s : Store) : s.Edit s := .ran (.refl s)

/-- **Most requests edit the store**, step by step. -/
theorem each_edit (r : Reports δ) {q : Request} (hq : q.IsEdit) :
    (r.process q).Each (Storewise Store.Edit) := by
  have hreading : ∀ {α : Type} (f : Store → Except StoreError α),
      (onStore fun s => (f s, s) : Op δ α).run.Each (Storewise Store.Edit) := fun f =>
    each_onStore edit_refl
  have hget : ∀ tenant report,
      (get tenant report : Op δ Definition).run.Each (Storewise Store.Edit) :=
    each_get fun w => edit_refl w.store
  have hnow : (World.always r.now : Op δ Instant).run.Each (Storewise Store.Edit) :=
    World.each_always (each_now edit_refl r)
  cases q with
  | save tenant user draft =>
    refine each_forget (World.each_op_bind (each_build r draft true) fun layout => ?_)
    refine World.each_op_bind hnow fun now => each_onStore fun s => ?_
    exact .insert rfl rfl
  | clone tenant user report name =>
    refine each_forget (World.each_op_bind (hget tenant report) fun source => ?_)
    refine World.each_op_bind hnow fun now => each_onStore fun s => ?_
    exact .insert rfl rfl
  | delete tenant report =>
    refine each_forget (World.each_op_bind ?_ fun found => ?_)
    · exact World.each_always (World.each_onStore fun s => .delete tenant report)
    · split <;> trivial
  | get tenant report => exact each_forget (hget tenant report)
  | list tenant user => exact each_forget (hreading _)
  | setDefault tenant report =>
    refine each_forget (World.each_op_bind (hget tenant report) fun _ => each_onStore fun s => ?_)
    exact .setDefault tenant report
  | toggleFavorite tenant report =>
    refine each_forget (World.each_op_bind (hget tenant report) fun _ => each_onStore fun s => ?_)
    exact .toggleFavorite tenant report
  | analyze tenant report =>
    exact each_forget (World.each_op_bind (hget tenant report) fun _ => trivial)
  | test tenant draft =>
    refine each_forget (World.each_op_bind (each_build r draft false) fun layout => ?_)
    refine World.each_always ((r.engine.each_preview layout tenant _).mono fun _ _ h => ?_)
    exact .ran h
  | run report request =>
    refine each_forget (World.each_op_bind (hget request.tenant report) fun d => ?_)
    refine World.each_orFail ((r.engine.each_execute d request).mono fun _ _ h => ?_)
    exact .ran h
  | executions tenant report limit => exact each_forget (hreading _)
  | listSchedules tenant report =>
    exact each_forget (each_onSchedules (World.each_orFail (World.each_ofStore edit_refl)))
  | update | createSchedule | updateSchedule | deactivateSchedule | deleteSchedule =>
    exact hq.elim

end Reports

end TenantReports
