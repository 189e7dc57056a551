import TenantReports.Proofs.Process.Operations
import TenantReports.Proofs.Store.Rows
import TenantReports.Scheduling.Scheduler

/-!
# Operations on schedules as steps

What is not a step of an operation on schedules depends only on what it was given and on what its
steps have answered so far. Here the parts of operations are written as their steps, for whoever
follows an operation through a state that others change too.

## Main definitions

* `Scheduler.succeeds`: an operation, as a process that tells whether it succeeded

## Main results

* `Scheduler.succeeds_get_bind`: a schedule is read, and what follows depends on it
* `Scheduler.succeeds_onStore_bind`, `Scheduler.succeeds_onStoreNow_bind`: a step on the store,
  and what follows if it does not fail
* `Scheduler.succeeds_refresh`: the last step of most operations
-/

namespace TenantReports.Scheduler

open Time (Instant)
open World (Storewise)

variable {δ α β : Type} {sch : Scheduler δ} {w : World δ} {tenant id : Int}

/-- An operation, as a process that tells whether it succeeded. -/
def succeeds (op : Op δ α) : Process (World δ) Bool := do return (← op.run).isOk

/-! ## Every step -/

theorem each_ofExcept_bind {R : World δ → World δ → Prop}
    {r : Except ScheduleError α} {f : α → Op δ β} (hf : ∀ a, r = .ok a → (f a).run.Each R) :
    (ofExcept r >>= f).run.Each R := by
  cases r with
  | error e => trivial
  | ok a => exact hf a rfl

theorem each_get {R : World δ → World δ → Prop} (hrefl : ∀ w, R w w) (tenant id : Int) :
    (get tenant id : Op δ Schedule).run.Each R := by
  unfold get
  refine World.each_op_bind (World.each_orFail (Process.each_atomically.mpr hrefl)) fun found => ?_
  cases found <;> trivial

/-- A result that is there already needs no note. -/
theorem maintains_ofExcept_bind {γ : Type} {Inv : Multiset γ → World δ → Prop}
    {post : Except ScheduleError β → γ → Prop} {g : γ} {r : Except ScheduleError α}
    {f : α → Op δ β} (herror : ∀ e, r = .error e → post (.error e) g)
    (hok : ∀ a, r = .ok a → Process.Maintains Inv post g (f a).run) :
    Process.Maintains Inv post g (ofExcept r >>= f).run := by
  cases r with
  | error e => exact herror e rfl
  | ok a => exact hok a rfl

/-! ## Parts of operations -/

theorem succeeds_ofExcept_bind (r : Except ScheduleError α) (f : α → Op δ β) :
    succeeds (ofExcept r >>= f) = match r with
      | .ok a => succeeds (f a)
      | .error _ => .done false := by
  cases r <;> rfl

theorem succeeds_get_bind (tenant id : Int) (f : Schedule → Op δ β) :
    succeeds (get tenant id >>= f)
      = .step (fun w => (w.store.getSchedule tenant id, w)) fun answer => match answer with
        | .ok (some s) => succeeds (f s)
        | _ => .done false := by
  change Process.step _ _ = Process.step _ _
  congr 1
  funext answer
  rcases answer with e | _ | s <;> rfl

theorem succeeds_onStore_bind {ε : Type} (cause : ε → ScheduleError)
    (f : Store → Except ε α × Store) (g : α → Op δ β) :
    succeeds (World.orFail cause (World.onStore f) >>= g)
      = .step (World.onStore f).run fun answer => match answer with
        | .ok a => succeeds (g a)
        | .error _ => .done false := by
  change Process.step _ _ = Process.step _ _
  congr 1
  funext answer
  cases answer <;> rfl

theorem succeeds_onStoreNow_bind {ε : Type} (cause : ε → ScheduleError) (host : Host δ)
    (f : Instant → Store → Except ε α × Store) (g : α → Op δ β) :
    succeeds (World.orFail cause (World.onStoreNow host f) >>= g)
      = .step (World.onStoreNow host f).run fun answer => match answer with
        | .ok a => succeeds (g a)
        | .error _ => .done false := by
  change Process.step _ _ = Process.step _ _
  congr 1
  funext answer
  cases answer <;> rfl

theorem succeeds_onStoreNow {ε : Type} (cause : ε → ScheduleError) (host : Host δ)
    (f : Instant → Store → Except ε α × Store) :
    succeeds (World.orFail cause (World.onStoreNow host f))
      = .step (World.onStoreNow host f).run fun answer => .done answer.isOk := by
  change Process.step _ _ = Process.step _ _
  congr 1
  funext answer
  cases answer <;> rfl

theorem succeeds_refresh (tenant report : Int) :
    succeeds (World.always (refreshScheduled tenant report) : Op δ Unit)
      = .step (refreshScheduled tenant report).run fun _ => .done true := rfl

/-- An operation that runs alone leaves the world behind that its process does. -/
theorem run_succeeds (op : Op δ α) (w : World δ) :
    (succeeds op).run w = ((op.run.run w).1.isOk, (op.run.run w).2) := by
  rw [succeeds, Process.run_bind, Process.run_pure]

/-! ## Operations that succeed alone -/

/-- Reading a schedule leaves the world as it is. -/
theorem run_get (tenant id : Int) (w : World δ) :
    (get tenant id : Op δ Schedule).run.run w = (match w.store.getSchedule tenant id with
      | .ok (some s) => .ok s
      | .ok none => .error (.notFound id)
      | .error e => .error (.store e), w) := by
  unfold get
  rw [World.run_op_bind, World.run_orFail, World.run_ofStore]
  rcases w.store.getSchedule tenant id with e | _ | s <;> rfl

theorem get_eq_ok {s : Schedule} (h : ((get tenant id : Op δ Schedule).run.run w).1 = .ok s) :
    w.store.getSchedule tenant id = .ok (some s) := by
  rw [run_get] at h
  rcases hget : w.store.getSchedule tenant id with e | _ | s'
  all_goals
    rw [hget] at h
    cases h
  rfl

/-- The world after the mark of a report was refreshed. -/
def refreshed (tenant report : Int) (w : World δ) : World δ :=
  { w with store := (w.store.refreshScheduled tenant report).2 }

/-- The world after a schedule was written back. -/
def written (sch : Scheduler δ) (s : Schedule) (w : World δ) : World δ :=
  ((World.onStoreNow sch.engine.host fun at_ store => store.updateSchedule s at_).run w).2

/-- The world after a schedule was stopped. -/
def stopped (sch : Scheduler δ) (tenant id : Int) (w : World δ) : World δ :=
  ((World.onStoreNow sch.engine.host fun at_ store =>
    store.setScheduleActive tenant id false at_).run w).2

/-- A new schedule that is saved. -/
theorem perform_create {d : Definition} {user : Int} {spec : ScheduleSpec} {now next : Instant}
    {saved : Schedule} (hcheck : spec.check = .ok ())
    (hnext : spec.recurrence.next now = .ok next)
    (hsaved : (w.store.insertScheduleWithinCap (.new d.id d.tenant user spec next now)
      sch.engine.limits.maxActiveSchedules).1 = .ok (some saved)) :
    World.perform (sch.create d user spec now) w = (.ok saved, refreshed d.tenant d.id
      { w with store := (w.store.insertScheduleWithinCap (.new d.id d.tenant user spec next now)
        sch.engine.limits.maxActiveSchedules).2 }) := by
  unfold World.perform create nextRun
  rw [hcheck, hnext]
  change (World.orFail _ _ >>= _ : Op δ Schedule).run.run w = _
  rw [World.run_op_bind, World.run_orFail, World.run_onStore, hsaved]
  change (World.always _ >>= _ : Op δ Schedule).run.run _ = _
  rw [World.run_op_bind, World.run_always]
  rfl

/-- A schedule that is found and written back. -/
theorem perform_update {spec : ScheduleSpec} {now next : Instant} {s saved : Schedule}
    (hcheck : spec.check = .ok ()) (hget : w.store.getSchedule tenant id = .ok (some s))
    (hnext : spec.recurrence.next now = .ok next)
    (hsaved : (w.store.updateSchedule (s.withSpec spec next)
      (sch.engine.host.clock w.readings)).1 = .ok saved) :
    World.perform (sch.update tenant id spec now) w
      = (.ok saved, sch.written (s.withSpec spec next) w) := by
  unfold World.perform update nextRun
  rw [hcheck, hnext]
  change (get tenant id >>= _ : Op δ Schedule).run.run w = _
  rw [World.run_op_bind, run_get, hget]
  change (World.orFail _ _ : Op δ Schedule).run.run w = _
  rw [World.run_orFail, World.run_onStoreNow, hsaved]
  rfl

/-- A schedule that is found and stopped. -/
theorem perform_deactivate {s : Schedule} (hget : w.store.getSchedule tenant id = .ok (some s)) :
    World.perform (sch.deactivate tenant id) w
      = (.ok (), refreshed tenant s.report (sch.stopped tenant id w)) := by
  obtain ⟨row, hrow, hat, -⟩ := Store.row_of_getSchedule hget
  have hstop : (w.store.setScheduleActive tenant id false
      (sch.engine.host.clock w.readings)).1 = .ok () :=
    Store.setScheduleActive_eq_ok.mpr ⟨row, hrow, hat⟩
  unfold World.perform deactivate
  rw [World.run_op_bind, run_get, hget]
  dsimp only
  rw [World.run_op_bind, World.run_orFail, World.run_onStoreNow, hstop]
  change (World.always _ : Op δ Unit).run.run _ = _
  rw [World.run_always]
  rfl

end TenantReports.Scheduler
