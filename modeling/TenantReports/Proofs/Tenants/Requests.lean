import TenantReports.Proofs.Reports.Coherence
import TenantReports.Proofs.Tenants.Run

/-!
# Requests in two worlds

A request of a tenant begins in two worlds that hold the same rows of the tenant. What it reads
first is the same; what it writes then it writes to the rows of the tenant, under new ids and at
new times. So both end alike.

## Main definitions

* `Reports.Begin`: two worlds in which a request begins
* `Isolated`: how it ends in both

## Main results

* `Reports.pair_get_bind`, `Reports.pair_getSchedule_bind`: what is read first
* `Reports.pair_save`, `Reports.pair_run`, `Reports.pair_createSchedule`, …: the requests
-/

namespace TenantReports

open Process (Pair)
open Store (Apart Within)
open Time (Instant)

/-- Two worlds in which a request of a tenant begins: the same rows of the tenant and the same
data, ids that were given once, and a pairing of the ids given next and of the times. -/
structure Reports.Begin {δ : Type} (r : Reports δ) (m : Pairing) (tenant : Int) (u u' : World δ) :
    Prop where
  own : u.store.own tenant = u'.store.own tenant
  data : u.data = u'.data
  settled : u.store.Settled r.engine.limits.maxActiveSchedules
  settled' : u'.store.Settled r.engine.limits.maxActiveSchedules
  fresh : ∀ row ∈ u.store.executions, row.id ≠ r.engine.host.executionId u.issued
  fresh' : ∀ row ∈ u'.store.executions, row.id ≠ r.engine.host.executionId u'.issued
  ids : m.KeepsIds
  readable : m.Readable
  time : ∀ n, m.time (r.engine.host.clock (u.readings + n)) (r.engine.host.clock (u'.readings + n))
  report : m.report (u.store.lastDefinition + 1) (u'.store.lastDefinition + 1)
  schedule : m.schedule (u.store.lastSchedule + 1) (u'.store.lastSchedule + 1)
  execution : m.execution (r.engine.host.executionId u.issued)
    (r.engine.host.executionId u'.issued)

/-- The outcomes are of the same kind, the rows of the tenant are twins, and those of all others
are what they were. -/
def Isolated {δ ε α : Type} (m : Pairing) (tenant : Int) (E : ε → ε → Prop) (A : α → α → Prop)
    (u u' : World δ) (a b : Except ε α) (w w' : World δ) : Prop :=
  Except.Rel E A a b ∧ Apart m tenant u.store u'.store w.store w'.store

namespace Reports

variable {δ α : Type} {r : Reports δ} {m : Pairing} {tenant report : Int} {u u' w w' : World δ}

/-- Reading a report gives the same. -/
theorem pair_get (hown : w.store.own tenant = w'.store.own tenant) :
    Pair (get tenant report : Op δ Definition).run (get tenant report : Op δ Definition).run w w'
      fun a b v v' => a = b ∧ (∀ d, a = .ok d → d.tenant = tenant ∧ d.id = report) ∧
        v = w ∧ v' = w' := by
  have hsame : w'.store.getDefinition tenant report = w.store.getDefinition tenant report := by
    rw [Store.getDefinition_own, ← hown, ← Store.getDefinition_own]
  unfold Pair
  rw [run_get, run_get, hsame]
  refine ⟨rfl, fun d hd => ?_, rfl, rfl⟩
  rcases hget : w.store.getDefinition tenant report with e | _ | d'
  all_goals
    rw [hget] at hd
    cases hd
  exact Store.isAt_of_getDefinition hget

/-- What follows from a report that was read. -/
theorem pair_get_bind {f g : Definition → Op δ α}
    {post : Except ReportError α → Except ReportError α → World δ → World δ → Prop}
    (hown : w.store.own tenant = w'.store.own tenant)
    (herror : ∀ e, post (.error e) (.error e) w w')
    (hok : ∀ d, d.tenant = tenant → d.id = report → Pair (f d).run (g d).run w w' post) :
    Pair (get tenant report >>= f).run (get tenant report >>= g).run w w' post := by
  refine World.pair_op_bind ((pair_get hown).mono ?_)
  rintro a _ _ _ ⟨rfl, hread, rfl, rfl⟩
  cases a with
  | error e => exact .error (herror e)
  | ok d => exact .ok (hok d (hread d rfl).1 (hread d rfl).2)

/-! ## Reports -/

section Steps

variable (h : r.Begin m tenant u u')

include h

/-- What fails before anything is written fails alike. -/
theorem Begin.refused {A : α → α → Prop} (e : ReportError) :
    Isolated m tenant (ReportError.Twin m) A u u' (.error e) (.error e) u u' :=
  ⟨.error (.same e), .refl h.ids h.own⟩

theorem Begin.eq_of_within {f : Store → Except StoreError α × Store} (hf : Within tenant f) :
    Pair (onStore f : Op δ α).run (onStore f : Op δ α).run u u'
      (Isolated m tenant (ReportError.Twin m) Eq u u') := by
  obtain ⟨hanswer, hrows⟩ := hf.same h.ids h.own
  refine World.pair_orFail (World.pair_onStore ⟨?_, hrows⟩)
  exact (Except.Rel.of_eq hanswer).mapError fun _ _ he => he ▸ .same _

/-- A report is added last. -/
theorem Begin.pair_insert {d d' : Definition} (hw : w.store = u.store) (hw' : w'.store = u'.store)
    (htenant : d.tenant = tenant)
    (htwin : (DefinitionRow.ofDefinition { d with id := u.store.lastDefinition + 1 }).Twin m
      (.ofDefinition { d' with id := u'.store.lastDefinition + 1 })) :
    Pair (onStore fun s => s.insertDefinition d : Op δ Definition).run
      (onStore fun s => s.insertDefinition d' : Op δ Definition).run w w'
      (Isolated m tenant (ReportError.Twin m) (Definition.Twin m) u u') := by
  obtain ⟨hanswer, hrows⟩ := Store.apart_insertDefinition h.ids h.readable h.own htenant htwin
    h.settled.reports h.settled'.reports
  refine World.pair_orFail (World.pair_onStore ?_)
  rw [hw, hw']
  exact ⟨hanswer.mapError fun _ _ he => he ▸ .same _, hrows⟩

theorem pair_save (user : Int) (draft : Draft) :
    Pair (r.save tenant user draft).run (r.save tenant user draft).run u u'
      (Isolated m tenant (ReportError.Twin m) (Definition.Twin m) u u') := by
  refine World.pair_pure_bind (fun _ _ => h.refused _) fun layout _ => ?_
  refine World.pair_op_bind (World.pair_always (.ok ?_))
  have hnow := h.time 0
  exact h.pair_insert rfl rfl rfl (DefinitionRow.twin_ofDefinition h.report hnow hnow rfl)

theorem pair_update (draft : Draft) :
    Pair (r.update tenant report draft).run (r.update tenant report draft).run u u'
      (Isolated m tenant (ReportError.Twin m) (Definition.Twin m) u u') := by
  refine World.pair_pure_bind (fun _ _ => h.refused _) fun layout _ => ?_
  refine pair_get_bind h.own (fun _ => h.refused _) fun d htenant _ => ?_
  subst htenant
  obtain ⟨hanswer, hrows⟩ := Store.apart_updateDefinition h.ids h.readable (h.time 0)
    { applyDraft d draft with layout } h.own
  refine World.pair_orFail (World.pair_onStoreNow ?_)
  exact ⟨hanswer.mapError fun _ _ he => he ▸ .same _, hrows⟩

theorem pair_clone (user : Int) (name : Option String) :
    Pair (r.clone tenant user report name).run (r.clone tenant user report name).run u u'
      (Isolated m tenant (ReportError.Twin m) (Definition.Twin m) u u') := by
  refine pair_get_bind h.own (fun _ => h.refused _) fun d htenant _ => ?_
  refine World.pair_op_bind (World.pair_always (.ok ?_))
  have hnow := h.time 0
  exact h.pair_insert rfl rfl rfl (DefinitionRow.twin_ofDefinition h.report hnow hnow rfl)

theorem pair_delete :
    Pair (delete tenant report : Op δ Unit).run (delete tenant report : Op δ Unit).run u u'
      (Isolated m tenant (ReportError.Twin m) Eq u u') := by
  obtain ⟨hfound, hrows⟩ := (Store.within_deleteDefinition tenant report).same h.ids h.own
  refine World.pair_op_bind (World.pair_always (World.pair_onStore (.ok ?_)))
  rw [← hfound]
  cases (u.store.deleteDefinition tenant report).1 with
  | true => exact ⟨.ok rfl, hrows⟩
  | false => exact ⟨.error (.same _), hrows⟩

theorem pair_analyze :
    Pair (r.analyze tenant report).run (r.analyze tenant report).run u u'
      (Isolated m tenant (ReportError.Twin m) Eq u u') :=
  pair_get_bind h.own (fun _ => h.refused _) fun _ _ _ => ⟨.ok rfl, .refl h.ids h.own⟩

theorem pair_test (draft : Draft) :
    Pair (r.test tenant draft).run (r.test tenant draft).run u u'
      (Isolated m tenant (ReportError.Twin m) Eq u u') := by
  refine World.pair_pure_bind (fun _ _ => h.refused _) fun layout _ => ?_
  have hrows : Apart m tenant u.store u'.store u.store u'.store := .refl h.ids h.own
  refine World.pair_always ?_
  unfold Engine.preview
  cases layout.compile r.engine.catalog tenant with
  | error err => exact ⟨.ok rfl, hrows⟩
  | ok compiled =>
    refine Process.pair_bind ((Engine.pair_fetch h.data _ _).mono ?_)
    rintro answer _ _ _ ⟨rfl, data, rfl, rfl⟩
    cases answer with
    | error err => exact ⟨.ok rfl, hrows⟩
    | ok rows => exact ⟨.ok rfl, hrows⟩

theorem pair_run (request : RunRequest) (htenant : request.tenant = tenant) :
    Pair (r.run report request).run (r.run report request).run u u'
      (Isolated m tenant (ReportError.Twin m) (RunOutcome.Twin m) u u') := by
  subst htenant
  refine pair_get_bind h.own (fun _ => h.refused _) fun d htenant _ => ?_
  -- the schedule of a run is told in its record only
  have hschedules : ∀ w : World δ,
      ((r.engine.execute d request).run w).2.store.schedules = w.store.schedules := by
    intro w
    have hran : w.store.Ran ((r.engine.execute d request).run w).2.store :=
      (r.engine.each_execute d request).run (fun w => .refl w.store) (fun h h' => h.trans h') w
    simpa using hran.schedules
  obtain ⟨counted, x, x', hended, hanswer⟩ := Engine.pair_execute h.time h.readable htenant h.data
    h.execution h.fresh h.fresh' (r := request) (d := d)
  refine World.pair_orFail ⟨?_, ?_⟩
  · refine hanswer.mapError fun f f' hf => ?_
    obtain ⟨execution, fault⟩ := f
    obtain ⟨execution', fault'⟩ := f'
    obtain ⟨hexecution, rfl⟩ := hf
    exact .run fault hexecution
  · rw [← htenant]
    exact hended.apart h.ids (htenant ▸ h.own) (hschedules u) (hschedules u')

end Steps

/-! ## Schedules -/

/-- A computation that does not touch the worlds. -/
theorem pair_ofExcept_bind {β : Type} {c c' : Except ScheduleError β}
    {f g : β → Scheduler.Op δ α}
    {post : Except ScheduleError α → Except ScheduleError α → World δ → World δ → Prop}
    (h : Except.Rel (fun e e' => post (.error e) (.error e') w w')
      (fun a b => Pair (f a).run (g b).run w w' post) c c') :
    Pair (Scheduler.ofExcept c >>= f).run (Scheduler.ofExcept c' >>= g).run w w' post :=
  World.pair_op_bind h

/-- What follows from a schedule that was read: it is the same, or is not there both. -/
theorem pair_getSchedule_bind {id : Int} {f g : Schedule → Scheduler.Op δ α}
    {post : Except ScheduleError α → Except ScheduleError α → World δ → World δ → Prop}
    (hown : w.store.own tenant = w'.store.own tenant)
    (herror : ∀ e, post (.error e) (.error e) w w')
    (hok : ∀ d, d.tenant = tenant → Pair (f d).run (g d).run w w' post) :
    Pair (Scheduler.get tenant id >>= f).run (Scheduler.get tenant id >>= g).run w w' post := by
  have hsame : w'.store.getSchedule tenant id = w.store.getSchedule tenant id := by
    rw [Store.getSchedule_own, ← hown, ← Store.getSchedule_own]
  refine World.pair_op_bind ?_
  unfold Pair
  rw [Scheduler.run_get, Scheduler.run_get, hsame]
  rcases hget : w.store.getSchedule tenant id with e | _ | d
  · exact .error (herror _)
  · exact .error (herror _)
  · exact .ok (hok d (Store.isAt_of_getSchedule hget).1)

theorem pair_onSchedules {A : α → α → Prop} {op op' : Scheduler.Op δ α}
    (hop : Pair op.run op'.run w w' (Isolated m tenant Eq A u u')) :
    Pair (onSchedules op).run (onSchedules op').run w w'
      (Isolated m tenant (ReportError.Twin m) A u u') :=
  World.pair_orFail (hop.mono fun _ _ _ _ hpost =>
    ⟨hpost.1.mapError fun _ _ he => he ▸ .same _, hpost.2⟩)

section Steps

variable (h : r.Begin m tenant u u')

include h

theorem pair_createSchedule (user : Int) (spec : ScheduleSpec)
    (hnext : Except.Rel Eq m.time (spec.recurrence.next (r.engine.host.clock u.readings))
      (spec.recurrence.next (r.engine.host.clock u'.readings))) :
    Pair (r.createSchedule tenant user report spec).run
      (r.createSchedule tenant user report spec).run u u'
      (Isolated m tenant (ReportError.Twin m) (Schedule.Twin m) u u') := by
  have hunchanged : Apart m tenant u.store u'.store u.store u'.store := .refl h.ids h.own
  refine pair_get_bind h.own (fun _ => h.refused _) fun d htenant _ => ?_
  subst htenant
  refine World.pair_op_bind (World.pair_always (.ok (pair_onSchedules ?_)))
  refine pair_ofExcept_bind ?_
  cases spec.check with
  | error e => exact .error ⟨.error rfl, hunchanged⟩
  | ok _ =>
    refine .ok (pair_ofExcept_bind ?_)
    refine (hnext.mapError fun _ _ => congrArg ScheduleError.recurrence).mono ?_ ?_
    · rintro e _ rfl
      exact ⟨.error rfl, hunchanged⟩
    · intro next next' hnext
      have hnow : m.time (r.engine.host.clock u.readings) (r.engine.host.clock u'.readings) :=
        h.time 0
      let new := Schedule.new d.id d.tenant user spec next (r.engine.host.clock u.readings)
      let new' := Schedule.new d.id d.tenant user spec next' (r.engine.host.clock u'.readings)
      have htwin : (ScheduleRow.ofSchedule { new with id := u.store.lastSchedule + 1 }).Twin m
          (.ofSchedule { new' with id := u'.store.lastSchedule + 1 }) :=
        ScheduleRow.twin_ofSchedule h.schedule hnext hnow hnow rfl
      obtain ⟨hanswer, hrows, hsame⟩ := Store.apart_insertSchedule h.ids h.readable h.own
        (show new.tenant = d.tenant from rfl) r.engine.limits.maxActiveSchedules htwin
        h.settled.numbered h.settled'.numbered
      refine World.pair_op_bind (World.pair_orFail (World.pair_onStore ?_))
      refine (hanswer.mapError fun _ _ => congrArg ScheduleError.store).mono ?_ ?_
      · rintro e _ rfl
        exact ⟨.error rfl, hrows⟩
      · intro saved saved' hsaved
        cases hsaved with
        | none => exact ⟨.error rfl, hrows⟩
        | some hsaved =>
          refine World.pair_op_bind (World.pair_always (World.pair_onStore (.ok ?_)))
          exact ⟨.ok hsaved, hrows.refreshScheduled h.ids hsame d.id⟩

theorem pair_updateSchedule (id : Int) (spec : ScheduleSpec)
    (hnext : Except.Rel Eq m.time (spec.recurrence.next (r.engine.host.clock u.readings))
      (spec.recurrence.next (r.engine.host.clock u'.readings))) :
    Pair (r.updateSchedule tenant id spec).run (r.updateSchedule tenant id spec).run u u'
      (Isolated m tenant (ReportError.Twin m) (Schedule.Twin m) u u') := by
  have hunchanged : Apart m tenant u.store u'.store u.store u'.store := .refl h.ids h.own
  refine World.pair_op_bind (World.pair_always (.ok (pair_onSchedules ?_)))
  refine pair_ofExcept_bind ?_
  cases spec.check with
  | error e => exact .error ⟨.error rfl, hunchanged⟩
  | ok _ =>
    refine .ok (pair_getSchedule_bind h.own (fun _ => ⟨.error rfl, hunchanged⟩) fun d htenant => ?_)
    subst htenant
    refine pair_ofExcept_bind ?_
    refine (hnext.mapError fun _ _ => congrArg ScheduleError.recurrence).mono ?_ ?_
    · rintro e _ rfl
      exact ⟨.error rfl, hunchanged⟩
    · intro next next' hnext
      obtain ⟨hanswer, hrows⟩ := Store.apart_updateSchedule h.ids h.readable (h.time 1) hnext d spec
        h.own
      refine World.pair_orFail (World.pair_onStoreNow ⟨?_, hrows⟩)
      exact hanswer.mapError fun _ _ => congrArg ScheduleError.store

theorem pair_deactivateSchedule (id : Int) :
    Pair (r.deactivateSchedule tenant id).run (r.deactivateSchedule tenant id).run u u'
      (Isolated m tenant (ReportError.Twin m) Eq u u') := by
  refine pair_onSchedules ?_
  refine pair_getSchedule_bind h.own (fun _ => ⟨.error rfl, .refl h.ids h.own⟩) fun d _ => ?_
  obtain ⟨hanswer, hrows⟩ := Store.apart_setScheduleActive h.ids (h.time 0) h.own id false
  have hsame : ((u.store.setScheduleActive tenant id false
        (r.engine.host.clock u.readings)).2.own tenant).definitions
      = ((u'.store.setScheduleActive tenant id false
        (r.engine.host.clock u'.readings)).2.own tenant).definitions := by
    have hdefinitions := congrArg Store.definitions h.own
    rw [Store.setScheduleActive_snd, Store.setScheduleActive_snd]
    exact hdefinitions
  refine World.pair_op_bind (World.pair_orFail (World.pair_onStoreNow ?_))
  refine ((Except.Rel.of_eq hanswer).mapError
    fun _ _ => congrArg ScheduleError.store).mono ?_ ?_
  · rintro e _ rfl
    exact ⟨.error rfl, hrows⟩
  · rintro _ _ -
    exact World.pair_always (World.pair_onStore
      ⟨.ok rfl, hrows.refreshScheduled h.ids hsame d.report⟩)

theorem pair_deleteSchedule (id : Int) :
    Pair (deleteSchedule tenant id : Op δ Unit).run (deleteSchedule tenant id : Op δ Unit).run u u'
      (Isolated m tenant (ReportError.Twin m) Eq u u') := by
  refine pair_onSchedules ?_
  refine pair_getSchedule_bind h.own (fun _ => ⟨.error rfl, .refl h.ids h.own⟩) fun d _ => ?_
  have hwithin := Store.within_deleteSchedule tenant id
  obtain ⟨-, hrows⟩ := hwithin.same h.ids h.own
  have hsame := congrArg Store.definitions (hwithin.agree h.own).2
  refine World.pair_op_bind (World.pair_always (World.pair_onStore (.ok ?_)))
  exact World.pair_always (World.pair_onStore
    ⟨.ok rfl, hrows.refreshScheduled h.ids hsame d.report⟩)

theorem pair_listSchedules (report : Option Int) :
    Pair (listSchedules tenant report : Op δ (List Schedule)).run
      (listSchedules tenant report : Op δ (List Schedule)).run u u'
      (Isolated m tenant (ReportError.Twin m) Eq u u') := by
  obtain ⟨hanswer, hrows⟩ := (Store.within_listSchedules tenant report).same h.ids h.own
  refine pair_onSchedules (World.pair_orFail (World.pair_onStore ⟨?_, hrows⟩))
  exact (Except.Rel.of_eq hanswer).mapError fun _ _ => congrArg ScheduleError.store

end Steps

end Reports

end TenantReports
