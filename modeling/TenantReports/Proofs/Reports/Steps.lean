import TenantReports.Proofs.Reports.Coherence
import TenantReports.Proofs.Scheduling.Turns

/-!
# Requests about one report, step by step

Several clients may ask for one report at the same time: change it, run it, make it the default
one, or make, stop and take away its schedules. Whatever the order of their steps, each step of a
request makes only a call of the store that the request is for. Which call that can be is said once,
in `Request.Calls`, and what the call leaves alone follows from it.

## Main definitions

* `Request.Concerns`: the requests about a report that neither take it away nor rewrite a schedule
* `Reports.answering`: a request as a process that keeps its answer
* `Request.Calls`, `Request.Step`: the calls of a request, and what a step of it does to the store

## Main results

* `Reports.each_operation`: a request takes no other steps
* `Reports.maintains_beside`: a request that does not show in a condition
* `Reports.maintains_get`: a report that is read among other steps
* `Request.Step.countActive_le`: no step makes more active schedules than there may be
* `Request.Step.counts`, `Request.Step.marks`, `Request.Step.flags`: who writes which columns
-/

namespace TenantReports

open Process (Each Maintains)
open Time (Instant)

/-! ## Requests -/

namespace Request

/-- A request about a report of a tenant. The report is not taken away, and no schedule is
rewritten; one that is stopped or taken away may belong to any report of the tenant. -/
def Concerns (tenant report : Int) : Request → Prop
  | .update t i _ | .setDefault t i | .createSchedule t _ i _ => t = tenant ∧ i = report
  | .run i request => request.tenant = tenant ∧ i = report
  | .deactivateSchedule t _ | .deleteSchedule t _ => t = tenant
  | _ => False

/-- The request runs a report. -/
def IsRun : Request → Prop
  | .run .. => True
  | _ => False

/-- The request makes a report the default one. -/
def IsMark : Request → Prop
  | .setDefault .. => True
  | _ => False

/-- The request makes, stops or takes away a schedule. -/
def IsSchedule : Request → Prop
  | .createSchedule .. | .deactivateSchedule .. | .deleteSchedule .. => True
  | _ => False

/-- The calls of the store that a request may make, apart from those of runs. `cap` is the greatest
number of active schedules of a tenant. -/
inductive Calls (cap : Nat) : Request → Store.Call → Prop
  | update {tenant report : Int} {draft : Draft} (d : Definition) (now : Instant) :
    Calls cap (.update tenant report draft) (.updateDefinition d now)
  | mark {tenant report : Int} :
    Calls cap (.setDefault tenant report) (.setDefault tenant report)
  | insert {tenant user report : Int} {spec : ScheduleSpec} (new : Schedule) :
    Calls cap (.createSchedule tenant user report spec) (.insertScheduleWithinCap new cap)
  | stop {tenant id : Int} (now : Instant) :
    Calls cap (.deactivateSchedule tenant id) (.setScheduleActive tenant id false now)
  | remove {tenant id : Int} :
    Calls cap (.deleteSchedule tenant id) (.deleteSchedule tenant id)
  | refresh {q : Request} (hq : q.IsSchedule) (tenant report : Int) :
    Calls cap q (.refreshScheduled tenant report)

/-- What a step of a request does to the store: nothing, what a run does, or a call. -/
inductive Step (cap : Nat) (q : Request) (s : Store) : Store → Prop
  | stays : Step cap q s s
  | ran {t : Store} (hq : q.IsRun) (h : s.Ran t) : Step cap q s t
  | called {c : Store.Call} (h : q.Calls cap c) : Step cap q s (c.perform s).2

/-- The same in a world, where only runs are given ids. -/
structure Steps {δ : Type} (cap : Nat) (q : Request) (w w' : World δ) : Prop where
  store : q.Step cap w.store w'.store
  issued : ¬ q.IsRun → w'.issued = w.issued

end Request

/-- A request and its answer. -/
abbrev Answered := (q : Request) × Except ReportError q.Answer

/-- A request as a process that keeps its answer. -/
def Reports.answering {δ : Type} (r : Reports δ) (q : Request) : Process (World δ) Answered := do
  return ⟨q, ← (r.operation q).run⟩

/-! ## Who writes which columns -/

/-- The columns that tell which report is a default one. -/
def DefinitionRow.flag (r : DefinitionRow) : Int × Int × Bool := (r.tenant, r.id, r.isDefault)

namespace Request.Step

variable {cap : Nat} {q : Request} {s t : Store} {tenant : Int}

/-- **The cap holds**, step by step. -/
theorem countActive_le (h : q.Step cap s t) (hle : s.countActive tenant ≤ cap) :
    t.countActive tenant ≤ cap := by
  rcases h with _ | ⟨-, h⟩ | h
  · exact hle
  · rw [h.agree_marks.countActive]
    exact hle
  cases h with
  | update d now =>
    show (s.updateDefinition d now).2.countActive tenant ≤ cap
    rw [(s.agree_updateDefinition d now).agree_marks.countActive]
    exact hle
  | @mark tenant' report =>
    have hagree : Store.Agree DefinitionRow.mark ScheduleRow.mark s
        (s.setDefault tenant' report).2 :=
      s.agree_setDefault tenant' report fun _ _ => rfl
    show (s.setDefault tenant' report).2.countActive tenant ≤ cap
    rw [hagree.countActive]
    exact hle
  | insert new => exact Store.countActive_insertScheduleWithinCap_le new hle
  | stop now => exact Nat.le_trans (Store.countActive_stopSchedule_le tenant now) hle
  | remove => exact Nat.le_trans (Store.countActive_deleteSchedule_le tenant) hle
  | refresh => exact hle

/-- **Only runs write records and counts.** -/
theorem counts (h : q.Step cap s t) (hq : ¬ q.IsRun) : t.executions = s.executions ∧
    t.definitions.map DefinitionRow.counts = s.definitions.map DefinitionRow.counts := by
  rcases h with _ | ⟨hrun, -⟩ | h
  · exact ⟨rfl, rfl⟩
  · exact absurd hrun hq
  constructor
  · apply Store.Call.executions_of_other
    cases h <;> exact not_false
  cases h with
  | update d now =>
    exact ((s.agree_updateDefinition d now).comp (fun v => (v.1, v.2.1, v.2.2.2.2)) id).definitions
  | @mark tenant' report =>
    have hagree : Store.Agree DefinitionRow.counts id s (s.setDefault tenant' report).2 :=
      s.agree_setDefault tenant' report fun _ _ => rfl
    exact hagree.definitions
  | @insert _ _ _ _ new =>
    show (s.insertScheduleWithinCap new cap).2.definitions.map _ = _
    rw [Store.insertScheduleWithinCap_definitions]
  | @stop tenant' id now =>
    show (s.setScheduleActive tenant' id false now).2.definitions.map _ = _
    rw [Store.setScheduleActive_snd]
    rfl
  | remove => rfl
  | refresh _ tenant' report =>
    have hagree : Store.Agree DefinitionRow.counts id s (s.refreshScheduled tenant' report).2 :=
      s.agree_changeDefinition tenant' report fun _ => rfl
    exact hagree.definitions

/-- **Only requests about schedules write schedules and the marks of scheduled reports.** -/
theorem marks (h : q.Step cap s t) (hq : ¬ q.IsSchedule) :
    s.Agree DefinitionRow.mark ScheduleRow.mark t := by
  rcases h with _ | ⟨-, h⟩ | h
  · exact .refl s
  · exact h.agree_marks
  cases h with
  | update d now => exact (s.agree_updateDefinition d now).agree_marks
  | @mark tenant' report => exact s.agree_setDefault tenant' report fun _ _ => rfl
  | refresh hschedule => exact absurd hschedule hq
  | insert | stop | remove => exact absurd trivial hq

/-- **Only marks write which report is a default one.** -/
theorem flags (h : q.Step cap s t) (hq : ¬ q.IsMark) :
    t.definitions.map DefinitionRow.flag = s.definitions.map DefinitionRow.flag := by
  rcases h with _ | ⟨-, h⟩ | h
  · rfl
  · exact (Store.Agree.comp h DefinitionRow.flag id).definitions
  cases h with
  | update d now =>
    exact ((s.agree_updateDefinition d now).comp (fun v => (v.1, v.2.1, v.2.2.1)) id).definitions
  | mark => exact absurd trivial hq
  | @insert _ _ _ _ new =>
    show (s.insertScheduleWithinCap new cap).2.definitions.map _ = _
    rw [Store.insertScheduleWithinCap_definitions]
  | @stop tenant' id now =>
    show (s.setScheduleActive tenant' id false now).2.definitions.map _ = _
    rw [Store.setScheduleActive_snd]
    rfl
  | remove => rfl
  | refresh _ tenant' report =>
    have hagree : Store.Agree DefinitionRow.flag id s (s.refreshScheduled tenant' report).2 :=
      s.agree_changeDefinition tenant' report fun _ => rfl
    exact hagree.definitions

end Request.Step

/-- Whoever does not run leaves the books of runs alone. -/
theorem Request.Steps.uncounted {δ : Type} {cap : Nat} {q : Request} {w w' : World δ}
    (h : q.Steps cap w w') (hq : ¬ q.IsRun) : w.Uncounted w' where
  executions := (h.store.counts hq).1
  counts := by
    have hviews := (h.store.counts hq).2
    rw [← List.forall₂_eq_eq_eq, List.forall₂_map_left_iff, List.forall₂_map_right_iff] at hviews
    exact List.Forall₂.flip hviews
  issued := Nat.le_of_eq (h.issued hq).symm

/-! ## Steps of requests -/

namespace Reports

variable {δ α : Type} {r : Reports δ} {cap : Nat} {tenant report : Int} {q : Request}

theorem steps_refl (cap : Nat) (q : Request) (w : World δ) : q.Steps cap w w :=
  ⟨.stays, fun _ => rfl⟩

/-- A call of a request, as a step of it. -/
theorem each_call {act : World δ → α × World δ}
    (hact : ∀ w, (∃ c, q.Calls cap c ∧ (act w).2.store = (c.perform w.store).2) ∧
      (act w).2.issued = w.issued) : (Process.atomically act).Each (q.Steps cap) := by
  rw [Process.each_atomically]
  intro w
  obtain ⟨⟨c, hcall, hstore⟩, hissued⟩ := hact w
  constructor
  · rw [hstore]
    exact .called hcall
  · exact fun _ => hissued

theorem each_refresh_steps (hq : q.IsSchedule) :
    (World.always (Scheduler.refreshScheduled tenant report) : Scheduler.Op δ Unit).run.Each
      (q.Steps cap) :=
  World.each_always (each_call fun _ => ⟨⟨_, .refresh hq tenant report, rfl⟩, rfl⟩)

/-- **A request takes no other steps.** -/
theorem each_operation (r : Reports δ) (hq : q.Concerns tenant report) :
    (r.operation q).run.Each (q.Steps r.engine.limits.maxActiveSchedules) := by
  unfold operation
  cases q with
  | update t i draft =>
    refine World.each_op_bind (each_build r draft true) fun layout => ?_
    apply World.each_op_bind (each_get (steps_refl _ _) _ _)
    intro d
    exact World.each_orFail (each_call fun _ => ⟨⟨_, .update _ _, rfl⟩, rfl⟩)
  | run i request =>
    apply World.each_op_bind (each_get (steps_refl _ _) _ _)
    intro d
    apply World.each_orFail ((r.engine.each_execute d request).mono _)
    intro w w' h
    exact ⟨.ran trivial h, fun hnot => absurd trivial hnot⟩
  | setDefault t i =>
    apply World.each_op_bind (each_get (steps_refl _ _) _ _)
    intro _
    exact World.each_orFail (each_call fun _ => ⟨⟨_, .mark, rfl⟩, rfl⟩)
  | createSchedule t user i spec =>
    apply World.each_op_bind (each_get (steps_refl _ _) _ _)
    intro d
    -- the clock is read
    apply World.each_op_bind (World.each_always _)
    · intro now
      apply World.each_orFail
      unfold Scheduler.create
      apply Scheduler.each_ofExcept_bind
      intro _ _
      apply Scheduler.each_ofExcept_bind
      intro next _
      apply World.each_op_bind (World.each_orFail (each_call fun _ => ⟨⟨_, .insert _, rfl⟩, rfl⟩))
      intro saved
      cases saved with
      | none => trivial
      | some s => exact World.each_op_bind (each_refresh_steps trivial) fun _ => trivial
    · exact Process.each_atomically.mpr fun w => ⟨.stays, fun _ => rfl⟩
  | deactivateSchedule t id =>
    apply World.each_orFail
    unfold Scheduler.deactivate
    apply World.each_op_bind (Scheduler.each_get (steps_refl _ _) _ _)
    intro s
    apply World.each_op_bind (World.each_orFail (each_call fun _ => ⟨⟨_, .stop _, rfl⟩, rfl⟩))
    exact fun _ => each_refresh_steps trivial
  | deleteSchedule t id =>
    apply World.each_orFail
    unfold Scheduler.delete
    apply World.each_op_bind (Scheduler.each_get (steps_refl _ _) _ _)
    intro s
    apply World.each_op_bind (World.each_always (each_call fun _ => ⟨⟨_, .remove, rfl⟩, rfl⟩))
    exact fun _ => each_refresh_steps trivial
  | _ => exact hq.elim

/-- A request whose steps do not show in a condition needs no note for it. -/
theorem maintains_beside {γ : Type} {Inv : Multiset γ → World δ → Prop}
    {post : Answered → γ → Prop} {g : γ} (hq : q.Concerns tenant report)
    (hsteps : ∀ {gs : Multiset γ} {w w' : World δ},
      q.Steps r.engine.limits.maxActiveSchedules w w' → Inv gs w → Inv gs w')
    (hpost : ∀ answer, post ⟨q, answer⟩ g) : Maintains Inv post g (r.answering q) := by
  have hbeside : Maintains Inv (fun _ g' => g' = g) g (r.operation q).run := by
    refine (r.each_operation hq).maintains ?_ g
    exact hsteps
  refine hbeside.bind ?_
  rintro answer _ rfl
  exact Process.maintains_pure (hpost answer)

/-! ## Reading a report -/

/-- Reading a report leaves all notes as they are. It fails if the report cannot be read, or is not
there. -/
theorem maintains_get {γ : Type} {Inv : Multiset γ → World δ → Prop} (tenant report : Int) (g : γ) :
    Maintains Inv (fun answer g' => g' = g ∧ match answer with
      | .ok d => d.tenant = tenant ∧ d.id = report
      | .error e => e = .store .unreadable ∨ e = .notFound report ∧
          ∃ others w, Inv (g ::ₘ others) w ∧ w.store.definitionRow? tenant report = none) g
      (get tenant report : Op δ Definition).run := by
  unfold get onStore
  apply World.maintains_op_bind fun answer g' => g' = g ∧ match answer with
    | .ok (some d) => d.tenant = tenant ∧ d.id = report
    | .ok none => ∃ others w, Inv (g ::ₘ others) w ∧ w.store.definitionRow? tenant report = none
    | .error e => e = .store .unreadable
  · refine World.maintains_orFail (Process.maintains_atomically fun others w hw => ⟨g, hw, rfl, ?_⟩)
    show match (w.store.getDefinition tenant report).mapError ReportError.store with
      | .ok (some d) => d.tenant = tenant ∧ d.id = report
      | .ok none => ∃ others w, Inv (g ::ₘ others) w ∧ w.store.definitionRow? tenant report = none
      | .error e => e = .store .unreadable
    rcases hread : w.store.getDefinition tenant report with e | _ | d
    · exact congrArg ReportError.store (Store.readRow_eq_error hread)
    · exact ⟨others, w, hw, Store.readRow_eq_ok_none.mp hread⟩
    · obtain ⟨row, -, hat, hrow⟩ := Store.row_of_getDefinition hread
      show d.tenant = tenant ∧ d.id = report
      rw [DefinitionRow.info_of_read? hrow]
      exact DefinitionRow.isAt_iff.mp hat
  · exact fun _ _ h => ⟨h.1, .inl h.2⟩
  · rintro found _ ⟨rfl, hfound⟩
    cases found with
    | none => exact ⟨rfl, .inr ⟨rfl, hfound⟩⟩
    | some d => exact ⟨rfl, hfound⟩

end Reports

end TenantReports
