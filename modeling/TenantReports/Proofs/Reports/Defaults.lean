import TenantReports.Proofs.Reports.Coherence
import TenantReports.Proofs.Store.Defaults

/-!
# Default reports and requests

Requests keep the default report of a category the only one, but for an update that takes a
default report to a category that has one already. Whatever is asked of schedules leaves the
reports where they are.

## Main definitions

* `Request.Collides`: an update that takes a default report to the category of another one
* `Store.AllowsMarks`: a relation that requests about schedules keep to

## Main results

* `Reports.uncontested_handle`: what one request preserves
* `Reports.exclusive_of_requests`: what holds after any number of requests
-/

namespace TenantReports

open Store (SamePlaces Uncontested)
open Time (Instant)
open World (Storewise leaves_orFail leaves_orFail_bind)

/-- An update that takes a default report to the category of another one. -/
def Request.Collides (q : Request) (s : Store) : Prop :=
  match q with
  | .update tenant report draft => s.Collides tenant report draft.category
  | _ => False

/-- Edits keep default reports uncontested. -/
theorem Store.Edit.uncontested {s t : Store} (h : s.Edit t) (hs : s.Uncontested) :
    t.Uncontested := by
  cases h with
  | ran h => exact hs.of_samePlaces ⟨(h.comp DefinitionRow.place id).definitions, h.lastDefinition⟩
  | insert hdefault _ => exact hs.insertDefinition hdefault
  | delete tenant id => exact hs.deleteDefinition tenant id
  | setDefault tenant id => exact hs.setDefault tenant id
  | toggleFavorite tenant report =>
    rw [Store.toggleFavorite_snd]
    have hagree : Store.Agree DefinitionRow.place id s (s.changeDefinition tenant report fun r =>
        { r with favorite := !r.favorite }) := s.agree_changeDefinition tenant report fun _ => rfl
    exact hs.of_samePlaces ⟨hagree.definitions, hagree.lastDefinition⟩

/-! ## Schedules -/

/-- A relation on stores that holds where the reports stay as they are, and where the mark of a
scheduled report is brought up to date. -/
structure Store.AllowsMarks (R : Store → Store → Prop) : Prop where
  same {s t : Store} (hdefinitions : t.definitions = s.definitions)
    (hlast : t.lastDefinition = s.lastDefinition) : R s t
  refresh (s : Store) (tenant report : Int) : R s (s.refreshScheduled tenant report).2

theorem Store.samePlaces_allowsMarks : Store.AllowsMarks SamePlaces where
  same := Store.samePlaces_of_definitions_eq
  refresh s tenant report := by
    have hagree : Store.Agree DefinitionRow.place id s (s.refreshScheduled tenant report).2 :=
      s.agree_changeDefinition tenant report fun _ => rfl
    exact ⟨hagree.definitions, hagree.lastDefinition⟩

namespace Scheduler

variable {δ : Type} {sch : Scheduler δ} {R : Store → Store → Prop} (hR : Store.AllowsMarks R)

include hR

theorem each_refreshScheduled (tenant report : Int) :
    (refreshScheduled tenant report : Process (World δ) Unit).Each (Storewise R) :=
  World.each_onStore fun s => hR.refresh s tenant report

theorem each_create_marks (d : Definition) (user : Int) (spec : ScheduleSpec) (now : Instant) :
    (sch.create d user spec now).run.Each (Storewise R) := by
  unfold create nextRun
  refine World.each_op_bind trivial fun _ => World.each_op_bind trivial fun next => ?_
  refine World.each_op_bind (World.each_orFail (World.each_onStore fun s => ?_)) fun saved => ?_
  · rcases s.insertScheduleWithinCap_cases (.new d.id d.tenant user spec next now)
      sch.engine.limits.maxActiveSchedules with ⟨-, heq⟩ | ⟨-, -, heq⟩
    · rw [heq]
      exact hR.same rfl rfl
    · rw [heq]
      exact hR.same rfl rfl
  · cases saved with
    | none => trivial
    | some s =>
      exact World.each_op_bind (World.each_always (each_refreshScheduled hR _ _)) fun _ => trivial

theorem each_update_marks (tenant id : Int) (spec : ScheduleSpec) (now : Instant) :
    (sch.update tenant id spec now).run.Each (Storewise R) := by
  unfold update nextRun
  refine World.each_op_bind trivial fun _ => ?_
  refine World.each_op_bind (each_get (fun _ => hR.same rfl rfl) tenant id) fun s => ?_
  refine World.each_op_bind trivial fun next => ?_
  refine World.each_orFail (World.each_onStoreNow fun at_ store => ?_)
  rw [Store.updateSchedule_snd]
  exact hR.same rfl rfl

theorem each_deactivate_marks (tenant id : Int) :
    (sch.deactivate tenant id).run.Each (Storewise R) := by
  unfold deactivate
  refine World.each_op_bind (each_get (fun _ => hR.same rfl rfl) tenant id) fun s => ?_
  refine World.each_op_bind (World.each_orFail (World.each_onStoreNow fun at_ store => ?_)) fun _ =>
    World.each_always (each_refreshScheduled hR tenant s.report)
  rw [Store.setScheduleActive_snd]
  exact hR.same rfl rfl

theorem each_delete_marks (tenant id : Int) :
    (delete tenant id : Op δ Unit).run.Each (Storewise R) := by
  unfold delete
  refine World.each_op_bind (each_get (fun _ => hR.same rfl rfl) tenant id) fun s => ?_
  refine World.each_op_bind (World.each_always (World.each_onStore fun store => ?_)) fun _ =>
    World.each_always (each_refreshScheduled hR tenant s.report)
  exact hR.same rfl rfl

end Scheduler

/-! ## Requests -/

/-- A request that writes schedules. -/
def Request.WritesSchedules : Request → Prop
  | .createSchedule .. | .updateSchedule .. | .deactivateSchedule .. | .deleteSchedule .. => True
  | _ => False

namespace Reports

variable {δ : Type} {r : Reports δ} {w : World δ}

/-- **Requests about schedules do no more to the reports** than to bring marks up to date. -/
theorem each_writesSchedules {R : Store → Store → Prop} (hR : Store.AllowsMarks R) {q : Request}
    (hq : q.WritesSchedules) : (r.operation q).run.Each (Storewise R) := by
  have hrefl : ∀ s, R s s := fun _ => hR.same rfl rfl
  have hnow : (World.always r.now : Op δ Instant).run.Each (Storewise R) :=
    World.each_always (each_now hrefl r)
  unfold operation
  cases q with
  | createSchedule tenant user report spec =>
    refine World.each_op_bind (each_get (fun _ => hrefl _) tenant report) fun d => ?_
    refine World.each_op_bind hnow fun now => ?_
    exact each_onSchedules (Scheduler.each_create_marks hR d user spec now)
  | updateSchedule tenant id spec =>
    refine World.each_op_bind hnow fun now => ?_
    exact each_onSchedules (Scheduler.each_update_marks hR tenant id spec now)
  | deactivateSchedule tenant id =>
    exact each_onSchedules (Scheduler.each_deactivate_marks hR tenant id)
  | deleteSchedule tenant id => exact each_onSchedules (Scheduler.each_delete_marks hR tenant id)
  | _ => exact hq.elim

/-- An update reads its report and then writes where no other default report is. -/
theorem uncontested_update {tenant report : Int} {draft : Draft} (h : w.store.Uncontested)
    (hfree : ¬ w.store.Collides tenant report draft.category) :
    World.Leaves (r.update tenant report draft) w (·.store.Uncontested) := by
  unfold update build
  refine leaves_orFail_bind (fun _ _ => h) fun layout _ => ?_
  refine leaves_get_bind h fun d hd => leaves_orFail ?_
  obtain ⟨row, -, hat, hread⟩ := Store.row_of_getDefinition hd
  have hinfo := DefinitionRow.info_of_read? hread
  rw [DefinitionRow.isAt_iff] at hat
  rw [World.run_onStoreNow]
  refine h.updateDefinition _ ?_
  change ¬ w.store.Collides d.tenant d.id draft.category
  rw [hinfo, hat.1, hat.2]
  exact hfree

/-- **A request that does not collide** keeps default reports uncontested. -/
theorem uncontested_handle (q : Request) (h : w.store.Uncontested) (hfree : ¬ q.Collides w.store) :
    (r.handle q w).store.Uncontested := by
  by_cases hq : q.IsEdit
  · have hkeeps : (r.process q).Keeps fun w : World δ => w.store.Uncontested :=
      (r.each_edit hq).mono fun _ _ hedit hs => hedit.uncontested hs
    exact hkeeps.run h
  -- requests about schedules leave the reports in their places
  have hplaces : q.WritesSchedules → ((r.operation q).run.forget.run w).2.store.Uncontested := by
    intro hwrites
    have hkeeps : (r.operation q).run.forget.Keeps fun w : World δ => w.store.Uncontested := by
      have heach := each_writesSchedules (r := r) Store.samePlaces_allowsMarks hwrites
      refine (Process.each_forget heach).mono ?_
      exact fun _ _ hsame hs => hs.of_samePlaces hsame
    exact hkeeps.run h
  cases q with
  | update tenant report draft =>
    rw [handle, process, Process.run_forget]
    exact uncontested_update h hfree
  | createSchedule | updateSchedule | deactivateSchedule | deleteSchedule => exact hplaces trivial
  | _ => exact absurd trivial hq

/-- One request after another, none of which collides. -/
def Answers (r : Reports δ) (w w' : World δ) : Prop :=
  ∃ q : Request, ¬ q.Collides w.store ∧ w' = r.handle q w

/-- **After any number of requests on an empty store**, of which none takes a default report to
the category of another one, no category of a tenant has two default reports. -/
theorem exclusive_of_requests {w₀ : World δ} (hempty : w₀.store = {})
    (h : Relation.ReflTransGen r.Answers w₀ w) : w.store.Exclusive := by
  have huncontested : w.store.Uncontested := by
    induction h with
    | refl =>
      rw [hempty]
      exact Store.uncontested_empty
    | tail _ hanswer ih =>
      obtain ⟨q, hfree, rfl⟩ := hanswer
      exact uncontested_handle q ih hfree
  exact huncontested.exclusive

/-- **A request that collides** and is not rejected leaves a category with two default reports. -/
theorem not_exclusive_handle {tenant report : Int} {draft : Draft} {layout : Layout}
    {d : Definition} (hbuild : r.validator.build draft true = .ok layout)
    (hget : w.store.getDefinition tenant report = .ok (some d))
    (h : (Request.update tenant report draft).Collides w.store) :
    ¬ (r.handle (.update tenant report draft) w).store.Exclusive := by
  obtain ⟨row, -, hat, hread⟩ := Store.row_of_getDefinition hget
  have hinfo := DefinitionRow.info_of_read? hread
  rw [DefinitionRow.isAt_iff] at hat
  have htenant : d.tenant = tenant := by rw [hinfo, hat.1]
  have hid : d.id = report := by rw [hinfo, hat.2]
  subst htenant hid
  rw [store_handle_update hget hbuild]
  exact Store.not_exclusive_of_collides _ hget h

/-! ## Two default reports of the shop -/

/-- The default report of a category. -/
def defaultReport (id : Int) (category : String) : Definition :=
  { salesReport id (some category) with isDefault := true }

theorem defaultReport_legible (id : Int) (category : String) : (defaultReport id category).Legible := by
  obtain ⟨hhash, hlayout, hlast, hcreated, hupdated⟩ := salesReport_legible id (some category)
  exact ⟨hhash, hlayout, hlast, hcreated, hupdated⟩

/-- Two reports of different categories. -/
def withTwoReports : World Unit :=
  shopReports.handle (.save 1 1 (salesReportDraft "customers")) withReport

/-- Both are made default reports. -/
def withDefaults : World Unit :=
  shopReports.handle (.setDefault 1 2) (shopReports.handle (.setDefault 1 1) withTwoReports)

theorem store_withTwoReports : withTwoReports.store = {
    definitions := [.ofDefinition (salesReport 1 (some "sales")),
      .ofDefinition (salesReport 2 (some "customers"))]
    lastDefinition := 2 } := by
  rw [withTwoReports, handle_save (build_salesReportDraft (.inr rfl)), Store.insertDefinition_snd,
    store_withReport]
  rfl

/-- The first report is made the default one. -/
theorem store_setDefault_first : (shopReports.handle (.setDefault 1 1) withTwoReports).store = {
    definitions := [.ofDefinition (defaultReport 1 "sales"),
      .ofDefinition (salesReport 2 (some "customers"))]
    lastDefinition := 2 } := by
  have hget : withTwoReports.store.getDefinition 1 1 = .ok (some (salesReport 1 (some "sales"))) := by
    rw [store_withTwoReports]
    exact Store.getDefinition_of_find rfl (DefinitionRow.read?_ofDefinition (salesReport_legible 1 _))
  have hself : (DefinitionRow.ofDefinition (salesReport 1 (some "sales"))).afterSetDefault 1 1
      (some "sales") = .ofDefinition (defaultReport 1 "sales") :=
    DefinitionRow.afterSetDefault_self _ _
  have hother : (DefinitionRow.ofDefinition (salesReport 2 (some "customers"))).afterSetDefault 1 1
      (some "sales") = .ofDefinition (salesReport 2 (some "customers")) := by
    refine DefinitionRow.afterSetDefault_other ?_ ?_
    · change (2 : Int) ≠ 1
      decide
    · change some "customers" ≠ some "sales"
      decide
  rw [store_handle_setDefault hget]

  rw [Store.setDefault_of_read hget, store_withTwoReports]
  have hcategory : (salesReport 1 (some "sales")).category = some "sales" := rfl
  rw [hcategory, List.map_cons, List.map_singleton, hself, hother]

theorem store_withDefaults : withDefaults.store = {
    definitions := [.ofDefinition (defaultReport 1 "sales"),
      .ofDefinition (defaultReport 2 "customers")]
    lastDefinition := 2 } := by
  have hget : (shopReports.handle (.setDefault 1 1) withTwoReports).store.getDefinition 1 2
      = .ok (some (salesReport 2 (some "customers"))) := by
    rw [store_setDefault_first]
    exact Store.getDefinition_of_find rfl (DefinitionRow.read?_ofDefinition (salesReport_legible 2 _))
  have hself : (DefinitionRow.ofDefinition (salesReport 2 (some "customers"))).afterSetDefault 1 2
      (some "customers") = .ofDefinition (defaultReport 2 "customers") :=
    DefinitionRow.afterSetDefault_self _ _
  have hother : (DefinitionRow.ofDefinition (defaultReport 1 "sales")).afterSetDefault 1 2
      (some "customers") = .ofDefinition (defaultReport 1 "sales") := by
    refine DefinitionRow.afterSetDefault_other ?_ ?_
    · change (1 : Int) ≠ 2
      decide
    · change some "sales" ≠ some "customers"
      decide
  rw [withDefaults, store_handle_setDefault hget]

  rw [Store.setDefault_of_read hget, store_setDefault_first]
  have hcategory : (salesReport 2 (some "customers")).category = some "customers" := rfl
  rw [hcategory, List.map_cons, List.map_singleton, hself, hother]

theorem getDefinition_withDefaults :
    withDefaults.store.getDefinition 1 2 = .ok (some (defaultReport 2 "customers")) := by
  rw [store_withDefaults]
  exact Store.getDefinition_of_find rfl
    (DefinitionRow.read?_ofDefinition (defaultReport_legible 2 "customers"))

/-- Both categories of the shop have a default report, and one only. -/
theorem exclusive_withDefaults :
    withDefaults.store.definitions.countP (·.isDefault) = 2 ∧ withDefaults.store.Exclusive := by
  have hfirst : shopReports.Answers { data := () } withReport := ⟨_, id, rfl⟩
  have hsecond : shopReports.Answers withReport withTwoReports := ⟨_, id, rfl⟩
  have hmark : shopReports.Answers withTwoReports
      (shopReports.handle (.setDefault 1 1) withTwoReports) := ⟨_, id, rfl⟩
  have hmark' : shopReports.Answers (shopReports.handle (.setDefault 1 1) withTwoReports)
      withDefaults := ⟨_, id, rfl⟩
  constructor
  · rw [store_withDefaults]
    rfl
  · exact exclusive_of_requests rfl
      (.tail (.tail (.tail (.single hfirst) hsecond) hmark) hmark')

/-- The second default report is moved to the category of the first one, which then has two. -/
theorem not_exclusive_after_update : ∃ w : World Unit,
    Relation.ReflTransGen (fun w w' => ∃ q : Request, w' = shopReports.handle q w)
      { data := () } w ∧ ¬ w.store.Exclusive := by
  refine ⟨shopReports.handle (.update 1 2 (salesReportDraft "sales")) withDefaults, ?_, ?_⟩
  · exact .tail (.tail (.tail (.tail (.single ⟨_, rfl⟩) ⟨_, rfl⟩) ⟨_, rfl⟩) ⟨_, rfl⟩) ⟨_, rfl⟩
  · refine not_exclusive_handle (build_salesReportDraft (.inl rfl)) getDefinition_withDefaults ?_
    change withDefaults.store.Collides 1 2 (some "sales")
    rw [store_withDefaults]
    exact ⟨_, List.mem_cons_of_mem _ List.mem_cons_self, rfl, rfl, _, List.mem_cons_self, rfl,
      by decide, rfl, rfl⟩

end Reports

end TenantReports
