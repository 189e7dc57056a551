import TenantReports.Proofs.Store.Agreement

/-!
# Reports and their schedules

Every schedule belongs to a report of its tenant; a report is marked as scheduled exactly if one of
its schedules is active; no tenant has more active schedules than it may have. Between two steps
of an operation the mark of a report may be out of date: such a report is owed a refresh. Each
operation of the store keeps this up, or says which report it now owes one.

## Main definitions

* `Store.Coherent`: the three conditions
* `Store.CoherentExcept`: the same, with the reports that are owed a refresh
* `DefinitionRow.mark`, `ScheduleRow.mark`: what the conditions depend on
* `Store.Ties`, `Store.Tied`: the rows of a schedule belong to a report

## Main results

* `Store.CoherentExcept.of_agree`: operations that the marks do not show
* `Store.CoherentExcept.refreshScheduled`: a refresh pays what is owed
* `Store.CoherentExcept.insertDefinition`, `Store.CoherentExcept.deleteSchedule`, …: the others
-/

namespace TenantReports

open Time (Instant)

/-- What coherence depends on in the row of a report. -/
def DefinitionRow.mark (r : DefinitionRow) : Int × Int × Bool := (r.tenant, r.id, r.scheduled)

/-- What coherence depends on in the row of a schedule. -/
def ScheduleRow.mark (r : ScheduleRow) : Int × Int × Int × Bool :=
  (r.tenant, r.id, r.report, r.active)

namespace Store

/-- **Coherence.** Schedules belong to reports of their tenants, the marks of scheduled reports
are right, and active schedules are within the cap. -/
structure Coherent (s : Store) (cap : Nat) : Prop where
  attached : ∀ r ∈ s.schedules, ∃ d ∈ s.definitions, d.tenant = r.tenant ∧ d.id = r.report
  scheduled_iff : ∀ d ∈ s.definitions, d.scheduled = true ↔
    ∃ r ∈ s.schedules, r.tenant = d.tenant ∧ r.report = d.id ∧ r.active = true
  countActive_le : ∀ tenant, s.countActive tenant ≤ cap

/-- Coherence between the steps of operations: the marks of the reports in `owed`, each given by
its tenant and id, may be out of date. Ids are given once. -/
structure CoherentExcept (s : Store) (cap : Nat) (owed : Int × Int → Prop) : Prop where
  reports : Numbered (s.definitions.map (·.id)) s.lastDefinition
  numbered : Numbered (s.schedules.map (·.id)) s.lastSchedule
  attached : ∀ r ∈ s.schedules, ∃ d ∈ s.definitions, d.tenant = r.tenant ∧ d.id = r.report
  marked : ∀ d ∈ s.definitions, ¬ owed (d.tenant, d.id) →
    d.scheduled = s.hasActiveSchedule d.tenant d.id
  countActive_le : ∀ tenant, s.countActive tenant ≤ cap

/-- The rows of a schedule belong to a report. -/
def Ties (s : Store) (tenant id report : Int) : Prop :=
  ∀ r ∈ s.schedules, r.isAt tenant id = true → r.report = report

/-- Coherence, and ids that are given once. -/
abbrev Settled (s : Store) (cap : Nat) : Prop := s.CoherentExcept cap fun _ => False

variable {s t : Store} {cap : Nat} {owed owed' : Int × Int → Prop} {tenant id : Int}

theorem Settled.coherent (h : s.Settled cap) : s.Coherent cap where
  attached := h.attached
  scheduled_iff d hd := by rw [h.marked d hd not_false, hasActiveSchedule_iff]
  countActive_le := h.countActive_le

theorem settled_empty : Settled {} cap where
  reports := .nil
  numbered := .nil
  attached := by simp
  marked := by simp
  countActive_le := by simp [countActive]

/-! ## Operations that the marks do not show -/

section Agree

variable (h : Agree DefinitionRow.mark ScheduleRow.mark s t)

include h

theorem Agree.hasActiveSchedule (tenant report : Int) :
    t.hasActiveSchedule tenant report = s.hasActiveSchedule tenant report := by
  have hmarks : ∀ u : Store, u.hasActiveSchedule tenant report
      = (u.schedules.map ScheduleRow.mark).any fun m =>
          m.1 == tenant && m.2.2.1 == report && m.2.2.2 := by
    intro u
    rw [List.any_map]
    rfl
  rw [hmarks, hmarks, h.schedules]

theorem Agree.countActive (tenant : Int) : t.countActive tenant = s.countActive tenant := by
  have hmarks : ∀ u : Store, u.countActive tenant
      = (u.schedules.map ScheduleRow.mark).countP fun m => m.1 == tenant && m.2.2.2 := by
    intro u
    rw [List.countP_map]
    rfl
  rw [hmarks, hmarks, h.schedules]

/-- **What the marks do not show leaves coherence as it is.** -/
theorem CoherentExcept.of_agree (hs : s.CoherentExcept cap owed) : t.CoherentExcept cap owed where
  reports := by
    have hids := h.comp (fun m => m.2.1) fun m => m.2.1
    rw [show t.definitions.map (·.id) = s.definitions.map (·.id) from hids.definitions,
      h.lastDefinition]
    exact hs.reports
  numbered := by
    have hids := h.comp (fun m => m.2.1) fun m => m.2.1
    rw [show t.schedules.map (·.id) = s.schedules.map (·.id) from hids.schedules, h.lastSchedule]
    exact hs.numbered
  attached := by
    intro r hr
    obtain ⟨r', hr', hmark⟩ := h.exists_schedule hr
    simp only [ScheduleRow.mark, Prod.mk.injEq] at hmark
    obtain ⟨htenant, -, hreport, -⟩ := hmark
    obtain ⟨d', hd', hdtenant, hdid⟩ := hs.attached r' hr'
    obtain ⟨d, hd, hdmark⟩ := h.symm.exists_definition hd'
    simp only [DefinitionRow.mark, Prod.mk.injEq] at hdmark
    exact ⟨d, hd, by rw [hdmark.1, hdtenant, htenant], by rw [hdmark.2.1, hdid, hreport]⟩
  marked := by
    intro d hd hnot
    obtain ⟨d', hd', hmark⟩ := h.exists_definition hd
    simp only [DefinitionRow.mark, Prod.mk.injEq] at hmark
    obtain ⟨htenant, hid, hscheduled⟩ := hmark
    rw [h.hasActiveSchedule, ← hscheduled, ← htenant, ← hid]
    exact hs.marked d' hd' (by rwa [htenant, hid])
  countActive_le := by
    intro tenant
    rw [h.countActive]
    exact hs.countActive_le tenant

end Agree

/-! ## What changes of schedules do to other reports -/

/-- A new schedule belongs to its report. -/
theorem hasActiveSchedule_insertScheduleWithinCap {new : Schedule} {report : Int}
    (hother : (tenant, report) ≠ (new.tenant, new.report)) :
    (s.insertScheduleWithinCap new cap).2.hasActiveSchedule tenant report
      = s.hasActiveSchedule tenant report := by
  rcases insertScheduleWithinCap_cases s new cap with ⟨-, heq⟩ | ⟨-, -, heq⟩
  · rw [heq]
  rw [heq]
  have hapart : (new.tenant == tenant && new.report == report) = false := by
    rw [Bool.eq_false_iff]
    intro hsame
    rw [Bool.and_eq_true, beq_iff_eq, beq_iff_eq] at hsame
    exact hother (by rw [hsame.1, hsame.2])
  simp [hasActiveSchedule, List.any_append, ScheduleRow.ofSchedule, hapart]

/-- It counts for its tenant, if there is room. -/
theorem countActive_insertScheduleWithinCap_le (new : Schedule)
    (hle : s.countActive tenant ≤ cap) :
    (s.insertScheduleWithinCap new cap).2.countActive tenant ≤ cap := by
  rcases insertScheduleWithinCap_cases s new cap with ⟨-, heq⟩ | ⟨hroom, -, heq⟩
  · rw [heq]
    exact hle
  rw [heq]
  unfold countActive at hle hroom ⊢
  rw [List.countP_append, List.countP_singleton]
  split
  · rename_i hcounts
    rw [Bool.and_eq_true, beq_iff_eq] at hcounts
    rw [← hcounts.1]
    exact hroom
  · exact hle

theorem numbered_insertScheduleWithinCap (new : Schedule)
    (h : Numbered (s.schedules.map (·.id)) s.lastSchedule) :
    Numbered ((s.insertScheduleWithinCap new cap).2.schedules.map (·.id))
      (s.insertScheduleWithinCap new cap).2.lastSchedule := by
  rcases insertScheduleWithinCap_cases s new cap with ⟨-, heq⟩ | ⟨-, -, heq⟩
  · rw [heq]
    exact h
  · rw [heq, List.map_append]
    exact h.concat

/-- A schedule that is stopped no longer counts for its tenant. -/
theorem countActive_stopSchedule_le (tenant' : Int) (now : Instant) :
    (s.setScheduleActive tenant id false now).2.countActive tenant' ≤ s.countActive tenant' := by
  rw [setScheduleActive_snd]
  unfold countActive mapSchedules
  rw [List.countP_map]
  refine List.countP_mono_left fun r _ hcounts => ?_
  rw [Function.comp_apply] at hcounts
  split at hcounts
  · simp at hcounts
  · exact hcounts

theorem numbered_stopSchedule (now : Instant)
    (h : Numbered (s.schedules.map (·.id)) s.lastSchedule) :
    Numbered ((s.setScheduleActive tenant id false now).2.schedules.map (·.id))
      (s.setScheduleActive tenant id false now).2.lastSchedule := by
  rw [setScheduleActive_snd, mapSchedules_ids]
  · exact h
  · exact fun _ => rfl

theorem countActive_deleteSchedule_le (tenant' : Int) :
    (s.deleteSchedule tenant id).2.countActive tenant' ≤ s.countActive tenant' :=
  List.filter_sublist.countP_le

section Ties

variable {report tenant' report' : Int} (hties : s.Ties tenant id report)
  (hother : (tenant', report') ≠ (tenant, report))

include hties hother

/-- Rows of a schedule belong to its report, so no other report sees them change. -/
theorem Ties.not_isAt {r : ScheduleRow} (hr : r ∈ s.schedules) (htenant : r.tenant = tenant')
    (hreport : r.report = report') : ¬ r.isAt tenant id = true := by
  intro hat
  apply hother
  rw [← htenant, ← hreport, (ScheduleRow.isAt_iff.mp hat).1, hties r hr hat]

theorem Ties.hasActiveSchedule_stopSchedule (now : Instant) :
    (s.setScheduleActive tenant id false now).2.hasActiveSchedule tenant' report'
      = s.hasActiveSchedule tenant' report' := by
  rw [setScheduleActive_snd, Bool.eq_iff_iff, hasActiveSchedule_iff, hasActiveSchedule_iff]
  constructor
  · rintro ⟨r', hr', htenant, hreport, hactive⟩
    obtain ⟨r, hr, rfl⟩ := List.mem_map.mp hr'
    by_cases hat : r.isAt tenant id = true
    · rw [if_pos hat] at hactive
      cases hactive
    · rw [if_neg hat] at htenant hreport hactive
      exact ⟨r, hr, htenant, hreport, hactive⟩
  · rintro ⟨r, hr, htenant, hreport, hactive⟩
    have hnot := hties.not_isAt hother hr htenant hreport
    exact ⟨r, List.mem_map.mpr ⟨r, hr, if_neg hnot⟩, htenant, hreport, hactive⟩

theorem Ties.hasActiveSchedule_deleteSchedule :
    (s.deleteSchedule tenant id).2.hasActiveSchedule tenant' report'
      = s.hasActiveSchedule tenant' report' := by
  rw [Bool.eq_iff_iff, hasActiveSchedule_iff, hasActiveSchedule_iff]
  constructor
  · rintro ⟨r, hr, hmark⟩
    exact ⟨r, List.mem_of_mem_filter hr, hmark⟩
  · rintro ⟨r, hr, htenant, hreport, hactive⟩
    have hnot := hties.not_isAt hother hr htenant hreport
    exact ⟨r, List.mem_filter.mpr ⟨hr, by simpa using hnot⟩, htenant, hreport, hactive⟩

end Ties

/-! ## Reports -/

namespace CoherentExcept

variable (h : s.CoherentExcept cap owed)

include h

theorem mono (howed : ∀ k, owed k → owed' k) : s.CoherentExcept cap owed' :=
  { h with marked := fun d hd hnot => h.marked d hd (mt (howed _) hnot) }

/-- A new report has no schedules: all there are belong to older ones. -/
theorem insertDefinition {d : Definition} (hd : d.scheduled = false) :
    (s.insertDefinition d).2.CoherentExcept cap owed where
  reports := by
    have hids : (s.insertDefinition d).2.definitions.map (·.id)
        = s.definitions.map (·.id) ++ [s.lastDefinition + 1] := by
      simp [Store.insertDefinition]
    rw [hids]
    exact h.reports.concat
  numbered := h.numbered
  attached := by
    intro r hr
    obtain ⟨d', hd', heq⟩ := h.attached r hr
    exact ⟨d', List.mem_append_left _ hd', heq⟩
  marked := by
    intro d' hd' hnot
    rcases List.mem_append.mp hd' with hd' | hd'
    · exact h.marked d' hd' hnot
    · rw [List.mem_singleton] at hd'
      subst hd'
      refine hd.trans (Eq.symm (Bool.eq_false_iff.mpr fun hactive => ?_))
      obtain ⟨r, hr, -, hreport, -⟩ := hasActiveSchedule_iff.mp hactive
      have hnext : r.report = s.lastDefinition + 1 := hreport
      obtain ⟨d', hd', -, hid⟩ := h.attached r hr
      have hle := h.reports.le_last d'.id (List.mem_map_of_mem hd')
      omega
  countActive_le := h.countActive_le

/-- The schedules of a report go with it. -/
theorem deleteDefinition (tenant id : Int) :
    (s.deleteDefinition tenant id).2.CoherentExcept cap owed where
  reports := h.reports.sublist (List.filter_sublist.map _)
  numbered := h.numbered.sublist (List.filter_sublist.map _)
  attached := by
    intro r hr
    obtain ⟨hr, hother⟩ := List.mem_filter.mp hr
    obtain ⟨d, hd, htenant, hid⟩ := h.attached r hr
    refine ⟨d, List.mem_filter.mpr ⟨hd, ?_⟩, htenant, hid⟩
    rw [DefinitionRow.isAt, htenant, hid]
    exact hother
  marked := by
    intro d hd hnot
    obtain ⟨hd, hother⟩ := List.mem_filter.mp hd
    rw [h.marked d hd hnot, Bool.eq_iff_iff, hasActiveSchedule_iff, hasActiveSchedule_iff]
    constructor
    · rintro ⟨r, hr, htenant, hreport, hactive⟩
      refine ⟨r, List.mem_filter.mpr ⟨hr, ?_⟩, htenant, hreport, hactive⟩
      rw [htenant, hreport]
      exact hother
    · rintro ⟨r, hr, hmark⟩
      exact ⟨r, List.mem_of_mem_filter hr, hmark⟩
  countActive_le tenant := Nat.le_trans List.filter_sublist.countP_le (h.countActive_le tenant)

/-- **A refresh pays what a report was owed**, and leaves the others as they are. -/
theorem refreshScheduled (tenant id : Int) :
    (s.refreshScheduled tenant id).2.CoherentExcept cap fun k => owed k ∧ k ≠ (tenant, id) where
  reports := by
    rw [Store.refreshScheduled, changeDefinition_ids]
    · exact h.reports
    · exact fun _ => rfl
  numbered := h.numbered
  attached := by
    intro r hr
    obtain ⟨d, hd, htenant, hid⟩ := h.attached r hr
    refine ⟨_, List.mem_map_of_mem hd, ?_, ?_⟩
    · split <;> exact htenant
    · split <;> exact hid
  marked := by
    intro d' hd' hnot
    obtain ⟨d, hd, rfl⟩ := List.mem_map.mp hd'
    by_cases hat : d.isAt tenant id = true
    · obtain ⟨rfl, rfl⟩ := DefinitionRow.isAt_iff.mp hat
      rw [if_pos hat]
      rfl
    · rw [if_neg hat] at hnot ⊢
      refine h.marked d hd fun howed => hnot ⟨howed, fun heq => hat ?_⟩
      rw [Prod.mk.injEq] at heq
      exact DefinitionRow.isAt_iff.mpr heq
  countActive_le := h.countActive_le

/-! ## Schedules -/

/-- A new schedule within the cap; its report is owed a refresh. -/
theorem insertScheduleWithinCap {new : Schedule}
    (hreport : ∃ d ∈ s.definitions, d.tenant = new.tenant ∧ d.id = new.report) :
    (s.insertScheduleWithinCap new cap).2.CoherentExcept cap fun k =>
      owed k ∨ k = (new.tenant, new.report) where
  reports := by
    rcases insertScheduleWithinCap_cases s new cap with ⟨-, heq⟩ | ⟨-, -, heq⟩
    · rw [heq]
      exact h.reports
    · rw [heq]
      exact h.reports
  numbered := numbered_insertScheduleWithinCap new h.numbered
  attached := by
    intro r hr
    rw [insertScheduleWithinCap_definitions]
    rcases insertScheduleWithinCap_cases s new cap with ⟨-, heq⟩ | ⟨-, -, heq⟩
    · rw [heq] at hr
      exact h.attached r hr
    · rw [heq] at hr
      rcases List.mem_append.mp hr with hr | hr
      · exact h.attached r hr
      · rw [List.mem_singleton] at hr
        subst hr
        exact hreport
  marked := by
    intro d hd hnot
    rw [insertScheduleWithinCap_definitions] at hd
    rw [not_or] at hnot
    rw [hasActiveSchedule_insertScheduleWithinCap hnot.2]
    exact h.marked d hd hnot.1
  countActive_le tenant := countActive_insertScheduleWithinCap_le new (h.countActive_le tenant)

/-- A schedule is written back as it was read, its report and whether it is active included. -/
theorem updateSchedule {current : Schedule} (new : Schedule)
    (hread : s.getSchedule tenant id = .ok (some current)) (hid : new.id = current.id)
    (hactive : new.active = current.active) (now : Instant) :
    (s.updateSchedule new now).2.CoherentExcept cap owed := by
  refine of_agree ?_ h
  rw [updateSchedule_snd]
  obtain ⟨row, hrow, -, hrowread⟩ := row_of_getSchedule hread
  have hinfo := (ScheduleRow.info_of_read? hrowread).1
  refine agree_mapSchedules s fun r hr hat => ?_
  have hsame : r = row := by
    refine h.numbered.eq_of_id hr hrow ?_
    rw [(ScheduleRow.isAt_iff.mp hat).2, hid, hinfo]
  rw [ScheduleRow.mark, ScheduleRow.mark, hactive, hinfo, hsame]

section Stop

variable {report : Int} (hties : s.Ties tenant id report)

include hties

/-- A schedule is stopped; its report is owed a refresh. -/
theorem stopSchedule (now : Instant) :
    (s.setScheduleActive tenant id false now).2.CoherentExcept cap fun k =>
      owed k ∨ k = (tenant, report) where
  reports := by
    rw [setScheduleActive_snd]
    exact h.reports
  numbered := numbered_stopSchedule now h.numbered
  attached := by
    intro r' hr'
    rw [setScheduleActive_snd] at hr' ⊢
    obtain ⟨r, hr, rfl⟩ := List.mem_map.mp hr'
    obtain ⟨d, hd, htenant, hid⟩ := h.attached r hr
    refine ⟨d, hd, ?_, ?_⟩
    · split <;> exact htenant
    · split <;> exact hid
  marked := by
    intro d hd hnot
    rw [not_or] at hnot
    rw [hties.hasActiveSchedule_stopSchedule hnot.2]
    rw [setScheduleActive_snd] at hd
    exact h.marked d hd hnot.1
  countActive_le tenant' := Nat.le_trans (countActive_stopSchedule_le tenant' now)
    (h.countActive_le tenant')

/-- A schedule is taken away; its report is owed a refresh. -/
theorem deleteSchedule :
    (s.deleteSchedule tenant id).2.CoherentExcept cap fun k => owed k ∨ k = (tenant, report) where
  reports := h.reports
  numbered := h.numbered.sublist (List.filter_sublist.map _)
  attached r hr := h.attached r (List.mem_of_mem_filter hr)
  marked := by
    intro d hd hnot
    rw [not_or] at hnot
    rw [hties.hasActiveSchedule_deleteSchedule hnot.2]
    exact h.marked d hd hnot.1
  countActive_le tenant' := Nat.le_trans (countActive_deleteSchedule_le tenant')
    (h.countActive_le tenant')

end Stop

end CoherentExcept

/-- The one report that is owed a refresh gets it. -/
theorem settled_refreshScheduled {report : Int}
    (h : s.CoherentExcept cap fun k => False ∨ k = (tenant, report)) :
    (s.refreshScheduled tenant report).2.Settled cap := by
  refine (h.refreshScheduled tenant report).mono fun k hk => ?_
  obtain ⟨hfalse | heq, hne⟩ := hk
  · exact hfalse
  · exact hne heq

/-! ## Schedules that were read -/

/-- Ids are given once, so whoever read the row of a schedule knows its report. -/
theorem ties_of_read (h : Numbered (s.schedules.map (·.id)) s.lastSchedule) {row : ScheduleRow}
    (hrow : row ∈ s.schedules) {d : Schedule} (hread : row.read? = some d) :
    s.Ties d.tenant d.id d.report := by
  intro r hr hat
  have hinfo := (ScheduleRow.info_of_read? hread).1
  have hsame : r = row := by
    apply h.eq_of_id hr hrow
    rw [(ScheduleRow.isAt_iff.mp hat).2, hinfo]
  rw [hsame, hinfo]

theorem ties_of_getSchedule (h : Numbered (s.schedules.map (·.id)) s.lastSchedule) {d : Schedule}
    (hget : s.getSchedule tenant id = .ok (some d)) : s.Ties tenant id d.report := by
  obtain ⟨row, hrow, -, hread⟩ := row_of_getSchedule hget
  obtain ⟨rfl, rfl⟩ := isAt_of_getSchedule hget
  exact ties_of_read h hrow hread

theorem Ties.of_agree {report : Int} (hs : s.Ties tenant id report)
    (h : Agree DefinitionRow.mark ScheduleRow.mark s t) : t.Ties tenant id report := by
  intro r hr hat
  obtain ⟨r', hr', hmark⟩ := h.exists_schedule hr
  simp only [ScheduleRow.mark, Prod.mk.injEq] at hmark
  obtain ⟨htenant, hid, hreport, -⟩ := hmark
  rw [← hreport]
  refine hs r' hr' (ScheduleRow.isAt_iff.mpr ?_)
  rw [htenant, hid]
  exact ScheduleRow.isAt_iff.mp hat

/-- A change that leaves tenants, ids and reports alone. -/
theorem Ties.mapSchedules {report : Int} (hs : s.Ties tenant id report) (p : ScheduleRow → Bool)
    {f : ScheduleRow → ScheduleRow}
    (hf : ∀ r, (f r).tenant = r.tenant ∧ (f r).id = r.id ∧ (f r).report = r.report) :
    (s.mapSchedules p f).Ties tenant id report := by
  intro r' hr' hat
  obtain ⟨r, hr, rfl⟩ := List.mem_map.mp hr'
  obtain ⟨htenant, hid, hreport⟩ := hf r
  by_cases hp : p r = true
  · rw [if_pos hp, ScheduleRow.isAt_iff, htenant, hid, ← ScheduleRow.isAt_iff] at hat
    rw [if_pos hp, hreport]
    exact hs r hr hat
  · rw [if_neg hp] at hat ⊢
    exact hs r hr hat

/-- The rows of a schedule belong to a report, and its id was given, so that no new schedule will
have it. -/
structure Tied (s : Store) (tenant id report : Int) : Prop where
  ties : s.Ties tenant id report
  id_le : id ≤ s.lastSchedule

theorem tied_of_getSchedule (h : Numbered (s.schedules.map (·.id)) s.lastSchedule) {d : Schedule}
    (hget : s.getSchedule tenant id = .ok (some d)) : s.Tied tenant id d.report where
  ties := ties_of_getSchedule h hget
  id_le := by
    obtain ⟨row, hrow, hat, -⟩ := row_of_getSchedule hget
    rw [← (ScheduleRow.isAt_iff.mp hat).2]
    exact h.le_last row.id (List.mem_map_of_mem hrow)

namespace Tied

variable {report : Int} (h : s.Tied tenant id report)

include h

theorem of_agree (hagree : Agree DefinitionRow.mark ScheduleRow.mark s t) :
    t.Tied tenant id report where
  ties := h.ties.of_agree hagree
  id_le := by
    rw [hagree.lastSchedule]
    exact h.id_le

theorem insertScheduleWithinCap (new : Schedule) (cap : Nat) :
    (s.insertScheduleWithinCap new cap).2.Tied tenant id report := by
  rcases insertScheduleWithinCap_cases s new cap with ⟨-, heq⟩ | ⟨-, -, heq⟩
  · rw [heq]
    exact h
  have hle := h.id_le
  rw [heq]
  constructor
  · intro r hr hat
    rcases List.mem_append.mp hr with hr | hr
    · exact h.ties r hr hat
    · -- the new schedule has a new id
      rw [List.mem_singleton] at hr
      subst hr
      have hid : s.lastSchedule + 1 = id := (ScheduleRow.isAt_iff.mp hat).2
      omega
  · show id ≤ s.lastSchedule + 1
    omega

theorem stopSchedule (tenant' id' : Int) (now : Instant) :
    (s.setScheduleActive tenant' id' false now).2.Tied tenant id report := by
  rw [setScheduleActive_snd]
  exact ⟨h.ties.mapSchedules _ fun _ => ⟨rfl, rfl, rfl⟩, h.id_le⟩

theorem deleteSchedule (tenant' id' : Int) :
    (s.deleteSchedule tenant' id').2.Tied tenant id report :=
  ⟨fun r hr hat => h.ties r (List.mem_of_mem_filter hr) hat, h.id_le⟩

theorem refreshScheduled (tenant' report' : Int) :
    (s.refreshScheduled tenant' report').2.Tied tenant id report :=
  ⟨h.ties, h.id_le⟩

end Tied

end Store

end TenantReports
