import TenantReports.Proofs.Tenants.Rows
import TenantReports.Proofs.Tenants.Twins

/-!
# Twins after a change

Two stores hold the same rows of a tenant, and the same operation is done to both, at times of
their own. The rows of the tenant are twins then, and so are the answers. An operation that keeps
within the rows of the tenant is compared on those rows alone.

## Main definitions

* `Store.Apart`: what the operations may leave behind

## Main results

* `Store.Within.apart`: operations within the rows of a tenant
* `Store.apart_updateDefinition`, `Store.apart_insertDefinition`, …: the operations that read the
  clock or give ids
-/

namespace TenantReports

open Time (Instant)

namespace Store

variable {m : Pairing} {s s' t t' : Store} {tenant id : Int} {α : Type}

/-- From two stores the operations have come to two others: the rows of the tenant are twins, and
those of all other tenants are what they were. -/
structure Apart (m : Pairing) (tenant : Int) (s s' t t' : Store) : Prop where
  rows : (t.own tenant).Twin m (t'.own tenant)
  others : t.others tenant = s.others tenant
  others' : t'.others tenant = s'.others tenant

/-- **Operations within the rows of a tenant** do to two stores what they do to these rows. -/
theorem Within.apart {f g : Store → α × Store} (hf : Within tenant f) (hg : Within tenant g)
    (hown : s.own tenant = s'.own tenant) {R : α → α → Prop}
    (h : ∀ o, R (f o).1 (g o).1 ∧ (f o).2.Twin m (g o).2) :
    R (f s).1 (g s').1 ∧ Apart m tenant s s' (f s).2 (g s').2 := by
  obtain ⟨hanswer, htwin⟩ := h (s.own tenant)
  constructor
  · rw [hf.answer, hg.answer, ← hown]
    exact hanswer
  · refine ⟨?_, hf.others s, hg.others s'⟩
    rw [hf.own, hg.own, ← hown]
    exact htwin

section Same

variable (hm : m.KeepsIds) (hown : s.own tenant = s'.own tenant)

include hm hown

theorem Apart.refl : Apart m tenant s s' s s' := by
  refine ⟨?_, rfl, rfl⟩
  rw [← hown]
  exact .refl hm _

/-- An operation that reads no clock and gives no ids does the same to both. -/
theorem Within.same {f : Store → α × Store} (hf : Within tenant f) :
    (f s).1 = (f s').1 ∧ Apart m tenant s s' (f s).2 (f s').2 :=
  hf.apart hf hown fun _ => ⟨rfl, .refl hm _⟩

end Same

/-! ## Reading twins -/

/-- Twins are found under the same ids, or are not there both. -/
theorem needDefinition_twin (hm : m.Readable)
    (h : List.Forall₂ (fun r r' : DefinitionRow => r.Twin m r' ∧ r'.id = r.id) s.definitions
      t.definitions) :
    Except.Rel Eq (Definition.Twin m) (s.needDefinition tenant id)
      (t.needDefinition tenant id) := by
  have hat : ∀ r r' : DefinitionRow, r.Twin m r' ∧ r'.id = r.id →
      r'.isAt tenant id = r.isAt tenant id := by
    rintro r r' ⟨htwin, hid⟩
    rw [DefinitionRow.isAt, DefinitionRow.isAt, htwin.tenant, hid]
  rcases find?_of_forall₂ h hat with ⟨hnone, hnone'⟩ | ⟨r, r', hfind, hfind', htwin, -⟩
  · rw [needDefinition, needDefinition, getDefinition, getDefinition, definitionRow?,
      definitionRow?, hnone, hnone']
    exact .error rfl
  · rw [needDefinition_of_find hfind, needDefinition_of_find hfind']
    exact orUnreadable_twin (htwin.read? hm)

theorem needSchedule_twin (hm : m.Readable)
    (h : List.Forall₂ (fun r r' : ScheduleRow => r.Twin m r' ∧ r'.id = r.id) s.schedules
      t.schedules) :
    Except.Rel Eq (Schedule.Twin m) (s.needSchedule tenant id) (t.needSchedule tenant id) := by
  have hat : ∀ r r' : ScheduleRow, r.Twin m r' ∧ r'.id = r.id →
      r'.isAt tenant id = r.isAt tenant id := by
    rintro r r' ⟨htwin, hid⟩
    rw [ScheduleRow.isAt, ScheduleRow.isAt, htwin.tenant, hid]
  rcases find?_of_forall₂ h hat with ⟨hnone, hnone'⟩ | ⟨r, r', hfind, hfind', htwin, -⟩
  · rw [needSchedule, needSchedule, getSchedule, getSchedule, hnone, hnone']
    exact .error rfl
  · rw [needSchedule_of_find hfind, needSchedule_of_find hfind']
    exact orUnreadable_twin (htwin.read? hm)

/-- Whether a report is scheduled twins say alike. -/
theorem hasActiveSchedule_twin
    (h : List.Forall₂ (ScheduleRow.Twin m) s.schedules t.schedules) (report : Int) :
    s.hasActiveSchedule tenant report = t.hasActiveSchedule tenant report := by
  unfold hasActiveSchedule
  generalize s.schedules = rows at h ⊢
  generalize t.schedules = rows' at h ⊢
  induction h with
  | nil => rfl
  | @cons r r' _ _ htwin _ ih =>
    have hsame : (r'.tenant, r'.report, r'.active) = (r.tenant, r.report, r.active) := by
      rw [htwin.rest]
    simp only [Prod.mk.injEq] at hsame
    rw [List.any_cons, List.any_cons, ih, hsame.1, hsame.2.1, hsame.2.2]

/-! ## Rows that are changed -/

/-- The same rows, changed here and there. -/
theorem forall₂_change {ρ : Type} {R : ρ → ρ → Prop} (hrefl : ∀ r, R r r) (rows : List ρ)
    (p : ρ → Bool) {f g : ρ → ρ} (hfg : ∀ r, R (f r) (g r)) :
    List.Forall₂ R (rows.map fun r => if p r then f r else r)
      (rows.map fun r => if p r then g r else r) := by
  rw [List.forall₂_map_left_iff, List.forall₂_map_right_iff, List.forall₂_same]
  intro r _
  split
  · exact hfg r
  · exact hrefl r

variable {now now' : Instant} (hids : m.KeepsIds) (hm : m.Readable)

section Changed

include hids

/-- **A run counts** for a report, at paired times. -/
theorem apart_recordAttempt (hnow : m.time now now') (hown : s.own tenant = s'.own tenant)
    (id : Int) :
    Apart m tenant s s' (s.recordAttempt tenant id now).2 (s'.recordAttempt tenant id now').2 := by
  refine ((within_recordAttempt tenant id now).apart (within_recordAttempt tenant id now') hown
    (R := fun _ _ => True) fun o => ⟨trivial, ?_⟩).2
  have hrefl := Twin.refl hids o
  rw [recordAttempt_snd, recordAttempt_snd]
  refine ⟨?_, hrefl.executions, hrefl.schedules⟩
  refine forall₂_change (DefinitionRow.Twin.refl hids) o.definitions _ fun r => ?_
  exact ⟨hids.report _, .some (.of hnow), .same _, .same _, rfl⟩

/-- **A refresh** goes by the schedules that are active. -/
theorem Apart.refreshScheduled (h : Apart m tenant s s' t t')
    (hsame : (t.own tenant).definitions = (t'.own tenant).definitions) (report : Int) :
    Apart m tenant s s' (t.refreshScheduled tenant report).2
      (t'.refreshScheduled tenant report).2 := by
  have hwithin := within_refreshScheduled tenant report
  refine ⟨?_, (hwithin.others t).trans h.others, (hwithin.others t').trans h.others'⟩
  rw [hwithin.own, hwithin.own]
  refine ⟨?_, h.rows.executions, h.rows.schedules⟩
  unfold Store.refreshScheduled changeDefinition
  dsimp only
  rw [hasActiveSchedule_twin h.rows.schedules, hsame]
  exact List.forall₂_same.mpr fun r _ => .refl hids r

/-- **A schedule is stopped**, at paired times. -/
theorem apart_setScheduleActive (hnow : m.time now now') (hown : s.own tenant = s'.own tenant)
    (id : Int) (active : Bool) :
    (s.setScheduleActive tenant id active now).1 = (s'.setScheduleActive tenant id active now').1 ∧
      Apart m tenant s s' (s.setScheduleActive tenant id active now).2
        (s'.setScheduleActive tenant id active now').2 := by
  refine (within_setScheduleActive tenant id active now).apart
    (within_setScheduleActive tenant id active now') hown fun o => ⟨?_, ?_⟩
  · unfold setScheduleActive changeSchedules
    cases o.schedules.any (ScheduleRow.isAt tenant id) <;> rfl
  · have hrefl := Twin.refl hids o
    rw [setScheduleActive_snd, setScheduleActive_snd]
    refine ⟨hrefl.definitions, hrefl.executions, ?_⟩
    refine forall₂_change (ScheduleRow.Twin.refl hids) o.schedules _ fun r => ?_
    exact ⟨hids.schedule _, .same _, .same _, .of hnow, rfl⟩

include hm

/-- **A report is updated**, at paired times. -/
theorem apart_updateDefinition (hnow : m.time now now') (d : Definition)
    (hown : s.own d.tenant = s'.own d.tenant) :
    Except.Rel Eq (Definition.Twin m) (s.updateDefinition d now).1 (s'.updateDefinition d now').1 ∧
      Apart m d.tenant s s' (s.updateDefinition d now).2 (s'.updateDefinition d now').2 := by
  refine (within_updateDefinition d now).apart (within_updateDefinition d now') hown fun o => ?_
  unfold updateDefinition
  cases o.needDefinition d.tenant d.id with
  | error e => exact ⟨.error rfl, .refl hids o⟩
  | ok current =>
    -- ids and tenants stay, so the report that is read afterwards is the one that was changed
    have hrows := forall₂_change (R := fun r r' : DefinitionRow => r.Twin m r' ∧ r'.id = r.id)
      (fun r => ⟨.refl hids r, rfl⟩) o.definitions (DefinitionRow.isAt d.tenant d.id) (f := fun r =>
        { r with
          name := d.name, description := d.description, category := d.category
          layout := d.layout.text, shared := d.shared, favorite := d.favorite
          version := if d.layout.hash = current.hash then current.version else current.version + 1
          hash := d.layout.hash, updatedAt := Time.rfc3339Micros now }) (g := fun r =>
        { r with
          name := d.name, description := d.description, category := d.category
          layout := d.layout.text, shared := d.shared, favorite := d.favorite
          version := if d.layout.hash = current.hash then current.version else current.version + 1
          hash := d.layout.hash, updatedAt := Time.rfc3339Micros now' })
      fun r => ⟨⟨hids.report _, optionRel_refl .same _, .same _, .of hnow, rfl⟩, rfl⟩
    have hrefl := Twin.refl hids o
    exact ⟨needDefinition_twin hm hrows, hrows.imp fun _ _ h => h.1, hrefl.executions,
      hrefl.schedules⟩

/-- **A schedule is given another wish**, at paired times and with paired next runs. -/
theorem apart_updateSchedule (hnow : m.time now now') {next next' : Instant}
    (hnext : m.time next next') (d : Schedule) (spec : ScheduleSpec)
    (hown : s.own d.tenant = s'.own d.tenant) :
    Except.Rel Eq (Schedule.Twin m) (s.updateSchedule (d.withSpec spec next) now).1
        (s'.updateSchedule (d.withSpec spec next') now').1 ∧
      Apart m d.tenant s s' (s.updateSchedule (d.withSpec spec next) now).2
        (s'.updateSchedule (d.withSpec spec next') now').2 := by
  refine (within_updateSchedule (d.withSpec spec next) now).apart
    (within_updateSchedule (d.withSpec spec next') now') hown fun o => ?_
  have hrows : List.Forall₂ (fun r r' : ScheduleRow => r.Twin m r' ∧ r'.id = r.id)
      (o.updateSchedule (d.withSpec spec next) now).2.schedules
      (o.updateSchedule (d.withSpec spec next') now').2.schedules := by
    rw [updateSchedule_snd, updateSchedule_snd]
    refine forall₂_change (fun r => ⟨.refl hids r, rfl⟩) o.schedules _ fun r => ?_
    exact ⟨⟨hids.schedule _, .of hnext, .same _, .of hnow, rfl⟩, rfl⟩
  constructor
  · rw [updateSchedule_fst, updateSchedule_fst]
    exact needSchedule_twin hm hrows
  · have hrefl := Twin.refl hids o
    refine ⟨?_, ?_, hrows.imp fun _ _ h => h.1⟩
    · rw [updateSchedule_snd, updateSchedule_snd]
      exact hrefl.definitions
    · rw [updateSchedule_snd, updateSchedule_snd]
      exact hrefl.executions

end Changed

/-! ## Rows that are added -/

section Added

variable (hown : s.own tenant = s'.own tenant)

include hids hown

/-- Twins that are added are the last of their tables. -/
theorem apart_append_definition {row row' : DefinitionRow} (htwin : row.Twin m row')
    (htenant : row.tenant = tenant) (last last' : Int) :
    Apart m tenant s s'
      { s with definitions := s.definitions ++ [row], lastDefinition := last }
      { s' with definitions := s'.definitions ++ [row'], lastDefinition := last' } := by
  have htenant' : row'.tenant = tenant := htwin.tenant.trans htenant
  refine ⟨?_, others_append_definition s htenant last, others_append_definition s' htenant' last'⟩
  rw [own_append_definition s htenant last, own_append_definition s' htenant' last', ← hown]
  have hrefl := Twin.refl hids (s.own tenant)
  exact ⟨List.rel_append hrefl.definitions (.cons htwin .nil), hrefl.executions, hrefl.schedules⟩

theorem apart_append_schedule {row row' : ScheduleRow} (htwin : row.Twin m row')
    (htenant : row.tenant = tenant) (last last' : Int) :
    Apart m tenant s s'
      { s with schedules := s.schedules ++ [row], lastSchedule := last }
      { s' with schedules := s'.schedules ++ [row'], lastSchedule := last' } := by
  have htenant' : row'.tenant = tenant := htwin.tenant.trans htenant
  refine ⟨?_, others_append_schedule s htenant last, others_append_schedule s' htenant' last'⟩
  rw [own_append_schedule s htenant last, own_append_schedule s' htenant' last', ← hown]
  have hrefl := Twin.refl hids (s.own tenant)
  exact ⟨hrefl.definitions, hrefl.executions, List.rel_append hrefl.schedules (.cons htwin .nil)⟩

include hm

/-- **A report is added** here and there. -/
theorem apart_insertDefinition {d d' : Definition} (htenant : d.tenant = tenant)
    (htwin : (DefinitionRow.ofDefinition { d with id := s.lastDefinition + 1 }).Twin m
      (.ofDefinition { d' with id := s'.lastDefinition + 1 }))
    (hnumbered : Numbered (s.definitions.map (·.id)) s.lastDefinition)
    (hnumbered' : Numbered (s'.definitions.map (·.id)) s'.lastDefinition) :
    Except.Rel Eq (Definition.Twin m) (s.insertDefinition d).1 (s'.insertDefinition d').1 ∧
      Apart m tenant s s' (s.insertDefinition d).2 (s'.insertDefinition d').2 := by
  have hread := orUnreadable_twin (htwin.read? hm)
  have hrows := apart_append_definition hids hown htwin htenant
    (s.lastDefinition + 1) (s'.lastDefinition + 1)
  rw [insertDefinition_eq d hnumbered, insertDefinition_eq d' hnumbered']
  dsimp only
  exact ⟨hread, hrows⟩

/-- **A schedule is added** here and there, unless its tenant has too many or it cannot be read. -/
theorem apart_insertSchedule {d d' : Schedule} (htenant : d.tenant = tenant) (cap : Nat)
    (htwin : (ScheduleRow.ofSchedule { d with id := s.lastSchedule + 1 }).Twin m
      (.ofSchedule { d' with id := s'.lastSchedule + 1 }))
    (hnumbered : Numbered (s.schedules.map (·.id)) s.lastSchedule)
    (hnumbered' : Numbered (s'.schedules.map (·.id)) s'.lastSchedule) :
    Except.Rel Eq (Option.Rel (Schedule.Twin m)) (s.insertScheduleWithinCap d cap).1
        (s'.insertScheduleWithinCap d' cap).1 ∧
      Apart m tenant s s' (s.insertScheduleWithinCap d cap).2
        (s'.insertScheduleWithinCap d' cap).2 ∧
      ((s.insertScheduleWithinCap d cap).2.own tenant).definitions
        = ((s'.insertScheduleWithinCap d' cap).2.own tenant).definitions := by
  have htenant' : d'.tenant = tenant := htwin.tenant.trans htenant
  -- only schedules of the tenant count
  have hcount : s.countActive d.tenant = s'.countActive d'.tenant := by
    rw [htenant, htenant', ← countActive_own s, ← countActive_own s', hown]
  have hsame := congrArg Store.definitions hown
  rw [insertScheduleWithinCap_eq d cap hnumbered, insertScheduleWithinCap_eq d' cap hnumbered',
    hcount]
  by_cases hcap : cap ≤ s'.countActive d'.tenant
  · rw [if_pos hcap, if_pos hcap]
    exact ⟨.ok .none, .refl hids hown, hsame⟩
  rw [if_neg hcap, if_neg hcap]
  have hread := htwin.read? hm
  have hrows := apart_append_schedule hids hown htwin htenant
    (s.lastSchedule + 1) (s'.lastSchedule + 1)
  generalize (ScheduleRow.ofSchedule { d with id := s.lastSchedule + 1 }).read? = saved at hread ⊢
  generalize (ScheduleRow.ofSchedule { d' with id := s'.lastSchedule + 1 }).read? = saved'
    at hread ⊢
  cases hread with
  | none => exact ⟨.error rfl, .refl hids hown, hsame⟩
  | some hsaved => exact ⟨.ok (.some hsaved), hrows, hsame⟩

end Added

end Store

end TenantReports
