import TenantReports.Proofs.Store.Agreement

/-!
# Default reports

Making a report the default one of its category takes the mark from the others of the category.
An update may move a report to another category, and it takes its mark along: where that category
has a default report already, there are two of them then.

## Main definitions

* `Store.Exclusive`: no category of a tenant has two default reports
* `Store.Collides`: moving a report to a category would give that category a second one
* `DefinitionRow.Rivals`, `Store.Uncontested`: the same in terms of pairs, for inductions
* `Store.SamePlaces`: what default reports depend on stays as it is

## Main results

* `Store.Uncontested.insertDefinition`, `Store.Uncontested.setDefault`, …: what keeps it so
* `Store.Uncontested.updateDefinition`: an update that does not collide does
* `Store.not_exclusive_of_collides`: one that does collide does not
* `Store.setDefault_answers`: a mark is set or nothing changes, and the answer tells which
-/

namespace TenantReports

open Time (Instant)

/-- What default reports depend on in a row. -/
def DefinitionRow.place (r : DefinitionRow) : Int × Int × Option String × Bool :=
  (r.tenant, r.id, r.category, r.isDefault)

/-- Two default reports of one category of a tenant. -/
structure DefinitionRow.Rivals (r r' : DefinitionRow) : Prop where
  isDefault : r.isDefault = true
  isDefault' : r'.isDefault = true
  tenant : r.tenant = r'.tenant
  category : r.category = r'.category
  id_ne : r.id ≠ r'.id

theorem DefinitionRow.Rivals.symm {r r' : DefinitionRow} (h : r.Rivals r') : r'.Rivals r :=
  ⟨h.isDefault', h.isDefault, h.tenant.symm, h.category.symm, h.id_ne.symm⟩

/-- Rivals are seen in the places of rows. -/
theorem DefinitionRow.Rivals.of_place {r r' d d' : DefinitionRow} (h : r.Rivals r')
    (hd : d.place = r.place) (hd' : d'.place = r'.place) : d.Rivals d' := by
  simp only [place, Prod.mk.injEq] at hd hd'
  obtain ⟨htenant, hid, hcategory, hdefault⟩ := hd
  obtain ⟨htenant', hid', hcategory', hdefault'⟩ := hd'
  exact ⟨hdefault.trans h.isDefault, hdefault'.trans h.isDefault',
    by rw [htenant, htenant', h.tenant], by rw [hcategory, hcategory', h.category],
    by rw [hid, hid']; exact h.id_ne⟩

/-- The report itself gets the mark. -/
theorem DefinitionRow.afterSetDefault_self (d : Definition) (category : Option String) :
    (ofDefinition d).afterSetDefault d.tenant d.id category
      = ofDefinition { d with isDefault := true } := by
  have hat : (ofDefinition d).isAt d.tenant d.id = true := isAt_iff.mpr ⟨rfl, rfl⟩
  rw [afterSetDefault, if_pos hat]
  dsimp only [ofDefinition]

/-- Whether a report is the default one can be read in any case. -/
theorem DefinitionRow.read?_withDefault (r : DefinitionRow) (isDefault : Bool) :
    { r with isDefault }.read? = r.read?.map fun d => { d with isDefault } := by
  simp only [read?, Option.bind_eq_bind, Option.map_bind, Option.pure_def, Function.comp_def,
    Option.map_some]

/-- Reports of other categories stay as they are. -/
theorem DefinitionRow.afterSetDefault_other {tenant id : Int} {category : Option String}
    {r : DefinitionRow} (hid : r.id ≠ id) (hcategory : r.category ≠ category) :
    r.afterSetDefault tenant id category = r := by
  simp [afterSetDefault, isAt, hid, hcategory]

/-- A row that keeps its mark is as it was. -/
theorem DefinitionRow.eq_of_isDefault_afterSetDefault {tenant id : Int} {category : Option String}
    {r : DefinitionRow} (hat : ¬ r.isAt tenant id = true)
    (h : (r.afterSetDefault tenant id category).isDefault = true) :
    r.afterSetDefault tenant id category = r := by
  unfold afterSetDefault at h ⊢
  rw [if_neg hat] at h ⊢
  split at h
  · cases h
  · rename_i hcategory
    exact if_neg hcategory

namespace Store

/-- **No category of a tenant has two default reports**, and neither have the reports without a
category. -/
def Exclusive (s : Store) : Prop := ∀ (tenant : Int) (category : Option String),
  s.definitions.countP (fun r => r.tenant == tenant && r.category == category && r.isDefault) ≤ 1

/-- Ids are given once, and no two default reports are rivals. -/
structure Uncontested (s : Store) : Prop where
  reports : Numbered (s.definitions.map (·.id)) s.lastDefinition
  alone : ∀ r ∈ s.definitions, ∀ r' ∈ s.definitions, ¬ r.Rivals r'

/-- A default report of a tenant would come to a category with another one. -/
def Collides (s : Store) (tenant id : Int) (category : Option String) : Prop :=
  ∃ r ∈ s.definitions, r.isAt tenant id = true ∧ r.isDefault = true ∧
    ∃ r' ∈ s.definitions, r'.tenant = tenant ∧ r'.id ≠ id ∧ r'.category = category ∧
      r'.isDefault = true

/-- What default reports depend on is the same in two stores, row by row. -/
structure SamePlaces (s t : Store) : Prop where
  places : t.definitions.map DefinitionRow.place = s.definitions.map DefinitionRow.place
  lastDefinition : t.lastDefinition = s.lastDefinition

variable {s t : Store} {tenant id : Int}

/-! ## Pairs and numbers -/

/-- Where one row at most meets a condition, two that do are the same. -/
theorem eq_of_countP_le_one {ρ : Type} {p : ρ → Bool} {rows : List ρ} (h : rows.countP p ≤ 1)
    {r r' : ρ} (hr : r ∈ rows) (hr' : r' ∈ rows) (hp : p r = true) (hp' : p r' = true) :
    r = r' := by
  have hmem : r ∈ rows.filter p := List.mem_filter.mpr ⟨hr, hp⟩
  have hmem' : r' ∈ rows.filter p := List.mem_filter.mpr ⟨hr', hp'⟩
  rw [List.countP_eq_length_filter] at h
  generalize rows.filter p = found at h hmem hmem'
  match found with
  | [] => cases hmem
  | [x] => rw [List.mem_singleton.mp hmem, List.mem_singleton.mp hmem']
  | _ :: _ :: _ => simp at h

/-- Where two rows that meet a condition have the same key, one at most does. -/
theorem countP_le_one_of_key {ρ κ : Type} {p : ρ → Bool} {key : ρ → κ} {rows : List ρ}
    (hnodup : (rows.map key).Nodup)
    (h : ∀ r ∈ rows, ∀ r' ∈ rows, p r = true → p r' = true → key r = key r') :
    rows.countP p ≤ 1 := by
  have hmem : ∀ r ∈ rows.filter p, r ∈ rows ∧ p r = true := fun r hr => List.mem_filter.mp hr
  have hkeys : ((rows.filter p).map key).Nodup := hnodup.sublist (List.filter_sublist.map key)
  rw [List.countP_eq_length_filter]
  generalize rows.filter p = found at hmem hkeys ⊢
  match found with
  | [] => exact Nat.zero_le 1
  | [_] => exact Nat.le_refl 1
  | r :: r' :: _ =>
    obtain ⟨hr, hp⟩ := hmem r (by simp)
    obtain ⟨hr', hp'⟩ := hmem r' (by simp)
    rw [List.map_cons, List.map_cons, List.nodup_cons, h r hr r' hr' hp hp'] at hkeys
    exact absurd List.mem_cons_self hkeys.1

theorem Uncontested.exclusive (h : s.Uncontested) : s.Exclusive := by
  intro tenant category
  refine countP_le_one_of_key h.reports.nodup fun r hr r' hr' hp hp' => ?_
  simp only [Bool.and_eq_true, beq_iff_eq] at hp hp'
  obtain ⟨⟨htenant, hcategory⟩, hdefault⟩ := hp
  obtain ⟨⟨htenant', hcategory'⟩, hdefault'⟩ := hp'
  by_contra hne
  exact h.alone r hr r' hr' ⟨hdefault, hdefault', by rw [htenant, htenant'],
    by rw [hcategory, hcategory'], hne⟩

theorem uncontested_empty : Uncontested {} := ⟨.nil, by simp⟩

theorem SamePlaces.refl (s : Store) : s.SamePlaces s := ⟨rfl, rfl⟩

theorem samePlaces_of_definitions_eq (h : t.definitions = s.definitions)
    (hlast : t.lastDefinition = s.lastDefinition) : s.SamePlaces t := ⟨by rw [h], hlast⟩

theorem Uncontested.of_samePlaces (h : s.Uncontested) (hsame : s.SamePlaces t) :
    t.Uncontested where
  reports := by
    have hids : t.definitions.map (·.id) = s.definitions.map (·.id) := by
      simpa [Function.comp_def, DefinitionRow.place]
        using congrArg (List.map fun m => m.2.1) hsame.places
    rw [hids, hsame.lastDefinition]
    exact h.reports
  alone := by
    have hback : ∀ d ∈ t.definitions, ∃ r ∈ s.definitions, r.place = d.place := by
      intro d hd
      rw [← List.mem_map, ← hsame.places]
      exact List.mem_map_of_mem hd
    intro d hd d' hd' hrivals
    obtain ⟨r, hr, hplace⟩ := hback d hd
    obtain ⟨r', hr', hplace'⟩ := hback d' hd'
    exact h.alone r hr r' hr' (hrivals.of_place hplace hplace')

/-! ## Operations -/

namespace Uncontested

variable (h : s.Uncontested)

include h

/-- A new report is not a default one. -/
theorem insertDefinition {d : Definition} (hd : d.isDefault = false) :
    (s.insertDefinition d).2.Uncontested where
  reports := by
    rw [insertDefinition_snd, List.map_append]
    exact h.reports.concat
  alone := by
    have hold : ∀ r ∈ (s.insertDefinition d).2.definitions, r.isDefault = true →
        r ∈ s.definitions := by
      intro r hr hdefault
      rcases List.mem_append.mp hr with hr | hr
      · exact hr
      · rw [List.mem_singleton] at hr
        subst hr
        exact absurd (hd.symm.trans hdefault) Bool.false_ne_true
    intro r hr r' hr' hrivals
    exact h.alone r (hold r hr hrivals.isDefault) r' (hold r' hr' hrivals.isDefault') hrivals

theorem deleteDefinition (tenant id : Int) : (s.deleteDefinition tenant id).2.Uncontested where
  reports := h.reports.sublist (List.filter_sublist.map _)
  alone r hr r' hr' := h.alone r (List.mem_of_mem_filter hr) r' (List.mem_of_mem_filter hr')

/-- **The new default report of a category takes the mark from all others.** -/
theorem setDefault (tenant id : Int) : (s.setDefault tenant id).2.Uncontested := by
  rcases setDefault_cases s tenant id with heq | ⟨row, hrow, hat, heq⟩
  · rw [heq]
    exact h
  rw [heq]
  have hplace : ∀ r : DefinitionRow,
      (r.afterSetDefault tenant id row.category).tenant = r.tenant ∧
        (r.afterSetDefault tenant id row.category).id = r.id ∧
        (r.afterSetDefault tenant id row.category).category = r.category := by
    intro r
    obtain ⟨_, hmark⟩ := r.afterSetDefault_eq tenant id row.category
    rw [hmark]
    exact ⟨rfl, rfl, rfl⟩
  -- of two rows of which one is the new default report, the other one has lost its mark
  have hother : ∀ r ∈ s.definitions, ∀ r' : DefinitionRow, r.isAt tenant id = true →
      ¬ r'.isAt tenant id = true →
      ¬ (r.afterSetDefault tenant id row.category).Rivals
        (r'.afterSetDefault tenant id row.category) := by
    intro r hr r' hrat hrat' hrivals
    have hsame : r = row := by
      refine h.reports.eq_of_id hr hrow ?_
      rw [(DefinitionRow.isAt_iff.mp hrat).2, (DefinitionRow.isAt_iff.mp hat).2]
    have htenant := hrivals.tenant
    have hcategory := hrivals.category
    have hdefault := hrivals.isDefault'
    rw [(hplace r).1, (hplace r').1, (DefinitionRow.isAt_iff.mp hrat).1] at htenant
    rw [(hplace r).2.2, (hplace r').2.2, hsame] at hcategory
    simp [DefinitionRow.afterSetDefault, hrat', ← htenant, ← hcategory] at hdefault
  refine ⟨?_, fun d hd d' hd' hrivals => ?_⟩
  · have hids : (s.definitions.map (DefinitionRow.afterSetDefault tenant id row.category)).map
        (·.id) = s.definitions.map (·.id) := by
      rw [List.map_map]
      exact List.map_congr_left fun r _ => (hplace r).2.1
    rw [hids]
    exact h.reports
  · obtain ⟨r, hr, rfl⟩ := List.mem_map.mp hd
    obtain ⟨r', hr', rfl⟩ := List.mem_map.mp hd'
    by_cases hrat : r.isAt tenant id = true <;> by_cases hrat' : r'.isAt tenant id = true
    · refine hrivals.id_ne ?_
      rw [(hplace r).2.1, (hplace r').2.1, (DefinitionRow.isAt_iff.mp hrat).2,
        (DefinitionRow.isAt_iff.mp hrat').2]
    · exact hother r hr r' hrat hrat' hrivals
    · exact hother r' hr' r hrat' hrat hrivals.symm
    · rw [DefinitionRow.eq_of_isDefault_afterSetDefault hrat hrivals.isDefault,
        DefinitionRow.eq_of_isDefault_afterSetDefault hrat' hrivals.isDefault'] at hrivals
      exact h.alone r hr r' hr' hrivals

/-- **An update that does not collide** gives no category a second default report. -/
theorem updateDefinition {d : Definition} (now : Instant)
    (hfree : ¬ s.Collides d.tenant d.id d.category) :
    (s.updateDefinition d now).2.Uncontested := by
  rcases updateDefinition_cases s d now with heq | ⟨version, heq⟩
  · rw [heq]
    exact h
  rw [heq]
  -- a default report that is moved meets no other one
  have hmoved : ∀ r ∈ s.definitions, ∀ r' ∈ s.definitions, r.isAt d.tenant d.id = true →
      ¬ r'.isAt d.tenant d.id = true → r.isDefault = true → r'.isDefault = true →
      r'.tenant = d.tenant → r'.category ≠ d.category := by
    intro r hr r' hr' hat hat' hdefault hdefault' htenant hcategory
    have hid : r'.id ≠ d.id := fun hid => hat' (DefinitionRow.isAt_iff.mpr ⟨htenant, hid⟩)
    exact hfree ⟨r, hr, hat, hdefault, r', hr', htenant, hid, hcategory, hdefault'⟩
  refine ⟨?_, fun e he e' he' hrivals => ?_⟩
  · rw [changeDefinition_ids]
    · exact h.reports
    · exact fun _ => rfl
  · obtain ⟨r, hr, rfl⟩ := List.mem_map.mp he
    obtain ⟨r', hr', rfl⟩ := List.mem_map.mp he'
    by_cases hat : r.isAt d.tenant d.id = true <;> by_cases hat' : r'.isAt d.tenant d.id = true
    · rw [if_pos hat, if_pos hat'] at hrivals
      refine hrivals.id_ne ?_
      exact (DefinitionRow.isAt_iff.mp hat).2.trans (DefinitionRow.isAt_iff.mp hat').2.symm
    · rw [if_pos hat, if_neg hat'] at hrivals
      refine hmoved r hr r' hr' hat hat' hrivals.isDefault hrivals.isDefault' ?_
        hrivals.category.symm
      exact hrivals.tenant.symm.trans (DefinitionRow.isAt_iff.mp hat).1
    · rw [if_neg hat, if_pos hat'] at hrivals
      refine hmoved r' hr' r hr hat' hat hrivals.isDefault' hrivals.isDefault ?_ hrivals.category
      exact hrivals.tenant.trans (DefinitionRow.isAt_iff.mp hat').1
    · rw [if_neg hat, if_neg hat'] at hrivals
      exact h.alone r hr r' hr' hrivals

end Uncontested

/-- **An update that collides gives a category two default reports**, unless the report cannot be
read. -/
theorem not_exclusive_of_collides {d current : Definition} (now : Instant)
    (hread : s.getDefinition d.tenant d.id = .ok (some current))
    (h : s.Collides d.tenant d.id d.category) : ¬ (s.updateDefinition d now).2.Exclusive := by
  obtain ⟨r, hr, hat, hdefault, r', hr', htenant', hid', hcategory', hdefault'⟩ := h
  obtain ⟨htenant, hid⟩ := DefinitionRow.isAt_iff.mp hat
  have hat' : ¬ r'.isAt d.tenant d.id = true := fun hat' =>
    hid' (DefinitionRow.isAt_iff.mp hat').2
  intro hexclusive
  obtain ⟨version, heq⟩ := updateDefinition_of_read hread now
  have hone := hexclusive d.tenant d.category
  rw [heq] at hone
  have hsame := eq_of_countP_le_one hone (List.mem_map_of_mem hr) (List.mem_map_of_mem hr')
    (by rw [if_pos hat]; simp [htenant, hdefault])
    (by rw [if_neg hat']; simp [htenant', hcategory', hdefault'])
  rw [if_pos hat, if_neg hat'] at hsame
  exact hid' ((congrArg (·.id) hsame).symm.trans hid)

/-- **A mark is set, or the report cannot be read and nothing changes**, and the answer tells
which. -/
theorem setDefault_answers (s : Store) (tenant id : Int) :
    (∃ e, s.needDefinition tenant id = .error e ∧ s.setDefault tenant id = (.error e, s)) ∨
      ∃ d row, (s.setDefault tenant id).1 = .ok d ∧ s.definitionRow? tenant id = some row ∧
        (s.setDefault tenant id).2.definitionRow? tenant id
          = some { row with isDefault := true } := by
  cases hneed : s.needDefinition tenant id with
  | error e =>
    refine .inl ⟨e, rfl, ?_⟩
    rw [setDefault, hneed]
  | ok current =>
    have hread := needDefinition_eq_ok.mp hneed
    obtain ⟨row, hfind, hrow⟩ := readRow_eq_ok_some.mp hread
    have hmarked : (s.setDefault tenant id).2.definitionRow? tenant id
        = some { row with isDefault := true } := by
      rw [setDefault_of_read hread, definitionRow?_map]
      · rw [hfind]
        have hat : row.isAt tenant id = true := List.find?_some hfind
        rw [Option.map_some, DefinitionRow.afterSetDefault, if_pos hat]
      · intro r
        obtain ⟨isDefault, hafter⟩ := r.afterSetDefault_eq tenant id current.category
        rw [hafter]
        rfl
    refine .inr ⟨{ current with isDefault := true }, row, ?_, hfind, hmarked⟩
    have hanswer : (s.setDefault tenant id).1
        = (s.setDefault tenant id).2.needDefinition tenant id := by
      rw [setDefault, hneed]
    rw [hanswer, needDefinition_eq_ok, getDefinition, hmarked]
    apply readRow_eq_ok_some.mpr
    refine ⟨_, rfl, ?_⟩
    rw [DefinitionRow.read?_withDefault, hrow]
    rfl

end Store

end TenantReports
