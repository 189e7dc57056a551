import TenantReports.Proofs.Store.Agreement

/-!
# The rows of a tenant

Every condition in an operation of a tenant names the tenant. So the operation answers what it
would answer if the tenant's rows were all there are, does to them what it would do then, and
leaves the rows of all others as they are. Rows that are added are the exception: their ids follow
those that were given to any tenant.

## Main definitions

* `Store.rowsOf`: the rows of some tenants, and nothing else
* `Store.own`, `Store.others`: the rows of a tenant, and those of all others
* `Store.Within`: an operation that knows and changes the rows of one tenant only

## Main results

* `Store.within_updateDefinition`, `Store.within_deleteDefinition`, …: the operations on the store
* `Store.own_append_definition`, `Store.own_append_schedule`: rows of the tenant that are added
-/

namespace TenantReports

open Time (Instant)

namespace Store

variable {s t : Store} {tenant id : Int} {p : Int → Bool} {α β : Type}

/-- The rows of some tenants, and nothing else. -/
def rowsOf (p : Int → Bool) (s : Store) : Store where
  definitions := s.definitions.filter fun r => p r.tenant
  executions := s.executions.filter fun r => p r.tenant
  schedules := s.schedules.filter fun r => p r.tenant

/-- The rows of a tenant. -/
abbrev own (tenant : Int) (s : Store) : Store := s.rowsOf (· == tenant)

/-- The rows of all other tenants. -/
abbrev others (tenant : Int) (s : Store) : Store := s.rowsOf (· != tenant)

/-- The operation knows and changes the rows of one tenant only. -/
structure Within (tenant : Int) (f : Store → α × Store) : Prop where
  answer : ∀ s, (f s).1 = (f (s.own tenant)).1
  own : ∀ s, (f s).2.own tenant = (f (s.own tenant)).2
  others : ∀ s, (f s).2.others tenant = s.others tenant

/-- Where a tenant has the same rows, such an operation does the same. -/
theorem Within.agree {f : Store → α × Store} (h : Within tenant f)
    (hown : s.own tenant = t.own tenant) :
    (f s).1 = (f t).1 ∧ (f s).2.own tenant = (f t).2.own tenant := by
  rw [h.answer s, h.answer t, h.own s, h.own t, hown]
  exact ⟨rfl, rfl⟩

theorem within_read {g : Store → α} (h : ∀ s, g s = g (s.own tenant)) :
    Within tenant fun s => (g s, s) :=
  ⟨h, fun _ => rfl, fun _ => rfl⟩

/-! ## Conditions that name the tenant -/

section Conditions

variable {ρ : Type} {rows : List ρ} {q : ρ → Bool} {c : ρ → Bool}

/-- Rows that a stronger condition picks are picked from those that a weaker one leaves. -/
theorem filter_filter_of_imp (h : ∀ r, q r = true → c r = true) :
    (rows.filter c).filter q = rows.filter q := by
  rw [List.filter_filter]
  refine List.filter_congr fun r _ => ?_
  cases hq : q r with
  | false => rfl
  | true => rw [h r hq, Bool.and_self]

theorem find?_filter_of_imp (h : ∀ r, q r = true → c r = true) :
    (rows.filter c).find? q = rows.find? q := by
  rw [← List.head?_filter, filter_filter_of_imp h, List.head?_filter]

theorem any_filter_of_imp (h : ∀ r, q r = true → c r = true) :
    (rows.filter c).any q = rows.any q := by
  rw [List.any_filter]
  refine congrArg rows.any (funext fun r => ?_)
  cases hq : q r with
  | false => exact Bool.and_false _
  | true => rw [h r hq, Bool.and_self]

theorem countP_filter_of_imp (h : ∀ r, q r = true → c r = true) :
    (rows.filter c).countP q = rows.countP q := by
  rw [List.countP_eq_length_filter, filter_filter_of_imp h, List.countP_eq_length_filter]

/-- Taking some rows away and keeping those of some tenants, in either order. -/
theorem filter_comm : (rows.filter q).filter c = (rows.filter c).filter q := by
  rw [List.filter_filter, List.filter_filter]
  exact List.filter_congr fun r _ => Bool.and_comm _ _

theorem filter_concat_of_pos {r : ρ} (h : c r = true) :
    (rows ++ [r]).filter c = rows.filter c ++ [r] := by
  rw [List.filter_append, List.filter_cons_of_pos h, List.filter_nil]

theorem filter_concat_of_neg {r : ρ} (h : c r = false) :
    (rows ++ [r]).filter c = rows.filter c := by
  rw [List.filter_append, List.filter_cons_of_neg (by simp [h]), List.filter_nil, List.append_nil]

/-- A change that leaves alone what a condition looks at. -/
theorem filter_map_of_keeps {g : ρ → ρ} (h : ∀ r, c (g r) = c r) :
    (rows.map g).filter c = (rows.filter c).map g := by
  rw [List.filter_map]
  congr 1
  exact List.filter_congr fun r _ => h r

end Conditions

theorem tenant_of_isAt {r : DefinitionRow} (h : r.isAt tenant id = true) :
    (r.tenant == tenant) = true := beq_iff_eq.mpr (DefinitionRow.isAt_iff.mp h).1

theorem tenant_of_isAt_schedule {r : ScheduleRow} (h : r.isAt tenant id = true) :
    (r.tenant == tenant) = true := beq_iff_eq.mpr (ScheduleRow.isAt_iff.mp h).1

/-- Rows of other tenants do not meet a condition that names the tenant. -/
theorem filter_not_others {ρ : Type} {rows : List ρ} {q : ρ → Bool} {owner : ρ → Int}
    (h : ∀ r, q r = true → (owner r == tenant) = true) :
    (rows.filter fun r => !q r).filter (fun r => owner r != tenant)
      = rows.filter fun r => owner r != tenant := by
  refine filter_filter_of_imp (c := fun r => !q r) fun r hother => ?_
  cases hq : q r with
  | false => rfl
  | true => exact absurd (beq_iff_eq.mp (h r hq)) (bne_iff_ne.mp hother)

/-! ## Reports -/

theorem definitionRow?_own (s : Store) (tenant id : Int) :
    (s.own tenant).definitionRow? tenant id = s.definitionRow? tenant id :=
  find?_filter_of_imp fun _ => tenant_of_isAt

theorem getDefinition_own (s : Store) (tenant id : Int) :
    s.getDefinition tenant id = (s.own tenant).getDefinition tenant id := by
  rw [getDefinition, getDefinition, definitionRow?_own]

theorem needDefinition_own (s : Store) (tenant id : Int) :
    s.needDefinition tenant id = (s.own tenant).needDefinition tenant id := by
  rw [needDefinition, needDefinition, getDefinition_own]

theorem within_listDefinitions (tenant user : Int) :
    Within tenant fun s => (s.listDefinitions tenant user, s) := by
  refine within_read fun s => ?_
  unfold listDefinitions
  dsimp only [own, rowsOf]
  rw [filter_filter_of_imp]
  intro r hr
  rw [Bool.and_eq_true] at hr
  exact hr.1

theorem rowsOf_changeDefinition (p : Int → Bool) {f : DefinitionRow → DefinitionRow}
    (hf : ∀ r, (f r).tenant = r.tenant) :
    (s.changeDefinition tenant id f).rowsOf p = (s.rowsOf p).changeDefinition tenant id f := by
  unfold changeDefinition rowsOf
  dsimp only
  rw [filter_map_of_keeps]
  intro r
  split
  · rw [hf]
  · rfl

/-- No row of others is a report of the tenant. -/
theorem definitionRow?_others : (s.others tenant).definitionRow? tenant id = none := by
  refine List.find?_eq_none.mpr fun r hr hat => ?_
  exact bne_iff_ne.mp (List.mem_filter.mp hr).2 (DefinitionRow.isAt_iff.mp hat).1

theorem others_changeDefinition {f : DefinitionRow → DefinitionRow}
    (hf : ∀ r, (f r).tenant = r.tenant) :
    (s.changeDefinition tenant id f).others tenant = s.others tenant := by
  rw [others, rowsOf_changeDefinition _ hf, changeDefinition_of_none definitionRow?_others]

/-- One report of the tenant is changed. -/
theorem within_of_changeDefinition {op : Store → α × Store} {f : DefinitionRow → DefinitionRow}
    (hop : ∀ s, (op s).2 = s.changeDefinition tenant id f) (hf : ∀ r, (f r).tenant = r.tenant)
    (hanswer : ∀ s, (op s).1 = (op (s.own tenant)).1) : Within tenant op where
  answer := hanswer
  own s := by
    rw [hop, hop]
    exact rowsOf_changeDefinition _ hf
  others s := by
    rw [hop]
    exact others_changeDefinition hf

theorem within_updateDefinition (d : Definition) (now : Instant) :
    Within d.tenant fun s => s.updateDefinition d now := by
  constructor
  · intro s
    unfold updateDefinition
    rw [← needDefinition_own]
    cases s.needDefinition d.tenant d.id with
    | error e => rfl
    | ok current =>
      dsimp only
      rw [needDefinition_own, own, rowsOf_changeDefinition]
      exact fun _ => rfl
  · intro s
    unfold updateDefinition
    rw [← needDefinition_own]
    cases s.needDefinition d.tenant d.id with
    | error e => rfl
    | ok current => exact rowsOf_changeDefinition _ fun _ => rfl
  · intro s
    rcases s.updateDefinition_cases d now with heq | ⟨version, heq⟩
    · rw [heq]
    · rw [heq]
      exact others_changeDefinition fun _ => rfl

theorem within_deleteDefinition (tenant id : Int) :
    Within tenant fun s => s.deleteDefinition tenant id := by
  have hmine : ∀ r : ScheduleRow, (r.tenant == tenant && r.report == id) = true →
      (r.tenant == tenant) = true := fun r hr => (Bool.and_eq_true _ _ ▸ hr).1
  constructor
  · exact fun s => (any_filter_of_imp fun _ => tenant_of_isAt).symm
  · intro s
    unfold deleteDefinition own rowsOf
    dsimp only
    rw [filter_comm, @filter_comm _ s.schedules]
  · intro s
    unfold deleteDefinition others rowsOf
    dsimp only
    rw [filter_not_others fun _ => tenant_of_isAt, filter_not_others hmine]

theorem afterSetDefault_tenant (tenant id : Int) (category : Option String) (r : DefinitionRow) :
    (r.afterSetDefault tenant id category).tenant = r.tenant := by
  obtain ⟨_, heq⟩ := r.afterSetDefault_eq tenant id category
  rw [heq]

/-- The default report of others is no concern of the tenant's. -/
theorem afterSetDefault_of_other {category : Option String} {r : DefinitionRow}
    (h : (r.tenant != tenant) = true) : r.afterSetDefault tenant id category = r := by
  have hne : (r.tenant == tenant) = false := by simpa using h
  unfold DefinitionRow.afterSetDefault DefinitionRow.isAt
  rw [hne, Bool.false_and, Bool.false_and, if_neg Bool.false_ne_true, if_neg Bool.false_ne_true]

theorem within_setDefault (tenant id : Int) : Within tenant fun s => s.setDefault tenant id := by
  have hrows : ∀ (s : Store) (category : Option String),
      rowsOf (· == tenant) { s with
        definitions := s.definitions.map (DefinitionRow.afterSetDefault tenant id category) }
        = { s.own tenant with
            definitions := (s.own tenant).definitions.map
              (DefinitionRow.afterSetDefault tenant id category) } := by
    intro s category
    unfold own rowsOf
    dsimp only
    rw [filter_map_of_keeps]
    exact fun r => by rw [afterSetDefault_tenant]
  constructor
  · intro s
    unfold setDefault
    rw [← needDefinition_own]
    cases s.needDefinition tenant id with
    | error e => rfl
    | ok current =>
      dsimp only
      rw [needDefinition_own]
      exact congrArg (fun u => needDefinition u tenant id) (hrows s current.category)
  · intro s
    unfold setDefault
    rw [← needDefinition_own]
    cases s.needDefinition tenant id with
    | error e => rfl
    | ok current => exact hrows s current.category
  · intro s
    rcases s.setDefault_cases tenant id with heq | ⟨row, -, -, heq⟩
    · rw [heq]
    · rw [heq]
      unfold others rowsOf
      dsimp only
      rw [filter_map_of_keeps fun r => by rw [afterSetDefault_tenant]]
      congr 1
      -- the rows of others stay, those in a category of the same name too
      conv_rhs => rw [← List.map_id (s.definitions.filter _)]
      exact List.map_congr_left fun r hr => afterSetDefault_of_other (List.mem_filter.mp hr).2

theorem within_toggleFavorite (tenant id : Int) :
    Within tenant fun s => s.toggleFavorite tenant id := by
  refine within_of_changeDefinition (fun _ => toggleFavorite_snd) (fun _ => rfl) fun s => ?_
  unfold toggleFavorite
  rw [definitionRow?_own]
  cases s.definitionRow? tenant id <;> rfl

theorem within_recordAttempt (tenant id : Int) (now : Instant) :
    Within tenant fun s => s.recordAttempt tenant id now := by
  refine within_of_changeDefinition (fun _ => recordAttempt_snd now) (fun _ => rfl) fun s => ?_
  unfold recordAttempt
  rw [definitionRow?_own]
  cases s.definitionRow? tenant id <;> rfl

theorem hasActiveSchedule_own (s : Store) (tenant report : Int) :
    (s.own tenant).hasActiveSchedule tenant report = s.hasActiveSchedule tenant report := by
  refine any_filter_of_imp fun r hr => ?_
  rw [Bool.and_eq_true, Bool.and_eq_true] at hr
  exact hr.1.1

theorem within_refreshScheduled (tenant id : Int) :
    Within tenant fun s => s.refreshScheduled tenant id := by
  constructor
  · intro s
    unfold refreshScheduled
    rw [hasActiveSchedule_own, definitionRow?_own]
  · intro s
    unfold refreshScheduled
    dsimp only
    rw [hasActiveSchedule_own, own, rowsOf_changeDefinition]
    exact fun _ => rfl
  · intro s
    exact others_changeDefinition fun _ => rfl

/-! ## Runs -/

theorem within_listExecutions (tenant report : Int) (limit : Nat) :
    Within tenant fun s => (s.listExecutions tenant report limit, s) := by
  refine within_read fun s => ?_
  unfold listExecutions
  dsimp only [own, rowsOf]
  rw [filter_filter_of_imp]
  intro r hr
  rw [Bool.and_eq_true] at hr
  exact hr.1

/-! ## Schedules -/

theorem getSchedule_own (s : Store) (tenant id : Int) :
    s.getSchedule tenant id = (s.own tenant).getSchedule tenant id := by
  rw [getSchedule, getSchedule, own, rowsOf, find?_filter_of_imp]
  exact fun _ => tenant_of_isAt_schedule

theorem needSchedule_own (s : Store) (tenant id : Int) :
    s.needSchedule tenant id = (s.own tenant).needSchedule tenant id := by
  rw [needSchedule, needSchedule, getSchedule_own]

theorem within_listSchedules (tenant : Int) (report : Option Int) :
    Within tenant fun s => (s.listSchedules tenant report, s) := by
  refine within_read fun s => ?_
  unfold listSchedules
  dsimp only [own, rowsOf]
  rw [filter_filter_of_imp]
  intro r hr
  rw [Bool.and_eq_true] at hr
  exact hr.1

theorem rowsOf_mapSchedules (p : Int → Bool) {q : ScheduleRow → Bool}
    {f : ScheduleRow → ScheduleRow} (hf : ∀ r, (f r).tenant = r.tenant) :
    (s.mapSchedules q f).rowsOf p = (s.rowsOf p).mapSchedules q f := by
  unfold mapSchedules rowsOf
  dsimp only
  rw [filter_map_of_keeps]
  intro r
  split
  · rw [hf]
  · rfl

theorem others_mapSchedules {f : ScheduleRow → ScheduleRow}
    (hf : ∀ r, (f r).tenant = r.tenant) :
    (s.mapSchedules (ScheduleRow.isAt tenant id) f).others tenant = s.others tenant := by
  rw [others, rowsOf_mapSchedules _ hf]
  refine (changeSchedules_eq_none (if_neg fun hany => ?_)).symm
  obtain ⟨r, hr, hat⟩ := List.any_eq_true.mp hany
  exact bne_iff_ne.mp (List.mem_filter.mp hr).2 (ScheduleRow.isAt_iff.mp hat).1

/-- One schedule of the tenant is changed. -/
theorem within_of_mapSchedules {op : Store → α × Store} {f : ScheduleRow → ScheduleRow}
    (hop : ∀ s, (op s).2 = s.mapSchedules (ScheduleRow.isAt tenant id) f)
    (hf : ∀ r, (f r).tenant = r.tenant)
    (hanswer : ∀ s, (op s).1 = (op (s.own tenant)).1) : Within tenant op where
  answer := hanswer
  own s := by
    rw [hop, hop]
    exact rowsOf_mapSchedules _ hf
  others s := by
    rw [hop]
    exact others_mapSchedules hf

theorem within_updateSchedule (new : Schedule) (now : Instant) :
    Within new.tenant fun s => s.updateSchedule new now := by
  refine within_of_mapSchedules (fun s => updateSchedule_snd s new now) (fun _ => rfl) fun s => ?_
  rw [updateSchedule_fst, updateSchedule_fst, needSchedule_own, updateSchedule_snd,
    updateSchedule_snd, own, rowsOf_mapSchedules]
  exact fun _ => rfl

theorem within_setScheduleActive (tenant id : Int) (active : Bool) (now : Instant) :
    Within tenant fun s => s.setScheduleActive tenant id active now := by
  refine within_of_mapSchedules (fun s => setScheduleActive_snd s tenant id active now)
    (fun _ => rfl) fun s => ?_
  unfold setScheduleActive changeSchedules
  rw [own, rowsOf, any_filter_of_imp fun _ => tenant_of_isAt_schedule]
  cases s.schedules.any (ScheduleRow.isAt tenant id) <;> rfl

theorem within_deleteSchedule (tenant id : Int) :
    Within tenant fun s => s.deleteSchedule tenant id := by
  constructor
  · exact fun s => (any_filter_of_imp fun _ => tenant_of_isAt_schedule).symm
  · intro s
    unfold deleteSchedule own rowsOf
    dsimp only
    rw [filter_comm]
  · intro s
    unfold deleteSchedule others rowsOf
    dsimp only
    rw [filter_not_others fun _ => tenant_of_isAt_schedule]

/-! ## Rows that are added -/

section Executions

variable {x : ExecutionRow} (h : x.tenant = tenant) (hdefinitions : t.definitions = s.definitions)
  (hexecutions : t.executions = s.executions ++ [x]) (hschedules : t.schedules = s.schedules)

include h hdefinitions hexecutions hschedules

/-- A record of the tenant is added. -/
theorem own_append_execution :
    t.own tenant = { s.own tenant with executions := (s.own tenant).executions ++ [x] } := by
  unfold own rowsOf
  dsimp only
  rw [hdefinitions, hexecutions, hschedules, filter_concat_of_pos (by simpa using h)]

theorem others_append_execution : t.others tenant = s.others tenant := by
  unfold others rowsOf
  rw [hdefinitions, hexecutions, hschedules, filter_concat_of_neg (by simpa using h)]

end Executions

theorem own_append_definition (s : Store) {row : DefinitionRow} (h : row.tenant = tenant)
    (last : Int) :
    own tenant { s with definitions := s.definitions ++ [row], lastDefinition := last }
      = { s.own tenant with definitions := (s.own tenant).definitions ++ [row] } := by
  unfold own rowsOf
  dsimp only
  rw [filter_concat_of_pos (by simpa using h)]

theorem others_append_definition (s : Store) {row : DefinitionRow} (h : row.tenant = tenant)
    (last : Int) :
    others tenant { s with definitions := s.definitions ++ [row], lastDefinition := last }
      = s.others tenant := by
  unfold others rowsOf
  dsimp only
  rw [filter_concat_of_neg (by simpa using h)]

theorem own_append_schedule (s : Store) {row : ScheduleRow} (h : row.tenant = tenant)
    (last : Int) :
    own tenant { s with schedules := s.schedules ++ [row], lastSchedule := last }
      = { s.own tenant with schedules := (s.own tenant).schedules ++ [row] } := by
  unfold own rowsOf
  dsimp only
  rw [filter_concat_of_pos (by simpa using h)]

theorem others_append_schedule (s : Store) {row : ScheduleRow} (h : row.tenant = tenant)
    (last : Int) :
    others tenant { s with schedules := s.schedules ++ [row], lastSchedule := last }
      = s.others tenant := by
  unfold others rowsOf
  dsimp only
  rw [filter_concat_of_neg (by simpa using h)]

theorem countActive_own (s : Store) (tenant : Int) :
    (s.own tenant).countActive tenant = s.countActive tenant := by
  refine countP_filter_of_imp fun r hr => ?_
  rw [Bool.and_eq_true] at hr
  exact hr.1

end Store

end TenantReports
