import TenantReports.Proofs.Validation.Stages

/-!
# The order of problems

The problems of a draft are in the order of its parts. A part of the wrong shape has that problem,
and nothing is told of the parts after it; columns and aggregations do without each other. Without
a usable primary source the shapes of the later parts end nothing, and nothing is told of sort
entries.

## Main definitions

* `Draft.Part.Ends`: a part of the wrong shape ends the walk before another one
* `Draft.Reaches`: the walk of a draft gets to a part

## Main results

* `Validator.reaches_of_mem_problemsOf`: nothing is told of a part that the walk does not get to
* `Validator.exists_shape_of_reaches`: a part that it gets to has the problem of its shape
* `validate_in_order`: the problems of a draft are in order, and what shapes have to do with them
-/

namespace TenantReports

variable {limits : Limits} {d : Draft} {scope : Scope}

/-! ## How far the walk gets -/

/-- A part of the wrong shape ends the walk before the parts after it, but aggregations do without
columns. -/
def Draft.Part.Ends (s t : Draft.Part) : Prop :=
  s.rank < t.rank ∧ ¬(s = .columns ∧ t = .aggregations)

/-- The walk of a draft gets to a part: the parts that may end it before have their shape. Without
a usable primary source only the sources end it, and sort entries are not looked at. -/
def Draft.Reaches (d : Draft) (c : Catalog) (t : Draft.Part) : Prop :=
  (∀ s : Draft.Part, s.Ends t → s = .sources ∨ d.primaryUsable c = true → d.shaped s = true) ∧
    (t = .sorting → d.primaryUsable c = true)

theorem Draft.Part.forall_iff {P : Draft.Part → Prop} :
    (∀ t, P t) ↔ P .metadata ∧ P .sources ∧ P .columns ∧ P .aggregations ∧ P .filters ∧
      P .sorting :=
  ⟨fun h => ⟨h _, h _, h _, h _, h _, h _⟩, fun ⟨hm, hs, hc, ha, hf, ho⟩ t => by
    cases t <;> assumption⟩

theorem Draft.reaches_iff {c : Catalog} :
    (d.Reaches c .metadata ∧ d.Reaches c .sources) ∧
    (d.Reaches c .columns ↔ d.shaped .sources = true) ∧
    (d.Reaches c .aggregations ↔ d.shaped .sources = true) ∧
    (d.Reaches c .filters ↔ d.shaped .sources = true ∧ (d.primaryUsable c = true →
      d.shaped .columns = true ∧ d.shaped .aggregations = true)) ∧
    (d.Reaches c .sorting ↔ d.shaped .sources = true ∧ d.primaryUsable c = true ∧
      d.shaped .columns = true ∧ d.shaped .aggregations = true ∧ d.shaped .filters = true) := by
  have hmetadata : d.shaped .metadata = true := rfl
  simp [Draft.Reaches, Draft.Part.forall_iff, Draft.Part.Ends, Draft.Part.rank, hmetadata]
  grind

theorem mem_told {shape p : Problem} {ps : List Problem} {shaped : Bool}
    (hp : p ∈ told shaped shape ps) : p = shape ∨ p ∈ ps := by
  cases shaped with
  | true => exact .inr hp
  | false => exact .inl (List.mem_singleton.mp hp)

theorem shape_of_told {shape : Problem} {ps : List Problem} {shaped : Bool}
    (hshaped : shaped = false) (hshape : shape.isShape = true) :
    ∃ p ∈ told shaped shape ps, p.isShape = true := by
  rw [hshaped]
  exact ⟨shape, by simp [told], hshape⟩

theorem isShape_of_aggregationShapes {j : Json} {p : Problem} (hp : p ∈ aggregationShapes j) :
    p.isShape = true := by
  unfold aggregationShapes at hp
  split at hp
  next =>
    simp only [List.mem_append, List.mem_ite_nil_left, List.mem_singleton] at hp
    rcases hp with ⟨-, rfl⟩ | ⟨-, rfl⟩ <;> rfl
  next =>
    obtain rfl := List.mem_singleton.mp hp
    rfl

theorem isShape_of_aggregationsShape (j : Json) : (aggregationsShape j).isShape = true := by
  unfold aggregationsShape
  cases h : aggregationShapes j with
  | nil => rfl
  | cons p ps => exact isShape_of_aggregationShapes (h ▸ List.mem_cons_self)

theorem aggregationShapes_ne_nil (h : d.shaped .aggregations = false) :
    aggregationShapes d.aggregations ≠ [] := by
  intro hnil
  unfold aggregationShapes at hnil
  split at hnil
  next hkind =>
    simp only [List.append_eq_nil_iff, ite_eq_left_iff, List.cons_ne_nil, imp_false,
      Bool.not_eq_true, Bool.not_eq_false] at hnil
    simp [Draft.shaped, hkind, hnil] at h
  next => cases hnil

theorem isShape_of_sourcesShape (j : Json) : (sourcesShape j).isShape = true := by
  unfold sourcesShape
  split <;> rfl

namespace Validator

/-- What is told of the parts after the sources. -/
theorem problemsOf_cases (v : Validator) (d : Draft) (full : Bool) :
    (d.shaped .sources = false ∧
      ∀ t : Draft.Part, Draft.Part.sources.rank < t.rank → v.problemsOf d full t = []) ∨
    (d.shaped .sources = true ∧ d.primaryUsable v.catalog = false ∧
      ∀ t : Draft.Part, Draft.Part.sources.rank < t.rank →
        v.problemsOf d full t = unscopedPart v.limits d t) ∨
    (d.shaped .sources = true ∧ d.primaryUsable v.catalog = true ∧
      ∃ scope, ∀ t : Draft.Part, Draft.Part.sources.rank < t.rank →
        v.problemsOf d full t = v.scopedPart d scope t) := by
  have hlater : ∀ {t : Draft.Part}, Draft.Part.sources.rank < t.rank →
      v.problemsOf d full t = v.problemsAfter d t (checkSources v.catalog v.limits d.sources) := by
    intro t ht
    cases t <;> first | rfl | exact absurd ht (by decide)
  rcases checkSources_cases v.catalog d with ⟨hshape, h⟩ | ⟨hshape, hprimary, h⟩ |
    ⟨hshape, hprimary, key, h⟩
  · exact .inl ⟨hshape, fun t ht => by rw [hlater ht, h, problemsAfter]⟩
  · exact .inr (.inl ⟨hshape, hprimary, fun t ht => by rw [hlater ht, h, problemsAfter]⟩)
  · exact .inr (.inr ⟨hshape, hprimary, _, fun t ht => by rw [hlater ht, h, problemsAfter]⟩)

/-- Nothing is told of a part that the walk does not get to. -/
theorem reaches_of_mem_problemsOf {v : Validator} {full : Bool} {t : Draft.Part} {p : Problem}
    (hp : p ∈ v.problemsOf d full t) : d.Reaches v.catalog t := by
  obtain ⟨⟨hmetadata, hsources⟩, hcolumns, haggregations, hfilters, hsorting⟩ :=
    d.reaches_iff (c := v.catalog)
  by_cases ht : Draft.Part.sources.rank < t.rank
  · rcases v.problemsOf_cases d full with ⟨-, h⟩ | ⟨hshape, hprimary, h⟩ |
      ⟨hshape, hprimary, scope, h⟩
    · rw [h t ht] at hp
      cases hp
    · rw [h t ht] at hp
      cases t with
      | columns => exact hcolumns.mpr hshape
      | aggregations => exact haggregations.mpr hshape
      | filters => exact hfilters.mpr ⟨hshape, by simp [hprimary]⟩
      | _ => cases hp
    · rw [h t ht] at hp
      cases t with
      | columns => exact hcolumns.mpr hshape
      | aggregations => exact haggregations.mpr hshape
      | filters =>
        simp only [scopedPart, List.mem_ite_nil_right, Bool.and_eq_true] at hp
        exact hfilters.mpr ⟨hshape, fun _ => hp.1⟩
      | sorting =>
        simp only [scopedPart, List.mem_ite_nil_right, Bool.and_eq_true] at hp
        obtain ⟨⟨⟨hc, ha⟩, hf⟩, -⟩ := hp
        exact hsorting.mpr ⟨hshape, hprimary, hc, ha, hf⟩
      | _ => cases hp
  · cases t with
    | metadata => exact hmetadata
    | sources => exact hsources
    | _ => exact absurd (by decide) ht

/-- Without a primary source all parts but sort entries have the problem of their shape. -/
theorem exists_shape_of_unscopedPart {t : Draft.Part} (ht : Draft.Part.sources.rank < t.rank)
    (hsorting : t ≠ .sorting) (hshape : d.shaped t = false) :
    ∃ p ∈ unscopedPart limits d t, p.isShape = true := by
  cases t with
  | columns => exact shape_of_told hshape rfl
  | aggregations =>
    obtain ⟨p, hp⟩ := List.exists_mem_of_ne_nil _ (aggregationShapes_ne_nil hshape)
    refine ⟨p, ?_, isShape_of_aggregationShapes hp⟩
    rw [unscopedPart, unscopedAggregations_eq]
    exact List.mem_append_left _ hp
  | filters => exact shape_of_told hshape rfl
  | sorting => exact absurd rfl hsorting
  | _ => exact absurd ht (by decide)

/-- In a scope all parts that the walk gets to have it. -/
theorem exists_shape_of_scopedPart {v : Validator} {t : Draft.Part}
    (ht : Draft.Part.sources.rank < t.rank) (hprimary : d.primaryUsable v.catalog = true)
    (hreaches : d.Reaches v.catalog t) (hshape : d.shaped t = false) :
    ∃ p ∈ v.scopedPart d scope t, p.isShape = true := by
  obtain ⟨-, -, -, hfilters, hsorting⟩ := d.reaches_iff (c := v.catalog)
  cases t with
  | columns => exact shape_of_told hshape rfl
  | aggregations => exact shape_of_told hshape (isShape_of_aggregationsShape _)
  | filters =>
    obtain ⟨hc, ha⟩ := (hfilters.mp hreaches).2 hprimary
    simp only [scopedPart, hc, ha, Bool.and_self, if_true]
    exact shape_of_told hshape rfl
  | sorting =>
    obtain ⟨-, -, hc, ha, hf⟩ := hsorting.mp hreaches
    simp only [scopedPart, hc, ha, hf, Bool.and_self, if_true]
    exact shape_of_told hshape rfl
  | _ => exact absurd ht (by decide)

/-- A part of the wrong shape that the walk gets to has that problem. -/
theorem exists_shape_of_reaches (v : Validator) (full : Bool) {t : Draft.Part}
    (hreaches : d.Reaches v.catalog t) (hshape : d.shaped t = false) :
    ∃ p ∈ v.problemsOf d full t, p.isShape = true := by
  by_cases ht : Draft.Part.sources.rank < t.rank
  · rcases v.problemsOf_cases d full with ⟨hsources, -⟩ | ⟨-, hprimary, h⟩ |
      ⟨-, hprimary, scope, h⟩
    -- sources of the wrong shape end the walk before this part
    · have := hreaches.1 .sources ⟨ht, by simp⟩ (.inl rfl)
      rw [hsources] at this
      cases this
    · rw [h t ht]
      refine exists_shape_of_unscopedPart ht (fun hsorting => ?_) hshape
      rw [hreaches.2 hsorting] at hprimary
      cases hprimary
    · rw [h t ht]
      exact exists_shape_of_scopedPart ht hprimary hreaches hshape
  · cases t with
    | metadata => cases hshape
    | sources =>
      refine ⟨sourcesShape d.sources, ?_, isShape_of_sourcesShape d.sources⟩
      rcases checkSources_cases v.catalog d with ⟨-, h⟩ | ⟨h, -⟩ | ⟨h, -⟩
      · simp [problemsOf, h, SourcesOutcome.problems]
      · rw [hshape] at h
        cases h
      · rw [hshape] at h
        cases h
    | _ => exact absurd (by decide) ht

/-- Without a primary source only shapes, numbers and the need of grouping for an aggregation are
told of the later parts. -/
theorem mem_unscopedPart {t : Draft.Part} {p : Problem} (hp : p ∈ unscopedPart limits d t) :
    p.isShape = true ∨ p.isTooMany = true ∨ p = .noColumns ∨ p = .groupByWithoutAggregations := by
  cases t with
  | columns =>
    rcases mem_told hp with rfl | hp
    · exact .inl rfl
    · rcases List.mem_append.mp hp with hp | hp
      · simp only [List.mem_ite_nil_right, List.mem_singleton] at hp
        exact .inr (.inr (.inl hp.2))
      · exact .inr (.inl (mem_atMost hp ▸ rfl))
  | aggregations =>
    rw [unscopedPart, unscopedAggregations_eq] at hp
    rcases List.mem_append.mp hp with hp | hp
    · exact .inl (isShape_of_aggregationShapes hp)
    · simp only [List.mem_ite_nil_right, List.mem_append] at hp
      rcases hp.2 with hp | hp
      · exact .inr (.inl (mem_atMost hp ▸ rfl))
      · exact .inr (.inr (.inr (mem_groupingProblem hp.2)))
  | filters =>
    rcases mem_told hp with rfl | hp
    · exact .inl rfl
    · exact .inr (.inl (mem_atMost hp ▸ rfl))
  | _ => cases hp

end Validator

/-- **The problems of a draft are in order**: those of the metadata, of the sources and joins, of
the columns, of the aggregations (of their lists, of their number, of groups, of aggregations, and
that groups need one), of the filters and of the sort entries, and those of items in the order of
the items. A part of the wrong shape has that problem if the walk gets to it, and nothing is told
of a part that it does not get to. Columns and aggregations do without each other. Without a usable
primary source only shapes, numbers and the need of grouping are told of the later parts. -/
theorem validate_in_order (v : Validator) (d : Draft) (full : Bool) :
    (v.validate d full).Pairwise Problem.Precedes ∧
      (∀ t, d.Reaches v.catalog t → d.shaped t = false →
        ∃ p ∈ v.validate d full, p.part = t ∧ p.isShape = true) ∧
      (∀ p ∈ v.validate d full, d.Reaches v.catalog p.part) ∧
      (∀ columns, (v.validate { d with columns } full).filter (·.part = .aggregations)
        = (v.validate d full).filter (·.part = .aggregations)) ∧
      (d.shaped .aggregations = false →
        (v.validate { d with aggregations := .null } full).filter (·.part = .columns)
          = (v.validate d full).filter (·.part = .columns)) ∧
      (d.primaryUsable v.catalog = false → ∀ p ∈ v.validate d full,
        Draft.Part.sources.rank < p.part.rank → p.isShape = true ∨ p.isTooMany = true ∨
          p = .noColumns ∨ p = .groupByWithoutAggregations) := by
  refine ⟨v.pairwise_validate d full, fun t hreaches hshape => ?_, fun p hp => ?_,
    fun columns => ?_, fun hshape => ?_, fun hprimary p hp hlater => ?_⟩
  · obtain ⟨p, hp, hpshape⟩ := v.exists_shape_of_reaches full hreaches hshape
    have hpart := Validator.part_of_mem_problemsOf hp
    exact ⟨p, Validator.mem_validate_iff.mpr (hpart ▸ hp), hpart, hpshape⟩
  · exact Validator.reaches_of_mem_problemsOf (Validator.mem_validate_iff.mp hp)
  -- the aggregations are checked without the columns
  · rw [Validator.filter_validate, Validator.filter_validate]
    rfl
  -- and columns have no aggregations to show if those have the wrong shape
  · rw [Validator.filter_validate, Validator.filter_validate]
    simp only [Validator.problemsOf, Validator.problemsAfter, Validator.scopedPart,
      Validator.declared, hshape]
    rfl
  · have hmem := Validator.mem_validate_iff.mp hp
    rcases v.problemsOf_cases d full with ⟨-, h⟩ | ⟨-, -, h⟩ | ⟨-, husable, -⟩
    · rw [h _ hlater] at hmem
      cases hmem
    · rw [h _ hlater] at hmem
      exact Validator.mem_unscopedPart hmem
    · rw [hprimary] at husable
      cases husable

/-- A draft whose columns and filters are no lists. -/
def unlistedDraft : Draft where
  sources := .object [("primary", .string "orders")]
  columns := .int 5
  filters := .int 7
  aggregations := .object [("group_by", .array [.string "orders.total"])]

/-- The columns are told to have the wrong shape, and nothing is told of the filters. -/
theorem validate_in_order_unlistedDraft :
    unlistedDraft.Reaches shop .columns ∧ unlistedDraft.shaped .columns = false ∧
      (∃ p ∈ Validator.validate ⟨shop, {}⟩ unlistedDraft false,
        p.part = .columns ∧ p.isShape = true) ∧
      unlistedDraft.shaped .filters = false ∧
      ∀ p ∈ Validator.validate ⟨shop, {}⟩ unlistedDraft false, p.part ≠ .filters := by
  obtain ⟨-, hshape, hreached, -⟩ := validate_in_order ⟨shop, {}⟩ unlistedDraft false
  obtain ⟨-, hcolumns, -, hfilters, -⟩ := unlistedDraft.reaches_iff (c := shop)
  have hreaches : unlistedDraft.Reaches shop .columns := hcolumns.mpr rfl
  refine ⟨hreaches, rfl, hshape .columns hreaches rfl, rfl, fun p hp hpart => ?_⟩
  have hgot := hreached p hp
  rw [hpart] at hgot
  -- the columns end the walk before them
  exact absurd ((hfilters.mp hgot).2 rfl).1 (by decide)

/-- A draft without a primary source and with sort entries that are none. -/
def sourcelessDraft : Draft where
  sources := .object []
  sorting := .int 5

/-- The shape of sort entries is not told without a primary source, though all other parts have
theirs; and there the shape of the list of groups is told before the number of aggregations. -/
theorem exists_untold_shape :
    (sourcelessDraft.shaped .sorting = false ∧
      (∀ t, t ≠ .sorting → sourcelessDraft.shaped t = true) ∧
      ¬ ∃ p ∈ Validator.validate ⟨shop, {}⟩ sourcelessDraft false,
        p.part = .sorting ∧ p.isShape = true) ∧
    Validator.validate ⟨shop, { maxAggregations := 0 }⟩
        { sourcelessDraft with
          aggregations := .object [("functions", .array [.null]), ("group_by", .int 5)] } false
      = [.missingValue .sources "primary", .noColumns, .malformed .groups "a list of fields",
        .tooMany .aggregations 1 0] := by
  have htold : Validator.validate ⟨shop, {}⟩ sourcelessDraft false
      = [.missingValue .sources "primary", .noColumns] := rfl
  refine ⟨⟨rfl, fun t ht => by cases t <;> first | rfl | exact absurd rfl ht, ?_⟩, rfl⟩
  rw [htold]
  simp [Problem.isShape]

end TenantReports
