import TenantReports.Proofs.Validation.Places
import TenantReports.Proofs.Validation.Sections

/-!
# Stages of the walk

The problems of a draft are told in the order of its parts. A list is looked at as a whole and then
item by item, so each part has its stages. What is told of a part is in the order of its stages,
and at one stage in the order of the items, although aggregations are checked before the columns
that may show them.

## Main definitions

* `Stage`: the stages at which problems are told, in order
* `Problem.Precedes`: a problem is of an earlier stage, or of the same stage and no later item
* `Spans`: problems are told in order, from one stage to another

## Main results

* `Validator.spans_problemsOf`: the problems of a part are in order, and at its stages
* `Validator.pairwise_validate`: so those of a draft are in order
* `Validator.filter_validate`: the problems of a part, among all of a draft
-/

namespace TenantReports

/-! ## Stages -/

/-- The stages at which problems are told, in order. Each list comes as a whole first, and then
item by item. -/
inductive Stage where
  | metadata
  | primary
  | joinList
  | joins
  | columnList
  | columns
  | aggregationLists
  | aggregationCount
  | groups
  | functions
  | grouping
  | filterList
  | filters
  | sortList
  | sorts
deriving DecidableEq, Repr

/-- The place of a stage among all. -/
def Stage.rank (s : Stage) : Nat := s.ctorIdx

/-- The part of a draft that a stage belongs to. -/
def Stage.part : Stage → Draft.Part
  | .metadata => .metadata
  | .primary | .joinList | .joins => .sources
  | .columnList | .columns => .columns
  | .aggregationLists | .aggregationCount | .groups | .functions | .grouping => .aggregations
  | .filterList | .filters => .filters
  | .sortList | .sorts => .sorting

/-- The stage at which a place is looked at. -/
def Place.stage : Place → Stage
  | .sources | .primary => .primary
  | .joins => .joinList
  | .join _ => .joins
  | .columns => .columnList
  | .column _ => .columns
  | .aggregations | .groups | .functions => .aggregationLists
  | .group _ => .groups
  | .function _ => .functions
  | .filters => .filterList
  | .filter _ => .filters
  | .sorting => .sortList
  | .sort _ => .sorts

/-- The index of an item; that of a list as a whole is that of its first item. -/
def Place.index : Place → Nat
  | .join i | .column i | .group i | .function i | .filter i | .sort i => i
  | _ => 0

/-- The stage at which the items of a section are counted. -/
def Counted.stage : Counted → Stage
  | .joins => .joinList
  | .columns => .columnList
  | .aggregations => .aggregationCount
  | .filters => .filterList

namespace Problem

/-- The stage at which a problem is told. -/
def stage : Problem → Stage
  | .missingMetadata _ => .metadata
  | .tooMany s _ _ => s.stage
  | .noColumns => .columnList
  | .groupByWithoutAggregations => .grouping
  | .malformed p _ | .missingValue p _ | .invalidValue p _ _ | .unknownSource p _
  | .unknownField p _ | .outOfScope p _ | .notPermitted p _ _ | .invalidJoinCondition p
  | .duplicateJoin p _ | .duplicateAlias p _ | .duplicateFilter p _ | .invalidExpression p _ =>
    p.stage

/-- The index of the item that a problem is about. -/
def index (p : Problem) : Nat := (p.place?.map Place.index).getD 0

/-- The part of a draft that a problem is about. -/
def part (p : Problem) : Draft.Part := p.stage.part

/-- A problem may be told before another one: it is of an earlier stage, or of the same stage and
no later item. -/
def Precedes (p q : Problem) : Prop :=
  p.stage.rank < q.stage.rank ∨ p.stage = q.stage ∧ p.index ≤ q.index

/-- A part, or a list in it, has the wrong shape. -/
def isShape : Problem → Bool
  | .malformed place _ => [Place.sources, .joins, .columns, .aggregations, .groups, .functions,
      .filters, .sorting].contains place
  | _ => false

theorem stage_of_place {p : Problem} {place : Place} (h : p.place? = some place) :
    p.stage = place.stage := by
  cases p <;> simp_all [place?, stage]

theorem index_of_place {p : Problem} {place : Place} (h : p.place? = some place) :
    p.index = place.index := by
  simp [index, h]

end Problem

/-! ## Problems in order -/

/-- Problems that are told in order, at the stages from one to another. -/
structure Spans (first last : Stage) (problems : List Problem) : Prop where
  le : first.rank ≤ last.rank
  first_le : ∀ p ∈ problems, first.rank ≤ p.stage.rank
  le_last : ∀ p ∈ problems, p.stage.rank ≤ last.rank
  pairwise : problems.Pairwise Problem.Precedes

namespace Spans

variable {first last : Stage} {ps qs : List Problem}

theorem nil (h : first.rank ≤ last.rank) : Spans first last [] :=
  ⟨h, by simp, by simp, .nil⟩

/-- What is told at a later stage comes after. -/
theorem append {m n : Stage} (hps : Spans first m ps) (hqs : Spans n last qs)
    (h : m.rank < n.rank) : Spans first last (ps ++ qs) := by
  have hps_le := hps.le
  have hqs_le := hqs.le
  refine ⟨by omega, fun p hp => ?_, fun p hp => ?_, ?_⟩
  · rcases List.mem_append.mp hp with hp | hp
    · exact hps.first_le p hp
    · have := hqs.first_le p hp
      omega
  · rcases List.mem_append.mp hp with hp | hp
    · have := hps.le_last p hp
      omega
    · exact hqs.le_last p hp
  · refine List.pairwise_append.mpr ⟨hps.pairwise, hqs.pairwise, fun p hp q hq => .inl ?_⟩
    have hp_le := hps.le_last p hp
    have hq_le := hqs.first_le q hq
    omega

/-- The same, among more stages. -/
theorem widen {first' last' : Stage} (h : Spans first last ps) (hfirst : first'.rank ≤ first.rank)
    (hlast : last.rank ≤ last'.rank) : Spans first' last' ps where
  le := Nat.le_trans hfirst (Nat.le_trans h.le hlast)
  first_le p hp := Nat.le_trans hfirst (h.first_le p hp)
  le_last p hp := Nat.le_trans (h.le_last p hp) hlast
  pairwise := h.pairwise

/-- At one stage the items are in order. -/
theorem at_stage {s : Stage} (hstage : ∀ p ∈ ps, p.stage = s)
    (hindex : ps.Pairwise fun p q => p.index ≤ q.index) : Spans s s ps where
  le := Nat.le_refl _
  first_le p hp := Nat.le_of_eq (by rw [hstage p hp])
  le_last p hp := Nat.le_of_eq (by rw [hstage p hp])
  pairwise := hindex.imp_of_mem fun hp hq hle => .inr ⟨by rw [hstage _ hp, hstage _ hq], hle⟩

/-- Problems of a section as a whole. -/
theorem whole {s : Stage} (h : ∀ p ∈ ps, p.stage = s ∧ p.index = 0) : Spans s s ps :=
  at_stage (fun p hp => (h p hp).1) <| List.pairwise_of_forall_mem_list fun p hp q _ => by
    rw [(h p hp).2]
    exact Nat.zero_le _

/-- Problems of the items of a list, which are told in the order of the items. -/
theorem items {α σ : Type} {check : Nat → Json → σ → Checked α × σ} {at_ : Nat → Place}
    {s : Stage} (hcheck : ∀ i j s, (check i j s).1.Located (at_ i))
    (hstage : ∀ n, (at_ n).stage = s) (hindex : ∀ n, (at_ n).index = n) (items : List Json)
    (state : σ) :
    Spans s s ((Checked.checkAll check 0 items state).1.flatMap Checked.problems) := by
  refine at_stage (fun p hp => ?_) ?_
  · obtain ⟨n, -, hplace⟩ := Checked.exists_place_of_checkAll hcheck hp
    rw [Problem.stage_of_place hplace, hstage]
  · refine (Checked.pairwise_checkAll hcheck).imp fun ⟨m, n, hle, hm, hn⟩ => ?_
    rw [Problem.index_of_place hm, Problem.index_of_place hn, hindex, hindex]
    exact hle

end Spans

/-! ## Sections -/

variable {limits : Limits} {d : Draft} {scope : Scope}

theorem mem_atMost {s : Counted} {count max : Nat} {p : Problem} (hp : p ∈ atMost s count max) :
    p = .tooMany s count max := by
  simp only [atMost, List.mem_ite_nil_right, List.mem_singleton] at hp
  exact hp.2

theorem spans_atMost (s : Counted) (count max : Nat) :
    Spans s.stage s.stage (atMost s count max) := by
  refine .whole fun p hp => ?_
  obtain rfl := mem_atMost hp
  exact ⟨rfl, rfl⟩

theorem spans_told {first last : Stage} {shaped : Bool} {shape : Problem} {ps : List Problem}
    (hfirst : shape.stage = first) (h : Spans first last ps) :
    Spans first last (told shaped shape ps) := by
  cases shaped with
  | true => exact h
  | false =>
    have hshape : Spans first first [shape] :=
      .at_stage (by simpa using hfirst) (List.pairwise_singleton _ _)
    exact hshape.widen (Nat.le_refl _) h.le

theorem spans_metadata (d : Draft) : Spans .metadata .metadata (metadataProblems d) := by
  refine .whole fun p hp => ?_
  obtain ⟨field, rfl⟩ := mem_metadataProblems hp
  exact ⟨rfl, rfl⟩

theorem stage_of_primaryProblems {c : Catalog} {j : Json} {p : Problem}
    (hp : p ∈ primaryProblems c j) : p.stage = .primary ∧ p.index = 0 := by
  rcases place_of_primaryProblems hp with hplace | hplace <;>
    exact ⟨Problem.stage_of_place hplace, Problem.index_of_place hplace⟩

theorem spans_grouping (groups functions : Nat) :
    Spans .grouping .grouping (groupingProblem groups functions) := by
  refine .whole fun p hp => ?_
  obtain rfl := mem_groupingProblem hp
  exact ⟨rfl, rfl⟩

theorem spans_sources (c : Catalog) (limits : Limits) (d : Draft) :
    Spans .primary .joins (checkSources c limits d.sources).problems := by
  have hprimary : Spans .primary .primary (primaryProblems c d.sources) :=
    .whole fun _ hp => stage_of_primaryProblems hp
  rcases checkSources_cases c d with ⟨-, h⟩ | ⟨-, -, h⟩ | ⟨-, -, key, h⟩
  · rw [h]
    cases hobject : d.sources.isObject with
    | true =>
      have hjoins : Spans .joinList .joinList [sourcesShape d.sources] :=
        .whole (by simp [sourcesShape, hobject, Problem.stage, Problem.index, Place.stage,
          Place.index, Problem.place?])
      exact (hprimary.append hjoins (by decide)).widen (by decide) (by decide)
    | false =>
      -- sources that are no object name no primary source either
      have hshape : Spans .primary .primary
          (primaryProblems c d.sources ++ [sourcesShape d.sources]) := by
        refine .whole fun p hp => (List.mem_append.mp hp).elim stage_of_primaryProblems fun hp => ?_
        obtain rfl := List.mem_singleton.mp hp
        simp [sourcesShape, hobject, Problem.stage, Problem.index, Place.stage, Place.index,
          Problem.place?]
      exact hshape.widen (by decide) (by decide)
  · rw [h]
    exact (hprimary.append (spans_atMost .joins _ _) (by decide)).widen (by decide) (by decide)
  · simp only [h, SourcesOutcome.problems, joinSection, problems_ofItems]
    exact ((spans_atMost .joins _ _).append (.items located_checkJoin (fun _ => rfl)
      (fun _ => rfl) _ _) (by decide)).widen (by decide) (by decide)

theorem spans_columnSection (declared : List Aggregation) (items : List Json) :
    Spans .columnList .columns (columnSection scope limits declared items).problems := by
  unfold columnSection
  split
  next =>
    have hnone : Spans .columnList .columnList [.noColumns] :=
      .whole (by simp [Problem.stage, Problem.index, Problem.place?])
    exact hnone.widen (by decide) (by decide)
  next =>
    rw [problems_ofItems]
    exact (spans_atMost .columns _ _).append
      (.items located_checkColumn (fun _ => rfl) (fun _ => rfl) _ _) (by decide)

theorem spans_aggregationSection (groups functions : List Json) :
    Spans .aggregationCount .grouping (aggregationSection scope limits groups functions).problems :=
  (((spans_atMost .aggregations _ _).append
    (.items located_checkGroup (fun _ => rfl) (fun _ => rfl) _ _) (by decide)).append
    (.items located_checkAggregation (fun _ => rfl) (fun _ => rfl) _ _) (by decide)).append
    (spans_grouping _ _) (by decide)

theorem spans_filterSection (items : List Json) :
    Spans .filterList .filters (filterSection scope limits items).problems := by
  rw [filterSection, problems_ofItems]
  exact (spans_atMost .filters _ _).append
    (.items located_checkFilter (fun _ => rfl) (fun _ => rfl) _ _) (by decide)

theorem spans_sortSection (aliases : List String) (items : List Json) :
    Spans .sorts .sorts (sortSection scope aliases items).problems := by
  rw [sortSection, problems_ofItems]
  exact .items located_checkSort (fun _ => rfl) (fun _ => rfl) _ _

theorem stage_of_aggregationLists {p : Problem} {place : Place}
    (h : place ∈ [Place.aggregations, .groups, .functions]) (hplace : p.place? = some place) :
    p.stage = .aggregationLists ∧ p.index = 0 := by
  rw [Problem.stage_of_place hplace, Problem.index_of_place hplace]
  simp only [List.mem_cons, List.not_mem_nil, or_false] at h
  rcases h with rfl | rfl | rfl <;> exact ⟨rfl, rfl⟩

theorem spans_unscopedAggregations (limits : Limits) (d : Draft) :
    Spans .aggregationLists .grouping (unscopedAggregations limits d.aggregations) := by
  rw [unscopedAggregations_eq]
  have hshapes : Spans .aggregationLists .aggregationLists (aggregationShapes d.aggregations) := by
    refine .whole fun p hp => ?_
    obtain ⟨place, hmem, hplace⟩ := place_of_aggregationShapes hp
    exact stage_of_aggregationLists hmem hplace
  refine hshapes.append (n := .aggregationCount) ?_ (by decide)
  split
  next =>
    refine (spans_atMost .aggregations _ _).append (n := .grouping) ?_ (by decide)
    split
    next => exact spans_grouping _ _
    next => exact .nil (by decide)
  next => exact .nil (by decide)

/-! ## Parts -/

namespace Draft.Part

/-- The place of a part among all. -/
def rank : Part → Nat
  | .metadata => 0
  | .sources => 1
  | .columns => 2
  | .aggregations => 3
  | .filters => 4
  | .sorting => 5

/-- The first stage of a part. -/
def first : Part → Stage
  | .metadata => .metadata
  | .sources => .primary
  | .columns => .columnList
  | .aggregations => .aggregationLists
  | .filters => .filterList
  | .sorting => .sortList

/-- The last stage of a part. -/
def last : Part → Stage
  | .metadata => .metadata
  | .sources => .joins
  | .columns => .columns
  | .aggregations => .grouping
  | .filters => .filters
  | .sorting => .sorts

theorem eq_of_between {t : Part} {s : Stage} (hfirst : t.first.rank ≤ s.rank)
    (hlast : s.rank ≤ t.last.rank) : s.part = t := by
  cases t <;> cases s <;> first | rfl | exact absurd hfirst (by decide) |
    exact absurd hlast (by decide)

end Draft.Part

theorem spans_unscopedPart (limits : Limits) (d : Draft) (t : Draft.Part) :
    Spans t.first t.last (unscopedPart limits d t) := by
  cases t with
  | columns =>
    refine spans_told rfl ((Spans.whole (s := .columnList) fun p hp => ?_).widen (by decide)
      (by decide))
    rcases List.mem_append.mp hp with hp | hp
    · simp only [List.mem_ite_nil_right, List.mem_singleton] at hp
      obtain ⟨-, rfl⟩ := hp
      exact ⟨rfl, rfl⟩
    · obtain rfl := mem_atMost hp
      exact ⟨rfl, rfl⟩
  | aggregations => exact spans_unscopedAggregations limits d
  | filters =>
    exact spans_told rfl ((spans_atMost .filters _ _).widen (by decide) (by decide))
  | _ => exact .nil (by decide)

namespace Validator

theorem spans_scopedPart (v : Validator) (t : Draft.Part) :
    Spans t.first t.last (v.scopedPart d scope t) := by
  cases t with
  | columns => exact spans_told rfl (spans_columnSection _ _)
  | aggregations =>
    obtain ⟨place, hmem, hplace⟩ := place_of_aggregationsShape d.aggregations
    exact spans_told (stage_of_aggregationLists hmem hplace).1
      ((spans_aggregationSection _ _).widen (by decide) (by decide))
  | filters =>
    simp only [scopedPart]
    split
    next => exact spans_told rfl (spans_filterSection _)
    next => exact .nil (by decide)
  | sorting =>
    simp only [scopedPart]
    split
    next => exact spans_told rfl ((spans_sortSection _ _).widen (by decide) (by decide))
    next => exact .nil (by decide)
  | _ => exact .nil (by decide)

/-- **The problems of a part are in order**, and at the stages of the part. -/
theorem spans_problemsOf (v : Validator) (d : Draft) (full : Bool) (t : Draft.Part) :
    Spans t.first t.last (v.problemsOf d full t) := by
  cases t with
  | metadata =>
    simp only [problemsOf]
    split
    next => exact spans_metadata d
    next => exact .nil (by decide)
  | sources => exact spans_sources v.catalog v.limits d
  | _ =>
    simp only [problemsOf, problemsAfter]
    split
    next => exact .nil (by decide)
    next => exact spans_unscopedPart v.limits d _
    next => exact v.spans_scopedPart _

theorem part_of_mem_problemsOf {v : Validator} {full : Bool} {t : Draft.Part} {p : Problem}
    (hp : p ∈ v.problemsOf d full t) : p.part = t :=
  Draft.Part.eq_of_between ((v.spans_problemsOf d full t).first_le p hp)
    ((v.spans_problemsOf d full t).le_last p hp)

theorem pairwise_validate (v : Validator) (d : Draft) (full : Bool) :
    (v.validate d full).Pairwise Problem.Precedes := by
  have hparts : Draft.Part.all.Pairwise fun t t' => t.last.rank < t'.first.rank := by decide
  rw [validate_eq, List.pairwise_flatMap]
  refine ⟨fun t _ => (v.spans_problemsOf d full t).pairwise, hparts.imp fun h p hp q hq => .inl ?_⟩
  have hp_le := (v.spans_problemsOf d full _).le_last p hp
  have hq_le := (v.spans_problemsOf d full _).first_le q hq
  omega

/-- The problems about a part, among all of a draft. -/
theorem filter_validate (v : Validator) (d : Draft) (full : Bool) (t : Draft.Part) :
    (v.validate d full).filter (·.part = t) = v.problemsOf d full t := by
  have hkept : ∀ s, (v.problemsOf d full s).filter (·.part = t)
      = if s = t then v.problemsOf d full t else [] := by
    intro s
    split
    next h =>
      rw [h, List.filter_eq_self]
      exact fun p hp => by simpa using part_of_mem_problemsOf hp
    next h =>
      rw [List.filter_eq_nil_iff]
      exact fun p hp => by simpa [part_of_mem_problemsOf hp] using h
  rw [validate_eq, List.filter_flatMap, funext hkept]
  cases t <;> simp [Draft.Part.all]

theorem mem_validate_iff {v : Validator} {full : Bool} {p : Problem} :
    p ∈ v.validate d full ↔ p ∈ v.problemsOf d full p.part := by
  rw [← filter_validate]
  simp

end Validator

end TenantReports
