import TenantReports.Proofs.Validation.Places
import TenantReports.Proofs.Validation.Sections

/-!
# Drafts under different limits

A limit adds one problem to a section that exceeds it, and changes nothing else: the other problems
of a draft are the same, in the same order, under all limits. So a draft that is valid under some
limits is valid under others exactly if it stays within them.

## Main definitions

* `Draft.count`, `Limits.most`: how many items a limited section has, and how many it may have
* `uncounted`: the problems that are not about numbers

## Main results

* `Validator.uncounted_validate`: the other problems are the same under all limits
* `Validator.exceeded_of_mem_validate`: a problem about a number tells that number and its limit
* `validate_within_limits`: what is valid under some limits is valid within others
-/

namespace TenantReports

/-- How many items a limited section of a draft has. -/
def Draft.count (d : Draft) : Counted → Nat
  | .joins => d.joinItems.length
  | .columns => d.columnItems.length
  | .aggregations => d.functionItems.length
  | .filters => d.filterItems.length

/-- How many items a limited section may have. -/
def Limits.most (l : Limits) : Counted → Nat
  | .joins => l.maxJoins
  | .columns => l.maxColumns
  | .aggregations => l.maxAggregations
  | .filters => l.maxFilters

/-- The problems that are not about numbers. -/
def uncounted (problems : List Problem) : List Problem := problems.filter fun p => !p.isTooMany

@[simp] theorem uncounted_append (ps qs : List Problem) :
    uncounted (ps ++ qs) = uncounted ps ++ uncounted qs := List.filter_append ..

@[simp] theorem uncounted_atMost (s : Counted) (count max : Nat) :
    uncounted (atMost s count max) = [] := by
  unfold atMost
  split <;> rfl

variable {c : Catalog} {limits limits' : Limits} {d : Draft} {scope : Scope}

/-! ## The other problems -/

theorem uncounted_told {shaped : Bool} {shape : Problem} {ps qs : List Problem}
    (h : uncounted ps = uncounted qs) :
    uncounted (told shaped shape ps) = uncounted (told shaped shape qs) := by
  cases shaped with
  | false => rfl
  | true => exact h

theorem uncounted_unscopedAggregations (limits limits' : Limits) (j : Json) :
    uncounted (unscopedAggregations limits j) = uncounted (unscopedAggregations limits' j) := by
  unfold unscopedAggregations
  cases j with
  | object entries =>
    dsimp only
    cases (aggregationLists entries).2 <;> simp
  | _ => rfl

theorem uncounted_unscopedPart (limits limits' : Limits) (d : Draft) (t : Draft.Part) :
    uncounted (unscopedPart limits d t) = uncounted (unscopedPart limits' d t) := by
  cases t with
  | columns => exact uncounted_told (by simp)
  | aggregations => exact uncounted_unscopedAggregations limits limits' d.aggregations
  | filters => exact uncounted_told (by simp)
  | _ => rfl

/-- Columns are told and passed alike under all limits. -/
theorem columnSection_limits (declared : List Aggregation) (items : List Json) :
    uncounted (columnSection scope limits declared items).problems
        = uncounted (columnSection scope limits' declared items).problems ∧
      (columnSection scope limits declared items).values
        = (columnSection scope limits' declared items).values := by
  unfold columnSection
  split
  next => exact ⟨rfl, rfl⟩
  next => exact ⟨by simp [Section.ofItems], rfl⟩

namespace Validator

/-- Sort entries may name the same aliases under all limits. -/
theorem aliases_limits :
    aliases ⟨c, limits⟩ d scope = aliases ⟨c, limits'⟩ d scope :=
  congrArg (fun columns : List Column => columns.map (·.name) ++ _) (columnSection_limits _ _).2

theorem uncounted_scopedPart (t : Draft.Part) :
    uncounted (scopedPart ⟨c, limits⟩ d scope t)
      = uncounted (scopedPart ⟨c, limits'⟩ d scope t) := by
  cases t with
  | columns => exact uncounted_told (columnSection_limits _ _).1
  | aggregations => exact uncounted_told (by simp [aggregationSection])
  | filters =>
    simp only [scopedPart]
    split
    next => exact uncounted_told (by simp [filterSection, Section.ofItems])
    next => rfl
  | sorting =>
    simp only [scopedPart]
    rw [aliases_limits]
  | _ => rfl

theorem uncounted_problemsOf (c : Catalog) (limits limits' : Limits) (d : Draft) (full : Bool)
    (t : Draft.Part) :
    uncounted (problemsOf ⟨c, limits⟩ d full t) = uncounted (problemsOf ⟨c, limits'⟩ d full t) := by
  rcases checkSources_cases c d with ⟨-, h⟩ | ⟨-, -, h⟩ | ⟨-, -, key, h⟩
  · cases t <;> simp only [problemsOf, problemsAfter, h]
  · cases t <;>
      simp [problemsOf, problemsAfter, h, SourcesOutcome.problems,
        uncounted_unscopedPart limits limits']
  -- the joins open the same scope under all limits
  · cases t with
    | metadata => rfl
    | sources => simp [problemsOf, h, SourcesOutcome.problems, joinSection, Section.ofItems]
    | _ =>
      simp only [problemsOf, problemsAfter, h]
      exact uncounted_scopedPart _

/-- **The other problems of a draft are the same under all limits.** -/
theorem uncounted_validate (c : Catalog) (limits limits' : Limits) (d : Draft) (full : Bool) :
    uncounted (validate ⟨c, limits⟩ d full) = uncounted (validate ⟨c, limits'⟩ d full) := by
  rw [validate_eq, validate_eq, uncounted, uncounted, List.filter_flatMap, List.filter_flatMap]
  exact congrArg (List.flatMap · _) (funext fun t => uncounted_problemsOf c limits limits' d full t)

end Validator

/-! ## Problems about numbers -/

/-- Problems tell of too many items only where a draft has more than it may have, and tell both
numbers. -/
def CountsOf (limits : Limits) (d : Draft) (problems : List Problem) : Prop :=
  ∀ p ∈ problems, p.isTooMany = true → ∃ s, p ∈ atMost s (d.count s) (limits.most s)

theorem isTooMany_of_place {p : Problem} {place : Place} (h : p.place? = some place) :
    p.isTooMany = false := by
  cases p <;> first | rfl | cases h

namespace CountsOf

theorem nil : CountsOf limits d [] := fun _ hp => nomatch hp

theorem of_forall {ps : List Problem} (h : ∀ p ∈ ps, p.isTooMany = false) :
    CountsOf limits d ps := by
  intro p hp hmany
  rw [h p hp] at hmany
  cases hmany

theorem atMost (s : Counted) : CountsOf limits d (atMost s (d.count s) (limits.most s)) :=
  fun _ hp _ => ⟨s, hp⟩

theorem append {ps qs : List Problem} (hps : CountsOf limits d ps) (hqs : CountsOf limits d qs) :
    CountsOf limits d (ps ++ qs) :=
  fun p hp => (List.mem_append.mp hp).elim (hps p) (hqs p)

/-- The problems of items are about none of the numbers. -/
theorem items {α σ : Type} {check : Nat → Json → σ → Checked α × σ} {at_ : Nat → Place}
    (h : ∀ i j s, (check i j s).1.Located (at_ i)) (items : List Json) (s : σ) :
    CountsOf limits d ((Checked.checkAll check 0 items s).1.flatMap Checked.problems) := by
  refine of_forall fun p hp => ?_
  obtain ⟨n, -, hplace⟩ := Checked.exists_place_of_checkAll h hp
  exact isTooMany_of_place hplace

theorem told {shaped : Bool} {shape : Problem} {ps : List Problem}
    (hshape : shape.isTooMany = false) (h : CountsOf limits d ps) :
    CountsOf limits d (told shaped shape ps) := by
  cases shaped with
  | true => exact h
  | false => exact of_forall (by simpa [TenantReports.told] using hshape)

end CountsOf

theorem countsOf_metadata (d : Draft) : CountsOf limits d (metadataProblems d) := by
  refine .of_forall fun p hp => ?_
  obtain ⟨field, rfl⟩ := mem_metadataProblems hp
  rfl

theorem countsOf_grouping (groups functions : Nat) :
    CountsOf limits d (groupingProblem groups functions) := by
  refine .of_forall fun p hp => ?_
  obtain rfl := mem_groupingProblem hp
  rfl

theorem countsOf_noColumns {condition : Prop} [Decidable condition] :
    CountsOf limits d (if condition then [.noColumns] else []) := by
  split <;> exact .of_forall (by simp [Problem.isTooMany])

theorem countsOf_primary (c : Catalog) (j : Json) : CountsOf limits d (primaryProblems c j) :=
  .of_forall fun _ hp => (place_of_primaryProblems hp).elim isTooMany_of_place isTooMany_of_place

theorem countsOf_columnSection (declared : List Aggregation) :
    CountsOf limits d (columnSection scope limits declared d.columnItems).problems := by
  unfold columnSection
  split
  next => exact .of_forall (by simp [Problem.isTooMany])
  next =>
    exact ((CountsOf.atMost .columns).append (.items located_checkColumn _ _)).append
      .nil

theorem countsOf_aggregationSection :
    CountsOf limits d (aggregationSection scope limits d.groupItems d.functionItems).problems :=
  (((CountsOf.atMost .aggregations).append (.items located_checkGroup _ _)).append
    (.items located_checkAggregation _ _)).append (countsOf_grouping _ _)

theorem countsOf_unscopedAggregations :
    CountsOf limits d (unscopedAggregations limits d.aggregations) := by
  rw [unscopedAggregations_eq]
  refine .append (.of_forall fun p hp => ?_) ?_
  · obtain ⟨place, -, hplace⟩ := place_of_aggregationShapes hp
    exact isTooMany_of_place hplace
  · split
    next =>
      refine (CountsOf.atMost .aggregations).append ?_
      split
      next => exact countsOf_grouping _ _
      next => exact .nil
    next => exact .nil

theorem countsOf_unscopedPart (limits : Limits) (d : Draft) (t : Draft.Part) :
    CountsOf limits d (unscopedPart limits d t) := by
  cases t with
  | columns => exact .told rfl (countsOf_noColumns.append (.atMost .columns))
  | aggregations => exact countsOf_unscopedAggregations
  | filters => exact .told rfl (.atMost .filters)
  | _ => exact .of_forall (by simp [unscopedPart])

namespace Validator

theorem countsOf_scopedPart (v : Validator) (t : Draft.Part) :
    CountsOf v.limits d (v.scopedPart d scope t) := by
  cases t with
  | columns => exact .told rfl (countsOf_columnSection _)
  | aggregations =>
    obtain ⟨place, -, hplace⟩ := place_of_aggregationsShape d.aggregations
    exact .told (isTooMany_of_place hplace) countsOf_aggregationSection
  | filters =>
    simp only [scopedPart]
    split
    next =>
      exact .told rfl (((CountsOf.atMost .filters).append (.items located_checkFilter _ _)).append
        .nil)
    next => exact .nil
  | sorting =>
    simp only [scopedPart]
    split
    next =>
      exact .told rfl ((CountsOf.nil.append (.items located_checkSort _ _)).append
        .nil)
    next => exact .nil
  | _ => exact .of_forall (by simp [scopedPart])

theorem countsOf_problemsOf (v : Validator) (d : Draft) (full : Bool) (t : Draft.Part) :
    CountsOf v.limits d (v.problemsOf d full t) := by
  have hsources : CountsOf v.limits d (checkSources v.catalog v.limits d.sources).problems := by
    rcases checkSources_cases v.catalog d with ⟨-, h⟩ | ⟨-, -, h⟩ | ⟨-, -, key, h⟩
    · rw [h]
      refine (countsOf_primary _ _).append (.of_forall fun p hp => ?_)
      obtain rfl := List.mem_singleton.mp hp
      exact (place_of_sourcesShape d.sources).elim isTooMany_of_place isTooMany_of_place
    · rw [h]
      exact (countsOf_primary _ _).append (.atMost .joins)
    · rw [h]
      exact ((CountsOf.atMost .joins).append (.items located_checkJoin _ _)).append .nil
  cases t with
  | metadata =>
    simp only [problemsOf]
    split
    next => exact countsOf_metadata d
    next => exact .nil
  | sources => exact hsources
  | _ =>
    simp only [problemsOf, problemsAfter]
    split
    next => exact .nil
    next => exact countsOf_unscopedPart v.limits d _
    next => exact v.countsOf_scopedPart _

/-- **A problem about a number tells the number of items and the limit** of a section of the draft
that exceeds it. -/
theorem exceeded_of_mem_validate {v : Validator} {full : Bool} {p : Problem}
    (hp : p ∈ v.validate d full) (hmany : p.isTooMany = true) :
    ∃ s, p ∈ atMost s (d.count s) (v.limits.most s) := by
  rw [validate_eq] at hp
  obtain ⟨t, -, hp⟩ := List.mem_flatMap.mp hp
  exact v.countsOf_problemsOf d full t p hp hmany

/-- A draft without problems stays within its limits. -/
theorem count_le_of_validate {v : Validator} {full : Bool} (h : v.validate d full = [])
    (s : Counted) : d.count s ≤ v.limits.most s := by
  obtain ⟨hne, -⟩ | ⟨l, -, hpassed⟩ := v.check_cases d full
  · exact absurd h hne
  · cases s with
    | joins => exact hpassed.joins_le
    | columns => exact hpassed.columns_le
    | aggregations => exact hpassed.functions_le
    | filters => exact hpassed.filters_le

end Validator

/-- **What is valid under some limits is valid within others.** The problems of a draft that are
not about numbers are the same under all limits. So a draft that is valid under some limits is
valid under others exactly if no section exceeds them, as when no limit is lower. -/
theorem validate_within_limits (c : Catalog) (limits limits' : Limits) (d : Draft) (full : Bool) :
    uncounted (Validator.validate ⟨c, limits⟩ d full)
        = uncounted (Validator.validate ⟨c, limits'⟩ d full) ∧
      (Validator.validate ⟨c, limits⟩ d full = [] →
        (Validator.validate ⟨c, limits'⟩ d full = [] ↔ ∀ s, d.count s ≤ limits'.most s) ∧
        ((∀ s, limits.most s ≤ limits'.most s) →
          Validator.validate ⟨c, limits'⟩ d full = [])) := by
  have hsame := Validator.uncounted_validate c limits limits' d full
  refine ⟨hsame, fun hvalid => ?_⟩
  have hwithin : Validator.validate ⟨c, limits'⟩ d full = [] ↔ ∀ s, d.count s ≤ limits'.most s := by
    refine ⟨Validator.count_le_of_validate, fun hle => ?_⟩
    -- a problem about a number is there only if the number is exceeded, and there are no others
    rw [hvalid] at hsame
    refine List.eq_nil_iff_forall_not_mem.mpr fun p hp => ?_
    cases hmany : p.isTooMany with
    | true =>
      obtain ⟨s, hs⟩ := Validator.exceeded_of_mem_validate hp hmany
      rw [atMost_eq_nil.mpr (hle s)] at hs
      cases hs
    | false =>
      have hmem : p ∈ uncounted (Validator.validate ⟨c, limits'⟩ d full) :=
        List.mem_filter.mpr ⟨hp, by simp [hmany]⟩
      rw [← hsame] at hmem
      cases hmem
  exact ⟨hwithin, fun hraised => hwithin.mpr fun s =>
    Nat.le_trans (Validator.count_le_of_validate hvalid s) (hraised s)⟩

/-- The draft of sales needs a join, two columns, an aggregation and a filter. -/
theorem validate_within_limits_salesDraft :
    let least : Limits := { maxJoins := 1, maxColumns := 2, maxAggregations := 1, maxFilters := 1 }
    Validator.validate ⟨shop, {}⟩ salesDraft false = [] ∧
      Validator.validate ⟨shop, least⟩ salesDraft false = [] ∧
      Validator.validate ⟨shop, { least with maxColumns := 1 }⟩ salesDraft false ≠ [] := by
  intro least
  have hvalid : Validator.validate ⟨shop, {}⟩ salesDraft false = [] := rfl
  have hwithin := fun limits =>
    ((validate_within_limits shop {} limits salesDraft false).2 hvalid).1
  refine ⟨hvalid, (hwithin least).mpr fun s => by cases s <;> decide, fun h => ?_⟩
  have hcolumns : 2 ≤ 1 := (hwithin { least with maxColumns := 1 }).mp h .columns
  exact absurd hcolumns (by decide)

end TenantReports
