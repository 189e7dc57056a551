import TenantReports.Proofs.Validation.Scope
import TenantReports.Validation.Aggregations

/-!
# Aggregations that pass

Groups are fields in scope. An aggregation that passes is of a field in scope that its function
permits, and has an alias that no aggregation before it has.

## Main definitions

* `Catalog.Permits`: an aggregate may be taken of a field

## Main results

* `checkGroup_ok`, `checkAggregation_ok`: what a group and an aggregation that pass are
* `aggregation_permitted`: the field of an aggregation is in scope and permits it
* `checkAggregations_ok`: what a section that passes is
-/

namespace TenantReports

open Checked (Passes)

/-- The aggregate may be taken of the field: counts of any field, all others of fields that are
declared for it. -/
def Catalog.Permits (c : Catalog) (g : Aggregate) (f : FieldRef) : Prop :=
  g = .count ∨ c.isAggregatable f.source f.field = true

variable {scope : Scope}

theorem permitAggregate_eq_ok {place : Place} {function : Aggregate} {r : Resolved} {u : Unit} :
    permitAggregate place function r = .ok u ↔
      function = .count ∨ r.field.aggregatable = true := by
  simp [permitAggregate]

/-- The function of an aggregation is the one it states. -/
theorem word?_of_aggregateFunction {place : Place} {entries : List (String × Json)}
    {function : Aggregate} (h : aggregateFunction place entries = .ok function) :
    (Json.object entries).word? "function" = some function := by
  unfold aggregateFunction at h
  cases hj : given? entries "function" with
  | none => simp [hj] at h
  | some j =>
    rw [Json.word?, get_of_given? hj]
    simpa [hj] using h

/-- A group that passes is a field in scope. -/
theorem checkGroup_ok {i : Nat} {item : Json} {f : FieldRef} {u u' : Unit}
    (h : checkGroup scope i item u = (.ok f, u')) :
    ∃ name r, item = .string name ∧ scope.resolve (.group i) name = .ok r ∧ r.ref = f := by
  unfold checkGroup at h
  cases item with
  | string name =>
    simp only [Prod.mk.injEq, Checked.map_eq_ok] at h
    obtain ⟨⟨r, hr, hf⟩, -⟩ := h
    exact ⟨name, r, rfl, hr, hf⟩
  | _ => simp at h

theorem group_resolves {i : Nat} {item : Json} {f : FieldRef} {u u' : Unit}
    (h : checkGroup scope i item u = (.ok f, u')) : scope.catalog.Resolves scope.sources f := by
  obtain ⟨name, r, -, hr, rfl⟩ := checkGroup_ok h
  exact Scope.resolves_of_resolve hr

/-- **An aggregation that passes** is of a field in scope that permits its function. Its alias is
the one given or the default one, and is not among those of the aggregations before it. -/
theorem checkAggregation_ok {i : Nat} {item : Json} {aliases after : List String}
    {a : Aggregation} (h : checkAggregation scope i item aliases = (.ok a, after)) :
    ∃ entries name r, item = .object entries ∧
      nonBlank? entries "field" = some name ∧
      scope.resolve (.function i) name = .ok r ∧ a.field = r.ref ∧
      aggregateFunction (.function i) entries = .ok a.function ∧
      (a.function = .count ∨ r.field.aggregatable = true) ∧
      aggregateAlias (.function i) entries (some a.function) (some r) = .ok a.name ∧
      a.name ∉ aliases ∧
      after = if a.name = "" then aliases else aliases ++ [a.name] := by
  unfold checkAggregation at h
  cases item with
  | object entries =>
    simp only [Prod.mk.injEq, Checked.seq_eq_ok, Checked.map_eq_ok] at h
    obtain ⟨⟨-, u, ⟨-, given, ⟨-, u', ⟨-, r, ⟨f, hf, rfl⟩, hr, rfl⟩, hpermit, rfl⟩, halias, rfl⟩,
      hfresh, rfl⟩, rfl⟩ := h
    obtain ⟨name, hname, hresolve⟩ := Checked.andThen_eq_ok .. |>.mp hr
    -- the later parts are checked with the function and the field that were found
    simp only [hf, hr, Checked.value?_ok] at hpermit halias hfresh ⊢
    simp only [halias, Checked.value?_ok, Option.getD_some, Checked.require_eq_ok,
      Bool.not_eq_true', List.contains_eq_mem, decide_eq_false_iff_not] at hfresh ⊢
    refine ⟨entries, name, r, rfl, requiredText_eq_ok.mp hname, hresolve, rfl, hf,
      permitAggregate_eq_ok.mp hpermit, halias, hfresh, ?_⟩
    simp [hfresh]
  | _ => simp at h

/-- The field of an aggregation that passes is in scope, and permits its function. -/
theorem aggregation_permitted {i : Nat} {item : Json} {aliases after : List String}
    {a : Aggregation} (h : checkAggregation scope i item aliases = (.ok a, after)) :
    scope.catalog.Resolves scope.sources a.field ∧ scope.catalog.Permits a.function a.field := by
  obtain ⟨-, name, r, -, -, hr, hfield, -, hpermit, -⟩ := checkAggregation_ok h
  rw [hfield]
  refine ⟨Scope.resolves_of_resolve hr, ?_⟩
  rcases hpermit with hcount | haggregatable
  · exact .inl hcount
  · exact .inr (Scope.isAggregatable_of_resolve hr haggregatable)

/-- **A section of aggregations without problems**: not too many, all groups and aggregations
pass, and groups come with aggregations. -/
theorem checkAggregations_ok {limits : Limits} {j : Json} {found : AggregationsOutcome}
    (h : checkAggregations scope limits j = .ok found) (hproblems : found.problems = []) :
    (j.get "functions").items.length ≤ limits.maxAggregations ∧
      ((j.get "group_by").items ≠ [] → (j.get "functions").items ≠ []) ∧
      (∃ groups, found.spec.groupBy = groups.eraseDups ∧
        Passes (checkGroup scope) 0 (j.get "group_by").items () groups ()) ∧
      ∃ names, Passes (checkAggregation scope) 0 (j.get "functions").items []
        found.spec.functions names := by
  unfold checkAggregations at h
  cases j with
  | null =>
    -- a missing section is an empty one
    cases h
    refine ⟨Nat.zero_le _, fun hne => absurd rfl hne, ⟨[], rfl, .nil 0 ()⟩, [], .nil 0 []⟩
  | object entries =>
    simp only [aggregationLists] at h
    cases hgroups : listSection? .groups "a list of fields"
        ((entries.lookup "group_by").getD .null) with
    | error p => rw [hgroups] at h; cases h
    | ok groupItems =>
      cases hfunctions : listSection? .functions "a list of aggregation functions"
          ((entries.lookup "functions").getD .null) with
      | error p => rw [hgroups, hfunctions] at h; cases h
      | ok functionItems =>
        rw [hgroups, hfunctions] at h
        cases h
        have hg : groupItems = (Json.get (.object entries) "group_by").items :=
          listSection?_eq_ok hgroups
        have hf : functionItems = (Json.get (.object entries) "functions").items :=
          listSection?_eq_ok hfunctions
        rw [← hg, ← hf]
        simp only [List.append_eq_nil_iff, atMost_eq_nil] at hproblems
        obtain ⟨⟨⟨hle, hgroupsPass⟩, hfunctionsPass⟩, hgrouping⟩ := hproblems
        refine ⟨hle, ?_, ⟨_, rfl, Checked.passes_checkAll hgroupsPass⟩, _,
          Checked.passes_checkAll hfunctionsPass⟩
        -- groups without aggregations are a problem of their own
        intro hne hnone
        simp [groupingProblem, hnone, List.length_pos_iff, hne] at hgrouping
  | _ => cases h

end TenantReports
