import TenantReports.Proofs.Validation.Scope
import TenantReports.Validation.Joins

/-!
# Joins that pass

A join that passes names a complete source that was not in scope, and puts it in scope for its own
condition and everything after. Hence the sources of a report are complete and distinct, and the
scope of a stated condition ends with the table of its join.

## Main results

* `checkJoin_ok`: what a join that passes is
* `scope_of_joins`: the scope after joins that pass
* `condition_of_stated`, `resolves_of_stated`: the fields of a stated condition are those it names,
  and in scope
* `checkSources_ok`: what sources that pass are
-/

namespace TenantReports

open Checked (Passes)

variable {c : Catalog} {earlier after : List String} {join : Join} {joins : List Join}
  {items : List Json}

theorem joinTable_eq_ok {s : Scope} {place : Place} {entries : List (String × Json)}
    {table : String} :
    joinTable s place entries = .ok table ↔
      nonBlank? entries "table" = some table ∧ s.catalog.isValidSource table = true ∧
        table ∉ s.sources := by
  simp only [joinTable, Checked.andThen_eq_ok, requiredText_eq_ok]
  constructor
  · rintro ⟨name, hname, hcheck⟩
    by_cases hvalid : s.catalog.isValidSource name = true
    · by_cases hmem : name ∈ s.sources
      · simp [hvalid, hmem] at hcheck
      · obtain rfl : name = table := by simpa [hvalid, hmem] using hcheck
        exact ⟨hname, hvalid, hmem⟩
    · simp [hvalid] at hcheck
  · rintro ⟨hname, hvalid, hmem⟩
    exact ⟨table, hname, by simp [hvalid, hmem]⟩

/-- **A join that passes** names a complete source that was not in scope. Its kind is the one
given, and its condition is stated over the scope with its table, or supplied by a relation. -/
theorem checkJoin_ok {i : Nat} {item : Json} (h : checkJoin c i item earlier = (.ok join, after)) :
    ∃ entries, item = .object entries ∧
      nonBlank? entries "table" = some join.table ∧
      c.isValidSource join.table = true ∧ join.table ∉ earlier ∧
      after = earlier ++ [join.table] ∧
      wordOr (.join i) "join type" JoinKind.inner (given? entries "type") = .ok join.kind ∧
      joinCondition ⟨c, after⟩ earlier join.table (.join i) (given? entries "on")
        = .ok (join.left, join.right) := by
  unfold checkJoin at h
  cases item with
  | object entries =>
    simp only at h
    -- without a table the scope stays, and the item has that problem
    cases htable : joinTable ⟨c, earlier⟩ (.join i) entries with
    | bad p ps => simp [htable] at h
    | ok table =>
      rw [htable] at h
      simp only [Prod.mk.injEq, Checked.seq_eq_ok, Checked.map_eq_ok] at h
      obtain ⟨⟨-, ⟨l, r⟩, ⟨kind, hkind, rfl⟩, hcondition, rfl⟩, rfl⟩ := h
      obtain ⟨hname, hvalid, hmem⟩ := joinTable_eq_ok.mp htable
      exact ⟨entries, rfl, hname, hvalid, hmem, rfl, hkind, hcondition⟩
  | _ => simp at h

/-- A stated condition is a list of two names, which resolve to the fields of the join. -/
theorem condition_of_stated {i : Nat} {item : Json}
    (h : checkJoin c i item earlier = (.ok join, after)) (hon : item.states "on" = true) :
    ∃ left right l r, item.get "on" = .array [.string left, .string right] ∧
      (⟨c, after⟩ : Scope).resolve (.join i) left = .ok l ∧ l.ref = join.left ∧
      (⟨c, after⟩ : Scope).resolve (.join i) right = .ok r ∧ r.ref = join.right := by
  obtain ⟨entries, rfl, -, -, -, -, -, hcondition⟩ := checkJoin_ok h
  obtain ⟨j, hj⟩ := exists_given?_of_states hon
  rw [hj] at hcondition
  rw [get_of_given? hj]
  unfold joinCondition statedCondition at hcondition
  split at hcondition
  -- no condition: but one is stated
  next hnone => cases hnone
  next j' hsome =>
    cases hsome
    split at hcondition
    -- a list of two names, which both resolve
    next left right =>
      simp only [Checked.seq_eq_ok, Checked.map_eq_ok] at hcondition
      obtain ⟨-, r, ⟨l, hl, rfl⟩, hr, heq⟩ := hcondition
      obtain ⟨hleft, hright⟩ : l.ref = join.left ∧ r.ref = join.right := by simpa using heq
      exact ⟨left, right, l, r, rfl, hl, hleft, hr, hright⟩
    next => simp at hcondition

/-- The fields of a stated condition are declared, and of sources in scope with the join. -/
theorem resolves_of_stated {i : Nat} {item : Json}
    (h : checkJoin c i item earlier = (.ok join, after)) (hon : item.states "on" = true) :
    c.Resolves after join.left ∧ c.Resolves after join.right := by
  obtain ⟨_, _, l, r, -, hl, hleft, hr, hright⟩ := condition_of_stated h hon
  rw [← hleft, ← hright]
  exact ⟨Scope.resolves_of_resolve hl, Scope.resolves_of_resolve hr⟩

/-- Joins that pass put their tables in scope, in order, and keep the sources distinct. -/
theorem scope_of_joins {i : Nat} (h : Passes (checkJoin c) i items earlier joins after) :
    after = earlier ++ joins.map (·.table) ∧ (earlier.Nodup → after.Nodup) := by
  -- the table of a join is the key that the check refuses to see twice
  refine h.fresh_keys (·.table) fun _ _ _ _ _ hj => ?_
  obtain ⟨-, -, -, -, hmem, hafter, -⟩ := checkJoin_ok hj
  exact ⟨hmem, hafter⟩

theorem checkPrimary_eq_ok {entries : List (String × Json)} {key : String} :
    checkPrimary c entries = .ok key ↔
      nonBlank? entries "primary" = some key ∧ c.isValidSource key = true := by
  simp only [checkPrimary, Checked.andThen_eq_ok, requiredText_eq_ok]
  constructor
  · rintro ⟨name, hname, hcheck⟩
    by_cases hvalid : c.isValidSource name = true
    · obtain rfl : name = key := by simpa [hvalid] using hcheck
      exact ⟨hname, hvalid⟩
    · simp [hvalid] at hcheck
  · rintro ⟨hname, hvalid⟩
    exact ⟨key, hname, by simp [hvalid]⟩

/-- Sources without problems: a complete primary source, not too many joins, and joins that all
pass. -/
theorem checkSources_ok {limits : Limits} {sources : Json} {primary : String}
    {found : Section Join} {scope : List String}
    (h : checkSources c limits sources = .scoped primary found scope)
    (hproblems : found.problems = []) :
    c.isValidSource primary = true ∧ (sources.get "joins").items.length ≤ limits.maxJoins ∧
      Passes (checkJoin c) 0 (sources.get "joins").items [primary] found.values scope := by
  unfold checkSources at h
  cases sources with
  | object entries =>
    simp only at h
    split at h
    next => cases h
    next items hlist =>
      cases hprimary : checkPrimary c entries with
      | bad p ps => simp [hprimary] at h
      | ok key =>
        have hitems : items = (Json.get (.object entries) "joins").items := listSection?_eq_ok hlist
        -- the problems are those of the number of joins and those of the joins
        simp only [hprimary, SourcesOutcome.scoped.injEq] at h
        obtain ⟨rfl, rfl, rfl⟩ := h
        simp only [Section.ofItems, Checked.problems_ok, List.nil_append, List.append_nil,
          List.append_eq_nil_iff, atMost_eq_nil] at hproblems
        rw [← hitems]
        exact ⟨(checkPrimary_eq_ok.mp hprimary).2, hproblems.1,
          Checked.passes_checkAll hproblems.2⟩
  | _ => simp at h

end TenantReports
