import TenantReports.Proofs.Validation.Scope
import TenantReports.Validation.Filters

/-!
# Filter slots and sort entries that pass

A slot that passes is on a filterable field in scope that has no slot yet. A sort entry that passes
names an alias of the output, or a sortable field in scope.

## Main results

* `checkFilter_ok`, `checkSort_ok`: what a slot and a sort entry that pass are
* `filter_permitted`, `sort_permitted`: their fields are in scope and permit their use
* `nodup_of_filters`: no two slots that pass are on one field
* `checkFilters_ok`, `checkSorting_ok`: what sections that pass are
-/

namespace TenantReports

open Checked (Passes)

variable {scope : Scope}

theorem permitFilter_eq_ok {place : Place} {seen : List String} {r : Resolved} {u : Unit} :
    permitFilter place seen r = .ok u ↔ r.field.filterable = true ∧ r.ref.fullName ∉ seen := by
  unfold permitFilter
  cases hf : r.field.filterable <;> simp

theorem word?_of_filterKind {place : Place} {entries : List (String × Json)} {kind : FilterKind}
    (h : filterKind place entries = .ok kind) :
    (Json.object entries).word? "type" = some kind := by
  unfold filterKind at h
  cases hj : given? entries "type" with
  | none => simp [hj] at h
  | some j =>
    rw [Json.word?, get_of_given? hj]
    simpa [hj] using h

/-- **A slot that passes** is on a filterable field in scope without a slot so far, which has one
from then on. -/
theorem checkFilter_ok {i : Nat} {item : Json} {seen after : List String} {slot : FilterSlot}
    (h : checkFilter scope i item seen = (.ok slot, after)) :
    ∃ entries name r, item = .object entries ∧
      nonBlank? entries "field" = some name ∧
      scope.resolve (.filter i) name = .ok r ∧ slot.field = r.ref ∧
      r.field.filterable = true ∧ slot.field.fullName ∉ seen ∧
      filterKind (.filter i) entries = .ok slot.kind ∧
      after = seen ++ [slot.field.fullName] := by
  unfold checkFilter at h
  cases item with
  | object entries =>
    simp only [Prod.mk.injEq, Checked.seq_eq_ok, Checked.map_eq_ok] at h
    obtain ⟨⟨-, options, ⟨-, required, ⟨-, kind, ⟨-, u, ⟨r, hr, rfl⟩, hpermit, rfl⟩, hkind, rfl⟩,
      -, rfl⟩, -, rfl⟩, rfl⟩ := h
    obtain ⟨name, hname, hresolve⟩ := Checked.andThen_eq_ok .. |>.mp hr
    simp only [hr, Checked.value?_ok] at hpermit ⊢
    obtain ⟨hfilterable, hseen⟩ := permitFilter_eq_ok.mp hpermit
    refine ⟨entries, name, r, rfl, requiredText_eq_ok.mp hname, hresolve, rfl, hfilterable, hseen,
      hkind, ?_⟩
    simp [hfilterable, hseen]
  | _ => simp at h

/-- The field of a slot that passes is in scope, and may be filtered by. -/
theorem filter_permitted {i : Nat} {item : Json} {seen after : List String} {slot : FilterSlot}
    (h : checkFilter scope i item seen = (.ok slot, after)) :
    scope.catalog.Resolves scope.sources slot.field ∧
      scope.catalog.isFilterable slot.field.source slot.field.field = true := by
  obtain ⟨-, name, r, -, -, hr, hfield, hfilterable, -⟩ := checkFilter_ok h
  rw [hfield]
  refine ⟨Scope.resolves_of_resolve hr, ?_⟩
  rw [Catalog.isFilterable, Scope.field?_of_resolve hr]
  exact hfilterable

/-- No two slots that pass are on one field. -/
theorem nodup_of_filters {i : Nat} {items : List Json} {seen : List String}
    {slots : List FilterSlot} (h : Passes (checkFilter scope) i items [] slots seen) :
    (slots.map (·.field.fullName)).Nodup := by
  refine h.nodup_keys (·.field.fullName) fun _ _ _ _ _ hj => ?_
  obtain ⟨-, -, -, -, -, -, -, -, hmem, -, hafter⟩ := checkFilter_ok hj
  exact ⟨hmem, hafter⟩

/-- A section of slots without problems: not too many, and all pass. -/
theorem checkFilters_ok {limits : Limits} {j : Json} {found : Section FilterSlot}
    (h : checkFilters scope limits j = .ok found) (hproblems : found.problems = []) :
    j.items.length ≤ limits.maxFilters ∧
      ∃ seen, Passes (checkFilter scope) 0 j.items [] found.values seen := by
  unfold checkFilters at h
  cases hitems : listSection? .filters "a list of filters" j with
  | error p => rw [hitems] at h; cases h
  | ok items =>
    rw [hitems] at h
    cases h
    simp only [Section.ofItems, List.append_nil, List.append_eq_nil_iff, atMost_eq_nil]
      at hproblems
    rw [← listSection?_eq_ok hitems]
    exact ⟨hproblems.1, _, Checked.passes_checkAll hproblems.2⟩

/-! ## Sort entries -/

variable {aliases : List String}

/-- A sort target that passes is an alias of the output, or a sortable field in scope. -/
theorem sortTarget_eq_ok {place : Place} {name : String} {target : SortTarget}
    (h : sortTarget scope place aliases name = .ok target) :
    (name ∈ aliases ∧ target = .output name) ∨
      (name ∉ aliases ∧ ∃ r, scope.resolve place name = .ok r ∧ r.field.sortable = true ∧
        target = .field r.ref) := by
  unfold sortTarget at h
  -- an alias of the output goes before a field of the same name
  by_cases hmem : name ∈ aliases
  · rw [if_pos (by simpa using hmem)] at h
    exact .inl ⟨hmem, by simpa using h.symm⟩
  · rw [if_neg (by simpa using hmem)] at h
    obtain ⟨r, hr, htarget⟩ := Checked.andThen_eq_ok .. |>.mp h
    by_cases hsortable : r.field.sortable = true
    · exact .inr ⟨hmem, r, hr, hsortable, by simpa [hsortable] using htarget.symm⟩
    · simp [hsortable] at htarget

/-- **A sort entry that passes** has the direction given, and the target that its field names. -/
theorem checkSort_ok {i : Nat} {item : Json} {u u' : Unit} {entry : SortEntry}
    (h : checkSort scope aliases i item u = (.ok entry, u')) :
    ∃ entries name, item = .object entries ∧
      wordOr (.sort i) "direction" Direction.asc (given? entries "direction")
        = .ok entry.direction ∧
      nonBlank? entries "field" = some name ∧
      sortTarget scope (.sort i) aliases name = .ok entry.target := by
  unfold checkSort at h
  cases item with
  | object entries =>
    simp only [Prod.mk.injEq, Checked.seq_eq_ok, Checked.map_eq_ok] at h
    obtain ⟨⟨-, target, ⟨direction, hdirection, rfl⟩, htarget, rfl⟩, -⟩ := h
    obtain ⟨name, hname, htarget⟩ := Checked.andThen_eq_ok .. |>.mp htarget
    exact ⟨entries, name, rfl, hdirection, requiredText_eq_ok.mp hname, htarget⟩
  | _ => simp at h

/-- A sort entry that passes orders by an alias of the output, or by a field that is in scope and
may be sorted by. -/
theorem sort_permitted {i : Nat} {item : Json} {u u' : Unit} {entry : SortEntry}
    (h : checkSort scope aliases i item u = (.ok entry, u')) :
    (∃ name ∈ aliases, entry.target = .output name) ∨
      ∃ f, entry.target = .field f ∧ scope.catalog.Resolves scope.sources f ∧
        scope.catalog.isSortable f.source f.field = true := by
  obtain ⟨-, name, -, -, -, htarget⟩ := checkSort_ok h
  rcases sortTarget_eq_ok htarget with ⟨hmem, houtput⟩ | ⟨-, r, hr, hsortable, hfield⟩
  · exact .inl ⟨name, hmem, houtput⟩
  · refine .inr ⟨r.ref, hfield, Scope.resolves_of_resolve hr, ?_⟩
    rw [Catalog.isSortable, Scope.field?_of_resolve hr]
    exact hsortable

/-- The sort entries of a draft are those of the section, one by itself included. -/
theorem sortItems?_eq_ok {d : Draft} {items : List Json} (h : sortItems? d.sorting = .ok items) :
    items = d.sortItems := by
  unfold sortItems? at h
  unfold Draft.sortItems
  cases hsorting : d.sorting with
  | object entries => simpa [hsorting] using h.symm
  | _ =>
    rw [hsorting] at h
    exact listSection?_eq_ok h

/-- A section of sort entries without problems: all pass. -/
theorem checkSorting_ok {d : Draft} {found : Section SortEntry}
    (h : checkSorting scope aliases d.sorting = .ok found) (hproblems : found.problems = []) :
    Passes (checkSort scope aliases) 0 d.sortItems () found.values () := by
  unfold checkSorting at h
  cases hitems : sortItems? d.sorting with
  | error p => rw [hitems] at h; cases h
  | ok items =>
    rw [hitems] at h
    cases h
    simp only [Section.ofItems, List.append_nil, List.nil_append] at hproblems
    rw [← sortItems?_eq_ok hitems]
    exact Checked.passes_checkAll hproblems

end TenantReports
