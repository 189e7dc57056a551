import TenantReports.Proofs.Validation.Aggregations
import TenantReports.Validation.Columns

/-!
# Columns that pass

An expression that passes is over fields in scope, nests its calls as deep as is allowed at most,
and calls every function with as many arguments as it takes. A column that passes shows such an
expression without an aggregate, a declared aggregation, or a field that permits its aggregate.

## Main definitions

* `ColumnExpr.callDepth`: how deep calls nest
* `ColumnExpr.WellFormed`: scalar constants, and calls with fitting numbers of arguments

## Main results

* `checkExpr_succ_eq_ok`, `checkExpr_ok`: what an expression that passes is
* `checkColumn_ok`: what a column that passes is
* `aggregate_of_column`: where the aggregate of a column comes from
* `checkColumns_ok`: what a section that passes is
-/

namespace TenantReports

open Checked (Passes)

/-! ## Expressions -/

namespace ColumnExpr

/-- How deep the calls of an expression nest. -/
def callDepth : ColumnExpr → Nat
  | .field _ => 0
  | .literal _ => 0
  | .call _ args => depthOfArgs args + 1
where
  /-- How deep the calls of the deepest of a list of arguments nest. -/
  depthOfArgs : List ColumnExpr → Nat
    | [] => 0
    | e :: es => max (callDepth e) (depthOfArgs es)

/-- Constants are scalars, and every call has as many arguments as its function takes. -/
inductive WellFormed : ColumnExpr → Prop
  | field (f : FieldRef) : WellFormed (.field f)
  | literal {value : Json} : value.isScalar = true → WellFormed (.literal value)
  | call {f : ScalarFunction} {args : List ColumnExpr} :
    f.accepts args.length = true → (∀ e ∈ args, WellFormed e) → WellFormed (.call f args)

theorem depthOfArgs_lt {args : List ColumnExpr} {n : Nat} (hne : args ≠ [])
    (h : ∀ e ∈ args, e.callDepth < n) : callDepth.depthOfArgs args < n := by
  have hpos : 0 < n := by
    obtain ⟨e, he⟩ := List.exists_mem_of_ne_nil args hne
    exact Nat.zero_lt_of_lt (h e he)
  clear hne
  induction args with
  | nil => exact hpos
  | cons e es ih =>
    rw [callDepth.depthOfArgs]
    exact Nat.max_lt.mpr
      ⟨h e List.mem_cons_self, ih fun e' he' => h e' (List.mem_cons_of_mem e he')⟩

theorem mem_fieldsOfArgs {args : List ColumnExpr} {f : FieldRef} :
    f ∈ fields.fieldsOfArgs args ↔ ∃ e ∈ args, f ∈ e.fields := by
  induction args with
  | nil => simp [fields.fieldsOfArgs]
  | cons e es ih => simp [fields.fieldsOfArgs, ih]

end ColumnExpr

/-- Every scalar function takes at least one argument. -/
theorem ScalarFunction.ne_nil_of_accepts {α : Type} {f : ScalarFunction} {args : List α}
    (h : f.accepts args.length = true) : args ≠ [] := by
  rintro rfl
  cases f <;> simp [accepts, arity] at h

variable {scope : Scope} {declared : List Aggregation}

/-- What an expression that passes is: a field, a constant, or a call of a function on arguments
that pass with less fuel. -/
theorem checkExpr_succ_eq_ok {place : Place} {fuel : Nat} {j : Json} {e : ColumnExpr}
    (h : checkExpr scope place (fuel + 1) j = .ok e) :
    ∃ entries, j = .object entries ∧
      ((∃ name r, entries.lookup "field" = some (.string name) ∧
          scope.resolve place name = .ok r ∧ e = .field r.ref) ∨
        (∃ value, entries.lookup "field" = none ∧ entries.lookup "value" = some value ∧
          value.isScalar = true ∧ e = .literal value) ∨
        ∃ name f items args, entries.lookup "field" = none ∧ entries.lookup "value" = none ∧
          entries.lookup "function" = some name ∧ name.asString?.bind Named.parse? = some f ∧
          entries.lookup "args" = some (.array items) ∧ f.accepts items.length = true ∧
          List.Forall₂ (fun j e => checkExpr scope place fuel j = .ok e) items args ∧
          e = .call f args) := by
  cases j with
  | object entries =>
    refine ⟨entries, rfl, ?_⟩
    rw [checkExpr] at h
    split at h
    next name hfield =>
      obtain ⟨r, hr, rfl⟩ := Checked.map_eq_ok .. |>.mp h
      exact .inl ⟨name, r, hfield, hr, rfl⟩
    next => simp at h
    next value hfield hvalue =>
      cases hscalar : value.isScalar with
      | false => simp [hscalar] at h
      | true =>
        obtain rfl : .literal value = e := by simpa [hscalar] using h
        exact .inr (.inl ⟨value, hfield, hvalue, hscalar, rfl⟩)
    next name hfield hvalue hfunction =>
      split at h
      next => simp at h
      next f items hparse hargs =>
        cases haccepts : f.accepts items.length with
        | false => simp [haccepts] at h
        | true =>
          simp only [haccepts, Bool.not_true, Bool.false_eq_true, if_false, Checked.map_eq_ok,
            Checked.all_eq_ok, List.forall₂_map_left_iff] at h
          obtain ⟨args, hpass, rfl⟩ := h
          exact .inr (.inr ⟨name, f, items, args, hfield, hvalue, hfunction, hparse, hargs,
            haccepts, hpass, rfl⟩)
      next => simp at h
    next => simp at h
  | _ => simp [checkExpr] at h

/-- **An expression that passes** is well formed, over fields in scope, and its calls nest less
deep than the fuel. -/
theorem checkExpr_ok {place : Place} {fuel : Nat} {j : Json} {e : ColumnExpr}
    (h : checkExpr scope place fuel j = .ok e) :
    e.WellFormed ∧ e.callDepth < fuel ∧
      ∀ f ∈ e.fields, scope.catalog.Resolves scope.sources f := by
  -- the fuel bounds the depth: a call at the last level has arguments, and those fail
  induction fuel generalizing j e with
  | zero => simp [checkExpr] at h
  | succ fuel ih =>
    obtain ⟨entries, -, hcases⟩ := checkExpr_succ_eq_ok h
    rcases hcases with ⟨name, r, -, hr, rfl⟩ | ⟨value, -, -, hscalar, rfl⟩ |
      ⟨name, f, items, args, -, -, -, -, -, haccepts, hpass, rfl⟩
    · refine ⟨.field _, Nat.succ_pos _, fun f hf => ?_⟩
      obtain rfl : f = r.ref := by simpa [ColumnExpr.fields] using hf
      exact Scope.resolves_of_resolve hr
    · refine ⟨.literal hscalar, Nat.succ_pos _, fun f hf => ?_⟩
      simp [ColumnExpr.fields] at hf
    · -- a call: each argument passed with one unit of fuel less
      have hargs : ∀ e ∈ args, e.WellFormed ∧ e.callDepth < fuel ∧
          ∀ f ∈ e.fields, scope.catalog.Resolves scope.sources f := by
        intro e he
        obtain ⟨j, -, hj⟩ := Checked.exists_left_of_mem hpass he
        exact ih hj
      rw [hpass.length_eq] at haccepts
      refine ⟨.call haccepts fun e he => (hargs e he).1, ?_, fun g hg => ?_⟩
      · have hne := ScalarFunction.ne_nil_of_accepts haccepts
        have hdepth := ColumnExpr.depthOfArgs_lt hne fun e he => (hargs e he).2.1
        rw [ColumnExpr.callDepth]
        omega
      · obtain ⟨e, he, hg⟩ := ColumnExpr.mem_fieldsOfArgs.mp hg
        exact (hargs e he).2.2 g hg

/-! ## Columns -/

/-- What a column shows: an expression, which takes no aggregate; a declared aggregation of the
name given; or else a field in scope. -/
theorem checkSubject_ok {place : Place} {aggregate : Option Aggregate}
    {entries : List (String × Json)} {subject : Subject}
    (h : checkSubject scope place declared aggregate entries = .ok subject) :
    (∃ j, given? entries "expression" = some j ∧ aggregate = none ∧
      checkExpr scope place (maxExprDepth + 1) j = .ok subject.expr ∧
      subject.field = none ∧ subject.projected = none) ∨
    (∃ a ∈ declared, given? entries "expression" = none ∧
      nonBlank? entries "field" = some a.name ∧
      subject = ⟨.field a.field, scope.catalog.refField? a.field, some a⟩) ∨
    (∃ name r, given? entries "expression" = none ∧ nonBlank? entries "field" = some name ∧
      (∀ a ∈ declared, a.name ≠ name) ∧ scope.resolve place name = .ok r ∧
      subject = ⟨.field r.ref, some r.field, none⟩) := by
  unfold checkSubject at h
  cases hexpr : given? entries "expression" with
  | some j =>
    simp only [hexpr, Checked.seq_eq_ok, Checked.map_eq_ok, Checked.require_eq_ok] at h
    obtain ⟨-, e, ⟨-, haggregate, rfl⟩, he, rfl⟩ := h
    exact .inl ⟨j, rfl, by simpa using haggregate, he, rfl, rfl⟩
  | none =>
    simp only [hexpr, Checked.andThen_eq_ok, requiredText_eq_ok] at h
    obtain ⟨name, hname, h⟩ := h
    cases hfind : declared.find? (·.name == name) with
    | some a =>
      simp only [hfind, Checked.ok.injEq] at h
      have ha : a.name = name := by simpa using List.find?_some hfind
      exact .inr (.inl ⟨a, List.mem_of_find?_eq_some hfind, rfl, ha ▸ hname, h.symm⟩)
    | none =>
      simp only [hfind, Checked.map_eq_ok] at h
      obtain ⟨r, hr, rfl⟩ := h
      refine .inr (.inr ⟨name, r, rfl, hname, fun a ha => ?_, hr, rfl⟩)
      simpa using List.find?_eq_none.mp hfind a ha

/-- **A column that passes**: its label, what it shows, its aggregate and its alias. -/
theorem checkColumn_ok {i : Nat} {item : Json} {used after : List String} {col : Column}
    (h : checkColumn scope declared i item used = (.ok col, after)) :
    ∃ entries label own subject, item = .object entries ∧
      nonBlank? entries "label" = some label ∧ col.label = Text.trim label ∧
      checkSubject scope (.column i) declared own entries = .ok subject ∧
      col.expr = subject.expr ∧
      col.aggregate = (match subject.projected with
        | some a => some a.function
        | none => own) ∧
      permitColumn (.column i) col.aggregate (some subject) = .ok () ∧
      columnAlias (.column i) i declared used (some subject) col.aggregate
        (given? entries "alias") = .ok col.name ∧
      after = used ++ [col.name] := by
  unfold checkColumn at h
  cases item with
  | object entries =>
    simp only at h
    split at h
    next column hchecked =>
      simp only [Prod.mk.injEq, Checked.ok.injEq] at h
      obtain ⟨rfl, rfl⟩ := h
      simp only [Checked.seq_eq_ok, Checked.map_eq_ok] at hchecked
      obtain ⟨-, name, ⟨-, format, ⟨-, u, ⟨-, subject, ⟨-, own, ⟨label, ⟨text, htext, rfl⟩, rfl⟩,
        hown, rfl⟩, hsubject, rfl⟩, hpermit, rfl⟩, hformat, rfl⟩, hname, rfl⟩ := hchecked
      simp only [hown, Checked.value?_ok, Option.join_some] at hsubject hpermit hname ⊢
      simp only [hsubject, Checked.value?_ok, Option.bind_some] at hpermit hname ⊢
      exact ⟨entries, text, own, subject, rfl, requiredText_eq_ok.mp htext, rfl, hsubject, rfl,
        rfl, hpermit, hname, trivial⟩
    next => simp at h
  | _ => simp at h

section Facts

variable {i : Nat} {item : Json} {used after : List String} {col : Column}

/-- The expression of a column that passes is well formed and nested no deeper than allowed. Its
fields are in scope, if those of the declared aggregations are. -/
theorem expr_of_column (h : checkColumn scope declared i item used = (.ok col, after))
    (hdeclared : ∀ a ∈ declared, scope.catalog.Resolves scope.sources a.field) :
    col.expr.WellFormed ∧ col.expr.callDepth ≤ maxExprDepth ∧
      ∀ f ∈ col.expr.fields, scope.catalog.Resolves scope.sources f := by
  have plain : ∀ f, scope.catalog.Resolves scope.sources f →
      (ColumnExpr.field f).WellFormed ∧ (ColumnExpr.field f).callDepth ≤ maxExprDepth ∧
        ∀ g ∈ (ColumnExpr.field f).fields, scope.catalog.Resolves scope.sources g := by
    intro f hf
    refine ⟨.field f, Nat.zero_le _, fun g hg => ?_⟩
    obtain rfl : g = f := by simpa [ColumnExpr.fields] using hg
    exact hf
  obtain ⟨entries, _, own, subject, -, -, -, hsubject, hexpr, -⟩ := checkColumn_ok h
  rw [hexpr]
  rcases checkSubject_ok hsubject with
    ⟨j, -, -, he, -⟩ | ⟨a, ha, -, -, rfl⟩ | ⟨name, r, -, -, -, hr, rfl⟩
  · -- an expression passed with fuel for one level more than is allowed
    obtain ⟨hwell, hdepth, hfields⟩ := checkExpr_ok he
    exact ⟨hwell, Nat.lt_succ_iff.mp hdepth, hfields⟩
  · exact plain a.field (hdeclared a ha)
  · exact plain r.ref (Scope.resolves_of_resolve hr)

/-- **The aggregate of a column that passes**, its own or that of a declared aggregation, is of a
plain field that permits it, if the declared aggregations are. A column that states an expression
has none. -/
theorem aggregate_of_column (h : checkColumn scope declared i item used = (.ok col, after))
    (hdeclared : ∀ a ∈ declared, scope.catalog.Permits a.function a.field)
    {g : Aggregate} (hg : col.aggregate = some g) :
    item.states "expression" = false ∧
      ∃ f, col.expr = .field f ∧ scope.catalog.Permits g f := by
  obtain ⟨entries, _, own, subject, rfl, -, -, hsubject, hexpr, haggregate, hpermit, -⟩ :=
    checkColumn_ok h
  rw [← given?_eq_none_iff, hexpr]
  rcases checkSubject_ok hsubject with
    ⟨j, -, hown, -, -, hprojected⟩ | ⟨a, ha, hnone, -, rfl⟩ | ⟨name, r, hnone, -, -, hr, rfl⟩
  · -- an expression takes no aggregate, neither its own nor one it shows
    rw [hprojected, hown, hg] at haggregate
    cases haggregate
  · -- a declared aggregation brings its own
    obtain rfl : g = a.function := by simpa [hg] using haggregate
    exact ⟨hnone, a.field, rfl, hdeclared a ha⟩
  · -- a field permits the one that the column gives
    rw [hg] at hpermit
    refine ⟨hnone, r.ref, rfl, ?_⟩
    exact (permitAggregate_eq_ok.mp hpermit).imp_right (Scope.isAggregatable_of_resolve hr)

end Facts

/-- **A section of columns without problems**: at least one, not too many, and all pass. -/
theorem checkColumns_ok {limits : Limits} {j : Json} {found : Section Column}
    (h : checkColumns scope limits declared j = .ok found) (hproblems : found.problems = []) :
    j.items ≠ [] ∧ j.items.length ≤ limits.maxColumns ∧
      ∃ used, Passes (checkColumn scope declared) 0 j.items [] found.values used := by
  unfold checkColumns at h
  cases hitems : listSection? .columns "a list of columns" j with
  | error p => rw [hitems] at h; cases h
  | ok items =>
    rw [hitems] at h
    rw [← listSection?_eq_ok hitems]
    cases items with
    | nil => cases h; cases hproblems
    | cons item items =>
      cases h
      simp only [Section.ofItems, List.append_nil, List.append_eq_nil_iff, atMost_eq_nil]
        at hproblems
      exact ⟨List.cons_ne_nil item items, hproblems.1, _, Checked.passes_checkAll hproblems.2⟩

end TenantReports
