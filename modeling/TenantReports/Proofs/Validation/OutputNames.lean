import TenantReports.Proofs.Validation.Admissible
import TenantReports.Proofs.Validation.Aliases

/-!
# Names in the output

A name in the output stands for one value. Columns refuse names that columns before them have, and
a column has the name of a declared aggregation only if it is that aggregation.

## Main definitions

* `OutputValue`: an expression that may be aggregated
* `Layout.Denotes`: the values that a name stands for

## Main results

* `name_of_column`: a column that passes has a name of its own, or that of the aggregation it is
* `existsUnique_denotes`: every name of the output stands for one value
* `distinct_names_of_build`: the names of a layout that is built
-/

namespace TenantReports

open Checked (Passes)

/-! ## Values of the output -/

/-- A value of the output: an expression, perhaps under an aggregate. -/
structure OutputValue where
  expr : ColumnExpr
  aggregate : Option Aggregate

/-- What a column shows. -/
def Column.value (col : Column) : OutputValue := ⟨col.expr, col.aggregate⟩

/-- What an aggregation computes. -/
def Aggregation.value (a : Aggregation) : OutputValue := ⟨.field a.field, some a.function⟩

/-- A name stands for the value of every column and every aggregation that has it. -/
inductive Layout.Denotes (l : Layout) : String → OutputValue → Prop
  | column {col : Column} (h : col ∈ l.columns) : l.Denotes col.name col.value
  | aggregation {a : Aggregation} (h : a ∈ l.aggregations.functions) : l.Denotes a.name a.value

theorem Layout.exists_denotes {l : Layout} {name : String} (h : name ∈ l.outputNames) :
    ∃ value, l.Denotes name value := by
  rcases List.mem_append.mp h with hcolumn | haggregation
  · obtain ⟨col, hcol, rfl⟩ := List.mem_map.mp hcolumn
    exact ⟨col.value, .column hcol⟩
  · obtain ⟨a, ha, rfl⟩ := List.mem_map.mp haggregation
    exact ⟨a.value, .aggregation ha⟩

/-! ## Items that pass -/

section Items

variable {scope : Scope} {declared : List Aggregation} {i : Nat} {item : Json}

/-- The name of an aggregation that passes is not empty. -/
theorem name_ne_empty_of_aggregation {aliases after : List String} {a : Aggregation}
    (h : checkAggregation scope i item aliases = (.ok a, after)) : a.name ≠ "" := by
  obtain ⟨entries, _, r, -, -, -, -, -, -, hname, -, -⟩ := checkAggregation_ok h
  intro hempty
  unfold aggregateAlias at hname
  cases hgiven : given? entries "alias" with
  | some j =>
    -- a name that is given is an identifier
    simp only [hgiven, Checked.ofOption_eq_ok] at hname
    have hidentifier := isIdentifier_of_identifier? hname
    rw [hempty] at hidentifier
    revert hidentifier
    decide
  | none =>
    simp only [hgiven, Checked.ok.injEq] at hname
    have hlength := congrArg String.length (hname.trans hempty)
    simp [defaultAggregateAlias] at hlength

/-- The names of aggregations that pass are distinct. -/
theorem nodup_of_aggregations {items : List Json} {aliases : List String}
    {functions : List Aggregation}
    (h : Passes (checkAggregation scope) i items [] functions aliases) :
    (functions.map (·.name)).Nodup := by
  refine h.nodup_keys (·.name) fun _ _ _ _ _ hcheck => ?_
  have hne := name_ne_empty_of_aggregation hcheck
  obtain ⟨-, -, -, -, -, -, -, -, -, -, hfresh, hafter⟩ := checkAggregation_ok hcheck
  -- only an empty name would not be remembered
  rw [if_neg hne] at hafter
  exact ⟨hfresh, hafter⟩

/-- The name of a column that gives none is not that of a column before it. It is that of a
declared aggregation only if the column is of its field and its function. -/
theorem defaultColumnAlias_fresh {expr : ColumnExpr} {aggregate : Option Aggregate}
    {used : List String} {name : String}
    (h : defaultColumnAlias i (some expr) aggregate declared used = name) :
    name ∉ used ∧ (name ∈ declared.map (·.name) →
      ∃ a ∈ declared, a.name = name ∧ a.value = ⟨expr, aggregate⟩) := by
  obtain ⟨a, ha, hrepeated, hused, halias⟩ | halias :=
    defaultColumnAlias_cases i (some expr) aggregate declared used
  · -- the name of a declared aggregation, which no column has so far
    obtain rfl := halias.symm.trans h
    refine ⟨hused, fun _ => ⟨a, ha, rfl, ?_⟩⟩
    rw [ColumnExpr.eq_field_of_asField? hrepeated.field, hrepeated.function, Aggregation.value]
  · have hnot := freshAlias_not_mem (used ++ declared.map (·.name))
      (defaultColumnName i (some expr) aggregate)
    rw [← halias, h, List.mem_append, not_or] at hnot
    exact ⟨hnot.1, fun hmem => absurd hmem hnot.2⟩

/-- **The name of a column that passes** is none of the columns before it. It is that of a declared
aggregation only if the column is that aggregation. -/
theorem name_of_column {used after : List String} {col : Column}
    (h : checkColumn scope declared i item used = (.ok col, after)) :
    col.name ∉ used ∧ after = used ++ [col.name] ∧
      (col.name ∈ declared.map (·.name) →
        ∃ a ∈ declared, a.name = col.name ∧ a.value = col.value) := by
  obtain ⟨entries, _, own, subject, -, -, -, hsubject, hexpr, haggregate, -, hname, hafter⟩ :=
    checkColumn_ok h
  unfold columnAlias at hname
  rw [Option.bind_some] at hname
  cases hprojected : subject.projected with
  | some a =>
    -- the column shows a declared aggregation
    simp only [hprojected, Checked.map_eq_ok, Checked.require_eq_ok] at hname haggregate
    obtain ⟨-, hused, hname⟩ := hname
    rw [← hname]
    refine ⟨by simpa using hused, by rw [hafter, hname], fun _ => ?_⟩
    rcases checkSubject_ok hsubject with ⟨_, -, -, -, -, hnone⟩ | ⟨b, hb, -, -, rfl⟩ |
      ⟨_, r, -, -, -, -, rfl⟩
    · rw [hprojected] at hnone
      cases hnone
    · obtain rfl : b = a := Option.some.inj hprojected
      exact ⟨b, hb, rfl, by rw [Aggregation.value, Column.value, hexpr, haggregate]⟩
    · cases hprojected
  | none =>
    cases hgiven : given? entries "alias" with
    | none =>
      simp only [hprojected, hgiven, Option.map_some, Checked.ok.injEq] at hname
      obtain ⟨hused, hshared⟩ := defaultColumnAlias_fresh hname
      rw [← hexpr] at hshared
      exact ⟨hused, hafter, hshared⟩
    | some j =>
      -- a name that is given is refused if a column or an aggregation has it
      simp only [hprojected, hgiven, Checked.andThen_eq_ok, Checked.map_eq_ok,
        Checked.require_eq_ok, Bool.and_eq_true, List.all_eq_true] at hname
      obtain ⟨given, -, -, ⟨hused, hothers⟩, rfl⟩ := hname
      refine ⟨by simpa using hused, hafter, fun hmem => ?_⟩
      obtain ⟨a, ha, heq⟩ := List.mem_map.mp hmem
      have hne := hothers a ha
      simp [heq] at hne

end Items

/-! ## Layouts -/

/-- A list without duplicates stays as it is when duplicates are erased. -/
theorem eraseDups_of_nodup {names : List String} (h : names.Nodup) : names.eraseDups = names := by
  induction names with
  | nil => rfl
  | cons name names ih =>
    obtain ⟨hname, hnames⟩ := List.nodup_cons.mp h
    have hothers : (names.filter fun other => !other == name) = names := by
      apply List.filter_eq_self.mpr
      intro other hother
      have hne : other ≠ name := ne_of_mem_of_not_mem hother hname
      simp [hne]
    rw [List.eraseDups_cons, hothers, ih hnames]

/-- **The names of a layout tell its values apart**: those of columns are distinct, those of
aggregations are, and a column has the name of an aggregation only if it is that aggregation. -/
structure Layout.Distinct (l : Layout) : Prop where
  columns : (l.columns.map (·.name)).Nodup
  functions : (l.aggregations.functions.map (·.name)).Nodup
  shared : ∀ col ∈ l.columns, ∀ a ∈ l.aggregations.functions, col.name = a.name →
    col.expr = .field a.field ∧ col.aggregate = some a.function

/-- The names of a layout whose items pass tell its values apart. -/
theorem Validator.Passed.distinct {v : Validator} {d : Draft} {l : Layout} (h : v.Passed d l) :
    l.Distinct := by
  obtain ⟨aliases, hfunctions⟩ := h.functions
  obtain ⟨used, hcolumns⟩ := h.columns
  have hnodup := nodup_of_aggregations hfunctions
  refine ⟨?_, hnodup, ?_⟩
  · refine hcolumns.nodup_keys (·.name) fun _ _ _ _ _ hcheck => ?_
    obtain ⟨hused, hafter, -⟩ := name_of_column hcheck
    exact ⟨hused, hafter⟩
  · intro col hcol a ha hname
    obtain ⟨n, item, earlier, after, hcheck⟩ := hcolumns.check_of_mem hcol
    obtain ⟨-, -, hshared⟩ := name_of_column hcheck
    obtain ⟨b, hb, hbname, hvalue⟩ := hshared (hname ▸ List.mem_map_of_mem ha)
    -- there is only one aggregation of that name
    obtain rfl : b = a := List.inj_on_of_nodup_map hnodup hb ha (hbname.trans hname)
    simp only [Aggregation.value, Column.value, OutputValue.mk.injEq] at hvalue
    exact ⟨hvalue.1.symm, hvalue.2.symm⟩

namespace Layout.Distinct

variable {l : Layout} (h : l.Distinct)

include h

/-- A name stands for one value. -/
theorem denotes_unique {name : String} {value value' : OutputValue}
    (hvalue : l.Denotes name value) (hvalue' : l.Denotes name value') : value = value' := by
  -- a column and an aggregation of one name are the same value
  have hshared : ∀ col ∈ l.columns, ∀ a ∈ l.aggregations.functions, col.name = a.name →
      col.value = a.value := by
    intro col hcol a ha hname
    obtain ⟨hexpr, haggregate⟩ := h.shared col hcol a ha hname
    rw [Column.value, Aggregation.value, hexpr, haggregate]
  generalize hname : name = name' at hvalue'
  cases hvalue with
  | @column col hcol =>
    cases hvalue' with
    | @column col' hcol' =>
      rw [List.inj_on_of_nodup_map h.columns hcol hcol' hname]
    | @aggregation a ha => exact hshared col hcol a ha hname
  | @aggregation a ha =>
    cases hvalue' with
    | @column col hcol => exact (hshared col hcol a ha hname.symm).symm
    | @aggregation a' ha' =>
      rw [List.inj_on_of_nodup_map h.functions ha ha' hname]

/-- **Every name of the output stands for one value.** -/
theorem existsUnique_denotes {name : String} (hname : name ∈ l.outputNames) :
    ∃! value, l.Denotes name value := by
  obtain ⟨value, hvalue⟩ := Layout.exists_denotes hname
  exact ⟨value, hvalue, fun value' hvalue' => h.denotes_unique hvalue' hvalue⟩

/-- The names of the output are those of columns, and then those of aggregations that no column
has. -/
theorem outputAliases_eq : l.outputAliases = l.columns.map (·.name) ++
    (l.aggregations.functions.map (·.name)).filter fun name => name ∉ l.columns.map (·.name) := by
  have hrest : (l.aggregations.functions.map (·.name)).removeAll (l.columns.map (·.name))
      = (l.aggregations.functions.map (·.name)).filter
          fun name => name ∉ l.columns.map (·.name) := by
    simp only [List.removeAll, List.elem_eq_mem, decide_not]
  unfold Layout.outputAliases
  rw [List.eraseDups_append, hrest, eraseDups_of_nodup h.columns,
    eraseDups_of_nodup (h.functions.filter _)]

/-- The output has each of its names once. -/
theorem nodup_outputAliases : l.outputAliases.Nodup := by
  rw [h.outputAliases_eq]
  apply List.Nodup.append h.columns (h.functions.filter _)
  intro name hcolumn hrest
  exact of_decide_eq_true (List.mem_filter.mp hrest).2 hcolumn

end Layout.Distinct

/-- **The names of a layout that is built tell its values apart.** Those of its columns are distinct,
and so are those of its aggregations; a column has the name of an aggregation only if it is that
aggregation. So the output lists each name once, first those of columns and then those of
aggregations that no column has, and a name that a sort entry orders by stands for one value. -/
theorem distinct_names_of_build {v : Validator} {d : Draft} {full : Bool} {l : Layout}
    (h : v.build d full = .ok l) :
    l.Distinct ∧
      l.outputAliases.Nodup ∧
      (l.outputAliases = l.columns.map (·.name) ++ (l.aggregations.functions.map (·.name)).filter
        fun name => name ∉ l.columns.map (·.name)) ∧
      ∀ entry ∈ l.sorting, ∀ name, entry.target = .output name →
        ∃! value, l.Denotes name value := by
  have hpassed := Validator.passed_of_build h
  have hdistinct := hpassed.distinct
  refine ⟨hdistinct, hdistinct.nodup_outputAliases, hdistinct.outputAliases_eq, ?_⟩
  intro entry hentry name htarget
  -- a sort entry passed as one of a name of the output
  have hname := hpassed.admissible.sorting_named entry hentry name htarget
  exact hdistinct.existsUnique_denotes hname

/-! ## Names that clash

Two fields with the same name by default, each shown by itself and summed. One of the sums is
declared, and has that name too. -/

/-- Two sources whose fields come to the same names. -/
def clashing : Catalog where
  sources := [
    { key := "a", label := "A", category := "", table := "a", model := "A", tenantColumn := "org",
      fields := [{ key := "b_c", label := "", type := .number, aggregatable := true }],
      relations := [] },
    { key := "a_b", label := "AB", category := "", table := "ab", model := "AB",
      tenantColumn := "org",
      fields := [{ key := "c", label := "", type := .number, aggregatable := true }],
      relations := [] }]

/-- Both fields, and the sums of both. -/
def clashingDraft : Draft where
  sources := .object [
    ("joins", .array [.object [
      ("on", .array [.string "a.b_c", .string "a_b.c"]), ("table", .string "a_b")]]),
    ("primary", .string "a")]
  columns := .array [
    .object [("field", .string "a.b_c"), ("label", .string "First")],
    .object [("field", .string "a_b.c"), ("label", .string "Second")],
    .object [("aggregation", .string "sum"), ("field", .string "a_b.c"),
      ("label", .string "Second sum")],
    .object [("aggregation", .string "sum"), ("field", .string "a.b_c"),
      ("label", .string "First sum")]]
  aggregations := .object [("functions", .array [.object [
    ("field", .string "a.b_c"), ("function", .string "sum")]])]
  sorting := .array [.object [("field", .string "sum_a_b_c")]]

/-- The layout of `clashingDraft`. -/
def clashingLayout : Layout where
  sources := ⟨"a", [⟨"a_b", .inner, ⟨"a", "b_c"⟩, ⟨"a_b", "c"⟩⟩]⟩
  columns := [
    ⟨.field ⟨"a", "b_c"⟩, "First", .number, none, "a_b_c"⟩,
    ⟨.field ⟨"a_b", "c"⟩, "Second", .number, none, "a_b_c_2"⟩,
    ⟨.field ⟨"a_b", "c"⟩, "Second sum", .number, some .sum, "sum_a_b_c_2"⟩,
    ⟨.field ⟨"a", "b_c"⟩, "First sum", .number, some .sum, "sum_a_b_c"⟩]
  aggregations := ⟨[], [⟨⟨"a", "b_c"⟩, .sum, "sum_a_b_c"⟩]⟩
  sorting := [⟨.output "sum_a_b_c", .asc⟩]

theorem build_clashingDraft :
    (⟨clashing, {}⟩ : Validator).build clashingDraft false = .ok clashingLayout := rfl

/-- The sum that a column shares with the aggregation is one value, and the other sum another. -/
theorem distinct_names_clashingLayout :
    (⟨clashing, {}⟩ : Validator).build clashingDraft false = .ok clashingLayout ∧
      clashingLayout.outputAliases = ["a_b_c", "a_b_c_2", "sum_a_b_c_2", "sum_a_b_c"] ∧
      clashingLayout.outputAliases.Nodup ∧
      ∃! value, clashingLayout.Denotes "sum_a_b_c" value := by
  obtain ⟨-, hnodup, -, hsorted⟩ := distinct_names_of_build build_clashingDraft
  refine ⟨build_clashingDraft, by decide, hnodup, ?_⟩
  exact hsorted ⟨.output "sum_a_b_c", .asc⟩ List.mem_cons_self "sum_a_b_c" rfl

end TenantReports
