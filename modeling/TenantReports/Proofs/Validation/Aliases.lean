import Mathlib.Data.Finset.Card
import Mathlib.Order.Nat
import TenantReports.Proofs.Catalog.Identifiers
import TenantReports.Proofs.Validation.Build

/-!
# Aliases

A column whose draft gives no name is called after its field and its function, or after its index.
If that name is taken, it is numbered: of the candidates there is one more than there are names that
are taken, so not all of them are taken. Only a column that repeats a declared aggregation shares
that one's name.

The name of a column in the output is given by the draft, and then checked to be an identifier; or
it is made of the names of a declared field, of a function and of numbers; or it is that of a
declared aggregation. Over a catalog with plain names it is an identifier in each case.

## Main definitions

* `aliasCandidate`: a name, and the numbers that may be put to it
* `FieldRef.Plain`: the keys of a field are identifiers
* `defaultColumnName`: the name that a column goes by, before it is numbered
* `Aggregation.RepeatedBy`: a column is of the field and the function of an aggregation

## Main results

* `exists_isLeast_freshAlias`: a name that is made fresh is the first candidate that is not taken
* `defaultColumnAlias_cases`: a column that gives no name shares that of an aggregation, or has one
  that is made fresh
* `isIdentifier_defaultColumnAlias`: its name is an identifier if the keys of its field are
* `defaultColumnAlias_fresh_or_shared`: all of this together
* `isIdentifier_of_aggregation`, `isIdentifier_of_column`: the names of an aggregation and of a
  column that pass
* `Validator.Passed.isIdentifier_column`: so are those of a layout whose items pass
-/

namespace TenantReports

variable {c : Catalog}

/-! ## Fresh names -/

/-- A name with a number after it. -/
def numberedAlias (name : String) (n : Nat) : String :=
  name ++ "_" ++ Json.intText (n + 2 : Nat)

theorem intText_injective : Function.Injective fun n : Nat => Json.intText n := by
  intro m n h
  -- a text of digits is read back as its number
  have hread : ∀ k : Nat, Nat.ofDigitChars 10 (Json.intText k).toList 0 = k := by
    intro k
    have hnonneg : ¬ (k : Int) < 0 := Int.not_lt.mpr (Int.natCast_nonneg k)
    rw [Json.intText, if_neg hnonneg, String.toList_ofList]
    exact Nat.ofDigitChars_ten_toDigits
  have htexts : Json.intText m = Json.intText n := h
  rw [← hread m, htexts, hread n]

theorem numberedAlias_injective (name : String) : Function.Injective (numberedAlias name) := by
  intro m n h
  have htexts : Json.intText (m + 2 : Nat) = Json.intText (n + 2 : Nat) :=
    (String.append_right_inj (name ++ "_")).mp h
  have hnumbers : m + 2 = n + 2 := intText_injective htexts
  omega

/-- A number makes a name longer. -/
theorem numberedAlias_ne (name : String) (n : Nat) : numberedAlias name n ≠ name := by
  intro h
  have hlength := congrArg String.length h
  have hunderscore : "_".length = 1 := rfl
  rw [numberedAlias, String.length_append, String.length_append] at hlength
  omega

/-- The candidates for a name, in the order in which they are tried: the name itself, and then it
with a number, from two on. -/
def aliasCandidate (name : String) : Nat → String
  | 0 => name
  | n + 1 => numberedAlias name n

@[simp] theorem aliasCandidate_zero (name : String) : aliasCandidate name 0 = name := rfl

@[simp] theorem aliasCandidate_succ (name : String) (n : Nat) :
    aliasCandidate name (n + 1) = numberedAlias name n := rfl

theorem aliasCandidate_injective (name : String) : Function.Injective (aliasCandidate name) := by
  intro m n h
  match m, n with
  | 0, 0 => rfl
  | m + 1, n + 1 => rw [numberedAlias_injective name h]
  | 0, n + 1 => exact absurd h.symm (numberedAlias_ne name n)
  | m + 1, 0 => exact absurd h (numberedAlias_ne name m)

/-- Not all candidates are taken: they are distinct, and one more of them is tried than there are
names that are taken. -/
theorem exists_candidate_not_mem (taken : List String) (name : String) :
    ∃ n ≤ taken.toFinset.card, aliasCandidate name n ∉ taken := by
  by_contra! hall
  -- one more candidate than there are names, all of them among the names
  have hsubset : (Finset.range (taken.toFinset.card + 1)).image (aliasCandidate name)
      ⊆ taken.toFinset := by
    intro a ha
    obtain ⟨n, hn, rfl⟩ := Finset.mem_image.mp ha
    exact List.mem_toFinset.mpr (hall n (Nat.lt_succ_iff.mp (Finset.mem_range.mp hn)))
  have hcard := Finset.card_le_card hsubset
  rw [Finset.card_image_of_injective _ (aliasCandidate_injective name), Finset.card_range] at hcard
  omega

/-- The first candidate that is not taken is the name that is made fresh. -/
theorem freshAlias_eq_of_isLeast {taken : List String} {name : String} {n : Nat}
    (h : IsLeast {n | aliasCandidate name n ∉ taken} n) (hn : n ≤ taken.length) :
    freshAlias taken name = aliasCandidate name n := by
  have hbefore : ∀ m < n, aliasCandidate name m ∈ taken := by
    intro m hm
    by_contra hfree
    exact absurd (h.2 hfree) (Nat.not_le.mpr hm)
  unfold freshAlias
  cases n with
  | zero => rw [if_neg (by simpa using h.1)]; rfl
  | succ n =>
    have hname : name ∈ taken := hbefore 0 n.succ_pos
    -- the number is within the bound of the search, so its default is never reached
    have hfind : ((List.range taken.length).map (numberedAlias name)).find?
        (fun a => !taken.contains a) = some (numberedAlias name n) := by
      rw [List.find?_map, Option.map_eq_some_iff]
      refine ⟨n, List.find?_range_eq_some.mpr ⟨?_, ?_, ?_⟩, rfl⟩
      · simpa using h.1
      · exact List.mem_range.mpr hn
      · intro m hm
        simpa using hbefore (m + 1) (Nat.succ_lt_succ hm)
    rw [if_pos (by simpa using hname)]
    exact congrArg (Option.getD · _) hfind

/-- **A name that is made fresh is the first candidate that is not taken**, and there are at most as
many before it as there are names that are taken. -/
theorem exists_isLeast_freshAlias (taken : List String) (name : String) :
    ∃ n ≤ taken.toFinset.card, IsLeast {n | aliasCandidate name n ∉ taken} n ∧
      freshAlias taken name = aliasCandidate name n := by
  obtain ⟨m, hm, hfree⟩ := exists_candidate_not_mem taken name
  have hexists : ∃ n, aliasCandidate name n ∉ taken := ⟨m, hfree⟩
  have hle : Nat.find hexists ≤ taken.toFinset.card := (Nat.find_min' hexists hfree).trans hm
  have hleast := Nat.isLeast_find hexists
  exact ⟨Nat.find hexists, hle, hleast,
    freshAlias_eq_of_isLeast hleast (hle.trans taken.toFinset_card_le)⟩

/-- A name that is made fresh is not taken. -/
theorem freshAlias_not_mem (taken : List String) (name : String) :
    freshAlias taken name ∉ taken := by
  obtain ⟨n, -, hleast, hfresh⟩ := exists_isLeast_freshAlias taken name
  rw [hfresh]
  exact hleast.1

/-! ## Identifiers -/

/-- The digits of a number may stand in an identifier. -/
theorem isIdentifierPart_intText (n : Nat) :
    ∀ ch ∈ (Json.intText n).toList, isIdentifierPart ch = true := by
  have hnonneg : ¬ (n : Int) < 0 := Int.not_lt.mpr (Int.natCast_nonneg n)
  rw [Json.intText, if_neg hnonneg, String.toList_ofList]
  intro ch hch
  have hdigit : ch.isDigit = true := Nat.isDigit_of_mem_toDigits (by decide) (by decide) hch
  rw [isIdentifierPart, Char.isAlphanum, hdigit, Bool.or_true, Bool.true_or]

/-- A name stays an identifier when a number makes it fresh. -/
theorem isIdentifier_freshAlias {taken : List String} {name : String}
    (h : isIdentifier name = true) : isIdentifier (freshAlias taken name) = true := by
  obtain ⟨n, -, -, hfresh⟩ := exists_isLeast_freshAlias taken name
  rw [hfresh]
  cases n with
  | zero => exact h
  | succ n => exact isIdentifier_append (isIdentifier_underscore h) (isIdentifierPart_intText _)

theorem isIdentifier_of_identifier? {j : Json} {name : String} (h : identifier? j = some name) :
    isIdentifier name = true := by
  unfold identifier? at h
  split at h
  · split at h
    next hname =>
      obtain rfl := Option.some.inj h
      exact hname
    next => cases h
  · cases h

theorem Aggregate.isIdentifier_name (f : Aggregate) : isIdentifier (Named.name f) = true := by
  cases f <;> decide

/-- The keys of a field are identifiers. -/
structure FieldRef.Plain (f : FieldRef) : Prop where
  source : isIdentifier f.source = true
  field : isIdentifier f.field = true

namespace FieldRef.Plain

variable {f : FieldRef}

/-- The name that a field has by default. -/
theorem isIdentifier_defaultAlias (h : f.Plain) : isIdentifier f.defaultAlias = true :=
  isIdentifier_joined h.source h.field

/-- The name that an aggregation of the field has by default. -/
theorem isIdentifier_defaultAggregateAlias (h : f.Plain) (g : Aggregate) :
    isIdentifier (defaultAggregateAlias g f) = true :=
  isIdentifier_joined g.isIdentifier_name h.isIdentifier_defaultAlias

end FieldRef.Plain

/-! ## Names of columns that give none -/

/-- The name that a column goes by, before it is numbered: after its aggregate and its field, or
after its index. -/
def defaultColumnName (index : Nat) (expr : Option ColumnExpr) (aggregate : Option Aggregate) :
    String :=
  match expr.bind ColumnExpr.asField?, aggregate with
  | some field, some function => defaultAggregateAlias function field
  | some field, none => field.defaultAlias
  | none, _ => "column_" ++ Json.intText index

/-- A column repeats an aggregation: they are of one field and one function, and the aggregation
has the name that both have by default. -/
structure Aggregation.RepeatedBy (a : Aggregation) (expr : Option ColumnExpr)
    (aggregate : Option Aggregate) : Prop where
  field : expr.bind ColumnExpr.asField? = some a.field
  function : aggregate = some a.function
  name : a.name = defaultAggregateAlias a.function a.field

section Defaults

variable {index : Nat} {expr : Option ColumnExpr} {aggregate : Option Aggregate}
  {declared : List Aggregation} {used : List String}

theorem ColumnExpr.eq_field_of_asField? {expr : ColumnExpr} {f : FieldRef}
    (h : expr.asField? = some f) : expr = .field f := by
  cases expr with
  | field f' => rw [Option.some.inj h]
  | literal _ | call _ _ => cases h

theorem Aggregation.RepeatedBy.name_eq {a : Aggregation} (h : a.RepeatedBy expr aggregate)
    (index : Nat) : a.name = defaultColumnName index expr aggregate := by
  simp only [defaultColumnName, h.field, h.function, h.name]

/-- A column that repeats a declared aggregation shares its name, unless a column has it. -/
theorem defaultColumnAlias_of_repeated {a : Aggregation} (ha : a ∈ declared)
    (h : a.RepeatedBy expr aggregate) (hused : a.name ∉ used) :
    defaultColumnAlias index expr aggregate declared used = a.name := by
  have hshared : ⟨a.field, a.function, defaultAggregateAlias a.function a.field⟩ ∈ declared := by
    rw [← h.name]
    exact ha
  rw [h.name] at hused
  simp [defaultColumnAlias, h.field, h.function, h.name, hshared, hused]

/-- Any other column has a name that is made fresh. -/
theorem defaultColumnAlias_of_not_repeated
    (h : ∀ a ∈ declared, a.RepeatedBy expr aggregate → a.name ∈ used) :
    defaultColumnAlias index expr aggregate declared used
      = freshAlias (used ++ declared.map (·.name)) (defaultColumnName index expr aggregate) := by
  unfold defaultColumnAlias defaultColumnName
  cases hfield : expr.bind ColumnExpr.asField? with
  | none => rfl
  | some field =>
    cases haggregate : aggregate with
    | none => rfl
    | some function =>
      have hused : ⟨field, function, defaultAggregateAlias function field⟩ ∈ declared →
          defaultAggregateAlias function field ∈ used :=
        fun hmem => h _ hmem ⟨hfield, haggregate, rfl⟩
      have hshared : (declared.contains ⟨field, function, defaultAggregateAlias function field⟩ &&
          !used.contains (defaultAggregateAlias function field)) = false := by
        simpa using hused
      simp only [hshared, Bool.false_eq_true, if_false]

/-- Every column has one name or the other. -/
theorem defaultColumnAlias_cases (index : Nat) (expr : Option ColumnExpr)
    (aggregate : Option Aggregate) (declared : List Aggregation) (used : List String) :
    (∃ a ∈ declared, a.RepeatedBy expr aggregate ∧ a.name ∉ used ∧
        defaultColumnAlias index expr aggregate declared used = a.name) ∨
      defaultColumnAlias index expr aggregate declared used
        = freshAlias (used ++ declared.map (·.name)) (defaultColumnName index expr aggregate) := by
  by_cases h : ∃ a ∈ declared, a.RepeatedBy expr aggregate ∧ a.name ∉ used
  · obtain ⟨a, ha, hrepeated, hused⟩ := h
    exact .inl ⟨a, ha, hrepeated, hused, defaultColumnAlias_of_repeated ha hrepeated hused⟩
  · refine .inr (defaultColumnAlias_of_not_repeated fun a ha hrepeated => ?_)
    by_contra hused
    exact h ⟨a, ha, hrepeated, hused⟩

/-- The name of a column that gives none, if the keys of a field that it shows are identifiers. -/
theorem isIdentifier_defaultColumnAlias
    (hplain : ∀ f, expr.bind ColumnExpr.asField? = some f → f.Plain) :
    isIdentifier (defaultColumnAlias index expr aggregate declared used) = true := by
  have hname : isIdentifier (defaultColumnName index expr aggregate) = true := by
    unfold defaultColumnName
    cases hfield : expr.bind ColumnExpr.asField? with
    | none =>
      -- no name of a field to go by: the index of the column
      exact isIdentifier_append (by decide) (isIdentifierPart_intText index)
    | some f =>
      cases aggregate with
      | none => exact (hplain f hfield).isIdentifier_defaultAlias
      | some g => exact (hplain f hfield).isIdentifier_defaultAggregateAlias g
  obtain ⟨a, -, hrepeated, -, halias⟩ | halias :=
    defaultColumnAlias_cases index expr aggregate declared used
  · rw [halias, hrepeated.name_eq index]
    exact hname
  · rw [halias]
    exact isIdentifier_freshAlias hname

/-- **The name of a column that gives none.** No column before it has that name. If it repeats a
declared aggregation whose name no column has, it shares that one's name. Else its name is not that
of a declared aggregation either: it is the first of the candidates, without end, that is not taken,
and there are at most as many before it as there are names that are taken. It is an identifier if
the keys of a field that the column shows are. -/
theorem defaultColumnAlias_fresh_or_shared (index : Nat) (expr : Option ColumnExpr)
    (aggregate : Option Aggregate) (declared : List Aggregation) (used : List String) :
    defaultColumnAlias index expr aggregate declared used ∉ used ∧
      (∀ a ∈ declared, a.RepeatedBy expr aggregate → a.name ∉ used →
        defaultColumnAlias index expr aggregate declared used = a.name) ∧
      ((∀ a ∈ declared, a.RepeatedBy expr aggregate → a.name ∈ used) →
        defaultColumnAlias index expr aggregate declared used ∉ declared.map (·.name) ∧
        ∃ n ≤ (used ++ declared.map (·.name)).toFinset.card,
          IsLeast {n | aliasCandidate (defaultColumnName index expr aggregate) n
            ∉ used ++ declared.map (·.name)} n ∧
          defaultColumnAlias index expr aggregate declared used
            = aliasCandidate (defaultColumnName index expr aggregate) n) ∧
      ((∀ f, expr.bind ColumnExpr.asField? = some f → f.Plain) →
        isIdentifier (defaultColumnAlias index expr aggregate declared used) = true) := by
  have hfresh := freshAlias_not_mem (used ++ declared.map (·.name))
    (defaultColumnName index expr aggregate)
  rw [List.mem_append, not_or] at hfresh
  refine ⟨?_, fun a ha => defaultColumnAlias_of_repeated ha, fun hrepeated => ?_,
    isIdentifier_defaultColumnAlias⟩
  · obtain ⟨a, -, -, hused, halias⟩ | halias :=
      defaultColumnAlias_cases index expr aggregate declared used
    · rw [halias]
      exact hused
    · rw [halias]
      exact hfresh.1
  · rw [defaultColumnAlias_of_not_repeated hrepeated]
    exact ⟨hfresh.2, exists_isLeast_freshAlias _ _⟩

/-- The sum of a field, and that of another one under a name that the first could get. -/
def declaredSums : List Aggregation :=
  [⟨⟨"a", "b"⟩, .sum, "sum_a_b"⟩, ⟨⟨"a", "c"⟩, .sum, "sum_a_b_3"⟩]

/-- The first column of a sum shares its name. A further one has a number, and the first that is
not taken is the last one possible: three names are taken, and three candidates before it. -/
theorem defaultColumnAlias_declaredSums :
    defaultColumnAlias 0 (some (.field ⟨"a", "b"⟩)) (some .sum) declaredSums [] = "sum_a_b" ∧
      defaultColumnAlias 2 (some (.field ⟨"a", "b"⟩)) (some .sum) declaredSums
        ["sum_a_b", "sum_a_b_2"] = "sum_a_b_4" ∧
      (∃ n ≤ 3, IsLeast {n | aliasCandidate "sum_a_b" n
          ∉ ["sum_a_b", "sum_a_b_2", "sum_a_b", "sum_a_b_3"]} n ∧
        "sum_a_b_4" = aliasCandidate "sum_a_b" n) ∧
      isIdentifier "sum_a_b_4" = true := by
  obtain ⟨-, hshared, -, -⟩ := defaultColumnAlias_fresh_or_shared 0 (some (.field ⟨"a", "b"⟩))
    (some .sum) declaredSums []
  obtain ⟨-, -, hnumbered, hidentifier⟩ := defaultColumnAlias_fresh_or_shared 2
    (some (.field ⟨"a", "b"⟩)) (some .sum) declaredSums ["sum_a_b", "sum_a_b_2"]
  have hrepeated : ∀ a ∈ declaredSums,
      a.RepeatedBy (some (.field ⟨"a", "b"⟩)) (some .sum) → a.name ∈ ["sum_a_b", "sum_a_b_2"] := by
    intro a ha h
    rw [h.name_eq 0]
    exact List.mem_cons_self
  refine ⟨hshared _ List.mem_cons_self ⟨rfl, rfl, rfl⟩ List.not_mem_nil, rfl,
    (hnumbered hrepeated).2, hidentifier ?_⟩
  rintro f ⟨⟩
  exact ⟨by decide, by decide⟩

end Defaults

namespace Catalog.Plain

/-- The source and the field of a declared reference are in the catalog. -/
theorem exists_of_refField? {f : FieldRef} {field : SourceField}
    (h : c.refField? f = some field) :
    ∃ s ∈ c.sources, s.key = f.source ∧ field ∈ s.fields ∧ field.key = f.field := by
  obtain ⟨s, hs, hfield⟩ := Option.bind_eq_some_iff.mp h
  refine ⟨s, List.mem_of_find?_eq_some hs, ?_, List.mem_of_find?_eq_some hfield, ?_⟩
  · simpa using List.find?_some hs
  · simpa using List.find?_some hfield

/-- The keys of a declared field are identifiers. -/
theorem plain_of_resolves (hc : c.Plain) {scope : List String} {f : FieldRef}
    (h : c.Resolves scope f) : f.Plain := by
  obtain ⟨-, field, hfield⟩ := h
  obtain ⟨s, hs, hsource, hmem, hkey⟩ := exists_of_refField? hfield
  have hplain := hc s hs
  exact ⟨hsource ▸ hplain.key, hkey ▸ (hplain.fields field hmem).key⟩

end Catalog.Plain

/-! ## Aggregations and columns that pass -/

section Items

variable {scope : Scope} {declared : List Aggregation}

/-- The name of an aggregation that passes. -/
theorem isIdentifier_of_aggregation (hc : scope.catalog.Plain) {i : Nat} {item : Json}
    {aliases after : List String} {a : Aggregation}
    (h : checkAggregation scope i item aliases = (.ok a, after)) :
    isIdentifier a.name = true := by
  obtain ⟨entries, name, r, -, -, hr, -, -, -, halias, -⟩ := checkAggregation_ok h
  unfold aggregateAlias at halias
  cases hgiven : given? entries "alias" with
  | some j =>
    simp only [hgiven, Checked.ofOption_eq_ok] at halias
    exact isIdentifier_of_identifier? halias
  | none =>
    simp only [hgiven, Checked.ok.injEq] at halias
    rw [← halias]
    have hplain := hc.plain_of_resolves (Scope.resolves_of_resolve hr)
    exact hplain.isIdentifier_defaultAggregateAlias a.function

/-- **The name of a column that passes**, if those of the declared aggregations are identifiers, and
their fields in scope. -/
theorem isIdentifier_of_column (hc : scope.catalog.Plain)
    (hnames : ∀ a ∈ declared, isIdentifier a.name = true)
    (hfields : ∀ a ∈ declared, scope.catalog.Resolves scope.sources a.field) {i : Nat}
    {item : Json} {used after : List String} {col : Column}
    (h : checkColumn scope declared i item used = (.ok col, after)) :
    isIdentifier col.name = true := by
  obtain ⟨-, -, hresolves⟩ := expr_of_column h hfields
  obtain ⟨entries, -, own, subject, -, -, -, hsubject, hexpr, -, -, hname, -⟩ := checkColumn_ok h
  unfold columnAlias at hname
  rw [Option.bind_some] at hname
  cases hprojected : subject.projected with
  | some a =>
    -- the column shows a declared aggregation, and has its name
    have ha : a ∈ declared := by
      rcases checkSubject_ok hsubject with ⟨_, -, -, -, -, hnone⟩ | ⟨b, hb, -, -, rfl⟩ |
        ⟨_, r, -, -, -, -, rfl⟩
      · rw [hprojected] at hnone
        cases hnone
      · cases hprojected
        exact hb
      · cases hprojected
    simp only [hprojected, Checked.map_eq_ok] at hname
    obtain ⟨-, -, hname⟩ := hname
    rw [← hname]
    exact hnames a ha
  | none =>
    cases hgiven : given? entries "alias" with
    | none =>
      simp only [hprojected, hgiven, Option.map_some, Checked.ok.injEq] at hname
      rw [← hname, ← hexpr]
      refine isIdentifier_defaultColumnAlias fun f hf => hc.plain_of_resolves (hresolves f ?_)
      rw [ColumnExpr.eq_field_of_asField? hf, ColumnExpr.fields]
      exact List.mem_singleton_self f
    | some j =>
      simp only [hprojected, hgiven, Checked.andThen_eq_ok, Checked.ofOption_eq_ok,
        Checked.map_eq_ok] at hname
      obtain ⟨given, hgiven, -, -, rfl⟩ := hname
      exact isIdentifier_of_identifier? hgiven

end Items

/-- **The columns of a layout whose items pass have identifiers for names.** -/
theorem Validator.Passed.isIdentifier_column {v : Validator} {d : Draft} {l : Layout}
    (h : v.Passed d l) (hc : v.catalog.Plain) :
    ∀ col ∈ l.columns, isIdentifier col.name = true := by
  have hnames : ∀ a ∈ l.aggregations.functions, isIdentifier a.name = true ∧
      v.catalog.Resolves l.sources.inScope a.field := by
    intro a ha
    obtain ⟨names, hfunctions⟩ := h.functions
    obtain ⟨n, item, earlier, after, hcheck⟩ := hfunctions.check_of_mem ha
    exact ⟨isIdentifier_of_aggregation hc hcheck, (aggregation_permitted hcheck).1⟩
  intro col hcol
  obtain ⟨used, hcolumns⟩ := h.columns
  obtain ⟨n, item, earlier, after, hcheck⟩ := hcolumns.check_of_mem hcol
  exact isIdentifier_of_column hc (fun a ha => (hnames a ha).1) (fun a ha => (hnames a ha).2) hcheck

end TenantReports
