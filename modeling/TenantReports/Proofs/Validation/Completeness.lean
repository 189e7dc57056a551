import TenantReports.Proofs.Validation.Build

/-!
# No item is dropped

A layout is built exactly if validation finds no problem, and then every item of the draft has a
part of its own in the layout, which says what the item says.

## Main definitions

* `Join.FromItem`, `Column.FromItem`, `Aggregation.FromItem`, `FilterSlot.FromItem`,
  `SortEntry.FromItem`: a part of a layout says what an item of a draft says
* `ColumnExpr.FromJson`: an expression says what a JSON value says

## Main results

* `build_accounts_for_items`: building succeeds exactly without problems, fails with those of
  validation, and drops no item
-/

namespace TenantReports

/-! ## What items say -/

/-- The word under a key, if the key is stated, and else a default. -/
def Json.WordOr {α : Type} [Named α] (item : Json) (key : String) (default a : α) : Prop :=
  if item.states key then item.word? key = some a else a = default

/-- The table, the kind and a stated condition of a join are those of the item. -/
def Join.FromItem (join : Join) (item : Json) : Prop :=
  item.get "table" = .string join.table ∧ item.WordOr "type" .inner join.kind ∧
    (item.states "on" = true → ∃ left right, item.get "on" = .array [.string left, .string right] ∧
      FieldRef.parse? left = some join.left ∧ FieldRef.parse? right = some join.right)

/-- An expression is what a JSON value says: a field by its name, a constant, or a call of a
function with an argument for each one listed. -/
inductive ColumnExpr.FromJson : Json → ColumnExpr → Prop
  | field {entries : List (String × Json)} {name : String} {f : FieldRef} :
    entries.lookup "field" = some (.string name) → FieldRef.parse? name = some f →
      FromJson (.object entries) (.field f)
  | literal {entries : List (String × Json)} {value : Json} :
    entries.lookup "field" = none → entries.lookup "value" = some value →
      FromJson (.object entries) (.literal value)
  | call {entries : List (String × Json)} {f : ScalarFunction} {items : List Json}
      {args : List ColumnExpr} :
    entries.lookup "field" = none → entries.lookup "value" = none →
      (Json.object entries).word? "function" = some f →
      entries.lookup "args" = some (.array items) → List.Forall₂ FromJson items args →
      FromJson (.object entries) (.call f args)

/-- The label of a column is that of the item, and so is a stated expression. Otherwise the field
of the item names a declared aggregation that the column shows, or the field of the column. -/
def Column.FromItem (declared : List Aggregation) (col : Column) (item : Json) : Prop :=
  (∃ label, item.get "label" = .string label ∧ col.label = Text.trim label) ∧
    (item.states "expression" = true → ColumnExpr.FromJson (item.get "expression") col.expr) ∧
    (item.states "expression" = false → ∃ name, item.get "field" = .string name ∧
      ((∃ a ∈ declared, a.name = name ∧ col.expr = .field a.field ∧
          col.aggregate = some a.function) ∨
        ∃ f, FieldRef.parse? name = some f ∧ col.expr = .field f))

/-- The field and the function of an aggregation are those of the item. -/
def Aggregation.FromItem (a : Aggregation) (item : Json) : Prop :=
  (∃ name, item.get "field" = .string name ∧ FieldRef.parse? name = some a.field) ∧
    item.word? "function" = some a.function

/-- The field and the kind of a slot are those of the item. -/
def FilterSlot.FromItem (slot : FilterSlot) (item : Json) : Prop :=
  (∃ name, item.get "field" = .string name ∧ FieldRef.parse? name = some slot.field) ∧
    item.word? "type" = some slot.kind

/-- A sort entry orders by what the item names, in the direction of the item. -/
def SortEntry.FromItem (entry : SortEntry) (item : Json) : Prop :=
  item.WordOr "direction" .asc entry.direction ∧
    ∃ name, item.get "field" = .string name ∧
      (entry.target = .output name ∨
        ∃ f, FieldRef.parse? name = some f ∧ entry.target = .field f)

/-! ## Parts and items -/

theorem wordOr_of_item {α : Type} [Named α] {place : Place} {what : String}
    {entries : List (String × Json)} {key : String} {default a : α}
    (h : wordOr place what default (given? entries key) = .ok a) :
    (Json.object entries).WordOr key default a := by
  unfold Json.WordOr
  cases hj : given? entries key with
  | none =>
    rw [hj, wordOr_none] at h
    rw [if_neg (by simp [given?_eq_none_iff.mp hj])]
    exact h.symm
  | some j =>
    have hstates : (Json.object entries).states key = true := by
      rw [← Bool.not_eq_false, ← given?_eq_none_iff, hj]
      exact Option.some_ne_none j
    rw [if_pos hstates, Json.word?, get_of_given? hj]
    rw [hj] at h
    simpa [wordOr] using h

variable {c : Catalog} {scope : Scope} {i : Nat} {item : Json}

theorem Join.fromItem {join : Join} {earlier after : List String}
    (h : checkJoin c i item earlier = (.ok join, after)) : join.FromItem item := by
  obtain ⟨entries, rfl, htable, -, -, -, hkind, -⟩ := checkJoin_ok h
  refine ⟨get_of_nonBlank? htable, wordOr_of_item hkind, fun hon => ?_⟩
  obtain ⟨left, right, l, r, hget, hl, hleft, hr, hright⟩ := condition_of_stated h hon
  refine ⟨left, right, hget, ?_, ?_⟩
  · rw [← hleft]
    exact (Scope.resolve_eq_ok.mp hl).1
  · rw [← hright]
    exact (Scope.resolve_eq_ok.mp hr).1

theorem ColumnExpr.fromJson {place : Place} {fuel : Nat} {j : Json} {e : ColumnExpr}
    (h : checkExpr scope place fuel j = .ok e) : ColumnExpr.FromJson j e := by
  induction fuel generalizing j e with
  | zero => simp [checkExpr] at h
  | succ fuel ih =>
    obtain ⟨entries, rfl, hcases⟩ := checkExpr_succ_eq_ok h
    rcases hcases with ⟨name, r, hname, hr, rfl⟩ | ⟨value, hfield, hvalue, -, rfl⟩ |
      ⟨name, f, items, args, hfield, hvalue, hfunction, hparse, hargs, -, hpass, rfl⟩
    · exact .field hname (Scope.resolve_eq_ok.mp hr).1
    · exact .literal hfield hvalue
    · -- a call says what it does if each of its arguments does
      refine .call hfield hvalue ?_ hargs (hpass.imp fun _ _ => ih)
      simpa [Json.word?, Json.get, Json.get?, hfunction] using hparse

theorem Column.fromItem {declared : List Aggregation} {col : Column} {used after : List String}
    (h : checkColumn scope declared i item used = (.ok col, after)) :
    col.FromItem declared item := by
  obtain ⟨entries, label, own, subject, rfl, hlabel, htrim, hsubject, hexpr, haggregate, -⟩ :=
    checkColumn_ok h
  refine ⟨⟨label, get_of_nonBlank? hlabel, htrim⟩, fun hstates => ?_, fun hnone => ?_⟩
  · rcases checkSubject_ok hsubject with ⟨j, hsome, -, he, -⟩ | ⟨a, -, hnone, -⟩ | ⟨-, r, hnone, -⟩
    · rw [get_of_given? hsome, hexpr]
      exact ColumnExpr.fromJson he
    -- the other two are for items that state none
    · rw [given?_eq_none_iff, hstates] at hnone
      cases hnone
    · rw [given?_eq_none_iff, hstates] at hnone
      cases hnone
  · rw [← given?_eq_none_iff] at hnone
    rcases checkSubject_ok hsubject with
      ⟨j, hsome, -⟩ | ⟨a, ha, -, hname, rfl⟩ | ⟨name, r, -, hname, -, hr, rfl⟩
    · rw [hnone] at hsome
      cases hsome
    · exact ⟨a.name, get_of_nonBlank? hname, .inl ⟨a, ha, rfl, hexpr, haggregate⟩⟩
    · exact ⟨name, get_of_nonBlank? hname, .inr ⟨r.ref, (Scope.resolve_eq_ok.mp hr).1, hexpr⟩⟩

theorem Aggregation.fromItem {a : Aggregation} {aliases after : List String}
    (h : checkAggregation scope i item aliases = (.ok a, after)) : a.FromItem item := by
  obtain ⟨entries, name, r, rfl, hname, hr, hfield, hfunction, -⟩ := checkAggregation_ok h
  refine ⟨⟨name, get_of_nonBlank? hname, ?_⟩, word?_of_aggregateFunction hfunction⟩
  rw [hfield]
  exact (Scope.resolve_eq_ok.mp hr).1

theorem FilterSlot.fromItem {slot : FilterSlot} {seen after : List String}
    (h : checkFilter scope i item seen = (.ok slot, after)) : slot.FromItem item := by
  obtain ⟨entries, name, r, rfl, hname, hr, hfield, -, -, hkind, -⟩ := checkFilter_ok h
  refine ⟨⟨name, get_of_nonBlank? hname, ?_⟩, word?_of_filterKind hkind⟩
  rw [hfield]
  exact (Scope.resolve_eq_ok.mp hr).1

theorem SortEntry.fromItem {aliases : List String} {entry : SortEntry} {u u' : Unit}
    (h : checkSort scope aliases i item u = (.ok entry, u')) : entry.FromItem item := by
  obtain ⟨entries, name, rfl, hdirection, hname, htarget⟩ := checkSort_ok h
  refine ⟨wordOr_of_item hdirection, name, get_of_nonBlank? hname, ?_⟩
  rcases sortTarget_eq_ok htarget with ⟨-, houtput⟩ | ⟨-, r, hr, -, hfield⟩
  · exact .inl houtput
  · exact .inr ⟨r.ref, (Scope.resolve_eq_ok.mp hr).1, hfield⟩

/-- **Building accounts for every item of a draft.** It succeeds exactly if validation finds no
problem, and fails with the problems that validation finds, of which there is one. A layout that
is built has one part for each item of each section, in the order of the draft, which says what
the item says. -/
theorem build_accounts_for_items (v : Validator) (d : Draft) (full : Bool) :
    ((∃ l, v.build d full = .ok l) ↔ v.validate d full = []) ∧
      (∀ problems, v.build d full = .error problems →
        problems = v.validate d full ∧ problems ≠ []) ∧
      ∀ l, v.build d full = .ok l →
        List.Forall₂ (fun item join => join.FromItem item) d.joinItems l.sources.joins ∧
        List.Forall₂ (fun item col => col.FromItem l.aggregations.functions item)
          d.columnItems l.columns ∧
        List.Forall₂ (fun item a => a.FromItem item) d.functionItems l.aggregations.functions ∧
        List.Forall₂ (fun item slot => slot.FromItem item) d.filterItems l.filters ∧
        List.Forall₂ (fun item entry => entry.FromItem item) d.sortItems l.sorting := by
  refine ⟨?_, fun problems h => Validator.build_eq_error.mp h, fun l h => ?_⟩
  · constructor
    · rintro ⟨l, h⟩
      rw [Validator.build_eq_ok] at h
      rw [Validator.validate, h]
    · intro hnil
      rcases Validator.check_cases v d full with ⟨hne, -⟩ | ⟨l, heq, -⟩
      · exact absurd hnil hne
      · exact ⟨l, Validator.build_eq_ok.mpr heq⟩
  · have hpassed := Validator.passed_of_build h
    obtain ⟨names, hfunctions⟩ := hpassed.functions
    obtain ⟨used, hcolumns⟩ := hpassed.columns
    obtain ⟨seen, hfilters⟩ := hpassed.filters
    exact ⟨hpassed.joins.forall₂ fun _ _ _ _ _ => Join.fromItem,
      hcolumns.forall₂ fun _ _ _ _ _ => Column.fromItem,
      hfunctions.forall₂ fun _ _ _ _ _ => Aggregation.fromItem,
      hfilters.forall₂ fun _ _ _ _ _ => FilterSlot.fromItem,
      hpassed.sorting.forall₂ fun _ _ _ _ _ => SortEntry.fromItem⟩

theorem salesDraft_accounted_for :
    (⟨shop, {}⟩ : Validator).validate salesDraft false = [] ∧
      List.Forall₂ (fun item col => col.FromItem salesLayout.aggregations.functions item)
        salesDraft.columnItems salesLayout.columns := by
  have haccounts := build_accounts_for_items ⟨shop, {}⟩ salesDraft false
  exact ⟨haccounts.1.mp ⟨salesLayout, build_salesDraft⟩,
    (haccounts.2.2 salesLayout build_salesDraft).2.1⟩

end TenantReports
