import TenantReports.Proofs.Compile.Isolation
import TenantReports.Proofs.Compile.Readable
import TenantReports.Proofs.Json.Keys
import TenantReports.Proofs.Sql.Evaluation

/-!
# Filters narrow a query

The values of a map each ask for at most one condition, and the conditions are added to that of the
query in the order of the keys. Nothing else of the query changes. A row passes exactly if it passed
before and every condition asked for is true of it, so a further value never lets a row in, and the
order of the values does not matter.

## Main definitions

* `FilterSlot.Accepts`: the values that fit a slot
* `Layout.Declares`, `Layout.Asks`: the slot of a name, and the condition that its value asks for

## Main results

* `FilterSlot.isSome_predicate`: a value that fits, and no other, puts a condition on a column
* `CompiledQuery.foldl_filter`, `CompiledQuery.passing_foldl_filter`: conditions that are added
* `CompiledQuery.applyFilters_narrows`: what the values of filters do to a query and to its rows
-/

namespace TenantReports

open Sql (Database Expr Interpretation)

/-! ## Values that fit -/

/-- A text that denotes a number: an integer of 64 bits or a finite double. -/
def MeansNumber (s : String) : Prop :=
  (∃ n, int64OfText? (Text.trim s) = some n) ∨
    ∃ x, Binary64.ofText? (Text.trim s) = some x ∧ x.isFinite = true

/-- A bound of a range: a text with more than blanks. -/
def Json.IsBound (j : Json) : Prop := ∃ s, j = .string s ∧ Text.isBlankText s = false

/-- The values that fit a slot. `null` stands for what a required slot has no value of. Any other
scalar fits unless it is a blank text, or a text that denotes no number for a slot of numbers, or
the slot is of ranges. A list fits a choice of several if it holds such scalars, and a range if it
holds two values of which one is a bound. An object fits a range if one of its two bounds is
there. -/
def FilterSlot.Accepts (slot : FilterSlot) : Json → Prop
  | .null => slot.required = true
  | .bool _ | .int _ | .double _ => slot.kind ≠ .dateRange
  | .string s => Text.isBlankText s = false ∧ slot.kind ≠ .dateRange ∧
    (slot.kind = .number → MeansNumber s)
  | .array items =>
    slot.kind = .multiselect ∧ (∀ item ∈ items, item.isScalar = true ∧ item.isNull = false) ∨
    slot.kind = .dateRange ∧ ∃ low high, items = [low, high] ∧ (low.IsBound ∨ high.IsBound)
  | .object entries => slot.kind = .dateRange ∧
    ((∃ low ∈ entries.lookup "from", low.IsBound) ∨ ∃ high ∈ entries.lookup "to", high.IsBound)

theorem isSome_numericLiteral {s : String} :
    (numericLiteral? (.string s)).isSome = true ↔ MeansNumber s := by
  unfold numericLiteral? MeansNumber
  dsimp only
  cases int64OfText? (Text.trim s) with
  | some n => simp
  | none =>
    cases Binary64.ofText? (Text.trim s) with
    | none => simp
    | some x => by_cases hx : x.isFinite = true <;> simp [hx]

theorem isSome_scalarLiteral {j : Json} :
    (scalarLiteral? j).isSome = true ↔ j.isScalar = true ∧ j.isNull = false := by
  cases j <;> simp [scalarLiteral?, Sql.Literal.ofJson?, Json.isScalar, Json.isNull]

theorem isSome_dateBound {j : Option Json} :
    (dateBound? j).isSome = true ↔ ∃ low ∈ j, low.IsBound := by
  unfold dateBound? Json.IsBound
  split
  next s =>
    by_cases hs : Text.isBlankText s = true <;> simp [hs]
  next hj =>
    simp only [Option.isSome_none, Bool.false_eq_true, false_iff]
    rintro ⟨low, hlow, s, rfl, -⟩
    exact hj s (Option.mem_def.mp hlow)

theorem isSome_rangePredicate {column : Expr} {type : FieldType} {low high : Option Json} :
    (rangePredicate? column type low high).isSome = true ↔
      (∃ j ∈ low, j.IsBound) ∨ ∃ j ∈ high, j.IsBound := by
  rw [← isSome_dateBound, ← isSome_dateBound]
  unfold rangePredicate?
  cases dateBound? low <;> cases dateBound? high <;> simp

theorem isSome_mapM_scalarLiteral {items : List Json} :
    (items.mapM scalarLiteral?).isSome = true ↔
      ∀ item ∈ items, item.isScalar = true ∧ item.isNull = false := by
  induction items with
  | nil => simp
  | cons item items ih =>
    rw [List.forall_mem_cons, ← ih, ← isSome_scalarLiteral, List.mapM_cons]
    cases scalarLiteral? item <;> cases items.mapM scalarLiteral? <;> simp

/-- A scalar that is no text fits whatever takes one value. -/
theorem FilterSlot.isSome_valuePredicate {slot : FilterSlot} {type : FieldType} {column : Expr}
    {j : Json} (hj : j.isScalar = true) (hnull : j.isNull = false) (hs : ∀ s, j ≠ .string s) :
    (slot.valuePredicate? type column j).isSome = true ↔ slot.kind ≠ .dateRange := by
  cases hkind : slot.kind <;> cases j <;>
    simp_all [valuePredicate?, scalarText?, scalarLiteral?, numericLiteral?, rangeBounds?,
      choices, Sql.Literal.ofJson?, Json.isScalar, Json.isNull]

/-- **A value that fits, and no other, puts a condition on a column.** -/
theorem FilterSlot.isSome_predicate {slot : FilterSlot} {type : FieldType} {column : Expr}
    {value : Json} :
    (slot.predicate? type column value).isSome = true ↔ slot.Accepts value := by
  cases value with
  | null => by_cases h : slot.required = true <;> simp [predicate?, Accepts, h]
  | bool b => exact isSome_valuePredicate rfl rfl (by simp)
  | int n => exact isSome_valuePredicate rfl rfl (by simp)
  | double x => exact isSome_valuePredicate rfl rfl (by simp)
  | string s =>
    by_cases hblank : Text.isBlankText s = true
    · simp [predicate?, Accepts, hblank]
    · cases hkind : slot.kind <;>
        simp [predicate?, valuePredicate?, Accepts, hblank, hkind, scalarText?, scalarLiteral?,
          rangeBounds?, choices, Sql.Literal.ofJson?, isSome_numericLiteral]
  | array items =>
    cases hkind : slot.kind <;>
      simp [predicate?, valuePredicate?, Accepts, hkind, scalarText?, scalarLiteral?,
        numericLiteral?, choices, Sql.Literal.ofJson?, isSome_mapM_scalarLiteral]
    case dateRange =>
      rcases items with _ | ⟨low, _ | ⟨high, _ | ⟨other, items⟩⟩⟩ <;>
        simp [rangeBounds?, isSome_rangePredicate]
  | object entries =>
    cases hkind : slot.kind <;>
      simp [predicate?, valuePredicate?, Accepts, hkind, scalarText?, scalarLiteral?,
        numericLiteral?, rangeBounds?, choices, Sql.Literal.ofJson?, isSome_rangePredicate]

/-! ## Conditions asked for -/

/-- The slot of a name: the first of the layout whose field has that full name. -/
def Layout.Declares (l : Layout) (name : String) (slot : FilterSlot) : Prop :=
  ∃ before after, l.filters = before ++ slot :: after ∧ slot.field.fullName = name ∧
    ∀ s ∈ before, s.field.fullName ≠ name

/-- A value asks for a condition: its key is the full name of a declared slot, the catalog has the
field, its source is in scope, and the slot makes that condition of the value. -/
def Layout.Asks (l : Layout) (c : Catalog) (scope : List String) (name : String) (value : Json)
    (e : Expr) : Prop :=
  ∃ slot field, l.Declares name slot ∧ c.refField? slot.field = some field ∧
    slot.field.source ∈ scope ∧ slot.predicate? field.type
      (sourceColumn slot.field.source field.columnName) value = some e

variable {c : Catalog} {l : Layout} {scope : List String} {name : String} {value : Json} {e : Expr}

theorem Layout.filterSlot?_eq_some {slot : FilterSlot} :
    l.filterSlot? name = some slot ↔ l.Declares name slot := by
  rw [filterSlot?, List.find?_eq_some_iff_append, Declares]
  simp [and_left_comm]

theorem Layout.asks_iff :
    l.Asks c scope name value e ↔ l.filterPredicate? c scope name value = some e := by
  rw [Layout.filterPredicate?_eq_some]
  simp only [Asks, Layout.filterSlot?_eq_some]

/-! ## Conditions added -/

namespace CompiledQuery

/-- Conditions that are added one by one change nothing but the condition. -/
theorem foldl_filter (q : CompiledQuery) (es : List Expr) : es.foldl filter q
    = { q with query := { q.query with
        condition := Sql.conjunction (q.query.condition.toList ++ es) } } := by
  induction es generalizing q with
  | nil =>
    have hcondition : Sql.conjunction (q.query.condition.toList ++ []) = q.query.condition := by
      cases q.query.condition <;> rfl
    rw [List.foldl_nil, hcondition]
  | cons e es ih =>
    have hcondition : Sql.conjunction ((q.filter e).query.condition.toList ++ es)
        = Sql.conjunction (q.query.condition.toList ++ e :: es) := by
      unfold filter Sql.Query.filter
      cases q.query.condition <;> rfl
    rw [List.foldl_cons, ih, hcondition]
    rfl

/-- A row passes with a further condition if it passed without and the condition is true of it. -/
theorem passing_filter (I : Interpretation) (q : CompiledQuery) (e : Expr) (db : Database) :
    (q.filter e).query.passing I db
      = (q.query.passing I db).filter fun row => e.holds I { row } := by
  have hjoined : (q.filter e).query.joined I db = q.query.joined I db := rfl
  unfold Sql.Query.passing
  rw [List.filter_filter, hjoined]
  unfold filter Sql.Query.filter
  cases q.query.condition with
  | none => simp
  | some condition => simp [Expr.holds_and, Bool.and_comm]

/-- **Rows pass if they passed before and every added condition is true of them.** -/
theorem passing_foldl_filter (I : Interpretation) (q : CompiledQuery) (es : List Expr)
    (db : Database) : (es.foldl filter q).query.passing I db
      = (q.query.passing I db).filter fun row => es.all fun e => e.holds I { row } := by
  induction es generalizing q with
  | nil => simp
  | cons e es ih =>
    rw [List.foldl_cons, ih, passing_filter, List.filter_filter]
    simp only [List.all_cons, Bool.and_comm]

/-! ## Values of a map -/

variable (q : CompiledQuery) (c : Catalog) (l : Layout) {values : FilterValues}

/-- The conditions asked for, by the keys of their values. -/
def asked (values : FilterValues) : List (String × Expr) :=
  values.filterMap fun (name, value) =>
    (l.filterPredicate? c q.scope name value).map fun e => (name, e)

theorem mem_asked {name : String} {e : Expr} : (name, e) ∈ q.asked c l values ↔
    ∃ value, (name, value) ∈ values ∧ l.Asks c q.scope name value e := by
  simp only [asked, List.mem_filterMap, Option.map_eq_some_iff, Prod.mk.injEq, Layout.asks_iff]
  constructor
  · rintro ⟨⟨_, value⟩, hmem, _, hpredicate, rfl, rfl⟩
    exact ⟨value, hmem, hpredicate⟩
  · rintro ⟨value, hmem, hpredicate⟩
    exact ⟨(name, value), hmem, e, hpredicate, rfl, rfl⟩

/-- They come in the order of the keys. -/
theorem ascending_asked (h : Ascending values) : Ascending (q.asked c l values) := by
  refine List.Pairwise.filterMap _ ?_ h
  rintro ⟨name, value⟩ ⟨name', value'⟩ hlt b hb b' hb'
  obtain ⟨_, -, rfl⟩ := Option.map_eq_some_iff.mp hb
  obtain ⟨_, -, rfl⟩ := Option.map_eq_some_iff.mp hb'
  exact hlt

theorem map_asked (values : FilterValues) :
    (q.asked c l values).map (·.2) = l.filterPredicates c q.scope values := by
  rw [asked, List.map_filterMap, Layout.filterPredicates]
  simp [Function.comp_def]

/-- What a row must satisfy for one value of a map. -/
def admits (I : Interpretation) (row : Sql.JoinedRow) (entry : String × Json) : Bool :=
  (l.filterPredicate? c q.scope entry.1 entry.2).all fun e => e.holds I { row }

/-- **The rows that pass** are those that every value admits, wherever it stands in the map. -/
theorem passing_applyFilters (I : Interpretation) (values : FilterValues) (db : Database) :
    (q.applyFilters c values l).query.passing I db
      = (q.query.passing I db).filter fun row => values.all (q.admits c l I row) := by
  rw [applyFilters, passing_foldl_filter, Layout.filterPredicates]
  refine List.filter_congr fun row _ => ?_
  rw [List.all_filterMap]
  rfl

/-- A value that asks for no condition has no effect. -/
theorem applyFilters_append_cons {before after : FilterValues} {name : String} {value : Json}
    (h : ∀ slot, l.Declares name slot → ¬ slot.Accepts value) :
    q.applyFilters c (before ++ (name, value) :: after) l
      = q.applyFilters c (before ++ after) l := by
  have hnone : l.filterPredicate? c q.scope name value = none := by
    rw [Option.eq_none_iff_forall_ne_some]
    intro e he
    obtain ⟨slot, field, hslot, -, -, hpredicate⟩ := Layout.asks_iff.mpr he
    exact h slot hslot (FilterSlot.isSome_predicate.mp (Option.isSome_of_eq_some hpredicate))
  simp [applyFilters, Layout.filterPredicates, hnone]

section Rows

variable {q c l} (I : Interpretation) (db : Database)

/-- The order of the values does not matter. -/
theorem passing_of_perm {others : FilterValues} (h : others.Perm values) :
    (q.applyFilters c others l).query.passing I db
      = (q.applyFilters c values l).query.passing I db := by
  rw [passing_applyFilters, passing_applyFilters]
  refine List.filter_congr fun row _ => ?_
  rw [h.all_eq]

/-- A further value lets no row in. -/
theorem passing_sublist {more : FilterValues} {entry : String × Json}
    (h : more.Perm (entry :: values)) :
    ((q.applyFilters c more l).query.passing I db).Sublist
      ((q.applyFilters c values l).query.passing I db) := by
  rw [passing_of_perm I db h, passing_applyFilters, passing_applyFilters]
  refine List.monotone_filter_right _ fun row hrow => ?_
  rw [List.all_cons, Bool.and_eq_true] at hrow
  exact hrow.2

/-- A choice of none lets no row in at all. -/
theorem passing_of_empty_choice {name : String} {slot : FilterSlot} {field : SourceField}
    (hvalue : (name, .array []) ∈ values) (hslot : l.Declares name slot)
    (hkind : slot.kind = .multiselect) (hfield : c.refField? slot.field = some field)
    (hscope : slot.field.source ∈ q.scope) :
    (q.applyFilters c values l).query.passing I db = [] := by
  have hpredicate : l.filterPredicate? c q.scope name (.array [])
      = some (.isIn (sourceColumn slot.field.source field.columnName) []) := by
    refine Layout.asks_iff.mp ⟨slot, field, hslot, hfield, hscope, ?_⟩
    simp [FilterSlot.predicate?, FilterSlot.valuePredicate?, hkind, choices]
  rw [passing_applyFilters, List.filter_eq_nil_iff]
  intro row _ hrow
  have hadmits := List.all_eq_true.mp hrow _ hvalue
  rw [admits, hpredicate] at hadmits
  -- `IN` over nothing is false
  exact absurd hadmits (by simp [Expr.holds, Expr.eval, Expr.evalIn])

end Rows

/-- **The values of filters narrow a query.** For a map of values, whose keys ascend byte by byte:
* the query is changed in its condition only, which has one condition after those it had for each
  value that asks for one, in the order of the keys;
* a row passes exactly if it passed before and each of these conditions is true of it;
* a value without a declared slot, or one that its slot does not accept, changes nothing;
* a further value lets no row in;
* the rows that pass are the same whatever order the values come in;
* an empty list for a slot with several choices lets no row pass. -/
theorem applyFilters_narrows (hvalues : Ascending values) (I : Interpretation) (db : Database) :
    (∃ asked : List (String × Expr), Ascending asked ∧
      (∀ name e, (name, e) ∈ asked ↔
        ∃ value, (name, value) ∈ values ∧ l.Asks c q.scope name value e) ∧
      q.applyFilters c values l = { q with query := { q.query with
        condition := Sql.conjunction (q.query.condition.toList ++ asked.map (·.2)) } } ∧
      (q.applyFilters c values l).query.passing I db
        = (q.query.passing I db).filter fun row => asked.all fun a => a.2.holds I { row }) ∧
    (∀ before name value after, values = before ++ (name, value) :: after →
      (∀ slot, l.Declares name slot → ¬ slot.Accepts value) →
        q.applyFilters c values l = q.applyFilters c (before ++ after) l) ∧
    (∀ entry more, more.Perm (entry :: values) →
      ((q.applyFilters c more l).query.passing I db).Sublist
        ((q.applyFilters c values l).query.passing I db)) ∧
    (∀ others, others.Perm values → (q.applyFilters c others l).query.passing I db
      = (q.applyFilters c values l).query.passing I db) ∧
    ∀ name slot field, (name, .array []) ∈ values → l.Declares name slot →
      slot.kind = .multiselect → c.refField? slot.field = some field →
      slot.field.source ∈ q.scope → (q.applyFilters c values l).query.passing I db = [] := by
  refine ⟨⟨q.asked c l values, q.ascending_asked c l hvalues, fun _ _ => q.mem_asked c l, ?_, ?_⟩,
    ?_, fun _ _ h => passing_sublist I db h, fun _ h => passing_of_perm I db h,
    fun _ _ _ => passing_of_empty_choice I db⟩
  · rw [applyFilters, foldl_filter, map_asked]
  · rw [applyFilters, passing_foldl_filter, ← map_asked]
    simp only [List.all_map, Function.comp_def]
  · rintro before name value after rfl h
    exact q.applyFilters_append_cons c l h

/-- A layout with a slot for a text and one with several choices. -/
def pickedLayout : Layout :=
  { salesLayout with filters := salesLayout.filters ++
    [⟨⟨"orders", "total"⟩, "Total", .multiselect, false, []⟩] }

/-- A text to search for, and a choice of none. -/
def pickedValues : FilterValues :=
  orderKeys [("orders.total", .array []), ("customers.name", .string "an")]

theorem applyFilters_narrows_pickedLayout :
    Ascending pickedValues ∧ ∃ q, pickedLayout.compile shop 1 = .ok q ∧
      (q.applyFilters shop pickedValues pickedLayout).query.passing .plain shopData = [] := by
  have hvalues : Ascending pickedValues := ascending_orderKeys _
  refine ⟨hvalues, _, rfl, ?_⟩
  obtain ⟨-, -, -, -, hempty⟩ :=
    applyFilters_narrows _ shop pickedLayout hvalues .plain shopData
  have hchoice : ("orders.total", Json.array []) ∈ pickedValues := .tail _ (.head _)
  have hslot : pickedLayout.Declares "orders.total"
      ⟨⟨"orders", "total"⟩, "Total", .multiselect, false, []⟩ :=
    ⟨salesLayout.filters, [], rfl, rfl, by decide⟩
  exact hempty _ _ _ hchoice hslot rfl rfl (by decide)

end CompiledQuery

end TenantReports
